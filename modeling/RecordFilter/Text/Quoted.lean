import RecordFilter.Text.Unprintable

/-!
# Quoted text

`quoted` writes a text between double quotes on one line: a character that has no
shape of its own is named by an escape.
-/

namespace RecordFilter.Text

/-- The lower-case hexadecimal code of a character. -/
def hexCode (c : Char) : List Char :=
  Nat.toDigits 16 c.toNat

/-- A character as it stands between quotes. -/
def escapeQuoted (c : Char) : List Char :=
  match c with
  | '\x00' => ['\\', '0']
  | '\t' => ['\\', 't']
  | '\n' => ['\\', 'n']
  | '\r' => ['\\', 'r']
  | '"' => ['\\', '"']
  | '\\' => ['\\', '\\']
  | c => if isUnprintable c then '\\' :: 'u' :: '\x7b' :: hexCode c ++ ['\x7d'] else [c]

/-- A text between double quotes. -/
def quoted (text : String) : String :=
  String.ofList ('"' :: text.toList.flatMap escapeQuoted ++ ['"'])

end RecordFilter.Text
