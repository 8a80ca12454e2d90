/-!
# White space

`isBlank` is the Unicode property `White_Space`.
-/

namespace RecordFilter.Text

/-- Whether a character is white space. -/
def isBlank (c : Char) : Bool :=
  let code := c.toNat
  (9 ≤ code && code ≤ 13) || code == 0x20 || code == 0x85 || code == 0xA0 || code == 0x1680 ||
    (0x2000 ≤ code && code ≤ 0x200A) || code == 0x2028 || code == 0x2029 || code == 0x202F ||
    code == 0x205F || code == 0x3000

/-- Drops the white space at the start. -/
def skipBlank (text : List Char) : List Char :=
  text.dropWhile isBlank

/-- Whether a text holds nothing but white space. -/
def isBlankText (text : String) : Bool :=
  text.toList.all isBlank

end RecordFilter.Text
