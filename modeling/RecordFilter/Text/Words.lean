import RecordFilter.Text.CaseMap
import RecordFilter.Text.Joining

/-!
# Words of an identifier

An identifier is split into words at separators, where the case rises, between
letters and digits, and before the last capital of a run that goes on in lower
case.  A `Convention` writes the words in a case with a separator between them.

Splitting works on clusters: a character together with the characters that join
it.  Writing works on characters.
-/

namespace RecordFilter.Text

/-- A character and the characters that join it. -/
abbrev Cluster := List Char

/-- Adds a character in front of clusters; it takes in the first one if either of
    them joins the other. -/
def consCluster (c : Char) : List Cluster → List Cluster
  | [] => [[c]]
  | cluster :: rest =>
    if isLeading c || cluster.head?.any isTrailing then (c :: cluster) :: rest
    else [c] :: cluster :: rest

/-- The clusters of a text. -/
def clusters (text : List Char) : List Cluster :=
  text.foldr consCluster []

namespace Cluster

/-- Whether the cluster has two cases and is in upper case. -/
def isUpper (c : Cluster) : Bool :=
  uppercase c != lowercase c && c == uppercase c

/-- Whether the cluster has two cases and is in lower case. -/
def isLower (c : Cluster) : Bool :=
  uppercase c != lowercase c && c == lowercase c

/-- Whether the cluster is a digit. -/
def isDigit (c : Cluster) : Bool :=
  c.all Char.isDigit

/-- Whether the cluster separates words and belongs to none. -/
def isSeparator (c : Cluster) : Bool :=
  c == ['_'] || c == ['-'] || c == [' ']

/-- Whether a word ends between two neighbours. -/
def splitsBetween (c d : Cluster) : Bool :=
  (c.isLower && d.isUpper) || (c.isDigit && (d.isUpper || d.isLower)) ||
    ((c.isUpper || c.isLower) && d.isDigit)

/-- Whether a word ends after the first of three: a run of capitals whose last
    one starts a word in lower case. -/
def splitsAcronym (c d e : Cluster) : Bool :=
  c.isUpper && d.isUpper && e.isLower

/-- Whether a word ends between a cluster and the text after it. -/
def splitsBefore (c : Cluster) : List Cluster → Bool
  | d :: e :: _ => splitsBetween c d || splitsAcronym c d e
  | [d] => splitsBetween c d
  | [] => false

end Cluster

/-- Splits clusters into words; `word` holds the word being read. -/
def splitWords (word : List Char) : List Cluster → List (List Char)
  | [] => [word]
  | c :: rest =>
    if c.isSeparator then word :: splitWords [] rest
    else if Cluster.splitsBefore c rest then (word ++ c) :: splitWords [] rest
    else splitWords (word ++ c) rest

/-- The words of an identifier. -/
def words (text : List Char) : List (List Char) :=
  (splitWords [] (clusters text)).filter (!·.isEmpty)

/-- A word with its first character in upper case and the rest in lower case. -/
def capitalize : List Char → List Char
  | [] => []
  | first :: rest => uppercase [first] ++ lowercase rest

/-- How the words of a name are written. -/
inductive Convention where
  | pascal
  | camel
  | snake
  | upperSnake
  deriving DecidableEq, Repr

/-- Writes words in a convention. -/
def Convention.join : Convention → List (List Char) → List Char
  | .pascal, words => (words.map capitalize).flatten
  | .camel, [] => []
  | .camel, first :: rest => lowercase first ++ (rest.map capitalize).flatten
  | .snake, words => ['_'].intercalate (words.map lowercase)
  | .upperSnake, words => ['_'].intercalate (words.map uppercase)

/-- An identifier in a convention. -/
def Convention.apply (convention : Convention) (text : String) : String :=
  String.ofList (convention.join (words text.toList))

end RecordFilter.Text
