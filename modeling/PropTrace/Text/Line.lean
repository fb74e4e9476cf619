/-!
Lines, white space and the search for a phrase. A line ends at a line feed, a carriage return or
one of the two separators U+2028 and U+2029.
-/
namespace PropTrace.Text

/-- The four characters that end a line. -/
def isLineEnd (c : Char) : Bool :=
  c == '\n' || c == '\r' || c == '\u2028' || c == '\u2029'

/-- The text before the first line end, or all of it. -/
def firstLine (cs : List Char) : List Char :=
  cs.takeWhile fun c => !isLineEnd c

/-- Unicode white space. -/
def isBlank (c : Char) : Bool :=
  let code := c.toNat
  (0x9 ≤ code && code ≤ 0xd) || code == 0x20 || code == 0x85 || code == 0xa0 || code == 0x1680 ||
    (0x2000 ≤ code && code ≤ 0x200a) || code == 0x2028 || code == 0x2029 || code == 0x202f ||
    code == 0x205f || code == 0x3000

/-- The text without white space at either end. -/
def trim (cs : List Char) : List Char :=
  ((cs.dropWhile isBlank).reverse.dropWhile isBlank).reverse

/-- Whether `phrase` stands somewhere in the text. -/
def containsPhrase (phrase : List Char) : List Char → Bool
  | [] => phrase.isEmpty
  | c :: rest => phrase.isPrefixOf (c :: rest) || containsPhrase phrase rest

end PropTrace.Text
