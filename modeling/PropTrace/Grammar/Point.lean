import PropTrace.Text.Line

/-!
Points in a text, and the way past the characters between tokens: blanks, line ends and comments.
-/
namespace PropTrace.Grammar

/-- A point in a text: what follows it, and how many bytes stand before it. -/
structure Point where
  rest : List Char
  offset : Nat

namespace Point

/-- The start of a text. -/
def start (text : String) : Point := ⟨text.toList, 0⟩

/-- The point after the next character. -/
def step (p : Point) : Point :=
  match p.rest with
  | [] => p
  | c :: rest => ⟨rest, p.offset + c.utf8Size⟩

/-- The point after the next `count` characters. -/
def skip : Nat → Point → Point
  | 0, p => p
  | count + 1, p => skip count p.step

/-- The next character. -/
def peek? (p : Point) : Option Char := p.rest.head?

/-- The characters up to the first one that fails the test, and the point before it. -/
def takeFrom (test : Char → Bool) : List Char → Nat → List Char × Point
  | [], offset => ([], ⟨[], offset⟩)
  | c :: rest, offset =>
    if test c then
      let (taken, after) := takeFrom test rest (offset + c.utf8Size)
      (c :: taken, after)
    else ([], ⟨c :: rest, offset⟩)

def takeWhile (test : Char → Bool) (p : Point) : List Char × Point :=
  takeFrom test p.rest p.offset

end Point

/-- The characters that separate tokens within a line. -/
def isSpace (c : Char) : Bool :=
  c == ' ' || c == '\t' || c == '\x0b' || c == '\x0c' || c == '\u00a0' || c == '\ufeff' ||
    c == '\u0085' || c == '\u200b' || (0x80 ≤ c.toNat && Text.isBlank c && !Text.isLineEnd c)

/-- Where a walk between tokens stands. -/
inductive Gap where
  | plain | lineComment | blockComment

/-- The way to the next token: whether a line end was passed, and the point reached. None if a
block comment is not closed. -/
def skipGap : Gap → List Char → Nat → Bool → Option (Bool × Point)
  | .plain, '/' :: '/' :: rest, offset, newline => skipGap .lineComment rest (offset + 2) newline
  | .plain, '/' :: '*' :: rest, offset, newline => skipGap .blockComment rest (offset + 2) newline
  | .plain, c :: rest, offset, newline =>
    if Text.isLineEnd c then skipGap .plain rest (offset + c.utf8Size) true
    else if isSpace c then skipGap .plain rest (offset + c.utf8Size) newline
    else some (newline, ⟨c :: rest, offset⟩)
  | .lineComment, c :: rest, offset, newline =>
    if Text.isLineEnd c then skipGap .plain rest (offset + c.utf8Size) true
    else skipGap .lineComment rest (offset + c.utf8Size) newline
  | .blockComment, '*' :: '/' :: rest, offset, newline => skipGap .plain rest (offset + 2) newline
  | .blockComment, c :: rest, offset, newline =>
    skipGap .blockComment rest (offset + c.utf8Size) (newline || Text.isLineEnd c)
  | .blockComment, [], _, _ => none
  | _, [], offset, newline => some (newline, ⟨[], offset⟩)

/-- The point where the tokens of a file start: after a byte order mark and a line that opens with
`#!`. -/
def fileStart (text : String) : Point :=
  let p := Point.start text
  let p := if p.peek? = some '\ufeff' then p.step else p
  match p.rest with
  | '#' :: '!' :: _ => (p.takeWhile fun c => !Text.isLineEnd c).2
  | _ => p

end PropTrace.Grammar
