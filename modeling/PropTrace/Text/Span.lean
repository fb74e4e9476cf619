/-!
Byte offsets into a text and the pieces of text between them. Offsets count the bytes of UTF-8, so
an offset may fall inside a character; there is no piece of text then.
-/
namespace PropTrace

/-- A range of byte offsets, the end left out. A span made by hand may lie outside its text or run
backwards. -/
structure Span where
  start : Nat
  stop : Nat
  deriving DecidableEq, Repr, Inhabited

namespace Text

/-- The number of bytes of a text. -/
def byteLength : List Char → Nat
  | [] => 0
  | c :: rest => c.utf8Size + byteLength rest

/-- The text after its first `count` bytes, if these are whole characters of it. -/
def dropBytes? : Nat → List Char → Option (List Char)
  | 0, cs => some cs
  | _ + 1, [] => none
  | count + 1, c :: rest =>
    if c.utf8Size ≤ count + 1 then dropBytes? (count + 1 - c.utf8Size) rest else none

/-- The first `count` bytes of a text, if these are whole characters of it. -/
def takeBytes? : Nat → List Char → Option (List Char)
  | 0, _ => some []
  | _ + 1, [] => none
  | count + 1, c :: rest =>
    if c.utf8Size ≤ count + 1 then (takeBytes? (count + 1 - c.utf8Size) rest).map (c :: ·)
    else none

/-- The text a span covers, if both ends are in order and stand between characters. -/
def slice? (span : Span) (cs : List Char) : Option (List Char) :=
  if span.start ≤ span.stop then
    (dropBytes? span.start cs).bind (takeBytes? (span.stop - span.start))
  else none

/-- The text a span covers, empty where it covers none. -/
def slice (span : Span) (text : String) : String :=
  String.ofList ((slice? span text.toList).getD [])

end Text

end PropTrace
