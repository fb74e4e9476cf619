import PropTrace.Text.Span

/-!
Lines and columns for people: both count from one, a column in characters, and only a line feed
starts a new line.
-/
namespace PropTrace

/-- A place in a text. -/
structure Location where
  line : Nat
  column : Nat
  deriving DecidableEq, Repr

namespace Location

/-- The place right after a text. -/
def after (before : List Char) : Location where
  line := before.count '\n' + 1
  column := (before.reverse.takeWhile (· ≠ '\n')).length + 1

/-- The place of a byte offset. An offset past the end stands for the end, and so does one inside
a character. -/
def ofOffset (text : String) (offset : Nat) : Location :=
  let cs := text.toList
  after ((Text.takeBytes? (min offset (Text.byteLength cs)) cs).getD cs)

end Location

end PropTrace
