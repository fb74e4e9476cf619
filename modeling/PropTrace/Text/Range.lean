/-!
Sets of characters given as inclusive ranges of code points. Every table of this library lists
its ranges in ascending order, so membership is a search by halves.
-/
namespace PropTrace.Text

/-- Inclusive ranges of code points, ascending and disjoint. -/
abbrev CharTable := Array (Nat × Nat)

/-- Searches the ranges with an index from `low` up to, but not including, `high`; every round
halves that gap, so `fuel` rounds are enough for `2 ^ fuel` ranges. -/
def CharTable.search (table : CharTable) (code : Nat) : Nat → Nat → Nat → Bool
  | 0, _, _ => false
  | fuel + 1, low, high =>
    if low < high then
      let middle := (low + high) / 2
      let (first, last) := table.getD middle (0, 0)
      if code < first then table.search code fuel low middle
      else if last < code then table.search code fuel (middle + 1) high
      else true
    else false

/-- Whether a code point lies in one of the ranges. -/
def CharTable.contains (table : CharTable) (code : Nat) : Bool :=
  table.search code (table.size.log2 + 1) 0 table.size

end PropTrace.Text
