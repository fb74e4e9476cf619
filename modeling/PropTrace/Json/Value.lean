import PropTrace.Number.Shortest

/-!
JSON values. The members of an object stand in ascending order of their names, each name once, so
two objects with the same members are equal.
-/
namespace PropTrace

/-- A JSON number. A whole number that fits 64 bits, with or without sign, is kept as it is; every
other number is a floating-point number. -/
inductive JsonNumber where
  | int (value : Int)
  | float (value : Double)
  deriving DecidableEq, Repr

inductive Json where
  | null
  | bool (value : Bool)
  | number (value : JsonNumber)
  | string (value : String)
  | array (items : List Json)
  | object (members : List (String × Json))

namespace Json

/-- Puts a member in its place by name; an earlier member of that name gives way. -/
def insertMember {α : Type} (name : String) (value : α) : List (String × α) → List (String × α)
  | [] => [(name, value)]
  | (other, held) :: rest =>
    if name < other then (name, value) :: (other, held) :: rest
    else if name = other then (name, value) :: rest
    else (other, held) :: insertMember name value rest

/-- An object from members in any order; the last of several members of one name counts. -/
def ofMembers (members : List (String × Json)) : Json :=
  .object (members.foldl (fun sorted (name, value) => insertMember name value sorted) [])

/-- The member of an object with this name. -/
def member? (name : String) : Json → Option Json
  | .object members => members.lookup name
  | _ => none

def ofNat (n : Nat) : Json := .number (.int n)

/-- A value, or `null` in its absence. -/
def ofOption {α : Type} (encode : α → Json) : Option α → Json
  | some a => encode a
  | none => .null

end Json

end PropTrace
