import PropTrace.Json.Reader

/-!
Reading a record with known fields straight from JSON text. A record is an object, in which members
of other names are skipped and no field may stand twice, or an array with the fields in order, of
which the last ones may be missing.
-/
namespace PropTrace.Json

/-- The fault of a value of the wrong shape. It is the value's own fault if it has one. -/
def shapeFault (cs : List Char) : Fault :=
  let faultOf {α : Type} (result : Except Fault α) : Fault :=
    match result with
    | .ok _ => .mismatched
    | .error fault => fault
  match skipBlanks cs with
  | [] => .truncated
  | 'n' :: rest => faultOf (takeWord ['u', 'l', 'l'] rest)
  | 't' :: rest => faultOf (takeWord ['r', 'u', 'e'] rest)
  | 'f' :: rest => faultOf (takeWord ['a', 'l', 's', 'e'] rest)
  | '"' :: rest => faultOf (takeString rest)
  | '[' :: _ | '\x7b' :: _ => .mismatched
  | c :: rest => if c == '-' || c.isDigit then faultOf (takeNumber (c :: rest)) else .malformed

/-- A flag, or `null` for an unset one. -/
def takeFlag : Reader (Option Bool) := fun cs =>
  match skipBlanks cs with
  | 'n' :: rest => (takeWord ['u', 'l', 'l'] rest).map fun (_, rest) => (none, rest)
  | 't' :: rest => (takeWord ['r', 'u', 'e'] rest).map fun (_, rest) => (some true, rest)
  | 'f' :: rest => (takeWord ['a', 'l', 's', 'e'] rest).map fun (_, rest) => (some false, rest)
  | other => .error (shapeFault other)

/-- An object whose values are all kept, with `depth` levels of nesting to spare; its members in
the order of their names. -/
def takeObject (depth : Nat) : Reader (List (String × Json)) := fun cs =>
  match skipBlanks cs with
  | '\x7b' :: rest =>
    (takeMembers (roundsFor rest) (depth - 1) true rest).map fun (members, rest) =>
      (members.foldl (fun sorted (name, value) => insertMember name value sorted) [], rest)
  | other => .error (shapeFault other)

/-- The fields of a record by name, in order; each reader puts its field into the record. -/
abbrev Fields (ρ : Type) := List (String × (ρ → Reader ρ))

/-- The members of a record up to the closing brace. `seen` holds the fields met so far. -/
def takeFields {ρ : Type} (fields : Fields ρ) : Nat → List String → ρ → Reader ρ
  | 0, _, _, _ => .error .malformed
  | fuel + 1, seen, record, cs =>
    match skipBlanks cs with
    | '\x7d' :: rest => .ok (record, rest)
    | start => do
      let ((), start) ← if seen.isEmpty then .ok ((), start) else takeMark ',' start
      let (name, rest) ← takeName start
      match fields.lookup name with
      | some take =>
        if name ∈ seen then .error .mismatched
        else do
          let ((), rest) ← takeMark ':' rest
          let (record, rest) ← take record rest
          takeFields fields fuel (name :: seen) record rest
      | none => do
        let ((), rest) ← takeMark ':' rest
        let ((), rest) ← skipValue (roundsFor rest) rest
        takeFields fields fuel (name :: seen) record rest

/-- The fields of a record in order, up to the closing bracket. -/
def takeSequence {ρ : Type} : Fields ρ → Bool → ρ → Reader ρ
  | [], _, record, cs => do
    let ((), rest) ← takeMark ']' cs
    .ok (record, rest)
  | (_, take) :: fields, first, record, cs =>
    match skipBlanks cs with
    | ']' :: rest => .ok (record, rest)
    | start => do
      let ((), start) ← if first then .ok ((), start) else takeMark ',' start
      let (record, rest) ← take record start
      takeSequence fields false record rest

/-- A record in either form, starting from the values of its missing fields. -/
def takeRecord {ρ : Type} (fields : Fields ρ) (record : ρ) : Reader ρ := fun cs =>
  match skipBlanks cs with
  | '\x7b' :: rest => takeFields fields (rest.length + 1) [] record rest
  | '[' :: rest => takeSequence fields true record rest
  | other => .error (shapeFault other)

end PropTrace.Json
