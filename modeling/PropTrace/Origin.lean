import PropTrace.SourceUnit

/-!
Where the value of an expression may come from. Literals contribute nothing; a logical expression
has the origins of both operands and a conditional expression those of both branches; an
identifier has the origins of every value written to its variable. Every other expression is an
origin itself. Control flow plays no part.

An identifier without a visible declaration contributes nothing, and neither does a variable that
is being followed already, which ends chains such as `x = x || y`.
-/
namespace PropTrace

/-- The value written to an identifier by its parent: `id = value`, `let id = value` or a default
`(id = value) => …`. -/
def SyntaxTree.assignedValue? (tree : SyntaxTree) (identifier : NodeId) : Option NodeId :=
  (tree.parent? identifier).bind fun parent =>
    match tree.kind? parent with
    | some (.assignment _ left right) => if left = identifier then some right else none
    | some (.declarator id (some init)) => if id = identifier then some init else none
    | some (.assignmentPattern left right) => if left = identifier then some right else none
    | _ => none

namespace SourceUnit

/-- The values written to a variable, in the order of its occurrences. -/
def writtenValues (unit : SourceUnit) (id : VariableId) : List NodeId :=
  (unit.scopes.references id).filterMap unit.tree.assignedValue?

/-- The origins of a node while the variables of `following` are being followed, down to `depth`
nested nodes. -/
def originsWithin (unit : SourceUnit) : Nat → List VariableId → NodeId → List NodeId
  | 0, _, _ => []
  | depth + 1, following, id =>
    match unit.tree.kind? id with
    | none => []
    | some (.literal _) => []
    | some (.identifier name) =>
      match unit.lookup id name with
      | none => []
      | some written =>
        if written ∈ following then []
        else
          (unit.writtenValues written).flatMap
            (unit.originsWithin depth (written :: following))
    | some (.logical _ left right) =>
      unit.originsWithin depth following left ++ unit.originsWithin depth following right
    | some (.conditional _ consequent alternate) =>
      unit.originsWithin depth following consequent ++
        unit.originsWithin depth following alternate
    | some _ => [id]

/-- How deep the search for origins can go: between two variables it only descends in the tree,
and no variable is followed twice on one path. -/
def originDepth (unit : SourceUnit) : Nat :=
  (unit.scopes.vars.size + 1) * unit.tree.size

/-- The origins of an expression, one for each way to reach it, in the order of the search. -/
def origins (unit : SourceUnit) (expression : NodeId) : List NodeId :=
  unit.originsWithin unit.originDepth [] expression

end SourceUnit

end PropTrace
