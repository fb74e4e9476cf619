import PropTrace.Tree.Node

/-!
Scopes, the variables declared in them, and the places where each variable's name occurs. Scopes
form a tree under the module scope; a scope is created after its parent, so the way up to the
module scope is at most as long as the identifier of the scope it starts from.
-/
namespace PropTrace

inductive ScopeKind where
  | module | function | block
  deriving DecidableEq, Repr

structure Scope where
  kind : ScopeKind
  parent : Option ScopeId
  /-- The names declared here, each once. -/
  names : List (String × VariableId)

structure Variable where
  name : String
  scope : ScopeId
  /-- The identifiers that stand for this variable. -/
  references : List NodeId

structure ScopeTree where
  scopes : Array Scope
  vars : Array Variable
  /-- Identifiers whose name is declared in no scope around them. -/
  unresolved : List NodeId

namespace ScopeTree

/-- Only the module scope. -/
def initial : ScopeTree where
  scopes := #[{ kind := .module, parent := none, names := [] }]
  vars := #[]
  unresolved := []

/-- The module scope. -/
def moduleScope : ScopeId := 0

def parent? (tree : ScopeTree) (scope : ScopeId) : Option ScopeId :=
  tree.scopes[scope]?.bind Scope.parent

def createScope (tree : ScopeTree) (kind : ScopeKind) (parent : ScopeId) : ScopeId × ScopeTree :=
  (tree.scopes.size,
    { tree with scopes := tree.scopes.push { kind, parent := some parent, names := [] } })

/-- The variable of this name declared in the scope itself. -/
def declared? (tree : ScopeTree) (scope : ScopeId) (name : String) : Option VariableId :=
  tree.scopes[scope]?.bind fun s => s.names.lookup name

/-- Declares a name in a scope. A name that is declared there already keeps its variable. -/
def declare (tree : ScopeTree) (scope : ScopeId) (name : String) : VariableId × ScopeTree :=
  match tree.declared? scope name with
  | some existing => (existing, tree)
  | none =>
    let id := tree.vars.size
    (id, { tree with
      vars := tree.vars.push { name, scope, references := [] }
      scopes := tree.scopes.modify scope fun s =>
        { s with names := s.names ++ [(name, id)] } })

/-- A scope and the scopes around it, innermost first, for `steps` scopes at most. -/
def chainWithin (tree : ScopeTree) : Nat → ScopeId → List ScopeId
  | 0, _ => []
  | steps + 1, scope =>
    scope :: match tree.parent? scope with
      | some parent => tree.chainWithin steps parent
      | none => []

/-- A scope and all scopes around it, innermost first. -/
def chain (tree : ScopeTree) (scope : ScopeId) : List ScopeId :=
  tree.chainWithin (scope + 1) scope

/-- The variable a name stands for in a scope: the one of the nearest scope that declares it. -/
def lookup (tree : ScopeTree) (scope : ScopeId) (name : String) : Option VariableId :=
  (tree.chain scope).findSome? fun s => tree.declared? s name

def isBlock (tree : ScopeTree) (scope : ScopeId) : Bool :=
  (tree.scopes[scope]?.map Scope.kind) == some .block

/-- The nearest scope that is no block; `var` declarations belong there. -/
def hoistTarget (tree : ScopeTree) (scope : ScopeId) : ScopeId :=
  ((tree.chain scope).find? fun s => !tree.isBlock s).getD scope

/-- Records an occurrence of a variable. -/
def addReference (tree : ScopeTree) (id : VariableId) (identifier : NodeId) : ScopeTree :=
  { tree with vars := tree.vars.modify id fun v =>
      { v with references := v.references ++ [identifier] } }

/-- Records an identifier without a declaration. -/
def addUnresolved (tree : ScopeTree) (identifier : NodeId) : ScopeTree :=
  { tree with unresolved := tree.unresolved ++ [identifier] }

/-- The occurrences of a variable. -/
def references (tree : ScopeTree) (id : VariableId) : List NodeId :=
  (tree.vars[id]?.map Variable.references).getD []

/-- Puts the occurrences of every variable in ascending order of a key; occurrences with equal
keys keep their order. -/
def sortReferences (tree : ScopeTree) (key : NodeId → Nat) : ScopeTree :=
  { tree with vars := tree.vars.map fun v =>
      { v with references := v.references.mergeSort fun a b => key a ≤ key b } }

end ScopeTree

end PropTrace
