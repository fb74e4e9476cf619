import PropTrace.Scope.Tree
import PropTrace.Text.Line
import PropTrace.Tree.Arena

/-!
A source unit: the text of one file, its syntax tree and its scopes.
-/
namespace PropTrace

structure SourceUnit where
  file : String
  source : String
  tree : SyntaxTree
  scopes : ScopeTree

namespace SourceUnit

/-- A unit without nodes. -/
def empty (file source : String) : SourceUnit where
  file := file
  source := source
  tree := .empty
  scopes := .initial

/-- The first line of the source. -/
def firstLine (unit : SourceUnit) : String :=
  String.ofList (Text.firstLine unit.source.toList)

/-- The source text of a node, empty if its span covers no text. -/
def text (unit : SourceUnit) (id : NodeId) : String :=
  ((unit.tree.node? id).map fun node => Text.slice node.span unit.source).getD ""

/-- The variable a name stands for at a node. -/
def lookup (unit : SourceUnit) (id : NodeId) (name : String) : Option VariableId :=
  (unit.tree.node? id).bind fun node => unit.scopes.lookup node.scope name

/-- The same unit with the occurrences of every variable in source order. -/
def sortReferences (unit : SourceUnit) : SourceUnit :=
  { unit with scopes := unit.scopes.sortReferences unit.tree.startOf }

end SourceUnit

end PropTrace
