import PropTrace.Scope.Tree
import PropTrace.Tree.Node

/-!
Outlines: what lowering makes of a phrase before nodes and scopes get their numbers. An outline
says which nodes there will be, which names they use and bind, and where new scopes open.
-/
namespace PropTrace

/-- A name at its place. -/
structure Name where
  text : String
  span : Span
  deriving DecidableEq, Repr

/-- What stands at a node, apart from its parts. -/
inductive Shape where
  | program
  | literal (value : LiteralValue)
  | logical (operator : LogicalOperator)
  | conditional
  | call
  | new
  | member (name : String)
  | index
  | privateMember (name : String)
  | assignment (operator : AssignmentOperator)
  | declarator
  | assignmentPattern
  | object
  | array
  /-- The first part is the name, if there is one, and then come `params` parameters. -/
  | function (kind : FunctionKind) (named : Bool) (params : Nat)
  | jsxElement
  | jsxFragment
  | jsxOpening
  | jsxIdentifier (name : String)
  | jsxNamespacedName (space name : String)
  | jsxMember (path : String)
  | jsxAttribute (name : String)
  | jsxContainer
  | other (label : String)
  deriving DecidableEq, Repr

/-- The node of a shape with these parts. Parts that do not fit the shape are kept under a plain
label; no outline of a program has such parts. -/
def Shape.kind : Shape → List NodeId → NodeKind
  | program, parts => .program parts
  | literal value, [] => .literal value
  | logical operator, [left, right] => .logical operator left right
  | conditional, [test, consequent, alternate] => .conditional test consequent alternate
  | call, callee :: arguments => .call callee arguments
  | new, callee :: arguments => .new callee arguments
  | member name, [target] => .member target (.named name)
  | index, [target, key] => .member target (.computed key)
  | privateMember name, [target] => .member target (.privateName name)
  | assignment operator, [left, right] => .assignment operator left right
  | declarator, [id] => .declarator id none
  | declarator, [id, init] => .declarator id (some init)
  | assignmentPattern, [left, right] => .assignmentPattern left right
  | object, parts => .object parts
  | array, parts => .array parts
  | function kind true params, id :: rest =>
    .function kind (some id) (rest.take params) (rest.drop params)
  | function kind false params, rest => .function kind none (rest.take params) (rest.drop params)
  | jsxElement, opening :: children => .jsxElement opening children
  | jsxFragment, parts => .jsxFragment parts
  | jsxOpening, name :: attributes => .jsxOpening name attributes
  | jsxIdentifier name, [] => .jsxIdentifier name
  | jsxNamespacedName space name, [] => .jsxNamespacedName space name
  | jsxMember path, [] => .jsxMember path
  | jsxAttribute name, [] => .jsxAttribute name none
  | jsxAttribute name, [value] => .jsxAttribute name (some value)
  | jsxContainer, [expression] => .jsxContainer expression
  | other label, parts => .other label parts
  | _, parts => .other "Expression" parts

/-- The scope a binding belongs to. -/
inductive BindingPlace where
  /-- The scope it stands in. -/
  | here
  /-- The nearest scope around it that is no block. -/
  | hoisted
  deriving DecidableEq, Repr

inductive Outline where
  /-- An identifier that refers to a variable. -/
  | use (name : Name)
  /-- An identifier that declares a variable. -/
  | bind (name : Name) (place : BindingPlace)
  /-- A node with its parts in source order. -/
  | node (shape : Shape) (span : Span) (parts : List Outline)
  /-- A node whose later parts stand in a scope of their own; the node and its earlier parts stand
  outside of it. -/
  | region (shape : Shape) (span : Span) (before : List Outline) (scope : ScopeKind)
      (inside : List Outline)

namespace Outline

/-- A node that keeps its parts under a label. -/
def labeled (label : String) (span : Span) (parts : List Outline) : Outline :=
  .node (.other label) span parts

end Outline

end PropTrace
