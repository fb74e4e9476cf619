import PropTrace.Number.Double
import PropTrace.Text.Span

/-!
The nodes of a lowered source unit. A node names its children by their places in the arena, so a
kind says what a node is and where its parts are, and nothing else. Kinds that no rule tells apart
share `NodeKind.other`, which keeps the children under a label.
-/
namespace PropTrace

/-- The place of a node in its arena. -/
abbrev NodeId := Nat

/-- The place of a scope in its scope tree. -/
abbrev ScopeId := Nat

/-- The place of a variable in its scope tree. -/
abbrev VariableId := Nat

/-- The value a literal is written for. Big integers and regular expressions keep their text. -/
inductive LiteralValue where
  | string (value : String)
  | number (value : Double)
  | bigint (text : String)
  | boolean (value : Bool)
  | null
  | regexp (text : String)
  deriving DecidableEq, Repr

/-- Operators that may leave their right operand unevaluated. -/
inductive LogicalOperator where
  | or | and | coalesce
  deriving DecidableEq, Repr

def LogicalOperator.symbol : LogicalOperator → String
  | .or => "||"
  | .and => "&&"
  | .coalesce => "??"

inductive AssignmentOperator where
  | assign | add | subtract | multiply | divide | remainder | exponential
  | shiftLeft | shiftRight | shiftRightZeroFill
  | bitwiseOr | bitwiseXor | bitwiseAnd
  | logicalOr | logicalAnd | logicalCoalesce
  deriving DecidableEq, Repr

def AssignmentOperator.symbol : AssignmentOperator → String
  | .assign => "="
  | .add => "+="
  | .subtract => "-="
  | .multiply => "*="
  | .divide => "/="
  | .remainder => "%="
  | .exponential => "**="
  | .shiftLeft => "<<="
  | .shiftRight => ">>="
  | .shiftRightZeroFill => ">>>="
  | .bitwiseOr => "|="
  | .bitwiseXor => "^="
  | .bitwiseAnd => "&="
  | .logicalOr => "||="
  | .logicalAnd => "&&="
  | .logicalCoalesce => "??="

/-- How a function is written. -/
inductive FunctionKind where
  | declaration | expression | arrow
  deriving DecidableEq, Repr

/-- What is read off the object of a member expression. -/
inductive MemberProperty where
  /-- `object.name` -/
  | named (name : String)
  /-- `object[expression]` -/
  | computed (expression : NodeId)
  /-- `object.#name` -/
  | privateName (name : String)
  deriving DecidableEq, Repr

inductive NodeKind where
  | program (body : List NodeId)
  | literal (value : LiteralValue)
  | identifier (name : String)
  | logical (operator : LogicalOperator) (left right : NodeId)
  | conditional (test consequent alternate : NodeId)
  | call (callee : NodeId) (arguments : List NodeId)
  | new (callee : NodeId) (arguments : List NodeId)
  | member (object : NodeId) (property : MemberProperty)
  | assignment (operator : AssignmentOperator) (left right : NodeId)
  | declarator (id : NodeId) (init : Option NodeId)
  | assignmentPattern (left right : NodeId)
  | object (properties : List NodeId)
  | array (elements : List NodeId)
  | function (kind : FunctionKind) (id : Option NodeId) (params body : List NodeId)
  | jsxElement (opening : NodeId) (children : List NodeId)
  | jsxFragment (children : List NodeId)
  | jsxOpening (name : NodeId) (attributes : List NodeId)
  /-- A plain tag name: `div`, `Button`. -/
  | jsxIdentifier (name : String)
  /-- `svg:rect` -/
  | jsxNamespacedName (space name : String)
  /-- `Foo.Bar`, kept as its dotted text. -/
  | jsxMember (path : String)
  | jsxAttribute (name : String) (value : Option NodeId)
  | jsxContainer (expression : NodeId)
  | other (label : String) (children : List NodeId)
  deriving DecidableEq, Repr

namespace NodeKind

/-- The parts of a node in source order. -/
def children : NodeKind → List NodeId
  | program body => body
  | literal _ | identifier _ | jsxIdentifier _ | jsxNamespacedName _ _ | jsxMember _ => []
  | logical _ left right | assignment _ left right | assignmentPattern left right => [left, right]
  | conditional test consequent alternate => [test, consequent, alternate]
  | call callee arguments | new callee arguments => callee :: arguments
  | member target (.computed expression) => [target, expression]
  | member target _ => [target]
  | declarator id init => id :: init.toList
  | object properties => properties
  | array elements => elements
  | function _ id params body => id.toList ++ params ++ body
  | jsxElement opening children => opening :: children
  | jsxFragment children => children
  | jsxOpening name attributes => name :: attributes
  | jsxAttribute _ value => value.toList
  | jsxContainer expression => [expression]
  | other _ children => children

/-- The name of the syntactic category. -/
def typeName : NodeKind → String
  | program _ => "Program"
  | literal _ => "Literal"
  | identifier _ => "Identifier"
  | logical .. => "LogicalExpression"
  | conditional .. => "ConditionalExpression"
  | call .. => "CallExpression"
  | new .. => "NewExpression"
  | member .. => "MemberExpression"
  | assignment .. => "AssignmentExpression"
  | declarator .. => "VariableDeclarator"
  | assignmentPattern .. => "AssignmentPattern"
  | object _ => "ObjectExpression"
  | array _ => "ArrayExpression"
  | function .declaration .. => "FunctionDeclaration"
  | function .expression .. => "FunctionExpression"
  | function .arrow .. => "ArrowFunctionExpression"
  | jsxElement .. => "JSXElement"
  | jsxFragment _ => "JSXFragment"
  | jsxOpening .. => "JSXOpeningElement"
  | jsxIdentifier _ => "JSXIdentifier"
  | jsxNamespacedName .. => "JSXNamespacedName"
  | jsxMember _ => "JSXMemberExpression"
  | jsxAttribute .. => "JSXAttribute"
  | jsxContainer _ => "JSXExpressionContainer"
  | other label _ => label

end NodeKind

end PropTrace
