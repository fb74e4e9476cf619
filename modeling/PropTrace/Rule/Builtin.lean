import PropTrace.Rule.Check

/-!
The built-in rules. A value created while rendering has a new identity each time, so passing it to
a memoized component defeats the memo. There is one rule each for objects, arrays, functions and
JSX.
-/
namespace PropTrace

namespace SyntaxTree

/-- Whether a node calls or instantiates the identifier `name` itself: `Object()`,
`new Array(3)`. What the name stands for plays no part. -/
def matchesConstructor (tree : SyntaxTree) (id : NodeId) (name : String) : Bool :=
  match tree.kind? id with
  | some (.call callee _) | some (.new callee _) => tree.kind? callee == some (.identifier name)
  | _ => false

/-- Whether a node is a call such as `handler.bind(this)`. -/
def isBindCall (tree : SyntaxTree) (id : NodeId) : Bool :=
  match tree.kind? id with
  | some (.call callee _) =>
    match tree.kind? callee with
    | some (.member _ (.named name)) => name == "bind"
    | _ => false
  | _ => false

def isNewObject (tree : SyntaxTree) (id : NodeId) : Bool :=
  match tree.kind? id with
  | some (.object _) => true
  | _ => tree.matchesConstructor id "Object"

def isNewArray (tree : SyntaxTree) (id : NodeId) : Bool :=
  match tree.kind? id with
  | some (.array _) => true
  | _ => tree.matchesConstructor id "Array"

def isNewFunction (tree : SyntaxTree) (id : NodeId) : Bool :=
  match tree.kind? id with
  | some (.function .expression ..) | some (.function .arrow ..) => true
  | _ => tree.matchesConstructor id "Function" || tree.isBindCall id

def isJsx (tree : SyntaxTree) (id : NodeId) : Bool :=
  ((tree.kind? id).map NodeKind.isElement).getD false

end SyntaxTree

/-- The built-in rules. -/
inductive Builtin where
  | noNewObject | noNewArray | noNewFunction | noJsx
  deriving DecidableEq, Repr

namespace Builtin

/-- All built-in rules, in the order they are recommended. -/
def all : List Builtin := [noNewObject, noNewArray, noNewFunction, noJsx]

def name : Builtin → String
  | noNewObject => "jsx-no-new-object-as-prop"
  | noNewArray => "jsx-no-new-array-as-prop"
  | noNewFunction => "jsx-no-new-function-as-prop"
  | noJsx => "jsx-no-jsx-as-prop"

/-- The built-in rule of this name. -/
def ofName? (name : String) : Option Builtin :=
  all.find? fun builtin => builtin.name == name

def rule : Builtin → Rule
  | noNewObject => {
      description := "Prevent \x7b...\x7d as JSX prop value"
      message := "JSX attribute values should not contain objects created in the same scope"
      isViolation := SyntaxTree.isNewObject }
  | noNewArray => {
      description := "Prevent [...] as JSX prop value"
      message := "JSX attribute values should not contain arrays created in the same scope"
      isViolation := SyntaxTree.isNewArray }
  | noNewFunction => {
      description := "Prevent function as JSX prop value"
      message := "JSX attribute values should not contain functions created in the same scope"
      isViolation := SyntaxTree.isNewFunction }
  | noJsx => {
      description := "Prevent JSX as JSX prop value"
      message :=
        "JSX attribute values should not contain other JSX elements created in the same scope"
      isViolation := SyntaxTree.isJsx }

end Builtin

end PropTrace
