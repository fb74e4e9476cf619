import PropTrace.Tree.Arena

/-!
Walking a tree from its root: depth first, a node before its children and these in source order.
Below a node that is pruned nothing is visited.
-/
namespace PropTrace

namespace SyntaxTree

/-- The nodes visited from a node on, down to `depth` nested nodes. -/
def visitWithin (tree : SyntaxTree) (prunes : NodeKind → Bool) : Nat → NodeId → List NodeId
  | 0, _ => []
  | depth + 1, id =>
    match tree.kind? id with
    | none => []
    | some kind =>
      id :: if prunes kind then [] else kind.children.flatMap (tree.visitWithin prunes depth)

/-- The nodes visited from a node on. Children are older than their parents, so the identifier of
the node bounds the depth. -/
def visit (tree : SyntaxTree) (prunes : NodeKind → Bool) (id : NodeId) : List NodeId :=
  tree.visitWithin prunes (id + 1) id

/-- The nodes visited from the root on, none without a root. -/
def walk (tree : SyntaxTree) (prunes : NodeKind → Bool) : List NodeId :=
  match tree.root with
  | some root => tree.visit prunes root
  | none => []

/-- Every node below the root. -/
def walkAll (tree : SyntaxTree) : List NodeId := tree.walk fun _ => false

end SyntaxTree

/-- What a walk meets of a JSX element or attribute. -/
inductive WalkEvent where
  | element (id : NodeId)
  | attribute (id : NodeId) (name : String)
  deriving DecidableEq, Repr

namespace NodeKind

def isElement : NodeKind → Bool
  | jsxElement .. => true
  | _ => false

def isAttribute : NodeKind → Bool
  | jsxAttribute .. => true
  | _ => false

end NodeKind

namespace SyntaxTree

/-- The event of visiting a node, if it has one. -/
def event? (tree : SyntaxTree) (id : NodeId) : Option WalkEvent :=
  match tree.kind? id with
  | some (.jsxElement ..) => some (.element id)
  | some (.jsxAttribute name _) => some (.attribute id name)
  | _ => none

/-- The events of a walk that may stop at elements, at attributes or at both. -/
def events (tree : SyntaxTree) (pruneElements pruneAttributes : Bool) : List WalkEvent :=
  (tree.walk fun kind =>
    pruneElements && kind.isElement || pruneAttributes && kind.isAttribute).filterMap tree.event?

/-- The attributes met by a full walk, in the order of the walk. -/
def walkedAttributes (tree : SyntaxTree) : List NodeId :=
  tree.walkAll.filter fun id => ((tree.kind? id).map NodeKind.isAttribute).getD false

/-- The attributes of the whole arena, ascending. -/
def attributes (tree : SyntaxTree) : List NodeId :=
  tree.ids.filter fun id => ((tree.kind? id).map NodeKind.isAttribute).getD false

end SyntaxTree

end PropTrace
