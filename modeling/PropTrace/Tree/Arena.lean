import PropTrace.Tree.Node

/-!
The arena that holds the nodes of one source unit. A node is appended after its children, and
appending it makes it their parent, so identifiers grow from the leaves to the root.
-/
namespace PropTrace

structure Node where
  kind : NodeKind
  span : Span
  /-- The node that adopted this one last. -/
  parent : Option NodeId
  /-- The scope this node occurs in. -/
  scope : ScopeId

structure SyntaxTree where
  nodes : Array Node
  root : Option NodeId

namespace SyntaxTree

def empty : SyntaxTree := ⟨#[], none⟩

def size (tree : SyntaxTree) : Nat := tree.nodes.size

def node? (tree : SyntaxTree) (id : NodeId) : Option Node := tree.nodes[id]?

def kind? (tree : SyntaxTree) (id : NodeId) : Option NodeKind := (tree.node? id).map Node.kind

def parent? (tree : SyntaxTree) (id : NodeId) : Option NodeId := (tree.node? id).bind Node.parent

/-- The children of a node, none for a node that does not exist. -/
def children (tree : SyntaxTree) (id : NodeId) : List NodeId :=
  ((tree.kind? id).map NodeKind.children).getD []

/-- The start of a node's span. -/
def startOf (tree : SyntaxTree) (id : NodeId) : Nat :=
  ((tree.node? id).map fun node => node.span.start).getD 0

/-- All identifiers, ascending. -/
def ids (tree : SyntaxTree) : List NodeId := List.range tree.size

/-- Makes `parent` the parent of the listed nodes. -/
def adopt (nodes : Array Node) (parent : NodeId) (children : List NodeId) : Array Node :=
  children.foldl (fun nodes child => nodes.modify child fun node =>
    { node with parent := some parent }) nodes

/-- Appends a node, which adopts its children. -/
def push (tree : SyntaxTree) (kind : NodeKind) (span : Span) (scope : ScopeId) :
    NodeId × SyntaxTree :=
  let id := tree.size
  (id, { tree with
    nodes := (adopt tree.nodes id kind.children).push { kind, span, parent := none, scope } })

end SyntaxTree

end PropTrace
