import PropTrace.Tree.Arena

/-!
Arenas that grow by appending. A new node may only name nodes that exist already, so children are
older than their parents, and the parent on record is the last node that named the child. Later
nodes change nothing else of an earlier one.
-/
namespace PropTrace

namespace SyntaxTree

/-- Adoption records a parent for the listed nodes and leaves the rest alone. -/
theorem getElem?_adopt (nodes : Array Node) (parent : NodeId) (children : List NodeId)
    (id : NodeId) :
    (adopt nodes parent children)[id]? = nodes[id]?.map fun node =>
      if id ∈ children then { node with parent := some parent } else node := by
  induction children generalizing nodes with
  | nil => simp [adopt]
  | cons child rest ih =>
      have hStep : adopt nodes parent (child :: rest) = adopt (nodes.modify child fun node =>
          { node with parent := some parent }) parent rest := rfl
      rw [hStep, ih, Array.getElem?_modify]
      by_cases hChild : child = id
      · subst hChild
        cases nodes[child]? <;> simp
      · have hOther : id ≠ child := Ne.symm hChild
        cases nodes[id]? <;> simp [hChild, hOther]

theorem size_adopt (nodes : Array Node) (parent : NodeId) (children : List NodeId) :
    (adopt nodes parent children).size = nodes.size := by
  induction children generalizing nodes with
  | nil => rfl
  | cons child rest ih =>
      have hStep : adopt nodes parent (child :: rest) = adopt (nodes.modify child fun node =>
          { node with parent := some parent }) parent rest := rfl
      rw [hStep, ih, Array.size_modify]

variable {tree : SyntaxTree} {id : NodeId}

theorem node?_lt {node : Node} (h : tree.node? id = some node) : id < tree.size :=
  (Array.getElem?_eq_some_iff.mp h).1

theorem kind?_lt {kind : NodeKind} (h : tree.kind? id = some kind) : id < tree.size := by
  obtain ⟨node, hNode, -⟩ := Option.map_eq_some_iff.mp h
  exact node?_lt hNode

theorem exists_node? (h : id < tree.size) : ∃ node, tree.node? id = some node :=
  ⟨tree.nodes[id], Array.getElem?_eq_getElem h⟩

theorem exists_kind? (h : id < tree.size) : ∃ kind, tree.kind? id = some kind := by
  obtain ⟨node, hNode⟩ := exists_node? h
  exact ⟨node.kind, by rw [kind?, hNode, Option.map_some]⟩

section push

variable (tree : SyntaxTree) (kind : NodeKind) (span : Span) (scope : ScopeId)

@[simp]
theorem size_push : (tree.push kind span scope).2.size = tree.size + 1 := by
  simp [push, size, size_adopt]

/-- What is found after appending: the new node at the end, and every earlier node as it was but
for the parent of those the new node names. -/
theorem node?_push (id : NodeId) :
    (tree.push kind span scope).2.node? id =
      if id = tree.size then some { kind, span, parent := none, scope }
      else (tree.node? id).map fun node =>
        if id ∈ kind.children then { node with parent := some tree.size } else node := by
  simp only [push, node?, Array.getElem?_push, size_adopt, getElem?_adopt]
  rfl

theorem kind?_push (id : NodeId) :
    (tree.push kind span scope).2.kind? id =
      if id = tree.size then some kind else tree.kind? id := by
  rw [kind?, node?_push, kind?]
  split
  · rfl
  · rw [Option.map_map]
    congr 1
    funext node
    simp only [Function.comp_apply]
    split <;> rfl

end push

/-- A node of this kind, span and scope stands at `id`. Its parent is left open, since a later node
may still adopt it. -/
def Holds (tree : SyntaxTree) (id : NodeId) (kind : NodeKind) (span : Span) (scope : ScopeId) :
    Prop :=
  ∃ parent, tree.node? id = some { kind, span, parent, scope }

namespace Holds

variable {kind : NodeKind} {span : Span} {scope : ScopeId}

theorem lt_size (h : tree.Holds id kind span scope) : id < tree.size := by
  obtain ⟨parent, hNode⟩ := h
  exact node?_lt hNode

theorem kind? (h : tree.Holds id kind span scope) : tree.kind? id = some kind := by
  obtain ⟨parent, hNode⟩ := h
  simp [SyntaxTree.kind?, hNode]

theorem children (h : tree.Holds id kind span scope) : tree.children id = kind.children := by
  simp [SyntaxTree.children, h.kind?]

/-- Appending a node never changes what an earlier place holds. -/
theorem push (h : tree.Holds id kind span scope) (newKind : NodeKind) (newSpan : Span)
    (newScope : ScopeId) : (tree.push newKind newSpan newScope).2.Holds id kind span scope := by
  have hOld : id ≠ tree.size := Nat.ne_of_lt h.lt_size
  obtain ⟨parent, hNode⟩ := h
  rw [Holds, node?_push, if_neg hOld, hNode]
  by_cases hChild : id ∈ newKind.children
  · exact ⟨some tree.size, by simp [hChild]⟩
  · exact ⟨parent, by simp [hChild]⟩

end Holds

theorem holds_push (tree : SyntaxTree) (kind : NodeKind) (span : Span) (scope : ScopeId) :
    (tree.push kind span scope).2.Holds tree.size kind span scope :=
  ⟨none, by simp [node?_push]⟩

/-- The arenas that appending makes: every part of a new node exists already. Choosing a root
changes no node. -/
inductive Grown : SyntaxTree → Prop where
  | empty : Grown empty
  | push {tree : SyntaxTree} (grown : Grown tree) (kind : NodeKind) (span : Span)
      (scope : ScopeId) (older : ∀ child ∈ kind.children, child < tree.size) :
      Grown (tree.push kind span scope).2
  | withRoot {tree : SyntaxTree} (grown : Grown tree) (root : Option NodeId) :
      Grown { tree with root }

namespace Grown

/-- Children are older than their parents. This is what bounds every descent. -/
theorem child_lt (h : tree.Grown) {kind : NodeKind} (hKind : tree.kind? id = some kind)
    {child : NodeId} (hChild : child ∈ kind.children) : child < id := by
  induction h with
  | empty => simp [SyntaxTree.kind?, node?, SyntaxTree.empty] at hKind
  | push grown newKind span scope older ih =>
      rw [kind?_push] at hKind
      split at hKind
      · next hNew =>
          cases hKind
          exact hNew ▸ older child hChild
      · exact ih hKind
  | withRoot grown root ih => exact ih hKind

theorem mem_children_lt (h : tree.Grown) {child : NodeId} (hChild : child ∈ tree.children id) :
    child < id := by
  cases hKind : tree.kind? id with
  | none => simp [SyntaxTree.children, hKind] at hChild
  | some kind => exact h.child_lt hKind (by simpa [SyntaxTree.children, hKind] using hChild)

end Grown

theorem children_push (tree : SyntaxTree) (kind : NodeKind) (span : Span) (scope : ScopeId)
    (id : NodeId) :
    (tree.push kind span scope).2.children id =
      if id = tree.size then kind.children else tree.children id := by
  simp only [children, kind?_push]
  split <;> rfl

theorem lt_size_of_mem_children {child : NodeId} (h : child ∈ tree.children id) :
    id < tree.size := by
  cases hKind : tree.kind? id with
  | none => simp [children, hKind] at h
  | some kind => exact kind?_lt hKind

theorem parent?_push (tree : SyntaxTree) (kind : NodeKind) (span : Span) (scope : ScopeId)
    (older : ∀ child ∈ kind.children, child < tree.size) (child : NodeId) :
    (tree.push kind span scope).2.parent? child =
      if child ∈ kind.children then some tree.size else tree.parent? child := by
  rw [parent?, node?_push, parent?]
  by_cases hChild : child ∈ kind.children
  · have hOld := older child hChild
    obtain ⟨node, hNode⟩ := exists_node? hOld
    simp [Nat.ne_of_lt hOld, hNode, hChild]
  · by_cases hNew : child = tree.size
    · have hNone : tree.node? child = none :=
        Array.getElem?_eq_none (Nat.le_of_eq hNew.symm)
      simp [hNew ▸ hChild, hNew ▸ hNone, hNew]
    · cases hNode : tree.node? child <;> simp [hNew, hChild]

/-- The youngest node that lists a child. -/
def LastLister (tree : SyntaxTree) (child parent : NodeId) : Prop :=
  child ∈ tree.children parent ∧ ∀ other, child ∈ tree.children other → other ≤ parent

section LastLister

variable {kind : NodeKind} {span : Span} {scope : ScopeId} {child parent : NodeId}

theorem lastLister_push_of_mem (hChild : child ∈ kind.children) :
    (tree.push kind span scope).2.LastLister child parent ↔ parent = tree.size := by
  have hNew : child ∈ (tree.push kind span scope).2.children tree.size := by
    simpa [children_push] using hChild
  constructor
  · rintro ⟨hMem, hLast⟩
    have hLt := lt_size_of_mem_children hMem
    have hLe := hLast tree.size hNew
    rw [size_push] at hLt
    grind
  · rintro rfl
    refine ⟨hNew, fun other hOther => ?_⟩
    have hLt := lt_size_of_mem_children hOther
    rw [size_push] at hLt
    grind

theorem lastLister_push_of_not_mem (hChild : child ∉ kind.children) :
    (tree.push kind span scope).2.LastLister child parent ↔ tree.LastLister child parent := by
  have hSame (other : NodeId) :
      child ∈ (tree.push kind span scope).2.children other ↔ child ∈ tree.children other := by
    rw [children_push]
    split
    · next hNew =>
        refine iff_of_false hChild fun hMem => ?_
        exact absurd (lt_size_of_mem_children hMem) (Nat.not_lt.mpr (Nat.le_of_eq hNew.symm))
    · rfl
  simp only [LastLister, hSame]

end LastLister

/-- The parent on record is the last node that lists the child. -/
theorem Grown.parent?_eq_some_iff (h : tree.Grown) {child parent : NodeId} :
    tree.parent? child = some parent ↔ tree.LastLister child parent := by
  induction h generalizing child parent with
  | empty => simp [parent?, node?, SyntaxTree.empty, LastLister, children, kind?]
  | push grown kind span scope older ih =>
      rw [parent?_push _ _ _ _ older]
      by_cases hChild : child ∈ kind.children
      · rw [if_pos hChild, lastLister_push_of_mem hChild, Option.some.injEq, eq_comm]
      · rw [if_neg hChild, lastLister_push_of_not_mem hChild, ih]
  | withRoot grown root ih => exact ih

/-- The nodes that no node lists are those without a parent. -/
theorem Grown.parent?_eq_none_iff (h : tree.Grown) {child : NodeId} :
    tree.parent? child = none ↔ ∀ other, child ∉ tree.children other := by
  induction h with
  | empty => simp [parent?, node?, SyntaxTree.empty, children, kind?]
  | @push before grown kind span scope older ih =>
      rw [parent?_push _ _ _ _ older]
      by_cases hChild : child ∈ kind.children
      · rw [if_pos hChild]
        apply iff_of_false (by simp)
        intro hNone
        apply hNone before.size
        simpa [children_push] using hChild
      · rw [if_neg hChild, ih]
        apply forall_congr'
        intro other
        rw [children_push]
        split
        · next hNew =>
            apply iff_of_true _ hChild
            intro hMem
            exact Nat.ne_of_lt (lt_size_of_mem_children hMem) hNew
        · rfl
  | withRoot grown root ih => exact ih

/-- A node that only one node lists has that node as its parent. -/
theorem Grown.parent?_eq_some_of_unique (h : tree.Grown) {child parent : NodeId}
    (hMem : child ∈ tree.children parent)
    (hOnly : ∀ other, child ∈ tree.children other → other = parent) :
    tree.parent? child = some parent :=
  h.parent?_eq_some_iff.mpr ⟨hMem, fun other hOther => Nat.le_of_eq (hOnly other hOther)⟩

end SyntaxTree

end PropTrace
