import PropTrace.Proofs.Walk

/-!
The numbers of nodes. A post-order traversal goes through the children of a node, one after another,
before it lists the node. In the unit of a program such a traversal from the root counts: it lists
the identifiers of the whole arena in ascending order. So the arena is one tree, and the node that
lists a child is the parent the child has on record.
-/
namespace PropTrace

namespace SyntaxTree

/-- Going through the nodes `ids` one after another, each after everything below it, lists `listed`.
A traversal that never ends lists nothing. -/
inductive PostOrder (tree : SyntaxTree) : List NodeId → List NodeId → Prop where
  | nil : PostOrder tree [] []
  | cons {id : NodeId} {kind : NodeKind} {rest below later : List NodeId}
      (node : tree.kind? id = some kind)
      (inner : PostOrder tree kind.children below)
      (outer : PostOrder tree rest later) :
      PostOrder tree (id :: rest) (below ++ id :: later)

/-- A node is another one or stands somewhere below it. -/
def Descends (tree : SyntaxTree) : NodeId → NodeId → Prop :=
  Relation.ReflTransGen fun parent child => child ∈ tree.children parent

namespace PostOrder

variable {tree : SyntaxTree} {ids listed other : List NodeId}

/-- A traversal has one outcome. -/
theorem unique (h : tree.PostOrder ids listed) (hOther : tree.PostOrder ids other) :
    other = listed := by
  induction h generalizing other with
  | nil =>
      cases hOther
      rfl
  | cons node inner outer ihInner ihOuter =>
      cases hOther with
      | cons otherNode otherInner otherOuter =>
          obtain rfl := Option.some.inj (node.symm.trans otherNode)
          rw [ihInner otherInner, ihOuter otherOuter]

/-- Traversals one after another. -/
theorem append {more moreListed : List NodeId} (h : tree.PostOrder ids listed)
    (hMore : tree.PostOrder more moreListed) :
    tree.PostOrder (ids ++ more) (listed ++ moreListed) := by
  induction h with
  | nil => exact hMore
  | cons node inner _ _ ihOuter =>
      rw [List.append_assoc, List.cons_append, List.cons_append]
      exact .cons node inner ihOuter

/-- Everything that is listed stands below one of the nodes the traversal started with. -/
theorem descends_of_mem (h : tree.PostOrder ids listed) :
    ∀ id ∈ listed, ∃ top ∈ ids, tree.Descends top id := by
  induction h with
  | nil => simp
  | @cons top kind rest below later node inner outer ihInner ihOuter =>
      intro id hMem
      rcases List.mem_append.mp hMem with hBelow | hMem
      · obtain ⟨child, hChild, hDescends⟩ := ihInner id hBelow
        have hStep : child ∈ tree.children top := by simpa [children, node] using hChild
        exact ⟨top, List.mem_cons_self, hDescends.head hStep⟩
      · rcases List.mem_cons.mp hMem with rfl | hLater
        · exact ⟨id, List.mem_cons_self, Relation.ReflTransGen.refl⟩
        · obtain ⟨start, hStart, hDescends⟩ := ihOuter id hLater
          exact ⟨start, List.mem_cons_of_mem _ hStart, hDescends⟩

end PostOrder

end SyntaxTree

/-- Outlines are rendered in post-order: the traversal of their nodes counts through the stretch of
the arena that they take up. -/
theorem Draft.Renders.postOrder {draft : Draft} {scope : ScopeId} {outlines : List Outline}
    {first stop : Nat} {ids : List NodeId} (h : draft.Renders scope outlines first stop ids) :
    draft.tree.PostOrder ids (List.Ico first stop) := by
  induction h with
  | nil =>
      rw [List.Ico.self_empty]
      exact .nil
  | use node _ later ih | bind node _ _ later ih =>
      rw [ico_split (Nat.le_refl _) later.first_le_stop, List.Ico.self_empty]
      exact .cons node.kind? .nil ih
  | node below node later ihBelow ihLater =>
      rw [ico_split below.first_le_stop later.first_le_stop]
      refine .cons node.kind? ?_ ihLater
      rwa [Shape.children_kind]
  | region outside _ below node later ihOutside ihBelow ihLater =>
      have hFirst := Nat.le_trans outside.first_le_stop below.first_le_stop
      rw [ico_split hFirst later.first_le_stop,
        ← List.Ico.append_consecutive outside.first_le_stop below.first_le_stop]
      refine .cons node.kind? ?_ ihLater
      rw [Shape.children_kind]
      exact ihOutside.append ihBelow

namespace SourceUnit.Renders

variable {unit : SourceUnit} {outline : Outline} {root : NodeId} {uses : List NodeId}

theorem postOrder (h : unit.Renders outline root uses) :
    unit.tree.PostOrder [root] (List.range unit.tree.size) := by
  rw [← List.Ico.zero_bot]
  exact h.renders.postOrder

/-- Every node of the arena stands below the root. -/
theorem descends (h : unit.Renders outline root uses) {id : NodeId} (hId : id < unit.tree.size) :
    unit.tree.Descends root id := by
  obtain ⟨top, hTop, hDescends⟩ := h.postOrder.descends_of_mem id (List.mem_range.mpr hId)
  rwa [List.mem_singleton.mp hTop] at hDescends

/-- The children of all nodes together with the root are the nodes, each once. -/
theorem children_perm (h : unit.Renders outline root uses) :
    ((List.range unit.tree.size).flatMap unit.tree.children ++ [root]).Perm
      (List.range unit.tree.size) := by
  rw [← List.Ico.zero_bot]
  exact h.renders.children_perm

/-- No node lists the root. -/
theorem root_not_mem_children (h : unit.Renders outline root uses) (other : NodeId) :
    root ∉ unit.tree.children other := by
  intro hMem
  have hNodup := h.children_perm.nodup_iff.mpr List.nodup_range
  have hLister : other ∈ List.range unit.tree.size :=
    List.mem_range.mpr (SyntaxTree.lt_size_of_mem_children hMem)
  have hDisjoint := List.disjoint_of_nodup_append hNodup
  exact hDisjoint (List.mem_flatMap.mpr ⟨other, hLister, hMem⟩) (List.mem_singleton_self root)

/-- Every other node is listed, and by its parent. -/
theorem exists_parent (h : unit.Renders outline root uses) {id : NodeId}
    (hId : id < unit.tree.size) (hRoot : id ≠ root) :
    ∃ parent, unit.tree.parent? id = some parent ∧ id ∈ unit.tree.children parent := by
  have hMem := h.children_perm.mem_iff.mpr (List.mem_range.mpr hId)
  rcases List.mem_append.mp hMem with hListed | hSelf
  · obtain ⟨parent, -, hChild⟩ := List.mem_flatMap.mp hListed
    exact ⟨parent, h.parent?_eq hChild, hChild⟩
  · exact absurd (List.mem_singleton.mp hSelf) hRoot

/-- A node lists each of its children once. -/
theorem count_children (h : unit.Renders outline root uses) {id parent : NodeId}
    (hChild : id ∈ unit.tree.children parent) : (unit.tree.children parent).count id = 1 := by
  have hLister : parent ∈ List.range unit.tree.size :=
    List.mem_range.mpr (SyntaxTree.lt_size_of_mem_children hChild)
  exact List.count_eq_one_of_mem ((List.nodup_flatMap.mp h.nodup_children).1 parent hLister) hChild

end SourceUnit.Renders

/-- The root of a program is its last node, and nothing but the program is one. -/
theorem Program.root_of_renders {unit : SourceUnit} {program : Program} {root : NodeId}
    {uses : List NodeId} (h : unit.Renders program.outline root uses) :
    root + 1 = unit.tree.size ∧ ∃ body, unit.tree.kind? root = some (.program body) := by
  have hRenders := h.renders
  generalize hStop : unit.tree.size = stop at hRenders
  cases hRenders with
  | node _ node later =>
      cases later with
      | nil => exact ⟨rfl, _, node.kind?⟩

/-- The arena of a program is the post-order numbering of one tree: going through the children of
every node before the node lists all identifiers in ascending order. So the root is the last node
and the program, every node stands below it, and every other node is listed by exactly one node, in
one place, which is its parent. -/
theorem Program.numbered_in_postOrder (program : Program) (file source : String) :
    let tree := (program.toUnit file source).tree
    ∃ root, tree.root = some root ∧
      (∀ listed, tree.PostOrder [root] listed ↔ listed = List.range tree.size) ∧
      root + 1 = tree.size ∧ (∃ body, tree.kind? root = some (.program body)) ∧
      (∀ id < tree.size, tree.Descends root id) ∧
      tree.parent? root = none ∧ (∀ other, root ∉ tree.children other) ∧
      ∀ id < root, ∃ parent, tree.parent? id = some parent ∧
        (tree.children parent).count id = 1 ∧
        ∀ other, id ∈ tree.children other → other = parent := by
  intro tree
  obtain ⟨root, uses, hRenders⟩ := program.renders_toUnit file source
  obtain ⟨hLast, hProgram⟩ := Program.root_of_renders hRenders
  have hListed : tree.PostOrder [root] (List.range tree.size) := hRenders.postOrder
  have hOrphan : ∀ other, root ∉ tree.children other := hRenders.root_not_mem_children
  refine ⟨root, hRenders.rooted, ?_, hLast, hProgram, fun id => hRenders.descends, ?_, hOrphan, ?_⟩
  · intro listed
    constructor
    · exact hListed.unique
    · rintro rfl
      exact hListed
  · exact (SyntaxTree.Grown.parent?_eq_none_iff hRenders.grown.tree).mpr hOrphan
  · intro id hId
    have hSize : id < tree.size := Nat.lt_of_lt_of_eq (Nat.lt_succ_of_lt hId) hLast
    obtain ⟨parent, hParent, hChild⟩ := hRenders.exists_parent hSize (Nat.ne_of_lt hId)
    refine ⟨parent, hParent, hRenders.count_children hChild, ?_⟩
    intro other hOther
    exact Option.some.inj ((hRenders.parent?_eq hOther).symm.trans hParent)

end PropTrace
