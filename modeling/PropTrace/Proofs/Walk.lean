import Mathlib.Data.List.Forall2
import Mathlib.Data.List.Intervals
import Mathlib.Data.List.Nodup
import Mathlib.Data.List.Pairwise
import PropTrace.Proofs.Building
import PropTrace.Tree.Walk

/-!
Walks over rendered outlines. A full walk meets every node of the arena exactly once, and every node
but the root is a child of exactly one node, which is the parent it has on record. The nodes come in
the order of the outlines they render, each outline before its parts.
-/
namespace PropTrace

/-- In a list without repetition that is put together from parts, an element stands in one part. -/
theorem eq_of_nodup_flatMap {α β : Type} {list : List α} {parts : α → List β}
    (hNodup : (list.flatMap parts).Nodup) {first second : α} {b : β} (hFirst : first ∈ list)
    (hSecond : second ∈ list) (hInFirst : b ∈ parts first) (hInSecond : b ∈ parts second) :
    first = second := by
  have hPairwise := (List.nodup_flatMap.mp hNodup).2
  have hSymm : Std.Symm (Function.onFun List.Disjoint parts) :=
    ⟨fun _ _ hDisjoint => hDisjoint.symm⟩
  by_contra hNe
  exact hPairwise.forall hFirst hSecond hNe hInFirst hInSecond

namespace SyntaxTree

variable {tree : SyntaxTree} {prunes : NodeKind → Bool}

/-- A descent of bounded depth that depends only on what it finds at smaller identifiers finds the
same at every depth above its identifier. -/
theorem eq_of_lt_depth {β : Type} {run : Nat → NodeId → β}
    (step : ∀ depth other id, (∀ child < id, run depth child = run other child) →
      run (depth + 1) id = run (other + 1) id)
    {depth other : Nat} {id : NodeId} (hDepth : id < depth) (hOther : id < other) :
    run depth id = run other id := by
  induction depth generalizing id other with
  | zero => exact absurd hDepth (Nat.not_lt_zero id)
  | succ depth ih =>
      obtain ⟨other, rfl⟩ := Nat.exists_eq_add_one_of_ne_zero (Nat.ne_zero_of_lt hOther)
      apply step
      intro child hChild
      exact ih (Nat.lt_of_lt_of_le hChild (Nat.le_of_lt_succ hDepth))
        (Nat.lt_of_lt_of_le hChild (Nat.le_of_lt_succ hOther))

/-- Children are older than their parents, so more depth than the identifier changes nothing. -/
theorem visitWithin_eq_visit (hGrown : tree.Grown) {depth : Nat} {id : NodeId} (h : id < depth) :
    tree.visitWithin prunes depth id = tree.visit prunes id := by
  apply eq_of_lt_depth _ h (Nat.lt_succ_self id)
  intro depth other id hBelow
  cases hKind : tree.kind? id with
  | none => simp [visitWithin, hKind]
  | some kind =>
      simp only [visitWithin, hKind]
      congr 2
      exact List.flatMap_congr fun child hChild => hBelow child (hGrown.child_lt hKind hChild)

/-- A visit meets the node first and then visits its children, unless the node is pruned. -/
theorem visit_eq (hGrown : tree.Grown) {id : NodeId} {kind : NodeKind}
    (hKind : tree.kind? id = some kind) :
    tree.visit prunes id =
      id :: if prunes kind then [] else kind.children.flatMap (tree.visit prunes) := by
  rw [visit, visitWithin, hKind]
  simp only
  congr 2
  exact List.flatMap_congr fun child hChild =>
    visitWithin_eq_visit hGrown (hGrown.child_lt hKind hChild)

/-- A full visit, the children of which are all visited. -/
def visitAll (tree : SyntaxTree) (id : NodeId) : List NodeId := tree.visit (fun _ => false) id

theorem visitAll_eq (hGrown : tree.Grown) {id : NodeId} {kind : NodeKind}
    (hKind : tree.kind? id = some kind) :
    tree.visitAll id = id :: kind.children.flatMap tree.visitAll := by
  rw [visitAll, visit_eq hGrown hKind]
  rfl

end SyntaxTree

/-- A stretch of the arena is what stands below a place in it, the place, and what comes later. -/
theorem ico_split {first id stop : Nat} (hFirst : first ≤ id) (hStop : id < stop) :
    List.Ico first stop = List.Ico first id ++ id :: List.Ico (id + 1) stop := by
  rw [← List.Ico.eq_cons hStop, List.Ico.append_consecutive hFirst (Nat.le_of_lt hStop)]

/-- Whatever is in the first of two corresponding lists corresponds to something in the second. -/
theorem exists_of_forall₂ {α β : Type} {relates : α → β → Prop} {as : List α} {bs : List β}
    (h : List.Forall₂ relates as bs) {a : α} (hMem : a ∈ as) : ∃ b ∈ bs, relates a b := by
  induction h with
  | nil => cases hMem
  | cons hHead _ ih =>
      rcases List.mem_cons.mp hMem with rfl | hRest
      · exact ⟨_, List.mem_cons_self, hHead⟩
      · obtain ⟨b, hIn, hRelated⟩ := ih hRest
        exact ⟨b, List.mem_cons_of_mem _ hIn, hRelated⟩

namespace Draft.Renders

variable {draft : Draft} {scope : ScopeId} {outlines : List Outline} {first stop : Nat}
  {ids : List NodeId}

/-- Visiting the nodes of outlines meets their stretch of the arena, each node once. -/
theorem visitAll_perm (h : draft.Renders scope outlines first stop ids)
    (hGrown : draft.tree.Grown) :
    (ids.flatMap draft.tree.visitAll).Perm (List.Ico first stop) := by
  -- a node is met before its parts and numbered after them
  have hNode : ∀ {first id stop : Nat} {kind : NodeKind} {span : Span} {scope : ScopeId}
      {ids : List NodeId}, draft.tree.Holds id kind span scope → first ≤ id → id < stop →
      (kind.children.flatMap draft.tree.visitAll).Perm (List.Ico first id) →
      (ids.flatMap draft.tree.visitAll).Perm (List.Ico (id + 1) stop) →
      ((id :: ids).flatMap draft.tree.visitAll).Perm (List.Ico first stop) := by
    intro first id stop kind span scope ids hHolds hFirst hStop hBelow hLater
    rw [List.flatMap_cons, SyntaxTree.visitAll_eq hGrown hHolds.kind?, ico_split hFirst hStop,
      List.cons_append]
    exact ((hBelow.append hLater).cons id).trans List.perm_middle.symm
  induction h with
  | nil => simp
  | use node _ later ih | bind node _ _ later ih =>
      refine hNode node (Nat.le_refl _) later.first_le_stop ?_ ih
      simp [NodeKind.children]
  | node below node later ihBelow ihLater =>
      refine hNode node below.first_le_stop later.first_le_stop ?_ ihLater
      rwa [Shape.children_kind]
  | region outside _ below node later ihOutside ihBelow ihLater =>
      refine hNode node (Nat.le_trans outside.first_le_stop below.first_le_stop)
        later.first_le_stop ?_ ihLater
      rw [Shape.children_kind, List.flatMap_append,
        ← List.Ico.append_consecutive outside.first_le_stop below.first_le_stop]
      exact ihOutside.append ihBelow

/-- The children of all nodes in the stretch of the arena and the nodes of the outlines themselves
are that stretch, each node once. -/
theorem children_perm (h : draft.Renders scope outlines first stop ids) :
    ((List.Ico first stop).flatMap draft.tree.children ++ ids).Perm (List.Ico first stop) := by
  have hNode : ∀ {first id stop : Nat} {kind : NodeKind} {span : Span} {scope : ScopeId}
      {ids : List NodeId}, draft.tree.Holds id kind span scope → first ≤ id → id < stop →
      ((List.Ico first id).flatMap draft.tree.children ++ kind.children).Perm
        (List.Ico first id) →
      ((List.Ico (id + 1) stop).flatMap draft.tree.children ++ ids).Perm
        (List.Ico (id + 1) stop) →
      ((List.Ico first stop).flatMap draft.tree.children ++ id :: ids).Perm
        (List.Ico first stop) := by
    intro first id stop kind span scope ids hHolds hFirst hStop hBelow hLater
    rw [ico_split hFirst hStop, List.flatMap_append, List.flatMap_cons, hHolds.children]
    refine List.perm_middle.trans (List.Perm.trans ?_ List.perm_middle.symm)
    refine List.Perm.cons id ?_
    simpa only [List.append_assoc] using hBelow.append hLater
  induction h with
  | nil => simp
  | use node _ later ih | bind node _ _ later ih =>
      refine hNode node (Nat.le_refl _) later.first_le_stop ?_ ih
      simp [NodeKind.children]
  | node below node later ihBelow ihLater =>
      refine hNode node below.first_le_stop later.first_le_stop ?_ ihLater
      rwa [Shape.children_kind]
  | region outside _ below node later ihOutside ihBelow ihLater =>
      refine hNode node (Nat.le_trans outside.first_le_stop below.first_le_stop)
        later.first_le_stop ?_ ihLater
      rw [Shape.children_kind,
        ← List.Ico.append_consecutive outside.first_le_stop below.first_le_stop,
        List.flatMap_append]
      refine List.Perm.trans ?_ (ihOutside.append ihBelow)
      simp only [List.append_assoc]
      refine List.Perm.append_left _ ?_
      simp only [← List.append_assoc]
      exact List.Perm.append_right _ List.perm_append_comm

end Draft.Renders

namespace Outline

mutual

/-- An outline and all outlines in it, each before its parts. -/
def preorder : Outline → List Outline
  | .use name => [.use name]
  | .bind name place => [.bind name place]
  | .node shape span parts => .node shape span parts :: preorderAll parts
  | .region shape span before kind inside =>
    .region shape span before kind inside :: (preorderAll before ++ preorderAll inside)

/-- The outlines in outlines that stand side by side. -/
def preorderAll : List Outline → List Outline
  | [] => []
  | outline :: rest => outline.preorder ++ preorderAll rest

end

@[simp]
theorem preorderAll_append (before after : List Outline) :
    preorderAll (before ++ after) = preorderAll before ++ preorderAll after := by
  induction before with
  | nil => rfl
  | cons outline before ih => simp [preorderAll, ih]

end Outline

namespace Draft

/-- A node is what an outline becomes in a scope, with everything below it. -/
def RendersAt (draft : Draft) (scope : ScopeId) (outline : Outline) (id : NodeId) : Prop :=
  ∃ first, draft.Renders scope [outline] first (id + 1) [id]

section renderedAt

variable {draft : Draft} {scope : ScopeId} {id : NodeId}

theorem RendersAt.use_inv {name : Name} (h : draft.RendersAt scope (.use name) id) :
    draft.tree.Holds id (.identifier name.text) name.span scope ∧ id ∈ draft.uses := by
  obtain ⟨first, h⟩ := h
  cases h with
  | use node waits _ => exact ⟨node, waits⟩

theorem RendersAt.bind_inv {name : Name} {place : BindingPlace}
    (h : draft.RendersAt scope (.bind name place) id) :
    draft.tree.Holds id (.identifier name.text) name.span scope ∧
      ∃ variableId, draft.scopes.declared? (draft.placeOf place scope) name.text =
        some variableId ∧ id ∈ draft.scopes.references variableId := by
  obtain ⟨first, h⟩ := h
  cases h with
  | bind node declared recorded _ => exact ⟨node, _, declared, recorded⟩

variable {outlines : List Outline} {first stop : Nat} {ids : List NodeId}

/-- Outlines that stand side by side are rendered in one scope. -/
theorem Renders.forall₂ (h : draft.Renders scope outlines first stop ids) :
    List.Forall₂ (draft.RendersAt scope) outlines ids := by
  induction h with
  | nil => exact .nil
  | use node waits _ ih => exact .cons ⟨_, .use node waits .nil⟩ ih
  | bind node declared recorded _ ih => exact .cons ⟨_, .bind node declared recorded .nil⟩ ih
  | node below node _ _ ih => exact .cons ⟨_, .node below node .nil⟩ ih
  | region outside opened below node _ _ _ ih =>
      exact .cons ⟨_, .region outside opened below node .nil⟩ ih

theorem RendersAt.node_inv {shape : Shape} {span : Span} {parts : List Outline}
    (h : draft.RendersAt scope (.node shape span parts) id) :
    ∃ inner, List.Forall₂ (draft.RendersAt scope) parts inner ∧
      draft.tree.Holds id (shape.kind inner) span scope := by
  obtain ⟨first, h⟩ := h
  cases h with
  | node below node _ => exact ⟨_, below.forall₂, node⟩

theorem RendersAt.region_inv {shape : Shape} {span : Span} {before inside : List Outline}
    {kind : ScopeKind} (h : draft.RendersAt scope (.region shape span before kind inside) id) :
    ∃ inner, draft.tree.Holds id (shape.kind inner) span scope := by
  obtain ⟨first, h⟩ := h
  cases h with
  | region _ _ _ node _ => exact ⟨_, node⟩

end renderedAt

/-- A visit meets the outlines in order, one node for each. -/
theorem Renders.forall₂_preorder {draft : Draft} {scope : ScopeId} {outlines : List Outline}
    {first stop : Nat} {ids : List NodeId} (h : draft.Renders scope outlines first stop ids)
    (hGrown : draft.tree.Grown) :
    List.Forall₂ (fun outline id => ∃ scope, draft.RendersAt scope outline id)
      (Outline.preorderAll outlines) (ids.flatMap draft.tree.visitAll) := by
  induction h with
  | nil => exact .nil
  | use node waits _ ih =>
      rw [List.flatMap_cons, SyntaxTree.visitAll_eq hGrown node.kind?, NodeKind.children]
      exact .cons ⟨_, _, .use node waits .nil⟩ ih
  | bind node declared recorded _ ih =>
      rw [List.flatMap_cons, SyntaxTree.visitAll_eq hGrown node.kind?, NodeKind.children]
      exact .cons ⟨_, _, .bind node declared recorded .nil⟩ ih
  | node below node _ ihBelow ihLater =>
      rw [List.flatMap_cons, SyntaxTree.visitAll_eq hGrown node.kind?, Shape.children_kind]
      exact .cons ⟨_, _, .node below node .nil⟩ (List.rel_append ihBelow ihLater)
  | region outside opened below node _ ihOutside ihBelow ihLater =>
      rw [List.flatMap_cons, SyntaxTree.visitAll_eq hGrown node.kind?, Shape.children_kind,
        List.flatMap_append]
      exact .cons ⟨_, _, .region outside opened below node .nil⟩
        (List.rel_append (List.rel_append ihOutside ihBelow) ihLater)

end Draft

namespace SourceUnit.Renders

variable {unit : SourceUnit} {outline : Outline} {root : NodeId} {uses : List NodeId}

/-- A full walk meets every node of the arena once. -/
theorem walkAll_perm (h : unit.Renders outline root uses) :
    unit.tree.walkAll.Perm unit.tree.ids := by
  have hVisit := h.renders.visitAll_perm h.grown.tree
  rw [List.Ico.zero_bot] at hVisit
  simpa [SyntaxTree.walkAll, SyntaxTree.walk, h.rooted, SyntaxTree.visitAll, SyntaxTree.ids,
    drafted] using hVisit

/-- A full walk meets the outlines in order. -/
theorem forall₂_walkAll (h : unit.Renders outline root uses) :
    List.Forall₂ (fun outline id => ∃ scope, (unit.drafted uses).RendersAt scope outline id)
      outline.preorder unit.tree.walkAll := by
  have hVisit := h.renders.forall₂_preorder h.grown.tree
  simpa [SyntaxTree.walkAll, SyntaxTree.walk, h.rooted, SyntaxTree.visitAll, drafted,
    Outline.preorderAll] using hVisit

/-- The attributes that a walk meets are all attributes of the arena, each once. -/
theorem walkedAttributes_perm (h : unit.Renders outline root uses) :
    unit.tree.walkedAttributes.Perm unit.tree.attributes :=
  h.walkAll_perm.filter _

/-- No node is a child of two nodes, or of one node twice. -/
theorem nodup_children (h : unit.Renders outline root uses) :
    ((List.range unit.tree.size).flatMap unit.tree.children).Nodup := by
  have hChildren := h.renders.children_perm
  rw [List.Ico.zero_bot] at hChildren
  exact (hChildren.nodup_iff.mpr List.nodup_range).of_append_left

/-- The parent of a child is the node that lists it. -/
theorem parent?_eq (h : unit.Renders outline root uses) {child parent : NodeId}
    (hMem : child ∈ unit.tree.children parent) : unit.tree.parent? child = some parent := by
  apply SyntaxTree.Grown.parent?_eq_some_of_unique h.grown.tree hMem
  intro other hOther
  exact eq_of_nodup_flatMap h.nodup_children
    (List.mem_range.mpr (SyntaxTree.lt_size_of_mem_children hOther))
    (List.mem_range.mpr (SyntaxTree.lt_size_of_mem_children hMem)) hOther hMem

end SourceUnit.Renders

end PropTrace
