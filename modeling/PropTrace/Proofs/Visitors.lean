import Mathlib.Data.List.Flatten
import PropTrace.Proofs.PostOrder

/-!
Visitors and the nodes they come to. A visitor has a hook for every node and hooks of their own for
elements and attributes; each hook is handed the walk that would follow without it, and may leave it
out. A visitor that acts on every node and goes on acts on all nodes of the arena, each node once,
before its children and these in order. One that stops at some nodes comes to the same nodes in the
same order, except for those that stand somewhere below a node where it stops.
-/
namespace PropTrace

/-- Actions on a list one after another do not depend on what they would be elsewhere. -/
theorem forM_congr_of_mem {σ α : Type} {list : List α} {first second : α → StateM σ Unit}
    (h : ∀ a ∈ list, first a = second a) : forM list first = forM list second := by
  induction list with
  | nil => rfl
  | cons a list ih =>
      obtain ⟨hHead, hTail⟩ := List.forall_mem_cons.mp h
      rw [List.forM_cons, List.forM_cons, hHead, ih hTail]

theorem forM_flatMap {σ α β : Type} (list : List α) (parts : α → List β)
    (act : β → StateM σ Unit) :
    forM (list.flatMap parts) act = forM list fun a => forM (parts a) act := by
  induction list with
  | nil => rfl
  | cons a list ih => rw [List.flatMap_cons, List.forM_append, List.forM_cons, ih]

theorem forM_filterMap {σ α β : Type} (list : List α) (part? : α → Option β)
    (act : β → StateM σ Unit) :
    forM (list.filterMap part?) act = forM list fun a => forM (part? a) act := by
  induction list with
  | nil => rfl
  | cons a list ih =>
      rw [List.forM_cons, ← ih, List.filterMap_cons]
      cases part? a with
      | none => simp
      | some b => simp

namespace SyntaxTree

variable {tree : SyntaxTree} {prunes : NodeKind → Bool} {stops : NodeId → Bool}
  {id top child parent above : NodeId}

/-- The node `above` is the parent of a node, or the parent of that one, and so on. -/
def Above (tree : SyntaxTree) (above id : NodeId) : Prop :=
  Relation.TransGen (fun child parent => tree.parent? child = some parent) id above

/-- From child to child there is a way from `top` to the node that goes on at no stop. -/
def Passes (tree : SyntaxTree) (stops : NodeId → Bool) (top id : NodeId) : Prop :=
  Relation.ReflTransGen
    (fun parent child => child ∈ tree.children parent ∧ stops parent = false) top id

/-- Whether a walk stops at a node because of its kind. -/
def stopsAt (tree : SyntaxTree) (prunes : NodeKind → Bool) (id : NodeId) : Bool :=
  ((tree.kind? id).map prunes).getD false

theorem Passes.descends (h : tree.Passes stops top id) : tree.Descends top id := by
  induction h with
  | refl => exact .refl
  | tail _ hStep ih => exact ih.tail hStep.1

theorem Descends.le (hGrown : tree.Grown) (h : tree.Descends top id) : id ≤ top := by
  induction h with
  | refl => exact Nat.le_refl _
  | tail _ hChild ih => exact (Nat.le_of_lt (hGrown.mem_children_lt hChild)).trans ih

/-- A full visit comes to all that the full visit of a node below comes to, in the same order. -/
theorem visitAll_sublist (hGrown : tree.Grown) (h : tree.Descends top id) :
    (tree.visitAll id).Sublist (tree.visitAll top) := by
  induction h with
  | refl => exact List.Sublist.refl _
  | @tail parent child _ hChild ih =>
      obtain ⟨kind, hKind⟩ := exists_kind? (lt_size_of_mem_children hChild)
      rw [children, hKind] at hChild
      apply List.Sublist.trans _ ih
      rw [visitAll_eq hGrown hKind]
      have hOne := (List.singleton_sublist.mpr hChild).flatMap tree.visitAll
      rw [List.flatMap_singleton] at hOne
      exact hOne.cons parent

theorem mem_visitAll (hGrown : tree.Grown) (hTop : top < tree.size) (h : tree.Descends top id) :
    id ∈ tree.visitAll top := by
  obtain ⟨kind, hKind⟩ := exists_kind? (h.le hGrown |>.trans_lt hTop)
  apply (visitAll_sublist hGrown h).subset
  rw [visitAll_eq hGrown hKind]
  exact List.mem_cons_self

/-- A full visit lists a node, and its children in order somewhere behind it. -/
theorem cons_children_sublist_visitAll (hGrown : tree.Grown) {kind : NodeKind}
    (hKind : tree.kind? id = some kind) : (id :: kind.children).Sublist (tree.visitAll id) := by
  rw [visitAll_eq hGrown hKind]
  apply List.Sublist.cons_cons
  have hEach : (kind.children.flatMap fun child => [child]).Sublist
      (kind.children.flatMap tree.visitAll) := by
    apply List.Sublist.flatMap_right
    intro child hChild
    have hSize := (hGrown.child_lt hKind hChild).trans (kind?_lt hKind)
    exact List.singleton_sublist.mpr (mem_visitAll hGrown hSize .refl)
  rwa [List.flatMap_singleton'] at hEach

open scoped Classical in
/-- The part of a full visit that is reached past the stops unfolds as a walk that stops there. -/
theorem filter_passes_visitAll (hGrown : tree.Grown) {kind : NodeKind}
    (hKind : tree.kind? top = some kind) (hNodup : (tree.visitAll top).Nodup)
    (stops : NodeId → Bool) :
    (tree.visitAll top).filter (fun id => tree.Passes stops top id) =
      top :: if stops top then [] else kind.children.flatMap fun child =>
        (tree.visitAll child).filter fun id => tree.Passes stops child id := by
  have hChildren : tree.children top = kind.children := by simp [children, hKind]
  rw [visitAll_eq hGrown hKind] at hNodup ⊢
  obtain ⟨hTop, hApart⟩ := List.nodup_cons.mp hNodup
  have hSelf : decide (tree.Passes stops top top) = true := decide_eq_true .refl
  rw [List.filter_cons, if_pos hSelf]
  congr 1
  split
  · next hStop =>
      rw [List.filter_eq_nil_iff]
      intro id hMem hPasses
      rcases Relation.ReflTransGen.cases_head (of_decide_eq_true hPasses) with
        rfl | ⟨child, ⟨-, hOpen⟩, -⟩
      · exact hTop hMem
      · rw [hStop] at hOpen
        cases hOpen
  · next hOpen =>
      rw [List.filter_flatMap]
      apply List.flatMap_congr
      intro child hChild
      apply List.filter_congr
      intro id hMem
      rw [decide_eq_decide]
      constructor
      · intro hPasses
        rcases Relation.ReflTransGen.cases_head hPasses with rfl | ⟨other, ⟨hOther, -⟩, hRest⟩
        · exact absurd (List.mem_flatMap.mpr ⟨child, hChild, hMem⟩) hTop
        · rw [hChildren] at hOther
          have hSize := (hGrown.child_lt hKind hOther).trans (kind?_lt hKind)
          have hAlso := mem_visitAll hGrown hSize (Passes.descends hRest)
          rwa [eq_of_nodup_flatMap hApart hOther hChild hAlso hMem] at hRest
      · intro hPasses
        exact .head ⟨hChildren ▸ hChild, Bool.eq_false_of_not_eq_true hOpen⟩ hPasses

theorem nodup_visitAll_child (hGrown : tree.Grown) {kind : NodeKind}
    (hKind : tree.kind? parent = some kind) (hNodup : (tree.visitAll parent).Nodup)
    (hChild : child ∈ kind.children) : (tree.visitAll child).Nodup := by
  have hMem : child ∈ tree.children parent := by simpa [children, hKind] using hChild
  exact (visitAll_sublist hGrown (.single hMem)).nodup hNodup

open scoped Classical in
/-- A walk that stops at some kinds comes to the nodes it can reach past the stops. -/
theorem visit_eq_filter (hGrown : tree.Grown) (hNodup : (tree.visitAll id).Nodup) :
    tree.visit prunes id =
      (tree.visitAll id).filter fun other => tree.Passes (tree.stopsAt prunes) id other := by
  induction id using Nat.strong_induction_on with
  | _ id ih =>
      cases hKind : tree.kind? id with
      | none => simp [visitAll, visit, visitWithin, hKind]
      | some kind =>
          have hStop : tree.stopsAt prunes id = prunes kind := by simp [stopsAt, hKind]
          rw [visit_eq hGrown hKind, filter_passes_visitAll hGrown hKind hNodup, hStop]
          congr 2
          apply List.flatMap_congr
          intro child hChild
          exact ih child (hGrown.child_lt hKind hChild)
            (nodup_visitAll_child hGrown hKind hNodup hChild)

end SyntaxTree

/-- What to do on a walk. A hook is handed what the walk does at the node without it: the hook of
every node the walk that its kind asks for, the other two the walk of the children. -/
structure Visitor (σ : Type) where
  atNode : NodeId → StateM σ Unit → StateM σ Unit := fun _ walkNode => walkNode
  atElement : NodeId → StateM σ Unit → StateM σ Unit := fun _ walkChildren => walkChildren
  atAttribute : NodeId → StateM σ Unit → StateM σ Unit := fun _ walkChildren => walkChildren

namespace Visitor

variable {σ : Type}

/-- The walk that the kind of a node asks for. -/
def walkNode (visitor : Visitor σ) (id : NodeId) (kind : NodeKind) (walkChildren : StateM σ Unit) :
    StateM σ Unit :=
  match kind with
  | .jsxElement .. => visitor.atElement id walkChildren
  | .jsxAttribute .. => visitor.atAttribute id walkChildren
  | _ => walkChildren

/-- The walk from a node on, down to `depth` nested nodes. -/
def visitWithin (visitor : Visitor σ) (tree : SyntaxTree) : Nat → NodeId → StateM σ Unit
  | 0, _ => pure ()
  | depth + 1, id =>
    match tree.kind? id with
    | none => pure ()
    | some kind =>
      visitor.atNode id (visitor.walkNode id kind
        (forM kind.children (visitor.visitWithin tree depth)))

def visit (visitor : Visitor σ) (tree : SyntaxTree) (id : NodeId) : StateM σ Unit :=
  visitor.visitWithin tree (id + 1) id

/-- The walk from the root on. -/
def walk (visitor : Visitor σ) (tree : SyntaxTree) : StateM σ Unit :=
  match tree.root with
  | some root => visitor.visit tree root
  | none => pure ()

/-- Acts on every node and goes on with the walk. -/
def onNodes (act : NodeId → StateM σ Unit) : Visitor σ where
  atNode := fun id walkNode => do
    act id
    walkNode

/-- Acts on the events of elements and attributes, and goes on with the walk unless it stops there. -/
def onEvents (tree : SyntaxTree) (stops : NodeId → Bool) (act : WalkEvent → StateM σ Unit) :
    Visitor σ where
  atElement := fun id walkChildren => do
    forM (tree.event? id) act
    unless stops id do walkChildren
  atAttribute := fun id walkChildren => do
    forM (tree.event? id) act
    unless stops id do walkChildren

/-- At every node of the tree the visitor acts, and then goes on below unless it stops there. -/
def Acts (visitor : Visitor σ) (tree : SyntaxTree) (act : NodeId → StateM σ Unit)
    (stops : NodeId → Bool) : Prop :=
  ∀ id kind, tree.kind? id = some kind → ∀ walkChildren,
    visitor.atNode id (visitor.walkNode id kind walkChildren) = do
      act id
      if stops id then pure () else walkChildren

variable {visitor : Visitor σ} {tree : SyntaxTree} {act : NodeId → StateM σ Unit}
  {stops : NodeId → Bool}

/-- Children are older than their parents, so more depth than the identifier changes nothing. -/
theorem visitWithin_eq_visit (hGrown : tree.Grown) {depth : Nat} {id : NodeId} (h : id < depth) :
    visitor.visitWithin tree depth id = visitor.visit tree id := by
  apply SyntaxTree.eq_of_lt_depth _ h (Nat.lt_succ_self id)
  intro depth other id hBelow
  cases hKind : tree.kind? id with
  | none => simp [visitWithin, hKind]
  | some kind =>
      simp only [visitWithin, hKind]
      congr 2
      apply forM_congr_of_mem
      intro child hChild
      exact hBelow child (hGrown.child_lt hKind hChild)

/-- The hooks call each other without a bound: the hook of a node, around the hook of its kind,
around the visits of the children. -/
theorem visit_eq (hGrown : tree.Grown) {id : NodeId} {kind : NodeKind}
    (hKind : tree.kind? id = some kind) :
    visitor.visit tree id =
      visitor.atNode id (visitor.walkNode id kind (forM kind.children (visitor.visit tree))) := by
  rw [visit, visitWithin, hKind]
  simp only
  congr 2
  apply forM_congr_of_mem
  intro child hChild
  exact visitWithin_eq_visit hGrown (hGrown.child_lt hKind hChild)

open scoped Classical in
/-- A visitor that acts at every node acts on the nodes it can reach past its stops, in their order. -/
theorem Acts.visit_eq (h : visitor.Acts tree act stops) (hGrown : tree.Grown) {id : NodeId}
    (hNodup : (tree.visitAll id).Nodup) :
    visitor.visit tree id =
      forM ((tree.visitAll id).filter fun other => tree.Passes stops id other) act := by
  induction id using Nat.strong_induction_on with
  | _ id ih =>
      cases hKind : tree.kind? id with
      | none =>
          simp [visit, visitWithin, SyntaxTree.visitAll, SyntaxTree.visit, SyntaxTree.visitWithin,
            hKind]
      | some kind =>
          rw [Visitor.visit_eq hGrown hKind, h id kind hKind,
            SyntaxTree.filter_passes_visitAll hGrown hKind hNodup, List.forM_cons]
          congr 1
          funext _
          split
          · rfl
          · rw [forM_flatMap]
            apply forM_congr_of_mem
            intro child hChild
            exact ih child (hGrown.child_lt hKind hChild)
              (SyntaxTree.nodup_visitAll_child hGrown hKind hNodup hChild)

theorem onNodes_acts (tree : SyntaxTree) (act : NodeId → StateM σ Unit) :
    (onNodes act).Acts tree act fun _ => false := by
  intro id kind _ walkChildren
  cases kind <;> rfl

theorem onEvents_acts (tree : SyntaxTree) (stops : NodeId → Bool)
    (act : WalkEvent → StateM σ Unit) :
    (onEvents tree stops act).Acts tree (fun id => forM (tree.event? id) act) fun id =>
      (tree.event? id).isSome && stops id := by
  intro id kind hKind walkChildren
  cases kind with
  | jsxElement opening children =>
      cases hStop : stops id <;> simp [onEvents, walkNode, SyntaxTree.event?, hKind, hStop]
  | jsxAttribute name value =>
      cases hStop : stops id <;> simp [onEvents, walkNode, SyntaxTree.event?, hKind, hStop]
  | _ => simp [onEvents, walkNode, SyntaxTree.event?, hKind]

end Visitor

/-- The node that an event is about. -/
def WalkEvent.node : WalkEvent → NodeId
  | .element id => id
  | .attribute id _ => id

theorem SyntaxTree.node_of_event? {tree : SyntaxTree} {id : NodeId} {event : WalkEvent}
    (h : tree.event? id = some event) : event.node = id := by
  rw [SyntaxTree.event?] at h
  split at h <;> cases h <;> rfl

namespace SourceUnit.Renders

open SyntaxTree

variable {unit : SourceUnit} {outline : Outline} {root : NodeId} {uses : List NodeId}
  {prunes : NodeKind → Bool} {stops : NodeId → Bool} {id child parent above : NodeId}

theorem not_above_root (h : unit.Renders outline root uses) : ¬unit.tree.Above above root := by
  intro hAbove
  obtain ⟨parent, hParent, -⟩ := Relation.TransGen.head'_iff.mp hAbove
  exact h.root_not_mem_children parent (h.grown.tree.parent?_eq_some_iff.mp hParent).1

/-- Above a child stand the node that lists it and what stands above that one. -/
theorem above_iff (h : unit.Renders outline root uses) (hChild : child ∈ unit.tree.children parent) :
    unit.tree.Above above child ↔ above = parent ∨ unit.tree.Above above parent := by
  have hParent := h.parent?_eq hChild
  rw [Above, Relation.TransGen.head'_iff]
  constructor
  · rintro ⟨lister, hLister, hRest⟩
    rw [hParent] at hLister
    cases hLister
    exact Relation.reflTransGen_iff_eq_or_transGen.mp hRest
  · intro hAbove
    exact ⟨parent, hParent, Relation.reflTransGen_iff_eq_or_transGen.mpr hAbove⟩

/-- There is a way from the root to a node past the stops if none of them stands above it. -/
theorem passes_iff (h : unit.Renders outline root uses) (hId : id < unit.tree.size) :
    unit.tree.Passes stops root id ↔
      ∀ above, unit.tree.Above above id → stops above = false := by
  constructor
  · intro hPasses
    induction hPasses with
    | refl =>
        intro above hAbove
        exact absurd hAbove h.not_above_root
    | @tail parent child _ hStep ih =>
        intro above hAbove
        rcases (h.above_iff hStep.1).mp hAbove with rfl | hFurther
        · exact hStep.2
        · exact ih (lt_size_of_mem_children hStep.1) above hFurther
  · intro hOpen
    have hDescends := h.descends hId
    induction hDescends with
    | refl => exact .refl
    | @tail parent child _ hChild ih =>
        have hPasses := ih (lt_size_of_mem_children hChild) fun above hFurther =>
          hOpen above ((h.above_iff hChild).mpr (.inr hFurther))
        exact hPasses.tail ⟨hChild, hOpen parent ((h.above_iff hChild).mpr (.inl rfl))⟩

theorem walkAll_eq (h : unit.Renders outline root uses) :
    unit.tree.walkAll = unit.tree.visitAll root := by
  rw [walkAll, walk, h.rooted]
  rfl

theorem nodup_visitAll (h : unit.Renders outline root uses) : (unit.tree.visitAll root).Nodup := by
  rw [← h.walkAll_eq]
  exact h.walkAll_perm.nodup_iff.mpr List.nodup_range

theorem cons_children_sublist_walkAll (h : unit.Renders outline root uses)
    (hParent : parent < unit.tree.size) :
    (parent :: unit.tree.children parent).Sublist unit.tree.walkAll := by
  have hGrown : unit.tree.Grown := h.grown.tree
  obtain ⟨kind, hKind⟩ := exists_kind? hParent
  have hHere := cons_children_sublist_visitAll hGrown hKind
  rw [h.walkAll_eq, SyntaxTree.children, hKind]
  exact hHere.trans (visitAll_sublist hGrown (h.descends hParent))

open scoped Classical in
/-- From the root, the nodes past the stops are those with no stop above them. -/
theorem filter_passes (h : unit.Renders outline root uses) (stops : NodeId → Bool) :
    (unit.tree.visitAll root).filter (fun id => unit.tree.Passes stops root id) =
      unit.tree.walkAll.filter fun id =>
        ∀ above, unit.tree.Above above id → stops above = false := by
  rw [h.walkAll_eq]
  apply List.filter_congr
  intro id hMem
  rw [← h.walkAll_eq] at hMem
  rw [decide_eq_decide]
  exact h.passes_iff (List.mem_range.mp (h.walkAll_perm.subset hMem))

open scoped Classical in
/-- A walk that stops at some kinds is the full walk without what stands below nodes of them. -/
theorem walk_eq_filter (h : unit.Renders outline root uses) :
    unit.tree.walk prunes = unit.tree.walkAll.filter fun id =>
      ∀ above, unit.tree.Above above id → unit.tree.stopsAt prunes above = false := by
  rw [← h.filter_passes, walk, h.rooted]
  exact visit_eq_filter h.grown.tree h.nodup_visitAll

open scoped Classical in
/-- A visitor that acts at every node acts on the full walk without what stands below its stops. -/
theorem visitor_walk_eq (h : unit.Renders outline root uses) {σ : Type} {visitor : Visitor σ}
    {act : NodeId → StateM σ Unit} (hActs : visitor.Acts unit.tree act stops) :
    visitor.walk unit.tree = forM (unit.tree.walkAll.filter fun id =>
      ∀ above, unit.tree.Above above id → stops above = false) act := by
  rw [← h.filter_passes, Visitor.walk, h.rooted]
  exact hActs.visit_eq h.grown.tree h.nodup_visitAll

end SourceUnit.Renders

open scoped Classical in
/-- The events of the nodes that pass a test are the events whose node passes it. -/
theorem SyntaxTree.filterMap_event?_filter (tree : SyntaxTree) (ids : List NodeId)
    (test : NodeId → Prop) :
    (ids.filter (fun id => test id)).filterMap tree.event? =
      (ids.filterMap tree.event?).filter fun event => test event.node := by
  rw [List.filterMap_filter, List.filter_filterMap]
  congr 1
  funext id
  cases hEvent : tree.event? id with
  | none => simp
  | some event => simp only [Option.filter_some, SyntaxTree.node_of_event? hEvent]

open scoped Classical in
/-- Walks over the tree of a program, with and without stopping. A visitor that acts on every node
and goes on acts on the nodes of the full walk, one after another. That walk comes to every node of
the arena once, to a node before its children, and to these in order. A visitor that acts on elements
and attributes, and may stop at any of them, acts on the events of the full walk, in its order,
except for those whose node has one above it where the visitor stops. Stopping at all elements, at
all attributes or at both is a case of this. -/
theorem Program.visitors_walk_in_order (program : Program) (file source : String) :
    let tree := (program.toUnit file source).tree
    (∀ (σ : Type) (act : NodeId → StateM σ Unit),
      (Visitor.onNodes act).walk tree = forM tree.walkAll act) ∧
    tree.walkAll.Perm (List.range tree.size) ∧
    (∀ parent < tree.size, (parent :: tree.children parent).Sublist tree.walkAll) ∧
    tree.events false false = tree.walkAll.filterMap tree.event? ∧
    (∀ (σ : Type) (stops : NodeId → Bool) (act : WalkEvent → StateM σ Unit),
      (Visitor.onEvents tree stops act).walk tree =
        forM ((tree.events false false).filter fun event => ∀ above,
          tree.Above above event.node → (tree.event? above).isSome → stops above = false) act) ∧
    ∀ pruneElements pruneAttributes,
      tree.events pruneElements pruneAttributes =
        (tree.events false false).filter fun event => ∀ above,
          tree.Above above event.node → tree.stopsAt (fun kind =>
            pruneElements && kind.isElement || pruneAttributes && kind.isAttribute) above = false := by
  intro tree
  obtain ⟨root, uses, h⟩ := program.renders_toUnit file source
  refine ⟨?_, h.walkAll_perm, fun parent => h.cons_children_sublist_walkAll, rfl, ?_, ?_⟩
  · intro σ act
    have hWalk := h.visitor_walk_eq (Visitor.onNodes_acts tree act)
    simpa using hWalk
  · intro σ stops act
    rw [h.visitor_walk_eq (Visitor.onEvents_acts tree stops act), ← forM_filterMap,
      SyntaxTree.filterMap_event?_filter]
    simp only [Bool.and_eq_false_imp]
    rfl
  · intro pruneElements pruneAttributes
    rw [SyntaxTree.events, h.walk_eq_filter]
    exact tree.filterMap_event?_filter _ _

end PropTrace
