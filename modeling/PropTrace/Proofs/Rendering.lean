import PropTrace.Outline.Build
import PropTrace.Proofs.Arena
import PropTrace.Proofs.Scopes

/-!
What building an outline leaves in a draft. The nodes of an outline stand side by side in the arena,
every node right after its parts; each one keeps its kind, span and scope whatever is built later.
A use is on the list of those that wait, and a binding is on record for the variable it declares.
-/
namespace PropTrace

@[simp]
theorem Shape.children_kind (shape : Shape) (ids : List NodeId) :
    (shape.kind ids).children = ids := by
  unfold Shape.kind
  split <;> simp [NodeKind.children]

namespace Draft

/-- Drafts put together from the operations on arenas and scope trees. -/
structure Grown (draft : Draft) : Prop where
  tree : draft.tree.Grown
  scopes : draft.scopes.Grown

/-- Nothing that stands in a draft is changed: places hold what they held, scopes and variables keep
what is on record, and uses keep waiting. -/
structure Extends (before after : Draft) : Prop where
  holds : ∀ {id : NodeId} {kind : NodeKind} {span : Span} {scope : ScopeId},
    before.tree.Holds id kind span scope → after.tree.Holds id kind span scope
  scopes : before.scopes.Extends after.scopes
  uses : before.uses ⊆ after.uses

variable {draft before middle after : Draft} {scope : ScopeId}

namespace Extends

theorem refl (draft : Draft) : Extends draft draft :=
  ⟨id, .refl _, List.Subset.refl _⟩

theorem trans (first : Extends before middle) (second : Extends middle after) :
    Extends before after where
  holds h := second.holds (first.holds h)
  scopes := first.scopes.trans second.scopes
  uses := List.Subset.trans first.uses second.uses

theorem placeOf (h : Extends before after) (hGrown : before.Grown) (place : BindingPlace)
    (hScope : scope < before.scopes.scopes.size) :
    after.placeOf place scope = before.placeOf place scope := by
  cases place with
  | here => rfl
  | hoisted => exact h.scopes.hoistTarget hGrown.scopes hScope

end Extends

theorem Grown.placeOf_lt (h : draft.Grown) (place : BindingPlace)
    (hScope : scope < draft.scopes.scopes.size) :
    draft.placeOf place scope < draft.scopes.scopes.size := by
  cases place with
  | here => exact hScope
  | hoisted => exact Nat.lt_of_le_of_lt (h.scopes.hoistTarget_le scope) hScope

section steps

variable (draft)

theorem extends_push (kind : NodeKind) (span : Span) (scope : ScopeId) :
    draft.Extends (draft.push kind span scope).2 :=
  ⟨fun h => h.push kind span scope, .refl _, List.Subset.refl _⟩

theorem extends_use (name : Name) (scope : ScopeId) : draft.Extends (draft.use name scope).2 :=
  ⟨fun h => h.push _ _ _, .refl _, List.subset_append_left _ _⟩

theorem extends_bind (name : Name) (target scope : ScopeId) :
    draft.Extends (draft.bind name target scope).2 where
  holds h := h.push _ _ _
  scopes := (draft.scopes.extends_declare target name.text).trans
    (ScopeTree.extends_addReference _ _ _)
  uses := List.Subset.refl _

/-- A scope opened in a draft. -/
def openScope (kind : ScopeKind) (parent : ScopeId) : Draft :=
  { draft with scopes := (draft.scopes.createScope kind parent).2 }

theorem extends_openScope (kind : ScopeKind) (parent : ScopeId) :
    draft.Extends (draft.openScope kind parent) :=
  ⟨id, draft.scopes.extends_createScope kind parent, List.Subset.refl _⟩

theorem getElem?_openScope (kind : ScopeKind) (parent : ScopeId) :
    (draft.openScope kind parent).scopes.scopes[draft.scopes.scopes.size]? =
      some { kind, parent := some parent, names := [] } := by
  simp [openScope, ScopeTree.createScope]

theorem size_lt_openScope (kind : ScopeKind) (parent : ScopeId) :
    draft.scopes.scopes.size < (draft.openScope kind parent).scopes.scopes.size :=
  (Array.getElem?_eq_some_iff.mp (draft.getElem?_openScope kind parent)).1

variable {draft}

theorem Grown.push (h : draft.Grown) (kind : NodeKind) (span : Span) (scope : ScopeId)
    (older : ∀ child ∈ kind.children, child < draft.tree.size) :
    (draft.push kind span scope).2.Grown :=
  ⟨h.tree.push kind span scope older, h.scopes⟩

theorem Grown.use (h : draft.Grown) (name : Name) (scope : ScopeId) :
    (draft.use name scope).2.Grown :=
  ⟨h.tree.push _ _ _ (by simp [NodeKind.children]), h.scopes⟩

theorem Grown.bind (h : draft.Grown) (name : Name) {target : ScopeId} (scope : ScopeId)
    (hTarget : target < draft.scopes.scopes.size) : (draft.bind name target scope).2.Grown where
  tree := h.tree.push _ _ _ (by simp [NodeKind.children])
  scopes := by
    have hVariable := ScopeTree.declare_fst_lt target name.text fun id hDeclared =>
      h.scopes.declared?_lt hDeclared
    exact (h.scopes.declare target name.text hTarget).addReference _ _ hVariable

theorem Grown.openScope (h : draft.Grown) (kind : ScopeKind) {parent : ScopeId}
    (hParent : parent < draft.scopes.scopes.size) : (draft.openScope kind parent).Grown :=
  ⟨h.tree, h.scopes.createScope kind parent hParent⟩

/-- A binding declares its name in the target scope and is on record for the variable. -/
theorem bind_records (h : draft.Grown) (name : Name) {target : ScopeId} (scope : ScopeId)
    (hTarget : target < draft.scopes.scopes.size) :
    ∃ variableId, (draft.bind name target scope).2.scopes.declared? target name.text =
        some variableId ∧
      draft.tree.size ∈ (draft.bind name target scope).2.scopes.references variableId := by
  have hVariable := ScopeTree.declare_fst_lt target name.text fun id hDeclared =>
      h.scopes.declared?_lt hDeclared
  refine ⟨(draft.scopes.declare target name.text).1, ?_, ?_⟩
  · exact (ScopeTree.extends_addReference _ _ _).declared?
      (ScopeTree.declared?_declare_self hTarget name.text)
  · exact ScopeTree.mem_references_addReference hVariable _

end steps

/-- The nodes from `first` up to `stop` are what building the outlines in a scope leaves, and `ids`
are the nodes of the outlines themselves. -/
inductive Renders (draft : Draft) :
    ScopeId → List Outline → Nat → Nat → List NodeId → Prop where
  | nil {scope : ScopeId} {first : Nat} : Renders draft scope [] first first []
  | use {scope : ScopeId} {name : Name} {rest : List Outline} {first stop : Nat}
      {ids : List NodeId}
      (node : draft.tree.Holds first (.identifier name.text) name.span scope)
      (waits : first ∈ draft.uses)
      (later : Renders draft scope rest (first + 1) stop ids) :
      Renders draft scope (.use name :: rest) first stop (first :: ids)
  | bind {scope : ScopeId} {name : Name} {place : BindingPlace} {rest : List Outline}
      {first stop : Nat} {ids : List NodeId} {variableId : VariableId}
      (node : draft.tree.Holds first (.identifier name.text) name.span scope)
      (declared : draft.scopes.declared? (draft.placeOf place scope) name.text = some variableId)
      (recorded : first ∈ draft.scopes.references variableId)
      (later : Renders draft scope rest (first + 1) stop ids) :
      Renders draft scope (.bind name place :: rest) first stop (first :: ids)
  | node {scope : ScopeId} {shape : Shape} {span : Span} {parts rest : List Outline}
      {first id stop : Nat} {inner ids : List NodeId}
      (below : Renders draft scope parts first id inner)
      (node : draft.tree.Holds id (shape.kind inner) span scope)
      (later : Renders draft scope rest (id + 1) stop ids) :
      Renders draft scope (.node shape span parts :: rest) first stop (id :: ids)
  | region {scope inside : ScopeId} {shape : Shape} {span : Span} {kind : ScopeKind}
      {outsideParts insideParts rest : List Outline} {first middle id stop : Nat}
      {outer inner ids : List NodeId} {names : List (String × VariableId)}
      (outside : Renders draft scope outsideParts first middle outer)
      (opened : draft.scopes.scopes[inside]? = some { kind, parent := some scope, names })
      (below : Renders draft inside insideParts middle id inner)
      (node : draft.tree.Holds id (shape.kind (outer ++ inner)) span scope)
      (later : Renders draft scope rest (id + 1) stop ids) :
      Renders draft scope (.region shape span outsideParts kind insideParts :: rest) first stop
        (id :: ids)

namespace Renders

variable {outlines : List Outline} {first stop : Nat} {ids : List NodeId}

theorem first_le_stop (h : draft.Renders scope outlines first stop ids) : first ≤ stop := by
  induction h with
  | nil => exact Nat.le_refl _
  | use _ _ _ ih => omega
  | bind _ _ _ _ ih => omega
  | node _ _ _ ihBelow ihLater => omega
  | region _ _ _ _ _ ihOutside ihBelow ihLater => omega

/-- The nodes of the outlines lie in the part of the arena they were built in. -/
theorem mem_bounds (h : draft.Renders scope outlines first stop ids) :
    ∀ id ∈ ids, first ≤ id ∧ id < stop := by
  induction h with
  | nil => simp
  | use _ _ hLater ih =>
      have hLe := hLater.first_le_stop
      grind
  | bind _ _ _ hLater ih =>
      have hLe := hLater.first_le_stop
      grind
  | node hBelow _ hLater _ ih =>
      have hLeBelow := hBelow.first_le_stop
      have hLe := hLater.first_le_stop
      grind
  | region hOutside _ hBelow _ hLater _ _ ih =>
      have hLeOutside := hOutside.first_le_stop
      have hLeBelow := hBelow.first_le_stop
      have hLe := hLater.first_le_stop
      grind

/-- What was built stays as it is whatever is built later. -/
theorem extend (h : before.Renders scope outlines first stop ids) (hGrown : before.Grown)
    (hExtends : before.Extends after) (hScope : scope < before.scopes.scopes.size) :
    after.Renders scope outlines first stop ids := by
  induction h with
  | nil => exact .nil
  | use hNode hWaits _ ih =>
      exact .use (hExtends.holds hNode) (hExtends.uses hWaits) (ih hScope)
  | @bind scope name place _ _ _ _ variableId hNode hDeclared hRecorded _ ih =>
      refine .bind (hExtends.holds hNode) ?_ (hExtends.scopes.references variableId hRecorded)
        (ih hScope)
      rw [hExtends.placeOf hGrown place hScope]
      exact hExtends.scopes.declared? hDeclared
  | node _ hNode _ ihBelow ihLater =>
      exact .node (ihBelow hScope) (hExtends.holds hNode) (ihLater hScope)
  | region _ hOpened _ hNode _ ihOutside ihBelow ihLater =>
      obtain ⟨names, hAfter, -⟩ := hExtends.scopes.scope _ _ hOpened
      have hInside := (Array.getElem?_eq_some_iff.mp hOpened).1
      exact .region (ihOutside hScope) hAfter (ihBelow hInside) (hExtends.holds hNode)
        (ihLater hScope)

end Renders

end Draft

end PropTrace
