import PropTrace.Proofs.Declarations
import PropTrace.Proofs.Shadowing

/-!
Scope discipline. Lowering can carry the scope that the next node stands in along with the draft: it
goes into a scope where a region opens and comes back where the region ends. Whatever is lowered,
the scope is the same afterwards, so what follows does not depend on what was opened before. In the
finished unit no node stands in a scope outside of that of its parent, and every name that is
introduced is on record in the scope that its introduction asks for.
-/
namespace PropTrace

/-- A draft and the scope that the next node stands in. -/
structure Cursor where
  draft : Draft
  scope : ScopeId

namespace Cursor

def push (cursor : Cursor) (kind : NodeKind) (span : Span) : NodeId × Cursor :=
  let (id, draft) := cursor.draft.push kind span cursor.scope
  (id, { cursor with draft })

def use (cursor : Cursor) (name : Name) : NodeId × Cursor :=
  let (id, draft) := cursor.draft.use name cursor.scope
  (id, { cursor with draft })

def bind (cursor : Cursor) (name : Name) (target : ScopeId) : NodeId × Cursor :=
  let (id, draft) := cursor.draft.bind name target cursor.scope
  (id, { cursor with draft })

/-- Opens a scope and goes into it. The answer is the scope to come back to. -/
def enter (cursor : Cursor) (kind : ScopeKind) : ScopeId × Cursor :=
  let (opened, scopes) := cursor.draft.scopes.createScope kind cursor.scope
  (cursor.scope, { draft := { cursor.draft with scopes }, scope := opened })

def leave (cursor : Cursor) (outer : ScopeId) : Cursor := { cursor with scope := outer }

end Cursor

namespace Outline

mutual

/-- Lowers an outline in the scope of a cursor. -/
def lower : Outline → Cursor → NodeId × Cursor
  | .use name, cursor => cursor.use name
  | .bind name place, cursor => cursor.bind name (cursor.draft.placeOf place cursor.scope)
  | .node shape span parts, cursor =>
    let (ids, cursor) := lowerAll parts cursor
    cursor.push (shape.kind ids) span
  | .region shape span before kind inside, cursor =>
    let (outer, cursor) := lowerAll before cursor
    let (outside, cursor) := cursor.enter kind
    let (inner, cursor) := lowerAll inside cursor
    (cursor.leave outside).push (shape.kind (outer ++ inner)) span

/-- Lowers outlines one after another. -/
def lowerAll : List Outline → Cursor → List NodeId × Cursor
  | [], cursor => ([], cursor)
  | outline :: rest, cursor =>
    let (id, cursor) := lower outline cursor
    let (ids, cursor) := lowerAll rest cursor
    (id :: ids, cursor)

end

/-- Lowering leaves the draft that building in the scope of the cursor leaves, and the cursor comes
back to its scope. -/
theorem lowerAll_eq (outlines : List Outline) (cursor : Cursor) :
    lowerAll outlines cursor = ((buildAll outlines cursor.scope cursor.draft).1,
      { draft := (buildAll outlines cursor.scope cursor.draft).2, scope := cursor.scope }) := by
  induction outlines using forest_induction generalizing cursor with
  | nil => rfl
  | use name rest ih =>
      change (_ :: (lowerAll rest _).1, (lowerAll rest _).2) = _
      rw [ih]
      rfl
  | bind name place rest ih =>
      change (_ :: (lowerAll rest _).1, (lowerAll rest _).2) = _
      rw [ih]
      rfl
  | node shape span parts rest ihParts ihRest =>
      rw [lowerAll, lower, ihParts]
      change (_ :: (lowerAll rest _).1, (lowerAll rest _).2) = _
      rw [ihRest]
      rfl
  | region shape span before kind inside rest ihBefore ihInside ihRest =>
      simp only [lowerAll, lower, ihBefore, Cursor.enter, ihInside, Cursor.leave, ihRest]
      rfl

end Outline

/-- The scope that a node stands in. -/
def SyntaxTree.scopeOf? (tree : SyntaxTree) (id : NodeId) : Option ScopeId :=
  (tree.node? id).map Node.scope

theorem SyntaxTree.Holds.scopeOf? {tree : SyntaxTree} {id : NodeId} {kind : NodeKind} {span : Span}
    {scope : ScopeId} (h : tree.Holds id kind span scope) : tree.scopeOf? id = some scope := by
  obtain ⟨parent, hNode⟩ := h
  rw [SyntaxTree.scopeOf?, hNode]
  rfl

namespace Draft

section nesting

variable {draft : Draft} {scope : ScopeId} {outline : Outline} {id child : NodeId}

theorem RendersAt.scopeOf? (h : draft.RendersAt scope outline id) :
    draft.tree.scopeOf? id = some scope := by
  obtain ⟨first, h⟩ := h
  cases h with
  | use node | bind node => exact node.scopeOf?
  | node _ node | region _ _ _ node => exact node.scopeOf?

/-- A child is rendered in the scope of its parent or in a scope inside of it. -/
theorem RendersAt.encloses_child (h : draft.RendersAt scope outline id)
    (hChild : child ∈ draft.tree.children id) :
    ∃ inner, draft.tree.scopeOf? child = some inner ∧ draft.scopes.Encloses scope inner := by
  obtain ⟨first, h⟩ := h
  cases h with
  | use node | bind node => simp [node.children, NodeKind.children] at hChild
  | node below node =>
      rw [node.children, Shape.children_kind] at hChild
      obtain ⟨part, -, hPart⟩ := exists_of_forall₂ below.forall₂.flip hChild
      exact ⟨scope, RendersAt.scopeOf? hPart, .refl⟩
  | @region _ inside _ _ _ _ _ _ _ _ _ _ _ _ _ _ outside opened below node =>
      rw [node.children, Shape.children_kind] at hChild
      rcases List.mem_append.mp hChild with hOuter | hInner
      · obtain ⟨part, -, hPart⟩ := exists_of_forall₂ outside.forall₂.flip hOuter
        exact ⟨scope, RendersAt.scopeOf? hPart, .refl⟩
      · obtain ⟨part, -, hPart⟩ := exists_of_forall₂ below.forall₂.flip hInner
        have hParent : draft.scopes.parent? inside = some scope := by
          simp [ScopeTree.parent?, opened]
        exact ⟨inside, RendersAt.scopeOf? hPart, .single hParent⟩

end nesting

/-- Among the nodes of outlines the identifiers are those of the names that are bound and those of
the names that are used. -/
theorem exists_identifiers {draft : Draft} {outlines : List Outline} {ids : List NodeId}
    (h : List.Forall₂ (fun outline id => ∃ scope, draft.RendersAt scope outline id) outlines ids) :
    ∃ bound used : List NodeId,
      (bound ++ used).Perm
        (ids.filter fun id => ((draft.tree.kind? id).map NodeKind.isIdentifier).getD false) ∧
      List.Forall₂ (fun binding id => ∃ scope, draft.RendersAt scope (.bind binding.1 binding.2) id)
        (outlines.filterMap Outline.bound?) bound ∧
      List.Forall₂ (fun name id => ∃ scope, draft.RendersAt scope (.use name) id)
        (outlines.filterMap Outline.usedName?) used := by
  induction h with
  | nil => exact ⟨[], [], List.Perm.refl _, .nil, .nil⟩
  | @cons outline id outlines ids hHead _ ih =>
      obtain ⟨bound, used, hPerm, hBound, hUsed⟩ := ih
      obtain ⟨scope, hAt⟩ := hHead
      cases outline with
      | use name =>
          refine ⟨bound, id :: used, ?_, hBound, .cons ⟨scope, hAt⟩ hUsed⟩
          rw [List.filter_cons_of_pos (by simp [hAt.use_inv.1.kind?, NodeKind.isIdentifier])]
          exact List.perm_middle.trans (hPerm.cons id)
      | bind name place =>
          refine ⟨id :: bound, used, ?_, .cons ⟨scope, hAt⟩ hBound, hUsed⟩
          rw [List.filter_cons_of_pos (by simp [hAt.bind_inv.1.kind?, NodeKind.isIdentifier])]
          exact hPerm.cons id
      | node shape span parts =>
          refine ⟨bound, used, ?_, hBound, hUsed⟩
          obtain ⟨inner, -, hNode⟩ := hAt.node_inv
          rw [List.filter_cons_of_neg (by simp [hNode.kind?, Shape.isIdentifier_kind])]
          exact hPerm
      | region shape span before kind inside =>
          refine ⟨bound, used, ?_, hBound, hUsed⟩
          obtain ⟨inner, hNode⟩ := hAt.region_inv
          rw [List.filter_cons_of_neg (by simp [hNode.kind?, Shape.isIdentifier_kind])]
          exact hPerm

end Draft

/-- The scope that a name belongs to if it is introduced in a scope: for `var` the nearest one around
it that is no block. -/
def IntroductionForm.target (form : IntroductionForm) (scopes : ScopeTree) (scope : ScopeId) :
    ScopeId :=
  if form = .declared .var then scopes.hoistTarget scope else scope

theorem Draft.placeOf_place (draft : Draft) (form : IntroductionForm) (scope : ScopeId) :
    draft.placeOf form.place scope = form.target draft.scopes scope := by
  cases form with
  | declared kind => cases kind <;> rfl
  | _ => rfl

namespace SourceUnit

/-- An identifier stands where a name is introduced. It is on record for one variable only, and this
variable has the name and belongs to the scope that the introduction asks for. -/
def Introduces (unit : SourceUnit) (introduction : Introduction) (id : NodeId) : Prop :=
  ∃ scope variableId v,
    unit.tree.Holds id (.identifier introduction.name.text) introduction.name.span scope ∧
    unit.scopes.vars[variableId]? = some v ∧ v.name = introduction.name.text ∧
    v.scope = introduction.form.target unit.scopes scope ∧
    ∀ other, id ∈ unit.scopes.references other ↔ other = variableId

namespace Renders

variable {unit : SourceUnit} {outline : Outline} {root : NodeId} {waiting : List NodeId}

/-- No node stands in a scope outside of that of its parent. -/
theorem encloses_of_parent? (h : unit.Renders outline root waiting) {child parent : NodeId}
    {outer inner : ScopeId} (hParent : unit.tree.parent? child = some parent)
    (hOuter : unit.tree.scopeOf? parent = some outer)
    (hInner : unit.tree.scopeOf? child = some inner) : unit.scopes.Encloses outer inner := by
  have hChild : child ∈ unit.tree.children parent :=
    (h.grown.tree.parent?_eq_some_iff.mp hParent).1
  have hMem : parent ∈ unit.tree.walkAll :=
    h.walkAll_perm.mem_iff.mpr (List.mem_range.mpr (SyntaxTree.lt_size_of_mem_children hChild))
  obtain ⟨part, -, scope, hAt⟩ := exists_of_forall₂ h.forall₂_walkAll.flip hMem
  obtain ⟨place, hPlace, hEncloses⟩ := hAt.encloses_child hChild
  obtain rfl := Option.some.inj (hAt.scopeOf?.symm.trans hOuter)
  obtain rfl := Option.some.inj (hPlace.symm.trans hInner)
  exact hEncloses

/-- Where a name is bound, it is introduced. -/
theorem introduces_of_rendersAt (h : unit.Renders outline root waiting)
    (hNodup : unit.scopes.recorded.Nodup) {introduction : Introduction} {id : NodeId}
    {scope : ScopeId} (hAt : (unit.drafted waiting).RendersAt scope
      (.bind introduction.name introduction.form.place) id) : unit.Introduces introduction id := by
  obtain ⟨hHolds, variableId, hDeclared, hRecorded⟩ := hAt.bind_inv
  rw [Draft.placeOf_place] at hDeclared
  obtain ⟨v, hVar, hScope, hName⟩ := h.grown.scopes.declared?_eq_some_iff.mp hDeclared
  refine ⟨scope, variableId, v, hHolds, hVar, hName, hScope, fun other => ?_⟩
  constructor
  · intro hOther
    exact ScopeTree.eq_of_mem_references hNodup hOther hRecorded
  · rintro rfl
    exact hRecorded

/-- The identifiers of the unit of a program are those of the names that are introduced and those of
the names that are used. -/
theorem exists_introductions {program : Program} (h : unit.Renders program.outline root waiting)
    (hNodup : unit.scopes.recorded.Nodup) :
    ∃ bound used : List NodeId, (bound ++ used).Perm unit.tree.identifiers ∧
      List.Forall₂ unit.Introduces program.phrase.introductions bound ∧
      used ⊆ waiting ∧ List.Forall₂ unit.Settled program.phrase.uses used := by
  obtain ⟨bound, used, hPerm, hBound, hUsed⟩ := Draft.exists_identifiers h.forall₂_walkAll
  have hIdentifiers : (bound ++ used).Perm unit.tree.identifiers :=
    hPerm.trans (h.walkAll_perm.filter _)
  have hUses : program.outline.preorder.filterMap Outline.usedName? = program.phrase.uses := by
    rw [program.preorder_outline, List.filterMap_cons_none rfl, ← program.phrase.uses_outline_eq]
    rfl
  have hBindings : program.outline.preorder.filterMap Outline.bound? =
      Outline.bindings [program.outline] := by
    rw [Outline.bindings, Outline.preorderAll, Outline.preorderAll, List.append_nil]
  rw [hBindings] at hBound
  rw [hUses] at hUsed
  obtain ⟨introduced, hIntroduced, hSame⟩ :=
    List.perm_comp_forall₂ program.bindings_perm.symm hBound
  rw [List.forall₂_map_left_iff] at hIntroduced
  refine ⟨introduced, used, (hSame.append_right used).trans hIdentifiers, ?_, ?_, ?_⟩
  · refine hIntroduced.imp ?_
    rintro introduction id ⟨scope, hAt⟩
    exact h.introduces_of_rendersAt hNodup hAt
  · intro id hMem
    obtain ⟨name, -, scope, hAt⟩ := exists_of_forall₂ hUsed.flip hMem
    exact hAt.use_inv.2
  · refine hUsed.imp ?_
    rintro name id ⟨scope, hAt⟩
    obtain ⟨hHolds, hWaits⟩ := hAt.use_inv
    exact ⟨scope, hHolds, (h.recorded id hWaits _ _ _ hHolds).iff hNodup⟩

end Renders

end SourceUnit

/-- Lowering keeps scopes in order. Every phrase is lowered with the cursor back in its scope at the
end; the parent of a node stands in the scope of the node or around it; and the identifiers of the
unit are those of used names and those of introduced names, where a variable that is declared with
`var` belongs to the nearest scope that is no block, and every other one to the scope where it is
introduced. -/
theorem Program.scopes_in_order (program : Program) (file source : String) :
    let unit := program.toUnit file source
    (∀ (phrase : Phrase) (cursor : Cursor),
      Outline.lowerAll phrase.outline cursor =
        ((Outline.buildAll phrase.outline cursor.scope cursor.draft).1,
          { draft := (Outline.buildAll phrase.outline cursor.scope cursor.draft).2
            scope := cursor.scope })) ∧
      (∀ child parent inner outer, unit.tree.parent? child = some parent →
        unit.tree.scopeOf? child = some inner → unit.tree.scopeOf? parent = some outer →
          unit.scopes.Encloses outer inner) ∧
      ∃ bound used : List NodeId, (bound ++ used).Perm unit.tree.identifiers ∧
        List.Forall₂ unit.Introduces program.phrase.introductions bound ∧
        List.Forall₂ unit.Settled program.phrase.uses used := by
  intro unit
  obtain ⟨root, waiting, hRenders⟩ := program.renders_toUnit file source
  obtain ⟨hRecorded, -⟩ := program.outline.recorded_toUnit file source
  have hNodup := hRecorded.nodup_iff.mpr unit.tree.nodup_identifiers
  obtain ⟨bound, used, hPerm, hBound, -, hUsed⟩ := hRenders.exists_introductions hNodup
  refine ⟨fun phrase cursor => Outline.lowerAll_eq phrase.outline cursor, ?_, bound, used, hPerm,
    hBound, hUsed⟩
  intro child parent inner outer hParent hInner hOuter
  exact hRenders.encloses_of_parent? hParent hOuter hInner

end PropTrace
