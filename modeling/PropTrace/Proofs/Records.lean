import Mathlib.Data.List.Perm.Basic
import PropTrace.Proofs.Enclosing
import PropTrace.Proofs.Uses
import PropTrace.Proofs.Writes

/-!
What is on record in a scope tree. Building a unit appends identifiers in two ways: a binding goes
on record at once, a use waits. In every state the identifiers on record and the waiting ones are
the identifiers of the arena, each once, and resolving a use moves it from the one side to the
other.
-/
namespace PropTrace

namespace ScopeTree

variable {tree : ScopeTree} {scope : ScopeId} {name : String}

/-- All identifiers on record: the occurrences of every variable, and those without a
declaration. -/
def recorded (tree : ScopeTree) : List NodeId :=
  (tree.vars.toList.flatMap Variable.references) ++ tree.unresolved

/-- A declaration records nothing by itself. -/
theorem recorded_declare (tree : ScopeTree) (scope : ScopeId) (name : String) :
    (tree.declare scope name).2.recorded = tree.recorded := by
  cases h : tree.declared? scope name with
  | some id => rw [declare_of_some tree h]
  | none => simp [declare_of_none tree h, recorded]

theorem recorded_addReference {id : VariableId} (hId : id < tree.vars.size)
    (identifier : NodeId) :
    (tree.addReference id identifier).recorded.Perm (identifier :: tree.recorded) := by
  have hLength : id < tree.vars.toList.length := hId
  have hSplit : tree.vars.toList =
      tree.vars.toList.take id ++ tree.vars.toList[id] :: tree.vars.toList.drop (id + 1) := by
    rw [← List.drop_eq_getElem_cons hLength, List.take_append_drop]
  rw [recorded, addReference, Array.toList_modify, List.modify_eq_take_cons_drop hLength, recorded]
  conv => rhs; rw [hSplit]
  simp only [List.flatMap_append, List.flatMap_cons, List.append_assoc, List.cons_append,
    List.nil_append]
  refine List.Perm.trans ?_ List.perm_middle
  refine List.Perm.append_left _ ?_
  exact List.perm_middle

theorem recorded_addUnresolved (tree : ScopeTree) (identifier : NodeId) :
    (tree.addUnresolved identifier).recorded.Perm (identifier :: tree.recorded) := by
  rw [recorded, addUnresolved, ← List.append_assoc]
  exact List.perm_append_singleton _ _

theorem recorded_sortReferences (tree : ScopeTree) (key : NodeId → Nat) :
    (tree.sortReferences key).recorded.Perm tree.recorded := by
  rw [recorded, sortReferences, Array.toList_map, List.flatMap_map]
  refine List.Perm.append_right _ ?_
  exact List.Perm.flatMap_left _ fun v _ => List.mergeSort_perm _ _

theorem pairwise_sortReferences (tree : ScopeTree) (key : NodeId → Nat) {id : VariableId}
    {v : Variable} (hVar : (tree.sortReferences key).vars[id]? = some v) :
    v.references.Pairwise fun a b => key a ≤ key b := by
  simp only [sortReferences, Array.getElem?_map] at hVar
  obtain ⟨before, -, rfl⟩ := Option.map_eq_some_iff.mp hVar
  have hTrans : ∀ a b c, decide (key a ≤ key b) → decide (key b ≤ key c) →
      decide (key a ≤ key c) := by
    intro a b c hFirst hSecond
    simp only [decide_eq_true_eq] at *
    omega
  have hTotal : ∀ a b, decide (key a ≤ key b) || decide (key b ≤ key a) := by
    intro a b
    simp only [Bool.or_eq_true, decide_eq_true_eq]
    omega
  exact (List.pairwise_mergeSort hTrans hTotal before.references).imp of_decide_eq_true

/-- If nothing is on record twice, an identifier occurs for one variable at most. -/
theorem eq_of_mem_references (hNodup : tree.recorded.Nodup) {first second : VariableId}
    {identifier : NodeId} (hFirst : identifier ∈ tree.references first)
    (hSecond : identifier ∈ tree.references second) : first = second := by
  have hPairwise := List.pairwise_iff_getElem.mp
    (List.nodup_flatMap.mp (List.nodup_append.mp hNodup).1).2
  have hNever : ∀ {id other : VariableId}, id < other → identifier ∈ tree.references id →
      identifier ∉ tree.references other := by
    intro id other hLt hId hOther
    cases hVar : tree.vars[id]? with
    | none => simp [references, hVar] at hId
    | some v =>
        cases hNext : tree.vars[other]? with
        | none => simp [references, hNext] at hOther
        | some w =>
            obtain ⟨hIdLt, rfl⟩ := Array.getElem?_eq_some_iff.mp hVar
            obtain ⟨hOtherLt, rfl⟩ := Array.getElem?_eq_some_iff.mp hNext
            have hDisjoint := hPairwise id other hIdLt hOtherLt hLt
            simp only [references, hVar, hNext, Option.map_some, Option.getD_some] at hId hOther
            exact hDisjoint hId hOther
  rcases Nat.lt_trichotomy first second with hLt | hEq | hGt
  · exact absurd hSecond (hNever hLt hFirst)
  · exact hEq
  · exact absurd hFirst (hNever hGt hSecond)

theorem not_mem_unresolved_of_mem_references (hNodup : tree.recorded.Nodup) {id : VariableId}
    {identifier : NodeId} (h : identifier ∈ tree.references id) :
    identifier ∉ tree.unresolved := by
  cases hVar : tree.vars[id]? with
  | none => simp [references, hVar] at h
  | some v =>
      have hMem : identifier ∈ v.references := by simpa [references, hVar] using h
      refine List.disjoint_of_nodup_append hNodup (List.mem_flatMap.mpr ⟨v, ?_, hMem⟩)
      exact Array.mem_toList_iff.mpr (Array.mem_of_getElem? hVar)

/-- A name is declared for a variable of that name. -/
theorem Grown.name_of_declared? (h : tree.Grown) {id : VariableId}
    (hDeclared : tree.declared? scope name = some id) :
    (tree.vars[id]?.map Variable.name) = some name := by
  obtain ⟨v, hVar, -, hName⟩ := h.declared?_eq_some_iff.mp hDeclared
  simp [hVar, hName]

/-- A lookup answers a variable of the name it was asked for. -/
theorem Grown.name_of_lookup (h : tree.Grown) {id : VariableId}
    (hLookup : tree.lookup scope name = some id) :
    (tree.vars[id]?.map Variable.name) = some name := by
  obtain ⟨v, hVar, hName, -⟩ := h.exists_var_of_lookup hLookup
  simp [hVar, hName]

end ScopeTree

/-- All identifiers of an arena, ascending. -/
def SyntaxTree.identifiers (tree : SyntaxTree) : List NodeId :=
  tree.ids.filter fun id => ((tree.kind? id).map NodeKind.isIdentifier).getD false

theorem SyntaxTree.mem_identifiers_iff {tree : SyntaxTree} {id : NodeId} :
    id ∈ tree.identifiers ↔ ∃ name, tree.kind? id = some (.identifier name) := by
  rw [identifiers, List.mem_filter]
  constructor
  · rintro ⟨-, hIdentifier⟩
    cases hKind : tree.kind? id with
    | none => simp [hKind] at hIdentifier
    | some kind => cases kind <;> simp_all [NodeKind.isIdentifier]
  · rintro ⟨name, hKind⟩
    exact ⟨List.mem_range.mpr (kind?_lt hKind), by simp [hKind, NodeKind.isIdentifier]⟩

theorem SyntaxTree.nodup_identifiers (tree : SyntaxTree) : tree.identifiers.Nodup :=
  List.nodup_range.filter _

theorem SyntaxTree.identifiers_push (tree : SyntaxTree) (kind : NodeKind) (span : Span)
    (scope : ScopeId) :
    (tree.push kind span scope).2.identifiers =
      tree.identifiers ++ if kind.isIdentifier then [tree.size] else [] := by
  have hOld : ∀ id ∈ tree.ids,
      (((tree.push kind span scope).2.kind? id).map NodeKind.isIdentifier).getD false =
        ((tree.kind? id).map NodeKind.isIdentifier).getD false := by
    intro id hMem
    rw [kind?_push, if_neg (Nat.ne_of_lt (List.mem_range.mp hMem))]
  rw [identifiers, ids, size_push, List.range_succ, List.filter_append]
  congr 1
  · exact List.filter_congr hOld
  · cases hKind : kind.isIdentifier <;> simp [kind?_push, hKind]

namespace ScopeTree

variable {scopes : ScopeTree} {tree : SyntaxTree}

/-- Every occurrence of a variable is an identifier of its name. -/
def NamedIn (scopes : ScopeTree) (tree : SyntaxTree) : Prop :=
  ∀ (variableId : VariableId) (v : Variable), scopes.vars[variableId]? = some v →
    ∀ id ∈ v.references, tree.kind? id = some (.identifier v.name)

namespace NamedIn

theorem push (h : scopes.NamedIn tree) (kind : NodeKind) (span : Span) (scope : ScopeId) :
    scopes.NamedIn (tree.push kind span scope).2 := by
  intro variableId v hVar id hMem
  have hKind := h variableId v hVar id hMem
  rw [SyntaxTree.kind?_push, if_neg (Nat.ne_of_lt (SyntaxTree.kind?_lt hKind)), hKind]

theorem declare (h : scopes.NamedIn tree) (scope : ScopeId) (name : String) :
    (scopes.declare scope name).2.NamedIn tree := by
  cases hDeclared : scopes.declared? scope name with
  | some id =>
      rw [declare_of_some scopes hDeclared]
      exact h
  | none =>
      intro variableId v hVar id hMem
      simp only [declare_of_none scopes hDeclared, Array.getElem?_push] at hVar
      split at hVar
      · cases hVar
        exact absurd hMem List.not_mem_nil
      · exact h variableId v hVar id hMem

theorem addReference (h : scopes.NamedIn tree) {variableId : VariableId} {id : NodeId}
    {name : String} (hVariable : (scopes.vars[variableId]?.map Variable.name) = some name)
    (hKind : tree.kind? id = some (.identifier name)) :
    (scopes.addReference variableId id).NamedIn tree := by
  intro other v hVar identifier hMem
  simp only [ScopeTree.addReference, Array.getElem?_modify] at hVar
  split at hVar
  · next hSame =>
      subst hSame
      obtain ⟨before, hBefore, rfl⟩ := Option.map_eq_some_iff.mp hVar
      rw [hBefore, Option.map_some] at hVariable
      rcases List.mem_append.mp hMem with hOld | hNew
      · exact h variableId before hBefore identifier hOld
      · rw [List.mem_singleton.mp hNew, hKind, ← Option.some.inj hVariable]
  · exact h other v hVar identifier hMem

end NamedIn

theorem namedIn_sortReferences_iff {key : NodeId → Nat} :
    (scopes.sortReferences key).NamedIn tree ↔ scopes.NamedIn tree := by
  constructor
  · intro h variableId v hVar id hMem
    let sorted : Variable :=
      { v with references := v.references.mergeSort fun a b => key a ≤ key b }
    have hSorted : (scopes.sortReferences key).vars[variableId]? = some sorted := by
      simp only [sortReferences, Array.getElem?_map, hVar, Option.map_some, sorted]
    exact h variableId sorted hSorted id (List.mem_mergeSort.mpr hMem)
  · intro h variableId v hVar id hMem
    simp only [sortReferences, Array.getElem?_map] at hVar
    obtain ⟨before, hBefore, rfl⟩ := Option.map_eq_some_iff.mp hVar
    exact h variableId before hBefore id (List.mem_mergeSort.mp hMem)

end ScopeTree

namespace Draft

/-- One step of building a unit, on scopes and nodes that exist. -/
inductive Step (draft : Draft) : Draft → Prop where
  | push (kind : NodeKind) (span : Span) (scope : ScopeId) (plain : kind.isIdentifier = false)
      (older : ∀ child ∈ kind.children, child < draft.tree.size) :
      Step draft (draft.push kind span scope).2
  | use (name : Name) (scope : ScopeId) : Step draft (draft.use name scope).2
  | bind (name : Name) (target scope : ScopeId)
      (exists_target : target < draft.scopes.scopes.size) :
      Step draft (draft.bind name target scope).2
  | openScope (kind : ScopeKind) (parent : ScopeId)
      (exists_parent : parent < draft.scopes.scopes.size) : Step draft (draft.openScope kind parent)

/-- Any number of steps. -/
def Runs : Draft → Draft → Prop := Relation.ReflTransGen Step

/-- Building outlines takes nothing but steps. -/
theorem runs_buildAll (outlines : List Outline) (scope : ScopeId) (draft : Draft)
    (hGrown : draft.Grown) (hScope : scope < draft.scopes.scopes.size) :
    draft.Runs (Outline.buildAll outlines scope draft).2 := by
  induction outlines using Outline.forest_induction generalizing scope draft with
  | nil => exact .refl
  | use name rest ih => exact (ih scope _ (hGrown.use name scope) hScope).head (.use name scope)
  | bind name place rest ih =>
      have hTarget := hGrown.placeOf_lt place hScope
      have hKeeps := draft.extends_bind name (draft.placeOf place scope) scope
      have hScope' := Nat.lt_of_lt_of_le hScope hKeeps.scopes.size_scopes_le
      exact (ih scope _ (hGrown.bind name scope hTarget) hScope').head
        (.bind name _ scope hTarget)
  | node shape span parts rest ihParts ihRest =>
      have hParts := Outline.built_buildAll parts scope draft hGrown hScope
      have hRest := ihRest scope _ (hParts.grown_push shape span) (hParts.scope_lt hScope)
      exact (ihParts scope draft hGrown hScope).trans
        (hRest.head (.push _ span scope (shape.isIdentifier_kind _) (hParts.older shape)))
  | region shape span before kind inside rest ihBefore ihInside ihRest =>
      have hBefore := Outline.built_buildAll before scope draft hGrown hScope
      have hOuter := hBefore.scope_lt hScope
      have hOpened := hBefore.grown.openScope kind hOuter
      have hFresh := (Outline.buildAll before scope draft).2.size_lt_openScope kind scope
      have hInside := Outline.built_buildAll inside _ _ hOpened hFresh
      have hRest := ihRest scope _ (hBefore.grown_push_region hInside shape span)
        (hInside.scope_lt (Nat.lt_trans hOuter hFresh))
      have hPush := hRest.head
        (.push _ span scope (shape.isIdentifier_kind _) (hBefore.older_region hInside shape))
      have hRegion := (ihInside _ _ hOpened hFresh).trans hPush
      exact (ihBefore scope draft hGrown hScope).trans
        (hRegion.head (.openScope kind scope hOuter))

theorem Step.grown {draft after : Draft} (h : draft.Step after) (hGrown : draft.Grown) :
    after.Grown := by
  cases h with
  | push kind span scope plain older => exact hGrown.push kind span scope older
  | use name scope => exact hGrown.use name scope
  | bind name target scope exists_target => exact hGrown.bind name scope exists_target
  | openScope kind parent exists_parent => exact hGrown.openScope kind exists_parent

/-- The books are balanced: what is on record and what waits are the identifiers of the arena, each
once, and what is on record for a variable has the name of the variable. -/
structure Accounted (draft : Draft) : Prop where
  perm : (draft.scopes.recorded ++ draft.uses).Perm draft.tree.identifiers
  named : draft.scopes.NamedIn draft.tree

theorem accounted_empty : empty.Accounted where
  perm := by decide
  named := by
    intro variableId v hVar
    simp [empty, ScopeTree.initial] at hVar

section accounting

variable {draft after : Draft}

theorem Accounted.push (h : draft.Accounted) {kind : NodeKind} (plain : kind.isIdentifier = false)
    (span : Span) (scope : ScopeId) : (draft.push kind span scope).2.Accounted where
  perm := by
    change (draft.scopes.recorded ++ draft.uses).Perm (draft.tree.push kind span scope).2.identifiers
    rw [SyntaxTree.identifiers_push, plain]
    simpa using h.perm
  named := h.named.push kind span scope

theorem Accounted.use (h : draft.Accounted) (name : Name) (scope : ScopeId) :
    (draft.use name scope).2.Accounted where
  perm := by
    change (draft.scopes.recorded ++ (draft.uses ++ [draft.tree.size])).Perm
      (draft.tree.push (.identifier name.text) name.span scope).2.identifiers
    rw [SyntaxTree.identifiers_push, ← List.append_assoc]
    exact h.perm.append_right _
  named := h.named.push _ _ _

theorem Accounted.bind (h : draft.Accounted) (hGrown : draft.Grown) (name : Name) {target : ScopeId}
    (scope : ScopeId) (hTarget : target < draft.scopes.scopes.size) :
    (draft.bind name target scope).2.Accounted := by
  have hDeclared := (hGrown.scopes.declare target name.text hTarget).name_of_declared?
    (ScopeTree.declared?_declare_self hTarget name.text)
  have hVariable := ScopeTree.declare_fst_lt target name.text fun id hId =>
    hGrown.scopes.declared?_lt hId
  constructor
  · change (((draft.scopes.declare target name.text).2.addReference _ draft.tree.size).recorded ++
      draft.uses).Perm (draft.tree.push (.identifier name.text) name.span scope).2.identifiers
    rw [SyntaxTree.identifiers_push]
    have hRecorded := ScopeTree.recorded_addReference hVariable draft.tree.size
    rw [ScopeTree.recorded_declare] at hRecorded
    refine (hRecorded.append_right _).trans ?_
    exact (h.perm.cons _).trans (List.perm_append_singleton _ _).symm
  · refine ((h.named.push (.identifier name.text) name.span scope).declare _ _).addReference
      hDeclared ?_
    rw [SyntaxTree.kind?_push, if_pos rfl]

theorem Step.accounted (h : draft.Step after) (hGrown : draft.Grown)
    (hAccounted : draft.Accounted) : after.Accounted := by
  cases h with
  | push kind span scope plain older => exact hAccounted.push plain span scope
  | use name scope => exact hAccounted.use name scope
  | bind name target scope exists_target => exact hAccounted.bind hGrown name scope exists_target
  | openScope kind parent exists_parent => exact ⟨hAccounted.perm, hAccounted.named⟩

/-- The books stay balanced however long a unit is built. -/
theorem Runs.accounted (h : draft.Runs after) (hGrown : draft.Grown)
    (hAccounted : draft.Accounted) : after.Grown ∧ after.Accounted := by
  induction h with
  | refl => exact ⟨hGrown, hAccounted⟩
  | tail _ hStep ih => exact ⟨hStep.grown ih.1, hStep.accounted ih.1 ih.2⟩

/-- Resolving puts one use on record. -/
theorem recorded_perm_resolve (hGrown : draft.scopes.Grown) {id : NodeId} {name : String}
    (hKind : draft.tree.kind? id = some (.identifier name)) :
    (draft.resolve id).scopes.recorded.Perm (id :: draft.scopes.recorded) := by
  obtain ⟨node, hNode, hIdentifier⟩ := Option.map_eq_some_iff.mp hKind
  obtain ⟨kind, span, parent, scope⟩ := node
  obtain rfl : kind = .identifier name := hIdentifier
  unfold resolve
  simp only [hNode]
  cases hLookup : draft.scopes.lookup scope name with
  | some variableId => exact ScopeTree.recorded_addReference (hGrown.lookup_lt hLookup) id
  | none => exact draft.scopes.recorded_addUnresolved id

theorem namedIn_resolve (hGrown : draft.scopes.Grown) (h : draft.scopes.NamedIn draft.tree)
    (id : NodeId) : (draft.resolve id).scopes.NamedIn draft.tree := by
  unfold resolve
  split
  · next name parent scope hNode =>
      split
      · next variableId hLookup =>
          refine h.addReference (hGrown.name_of_lookup hLookup) ?_
          simp [SyntaxTree.kind?, hNode]
      · exact h
  · exact h

/-- Resolving uses one after another puts each of them on record once. -/
theorem recorded_perm_foldl (uses : List NodeId) (hGrown : draft.scopes.Grown)
    (hNamed : draft.scopes.NamedIn draft.tree)
    (hUses : ∀ id ∈ uses, ∃ name, draft.tree.kind? id = some (.identifier name)) :
    (uses.foldl resolve draft).scopes.recorded.Perm (draft.scopes.recorded ++ uses) ∧
      (uses.foldl resolve draft).scopes.NamedIn draft.tree := by
  induction uses generalizing draft with
  | nil => exact ⟨.of_eq (List.append_nil _).symm, hNamed⟩
  | cons first rest ih =>
      have hFirst := resolves_resolve hGrown first
      obtain ⟨name, hKind⟩ := hUses first List.mem_cons_self
      have hNamedFirst := namedIn_resolve hGrown hNamed first
      rw [← hFirst.tree] at hNamedFirst
      obtain ⟨hPerm, hNamedRest⟩ := ih (hFirst.grown hGrown) hNamedFirst fun id hMem => by
        rw [hFirst.tree]
        exact hUses id (List.mem_cons_of_mem _ hMem)
      rw [hFirst.tree] at hNamedRest
      refine ⟨?_, hNamedRest⟩
      refine hPerm.trans ?_
      exact ((recorded_perm_resolve hGrown hKind).append_right rest).trans List.perm_middle.symm

end accounting

end Draft

/-- The identifiers of a unit that was built from an outline are on record, each once, and with
variables of their names. -/
theorem Outline.recorded_toUnit (outline : Outline) (file source : String) :
    (outline.toUnit file source).scopes.recorded.Perm
        (outline.toUnit file source).tree.identifiers ∧
      (outline.toUnit file source).scopes.NamedIn (outline.toUnit file source).tree := by
  have hEmpty : Draft.empty.Grown := ⟨.empty, .initial⟩
  have hRuns := Draft.runs_buildAll [outline] ScopeTree.moduleScope .empty hEmpty (by decide)
  obtain ⟨hGrown, hAccounted⟩ := hRuns.accounted hEmpty Draft.accounted_empty
  let draft := (buildAll [outline] ScopeTree.moduleScope .empty).2
  have hUses : ∀ id ∈ draft.uses, ∃ name, draft.tree.kind? id = some (.identifier name) := by
    intro id hMem
    refine SyntaxTree.mem_identifiers_iff.mp ?_
    exact hAccounted.perm.mem_iff.mp (List.mem_append_right _ hMem)
  obtain ⟨hPerm, hNamed⟩ :=
    Draft.recorded_perm_foldl draft.uses hGrown.scopes hAccounted.named hUses
  have hTree : (draft.uses.foldl Draft.resolve draft).tree = draft.tree :=
    (Draft.resolves_foldl draft.uses hGrown.scopes).1.tree
  have hSorted := (draft.uses.foldl Draft.resolve draft).scopes.recorded_sortReferences
    (SyntaxTree.startOf { (draft.uses.foldl Draft.resolve draft).tree with
      root := some (outline.build ScopeTree.moduleScope .empty).1 })
  constructor
  · refine (hSorted.trans (hPerm.trans hAccounted.perm)).trans (.of_eq ?_)
    change draft.tree.identifiers = (draft.uses.foldl Draft.resolve draft).tree.identifiers
    rw [hTree]
  · rw [← hTree] at hNamed
    exact ScopeTree.namedIn_sortReferences_iff.mpr hNamed

/-- An identifier is where its name leads in the scopes of its unit: on record for a variable if and
only if the name stands for that variable in the scope of the identifier, and without a declaration
if and only if it stands for none. -/
def SourceUnit.Settled (unit : SourceUnit) (name : Name) (id : NodeId) : Prop :=
  ∃ scope, unit.tree.Holds id (.identifier name.text) name.span scope ∧
    (∀ variableId, id ∈ unit.scopes.references variableId ↔
      unit.scopes.lookup scope name.text = some variableId) ∧
    (id ∈ unit.scopes.unresolved ↔ unit.scopes.lookup scope name.text = none)

/-- What is recorded where it belongs, and once, is recorded nowhere else. -/
theorem ScopeTree.Recorded.iff {scopes : ScopeTree} {scope : ScopeId} {name : String} {id : NodeId}
    (h : scopes.Recorded scope name id) (hNodup : scopes.recorded.Nodup) :
    (∀ variableId, id ∈ scopes.references variableId ↔
      scopes.lookup scope name = some variableId) ∧
    (id ∈ scopes.unresolved ↔ scopes.lookup scope name = none) := by
  cases hLookup : scopes.lookup scope name with
  | some found =>
      have hFound := h.1 found hLookup
      refine ⟨fun variableId => ?_, ?_⟩
      · constructor
        · intro hMem
          rw [eq_of_mem_references hNodup hFound hMem]
        · intro hSame
          exact Option.some.inj hSame ▸ hFound
      · exact iff_of_false (not_mem_unresolved_of_mem_references hNodup hFound) (by simp)
  | none =>
      have hUnresolved := h.2 hLookup
      refine ⟨fun variableId => ?_, iff_of_true hUnresolved rfl⟩
      refine iff_of_false (fun hMem => ?_) (by simp)
      exact not_mem_unresolved_of_mem_references hNodup hMem hUnresolved

/-- No name of a program is lost in resolution and none is found twice. The occurrences of all
variables and the identifiers without a declaration are the identifiers of the arena, each once;
the occurrences of a variable have its name and stand in source order; and whatever uses a name,
as a value or as a target, is where the finished scopes lead from there, so that it does not matter
whether the declaration stands before or after it. -/
theorem Program.identifiers_recorded (program : Program) (file source : String) :
    let unit := program.toUnit file source
    unit.scopes.recorded.Perm unit.tree.identifiers ∧
      (∀ (variableId : VariableId) (v : Variable), unit.scopes.vars[variableId]? = some v →
        (∀ id ∈ v.references, unit.tree.kind? id = some (.identifier v.name)) ∧
          v.references.Pairwise fun a b => unit.tree.startOf a ≤ unit.tree.startOf b) ∧
      ∃ ids, ids.Sublist unit.tree.walkAll ∧
        List.Forall₂ unit.Settled program.phrase.uses ids := by
  intro unit
  obtain ⟨hPerm, hNamed⟩ := program.outline.recorded_toUnit file source
  obtain ⟨root, waiting, hRenders⟩ := program.renders_toUnit file source
  obtain ⟨ids, hIds, hUses⟩ := hRenders.exists_uses
  refine ⟨hPerm, ?_, ids, hIds, ?_⟩
  · intro variableId v hVar
    exact ⟨hNamed variableId v hVar, ScopeTree.pairwise_sortReferences _ unit.tree.startOf hVar⟩
  · refine hUses.imp ?_
    rintro name id ⟨hWaiting, scope, hHolds⟩
    have hRecorded := hRenders.recorded id hWaiting _ _ _ hHolds
    have hNodup := hPerm.nodup_iff.mpr unit.tree.nodup_identifiers
    exact ⟨scope, hHolds, hRecorded.iff hNodup⟩

end PropTrace
