import PropTrace.Proofs.Discipline

/-!
Where records and lookups agree. A name that is introduced goes on record in the scope that its
introduction asks for; a lookup goes outwards from the scope where the identifier stands. Both come
to the same variable unless the name is introduced once more on the way between the two scopes. Only
a `var` has such a way, through the blocks up to its function, so a block, a loop or a `catch`
clause that has the name as well hides the variable from the very place of the `var`.
-/
namespace PropTrace

namespace ScopeTree

variable {tree : ScopeTree} {scope outer : ScopeId} {name : String} {id : VariableId}

namespace Grown

/-- A name stands for the variable that a scope further out has for it if no scope on the way there
declares the name. -/
theorem lookup_eq_some_iff_of_encloses (h : tree.Grown) (hAround : tree.Encloses outer scope)
    (hDeclared : tree.declared? outer name = some id) :
    tree.lookup scope name = some id ↔
      ∀ between, tree.Encloses between scope → tree.Encloses outer between → between ≠ outer →
        tree.declared? between name = none := by
  rw [h.lookup_eq_some_iff]
  constructor
  · rintro ⟨declaring, hNearest, hFound⟩ between hInner hOuter hNe
    obtain ⟨v, hVar, hScope, -⟩ := h.declared?_eq_some_iff.mp hDeclared
    obtain ⟨w, hSame, hPlace, -⟩ := h.declared?_eq_some_iff.mp hFound
    obtain rfl := Option.some.inj (hVar.symm.trans hSame)
    rw [← Option.not_isSome_iff_eq_none]
    intro hSome
    have hAbove := hNearest.first between hInner hSome
    rw [← hPlace, hScope] at hAbove
    exact hNe (h.encloses_antisymm hAbove hOuter)
  · intro hNone
    refine ⟨outer, ⟨hAround, by simp [hDeclared], fun other hOther hSome => ?_⟩, hDeclared⟩
    by_cases hSame : other = outer
    · rw [hSame]
      exact .refl
    · refine (Encloses.total hOther hAround).resolve_left fun hInside => ?_
      simp [hNone other hOther hInside hSame] at hSome

end Grown

/-- Every variable has an occurrence. -/
def Occupied (tree : ScopeTree) : Prop :=
  ∀ (variableId : VariableId) (v : Variable), tree.vars[variableId]? = some v → v.references ≠ []

/-- Declaring a name and recording it leaves no variable without an occurrence. -/
theorem Occupied.addReference_declare (h : tree.Occupied) (scope : ScopeId) (name : String)
    (identifier : NodeId) :
    ((tree.declare scope name).2.addReference (tree.declare scope name).1 identifier).Occupied := by
  intro variableId v hVar
  simp only [addReference, Array.getElem?_modify] at hVar
  split at hVar
  · obtain ⟨before, -, rfl⟩ := Option.map_eq_some_iff.mp hVar
    exact List.append_ne_nil_of_right_ne_nil _ (List.cons_ne_nil _ _)
  · next hOther =>
      cases hDeclared : tree.declared? scope name with
      | some existing =>
          rw [declare_of_some tree hDeclared] at hVar
          exact h variableId v hVar
      | none =>
          rw [declare_of_none tree hDeclared] at hVar hOther
          rw [Array.getElem?_push, if_neg (Ne.symm hOther)] at hVar
          exact h variableId v hVar

end ScopeTree

namespace Draft

variable {draft after : Draft}

theorem Step.occupied (h : draft.Step after) (hOccupied : draft.scopes.Occupied) :
    after.scopes.Occupied := by
  cases h with
  | push | use | openScope => exact hOccupied
  | bind name target scope => exact hOccupied.addReference_declare target name.text _

theorem Runs.occupied (h : draft.Runs after) (hOccupied : draft.scopes.Occupied) :
    after.scopes.Occupied := by
  induction h with
  | refl => exact hOccupied
  | tail _ hStep ih => exact hStep.occupied ih

/-- Resolving and sorting declare nothing, so every variable keeps an occurrence that did not wait to
be resolved. -/
theorem Resolves.exists_bound {resolved : Draft} (h : draft.Resolves resolved)
    (hGrown : draft.Grown) (hAccounted : draft.Accounted) (hOccupied : draft.scopes.Occupied)
    (key : NodeId → Nat) {variableId : VariableId} {v : Variable}
    (hVar : (resolved.scopes.sortReferences key).vars[variableId]? = some v) :
    ∃ id ∈ v.references, id ∉ draft.uses := by
  have hSorted := (h.grown hGrown.scopes).sortReferences key
  have hDeclared := hSorted.declared?_eq_some_iff.mpr ⟨v, hVar, rfl, rfl⟩
  have hBefore : draft.scopes.declared? v.scope v.name = some variableId := by
    rw [← hDeclared, ScopeTree.declared?, ← h.scopes]
    rfl
  obtain ⟨before, hOld, -⟩ := hGrown.scopes.declared?_eq_some_iff.mp hBefore
  obtain ⟨id, hMem⟩ := List.exists_mem_of_ne_nil _ (hOccupied variableId before hOld)
  have hKeeps := h.keeps.trans (resolved.scopes.extends_sortReferences key)
  obtain ⟨references, hAfter, hSubset⟩ := hKeeps.var variableId before hOld
  obtain rfl := Option.some.inj (hAfter.symm.trans hVar)
  have hRecorded : id ∈ draft.scopes.recorded := by
    refine List.mem_append_left _ (List.mem_flatMap.mpr ⟨before, ?_, hMem⟩)
    exact Array.mem_toList_iff.mpr (Array.mem_of_getElem? hOld)
  have hNodup := hAccounted.perm.nodup_iff.mpr draft.tree.nodup_identifiers
  exact ⟨id, hSubset hMem, List.disjoint_of_nodup_append hNodup hRecorded⟩

end Draft

/-- In the unit of an outline every variable has an occurrence that did not wait to be resolved. -/
theorem Outline.exists_bound_toUnit (outline : Outline) (file source : String) :
    ∃ root waiting, (outline.toUnit file source).Renders outline root waiting ∧
      ∀ (variableId : VariableId) (v : Variable),
        (outline.toUnit file source).scopes.vars[variableId]? = some v →
          ∃ id ∈ v.references, id ∉ waiting := by
  have hEmpty : Draft.empty.Grown := ⟨.empty, .initial⟩
  have hNone : Draft.empty.scopes.Occupied := by
    intro variableId v hVar
    simp [Draft.empty, ScopeTree.initial] at hVar
  have hBuilt := built_buildAll [outline] ScopeTree.moduleScope .empty hEmpty (by decide)
  have hRuns := Draft.runs_buildAll [outline] ScopeTree.moduleScope .empty hEmpty (by decide)
  obtain ⟨hGrown, hAccounted⟩ := hRuns.accounted hEmpty Draft.accounted_empty
  obtain ⟨hResolves, hRecorded⟩ := Draft.resolves_foldl
    (outline.build ScopeTree.moduleScope .empty).2.uses hBuilt.grown.scopes
  refine ⟨_, _, SourceUnit.renders_of_resolved hBuilt hResolves hRecorded file source, ?_⟩
  intro variableId v hVar
  exact hResolves.exists_bound hGrown hAccounted (hRuns.occupied hNone) _ hVar

namespace SourceUnit

/-- An identifier is on record for the variable that its name stands for at its place, and for no
other. -/
def Agrees (unit : SourceUnit) (id : NodeId) : Prop :=
  ∀ name, unit.tree.kind? id = some (.identifier name) →
    ∀ variableId, id ∈ unit.scopes.references variableId ↔ unit.lookup id name = some variableId

/-- A name that is declared with `var` is introduced once more, and not with `var`, in a scope on
the way to the function that the `var` belongs to. -/
structure Hides (unit : SourceUnit) (other introduced : Introduction × NodeId) : Prop where
  isVar : introduced.1.form = .declared .var
  stays : other.1.form ≠ .declared .var
  sameName : other.1.name.text = introduced.1.name.text
  between : ∃ scope middle, unit.tree.scopeOf? introduced.2 = some scope ∧
    unit.tree.scopeOf? other.2 = some middle ∧ unit.scopes.Encloses middle scope ∧
    unit.scopes.Encloses (unit.scopes.hoistTarget scope) middle ∧
    middle ≠ unit.scopes.hoistTarget scope

variable {unit : SourceUnit} {id : NodeId}

theorem Settled.agrees {name : Name} (h : unit.Settled name id) : unit.Agrees id := by
  obtain ⟨scope, ⟨parent, hNode⟩, hRecorded, -⟩ := h
  intro other hKind variableId
  obtain rfl : name.text = other := by simpa [SyntaxTree.kind?, hNode] using hKind
  rw [hRecorded variableId, lookup, hNode]
  rfl

/-- A name that is introduced is found where it is on record if no scope on the way there has it. -/
theorem Introduces.agrees_iff (hGrown : unit.scopes.Grown) {introduction : Introduction}
    {scope : ScopeId} (h : unit.Introduces introduction id)
    (hScope : unit.tree.scopeOf? id = some scope) :
    unit.Agrees id ↔ ∀ between, unit.scopes.Encloses between scope →
      unit.scopes.Encloses (introduction.form.target unit.scopes scope) between →
        between ≠ introduction.form.target unit.scopes scope →
          unit.scopes.declared? between introduction.name.text = none := by
  obtain ⟨place, variableId, v, hHolds, hVar, hName, hTarget, hRecorded⟩ := h
  obtain rfl := Option.some.inj (hHolds.scopeOf?.symm.trans hScope)
  have hDeclared := hGrown.declared?_eq_some_iff.mpr ⟨v, hVar, hTarget, hName⟩
  have hAround : unit.scopes.Encloses (introduction.form.target unit.scopes place) place := by
    rw [IntroductionForm.target]
    split
    · exact hGrown.encloses_hoistTarget place
    · exact .refl
  rw [← hGrown.lookup_eq_some_iff_of_encloses hAround hDeclared]
  have hLookup : unit.lookup id introduction.name.text =
      unit.scopes.lookup place introduction.name.text := by
    obtain ⟨parent, hNode⟩ := hHolds
    rw [lookup, hNode]
    rfl
  constructor
  · intro hAgrees
    rw [← hLookup, ← hAgrees _ hHolds.kind?, hRecorded]
  · intro hFound other hKind otherId
    obtain rfl : introduction.name.text = other := by simpa [hHolds.kind?] using hKind
    rw [hRecorded, hLookup, hFound, Option.some.injEq, eq_comm]

theorem Introduces.declared? (hGrown : unit.scopes.Grown) {introduction : Introduction}
    {scope : ScopeId} (h : unit.Introduces introduction id)
    (hScope : unit.tree.scopeOf? id = some scope) :
    (unit.scopes.declared? (introduction.form.target unit.scopes scope)
      introduction.name.text).isSome := by
  obtain ⟨place, variableId, v, hHolds, hVar, hName, hTarget, -⟩ := h
  obtain rfl := Option.some.inj (hHolds.scopeOf?.symm.trans hScope)
  rw [hGrown.declared?_eq_some_iff.mpr ⟨v, hVar, hTarget, hName⟩]
  rfl

section introductions

variable {introductions : List Introduction} {bound : List NodeId}
  {introduced other : Introduction × NodeId} {scope middle : ScopeId}

theorem introduces_of_mem_zip (h : List.Forall₂ unit.Introduces introductions bound)
    (hMem : introduced ∈ introductions.zip bound) : unit.Introduces introduced.1 introduced.2 :=
  (List.forall₂_iff_zip.mp h).2 hMem

theorem exists_mem_zip (h : List.Forall₂ unit.Introduces introductions bound) (hMem : id ∈ bound) :
    ∃ introduction, (introduction, id) ∈ introductions.zip bound := by
  rw [← List.map_snd_zip (Nat.le_of_eq h.length_eq.symm)] at hMem
  obtain ⟨introduced, hZip, rfl⟩ := List.mem_map.mp hMem
  exact ⟨introduced.1, hZip⟩

/-- What is introduced between a `var` and its function hides it: there the name is declared. -/
theorem Hides.isSome_declared? (hGrown : unit.scopes.Grown) (h : unit.Hides other introduced)
    (hOther : unit.Introduces other.1 other.2)
    (hMiddle : unit.tree.scopeOf? other.2 = some middle) :
    (unit.scopes.declared? middle introduced.1.name.text).isSome := by
  have hDeclared := hOther.declared? hGrown hMiddle
  rwa [IntroductionForm.target, if_neg h.stays, h.sameName] at hDeclared

/-- The name of a `var` is hidden if a scope on the way to its function has the name: a name in a
block was introduced in that block. -/
theorem exists_hides (hGrown : unit.scopes.Grown)
    (hBound : List.Forall₂ unit.Introduces introductions bound)
    (hAll : ∀ (variableId : VariableId) (v : Variable), unit.scopes.vars[variableId]? = some v →
      ∃ id ∈ v.references, id ∈ bound)
    (hIsVar : introduced.1.form = .declared .var)
    (hScope : unit.tree.scopeOf? introduced.2 = some scope)
    (hInner : unit.scopes.Encloses middle scope)
    (hOuter : unit.scopes.Encloses (unit.scopes.hoistTarget scope) middle)
    (hNe : middle ≠ unit.scopes.hoistTarget scope)
    (hSome : (unit.scopes.declared? middle introduced.1.name.text).isSome) :
    ∃ other ∈ introductions.zip bound, unit.Hides other introduced := by
  obtain ⟨variableId, hDeclared⟩ := Option.isSome_iff_exists.mp hSome
  obtain ⟨v, hVar, rfl, hName⟩ := hGrown.declared?_eq_some_iff.mp hDeclared
  obtain ⟨nearer, hOccurs, hIn⟩ := hAll variableId v hVar
  obtain ⟨introduction, hZip⟩ := exists_mem_zip hBound hIn
  obtain ⟨place, ownId, own, hHolds, hOwn, hOwnName, hTarget, hRecorded⟩ :=
    introduces_of_mem_zip hBound hZip
  obtain rfl : variableId = ownId := by
    apply (hRecorded variableId).mp
    simpa [ScopeTree.references, hVar] using hOccurs
  obtain rfl := Option.some.inj (hOwn.symm.trans hVar)
  have hStays : introduction.form ≠ .declared .var := by
    intro hOtherVar
    have hBlock := hGrown.isBlock_of_between hInner hOuter hNe
    rw [hTarget, IntroductionForm.target, if_pos hOtherVar, hGrown.isBlock_hoistTarget] at hBlock
    cases hBlock
  rw [IntroductionForm.target, if_neg hStays] at hTarget
  refine ⟨(introduction, nearer), hZip, hIsVar, hStays, hOwnName.symm.trans hName, ?_⟩
  exact ⟨scope, own.scope, hScope, hTarget ▸ hHolds.scopeOf?, hInner, hOuter, hNe⟩

/-- A name that is introduced is found where it is on record unless it is hidden. -/
theorem agrees_iff_not_hides (hGrown : unit.scopes.Grown)
    (hBound : List.Forall₂ unit.Introduces introductions bound)
    (hAll : ∀ (variableId : VariableId) (v : Variable), unit.scopes.vars[variableId]? = some v →
      ∃ id ∈ v.references, id ∈ bound) (hMem : introduced ∈ introductions.zip bound) :
    unit.Agrees introduced.2 ↔ ∀ other ∈ introductions.zip bound, ¬unit.Hides other introduced := by
  have hIntroduced := introduces_of_mem_zip hBound hMem
  obtain ⟨scope, hScope⟩ : ∃ scope, unit.tree.scopeOf? introduced.2 = some scope := by
    obtain ⟨place, -, -, hHolds, -⟩ := hIntroduced
    exact ⟨place, hHolds.scopeOf?⟩
  rw [hIntroduced.agrees_iff hGrown hScope]
  constructor
  · intro hNone other hOther hHides
    obtain ⟨place, middle, hPlace, hMiddle, hInner, hOuter, hNe⟩ := hHides.between
    obtain rfl := Option.some.inj (hScope.symm.trans hPlace)
    have hSome := hHides.isSome_declared? hGrown (introduces_of_mem_zip hBound hOther) hMiddle
    rw [IntroductionForm.target, if_pos hHides.isVar] at hNone
    rw [hNone middle hInner hOuter hNe] at hSome
    cases hSome
  · intro hNone between hInner hOuter hNe
    rw [IntroductionForm.target] at hOuter hNe
    split at hOuter
    · next hIsVar =>
        rw [if_pos hIsVar] at hNe
        rw [← Option.not_isSome_iff_eq_none]
        intro hSome
        obtain ⟨other, hOther, hHides⟩ :=
          exists_hides hGrown hBound hAll hIsVar hScope hInner hOuter hNe hSome
        exact hNone other hOther hHides
    · next hStays =>
        -- everything else is on record where it stands
        rw [if_neg hStays] at hNe
        exact absurd (hGrown.encloses_antisymm hInner hOuter) hNe

end introductions

end SourceUnit

/-- Every identifier of a program stands for a name that is used or for one that is introduced. A
used name is on record for the variable that a lookup at its place finds, and for no other. So is a
name that is introduced, but for a `var` that is hidden: one whose name is introduced once more, and
not with `var`, in a block between the place of the `var` and its function. -/
theorem Program.records_agree_iff (program : Program) (file source : String) :
    let unit := program.toUnit file source
    ∃ bound used : List NodeId, (bound ++ used).Perm unit.tree.identifiers ∧
      List.Forall₂ unit.Introduces program.phrase.introductions bound ∧
      List.Forall₂ unit.Settled program.phrase.uses used ∧
      (∀ id ∈ used, unit.Agrees id) ∧
      (∀ introduced ∈ program.phrase.introductions.zip bound, unit.Agrees introduced.2 ↔
        ∀ other ∈ program.phrase.introductions.zip bound, ¬unit.Hides other introduced) ∧
      ((∀ id ∈ unit.tree.identifiers, unit.Agrees id) ↔
        ∀ introduced ∈ program.phrase.introductions.zip bound,
          ∀ other ∈ program.phrase.introductions.zip bound, ¬unit.Hides other introduced) := by
  intro unit
  obtain ⟨root, waiting, hRenders, hOccurs⟩ := program.outline.exists_bound_toUnit file source
  obtain ⟨hRecorded, hNamed⟩ := program.outline.recorded_toUnit file source
  have hNodup := hRecorded.nodup_iff.mpr unit.tree.nodup_identifiers
  obtain ⟨bound, used, hPerm, hBound, hWaits, hUsed⟩ := hRenders.exists_introductions hNodup
  have hAll : ∀ (variableId : VariableId) (v : Variable), unit.scopes.vars[variableId]? = some v →
      ∃ id ∈ v.references, id ∈ bound := by
    intro variableId v hVar
    obtain ⟨id, hMem, hNew⟩ := hOccurs variableId v hVar
    have hIdentifier : id ∈ bound ++ used :=
      hPerm.mem_iff.mpr (SyntaxTree.mem_identifiers_iff.mpr ⟨_, hNamed variableId v hVar id hMem⟩)
    exact ⟨id, hMem, (List.mem_append.mp hIdentifier).resolve_right fun hIn => hNew (hWaits hIn)⟩
  have hUses : ∀ id ∈ used, unit.Agrees id := by
    intro id hMem
    obtain ⟨name, -, hSettled⟩ := exists_of_forall₂ hUsed.flip hMem
    exact SourceUnit.Settled.agrees hSettled
  have hEach : ∀ introduced ∈ program.phrase.introductions.zip bound, unit.Agrees introduced.2 ↔
      ∀ other ∈ program.phrase.introductions.zip bound, ¬unit.Hides other introduced := by
    intro introduced hMem
    exact SourceUnit.agrees_iff_not_hides hRenders.grown.scopes hBound hAll hMem
  refine ⟨bound, used, hPerm, hBound, hUsed, hUses, hEach, ?_⟩
  constructor
  · intro hAgrees introduced hMem
    refine (hEach introduced hMem).mp (hAgrees introduced.2 ?_)
    exact hPerm.mem_iff.mp (List.mem_append_left _ (List.of_mem_zip hMem).2)
  · intro hNone id hMem
    rcases List.mem_append.mp (hPerm.mem_iff.mpr hMem) with hIn | hIn
    · obtain ⟨introduction, hZip⟩ := SourceUnit.exists_mem_zip hBound hIn
      exact (hEach _ hZip).mpr (hNone _ hZip)
    · exact hUses id hIn

/-- `try {} catch (e) { var e = {}; <Box a={e} />; }` -/
def Program.catchParameterAgain : Program where
  body := .cons (.tryCatch (.block .nil ⟨4, 6⟩)
    (.present (.handler (.present (.boundName ⟨"e", ⟨14, 15⟩⟩))
      (.block
        (.cons (.variableDecl (.variableList .var
            (.cons (.declare (.boundName ⟨"e", ⟨23, 24⟩⟩) (.present (.object .nil ⟨27, 29⟩))
              ⟨23, 29⟩) .nil) ⟨19, 30⟩))
          (.cons (.expression (.jsxExpr (.element (.plain "Box" ⟨32, 35⟩)
            (.cons (.namedAttribute "a"
              (.present (.container (.present (.identifier ⟨"e", ⟨39, 40⟩⟩)) ⟨38, 41⟩)) ⟨36, 41⟩) .nil)
            ⟨31, 44⟩ .nil ⟨31, 44⟩)) ⟨31, 45⟩) .nil)) ⟨17, 47⟩)
      ⟨7, 47⟩))
    .absent ⟨0, 47⟩) .nil
  span := ⟨0, 47⟩

/-- The `var` is on record in the module scope, and a lookup at its place finds the parameter of the
`catch` clause. -/
theorem Program.catchParameterAgain_disagrees :
    let unit := catchParameterAgain.toUnit "test.jsx" ""
    ¬∀ id ∈ unit.tree.identifiers, unit.Agrees id := by
  intro unit hAgrees
  have hKind : unit.tree.kind? 2 = some (.identifier "e") := by decide +kernel
  have hIdentifier : 2 ∈ unit.tree.identifiers := SyntaxTree.mem_identifiers_iff.mpr ⟨"e", hKind⟩
  have hRecorded : 2 ∈ unit.scopes.references 1 := by decide +kernel
  have hLookup : unit.lookup 2 "e" = some 0 := by decide +kernel
  have hFound := (hAgrees 2 hIdentifier "e" hKind 1).mp hRecorded
  simp [hLookup] at hFound

end PropTrace
