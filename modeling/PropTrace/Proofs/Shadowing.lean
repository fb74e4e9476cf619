import PropTrace.Proofs.Bindings
import PropTrace.Proofs.Records

/-!
Shadowing. A use stands under constructs that open regions. If a region at or inside a construct has
the name of the use, the use stands for a variable of that region or of one further inside, and
nothing outside of the construct reaches it. Otherwise the use stands for whatever its name stands
for where the construct itself stands.
-/
namespace PropTrace

/-- The uses of a part that lowering enters are uses of the phrase, with one more frame around. -/
theorem Phrase.mem_usesUnder_of_part {phrase part : Phrase} {path : List Frame}
    {use : Name × List Frame} (hPart : part ∈ phrase.parts.filter Phrase.entered)
    (hUse : use ∈ part.usesUnder (⟨phrase, part⟩ :: path)) : use ∈ phrase.usesUnder path := by
  rw [usesUnder_eq]
  exact List.mem_append_right _ (List.mem_flatMap.mpr ⟨part, hPart, hUse⟩)

theorem Phrase.mem_usesUnder_of_usedName? {phrase : Phrase} {name : Name}
    (hName : phrase.content.usedName? = some name) (path : List Frame) :
    (name, path) ∈ phrase.usesUnder path := by
  rw [usesUnder_eq, hName]
  exact List.mem_cons_self

theorem Frame.exists_mem_records_iff {path : List Frame} {name : String} :
    (∃ frame ∈ path, name ∈ frame.records) ↔
      ∃ region ∈ path.filterMap Frame.region?, name ∈ region.names := by
  simp only [mem_records_iff, List.mem_filterMap]
  constructor
  · rintro ⟨frame, hMem, region, hRegion, hName⟩
    exact ⟨region, ⟨frame, hMem, hRegion⟩, hName⟩
  · rintro ⟨region, ⟨frame, hMem, hRegion⟩, hName⟩
    exact ⟨frame, hMem, region, hRegion, hName⟩

namespace SourceUnit

variable {unit : SourceUnit} {use : NodeId} {region : Region} {regions inner outer : List Region}
  {start middle scope outside : ScopeId} {name : String} {id : VariableId} {v : Variable}

theorem Opened.parent? (h : unit.Opened use region outside scope) :
    unit.scopes.parent? scope = some outside := by
  obtain ⟨names, hScope⟩ := h.scope
  simp [ScopeTree.parent?, hScope]

theorem Opened.declared?_eq_none (h : unit.Opened use region outside scope)
    (hName : name ∉ region.names) : unit.scopes.declared? scope name = none := by
  rw [← Option.not_isSome_iff_eq_none, h.named]
  exact hName

/-- Regions in a row lead first through the outer ones. -/
theorem opens_append_iff :
    unit.Opens use (inner ++ outer) start scope ↔
      ∃ middle, unit.Opens use outer start middle ∧ unit.Opens use inner middle scope := by
  induction inner generalizing scope with
  | nil =>
      constructor
      · intro h
        exact ⟨scope, h, .nil scope⟩
      · rintro ⟨middle, hOuter, hInner⟩
        cases hInner
        exact hOuter
  | cons region inner ih =>
      constructor
      · rintro (_ | ⟨hAbove, hOpened⟩)
        obtain ⟨middle, hOuter, hInner⟩ := ih.mp hAbove
        exact ⟨middle, hOuter, .cons hInner hOpened⟩
      · rintro ⟨middle, hOuter, _ | ⟨hAbove, hOpened⟩⟩
        exact .cons (ih.mpr ⟨middle, hOuter, hAbove⟩) hOpened

theorem Opens.encloses (h : unit.Opens use regions outside scope) :
    unit.scopes.Encloses outside scope := by
  induction h with
  | nil scope => exact .refl
  | cons above opened ih => exact .head opened.parent? ih

/-- The scope at the inner end tells where the regions start. -/
theorem Opens.unique {other : ScopeId} (h : unit.Opens use regions outside scope)
    (hOther : unit.Opens use regions other scope) : outside = other := by
  induction h with
  | nil scope =>
      cases hOther
      rfl
  | cons above opened ih =>
      cases hOther with
      | cons hAbove hOpened =>
          obtain rfl := Option.some.inj (opened.parent?.symm.trans hOpened.parent?)
          exact ih hAbove

/-- Regions without the name change nothing about it. -/
theorem Opens.lookup_eq (h : unit.Opens use regions outside scope) (hGrown : unit.scopes.Grown)
    (hNone : ∀ region ∈ regions, name ∉ region.names) :
    unit.scopes.lookup scope name = unit.scopes.lookup outside name := by
  induction h with
  | nil scope => rfl
  | cons above opened ih =>
      rw [hGrown.lookup_eq, opened.parent?,
        opened.declared?_eq_none (hNone _ List.mem_cons_self), Option.none_or, Option.bind_some]
      exact ih fun region hMem => hNone region (List.mem_cons_of_mem _ hMem)

/-- A region with the name keeps variables of the scopes outside of it away. -/
theorem Opens.not_encloses_of_mem (h : unit.Opens use regions outside scope)
    (hGrown : unit.scopes.Grown) (hSome : ∃ region ∈ regions, name ∈ region.names)
    (hLookup : unit.scopes.lookup scope name = some id)
    (hVar : unit.scopes.vars[id]? = some v) : ¬unit.scopes.Encloses v.scope outside := by
  induction h with
  | nil => simp at hSome
  | @cons region regions outside outer scope above opened ih =>
      rw [hGrown.lookup_eq, opened.parent?] at hLookup
      cases hDeclared : unit.scopes.declared? scope name with
      | some found =>
          -- the variable belongs to the scope of this region, which is newer than those outside
          obtain rfl : found = id := by simpa [hDeclared] using hLookup
          obtain ⟨w, hFound, hScope, -⟩ := hGrown.declared?_eq_some_iff.mp hDeclared
          obtain rfl := Option.some.inj (hVar.symm.trans hFound)
          intro hEncloses
          have hBelow := hGrown.encloses_le (hScope ▸ hEncloses)
          have hAbove := hGrown.encloses_le above.encloses
          have hParent := hGrown.parent?_lt opened.parent?
          exact Nat.lt_irrefl _ (Nat.lt_of_lt_of_le hParent (Nat.le_trans hBelow hAbove))
      | none =>
          refine ih ?_ (by simpa [hDeclared] using hLookup)
          obtain ⟨other, hMem, hName⟩ := hSome
          rcases List.mem_cons.mp hMem with rfl | hMem
          · rw [← opened.named, hDeclared] at hName
            cases hName
          · exact ⟨other, hMem, hName⟩

/-- An identifier stands for no variable that is declared in `outside` or in a scope around it. -/
def Shielded (unit : SourceUnit) (use : NodeId) (outside : ScopeId) : Prop :=
  ∀ variableId v, unit.Reads use variableId → unit.scopes.vars[variableId]? = some v →
    ¬unit.scopes.Encloses v.scope outside

/-- An identifier reads what its name stands for in its scope. -/
theorem reads_iff {span : Span} (hHolds : unit.tree.Holds use (.identifier name) span scope) :
    unit.Reads use id ↔ unit.scopes.lookup scope name = some id := by
  obtain ⟨parent, hNode⟩ := hHolds
  simp [Reads, SyntaxTree.kind?, lookup, hNode]

/-- A use is shielded if one of the regions has its name, or if there is nothing to be shielded
from. -/
theorem shielded_iff {span : Span} (hGrown : unit.scopes.Grown)
    (hHolds : unit.tree.Holds use (.identifier name) span scope)
    (hOpens : unit.Opens use regions outside scope) :
    unit.Shielded use outside ↔
      (∃ region ∈ regions, name ∈ region.names) ∨ unit.scopes.lookup outside name = none := by
  simp only [Shielded, reads_iff hHolds]
  by_cases hNamed : ∃ region ∈ regions, name ∈ region.names
  · refine iff_of_true (fun variableId v hLookup hVar => ?_) (.inl hNamed)
    exact hOpens.not_encloses_of_mem hGrown hNamed hLookup hVar
  · rw [or_iff_right hNamed, hOpens.lookup_eq hGrown fun region hMem hName =>
      hNamed ⟨region, hMem, hName⟩]
    constructor
    · intro hShielded
      cases hLookup : unit.scopes.lookup outside name with
      | none => rfl
      | some variableId =>
          obtain ⟨v, hVar, -, hAround⟩ := hGrown.exists_var_of_lookup hLookup
          exact absurd hAround (hShielded variableId v hLookup hVar)
    · intro hNone variableId v hLookup
      rw [hNone] at hLookup
      cases hLookup

/-- The frames around a node, innermost first, lead from one scope into another. -/
def Leads (unit : SourceUnit) (use : NodeId) (path : List Frame) (outside scope : ScopeId) : Prop :=
  unit.Opens use (path.filterMap Frame.region?) outside scope

theorem leads_append_iff {inner outer : List Frame} :
    unit.Leads use (inner ++ outer) start scope ↔
      ∃ middle, unit.Leads use outer start middle ∧ unit.Leads use inner middle scope := by
  rw [Leads, List.filterMap_append, opens_append_iff]
  rfl

/-- Every origin of an identifier comes from a value that is written to its own variable and to none
that is declared in `outside` or in a scope around it. -/
def TakesNothingFrom (unit : SourceUnit) (use : NodeId) (outside : ScopeId) : Prop :=
  ∀ candidate ∈ unit.origins use, ∃ own value, unit.Reads use own ∧
    value ∈ unit.writtenValues own ∧ candidate ∈ unit.origins value ∧
      ∀ (other : VariableId) (v : Variable), unit.scopes.vars[other]? = some v →
        unit.scopes.Encloses v.scope outside → value ∉ unit.writtenValues other

namespace Renders

variable {outline : Outline} {root : NodeId} {uses : List NodeId}

/-- An identifier that waited to be resolved is on record for the variable it reads. -/
theorem mem_references_iff_reads (h : unit.Renders outline root uses)
    (hNodup : unit.scopes.recorded.Nodup) (hWaits : use ∈ uses) {span : Span}
    (hHolds : unit.tree.Holds use (.identifier name) span scope) (variableId : VariableId) :
    use ∈ unit.scopes.references variableId ↔ unit.Reads use variableId := by
  rw [((h.recorded use hWaits _ _ _ hHolds).iff hNodup).1 variableId, reads_iff hHolds]

/-- A value is written in one place, and so to one variable. -/
theorem eq_of_mem_writtenValues (h : unit.Renders outline root uses)
    (hNodup : unit.scopes.recorded.Nodup) {first second : VariableId} {value : NodeId}
    (hFirst : value ∈ unit.writtenValues first) (hSecond : value ∈ unit.writtenValues second) :
    first = second := by
  obtain ⟨reference, hOccurs, hTaken⟩ := mem_writtenValues.mp hFirst
  obtain ⟨other, hOther, hTakenToo⟩ := mem_writtenValues.mp hSecond
  obtain ⟨parent, kind, -, hKind, hWritten⟩ := SyntaxTree.assignedValue?_eq_some_iff.mp hTaken
  obtain ⟨place, kindThere, -, hKindThere, hWrittenThere⟩ :=
    SyntaxTree.assignedValue?_eq_some_iff.mp hTakenToo
  have hParent : unit.tree.parent? value = some parent := h.parent?_eq (by
    simpa [SyntaxTree.children, hKind] using (NodeKind.mem_children_of_written? hWritten).2)
  have hPlace : unit.tree.parent? value = some place := h.parent?_eq (by
    simpa [SyntaxTree.children, hKindThere] using
      (NodeKind.mem_children_of_written? hWrittenThere).2)
  obtain rfl := Option.some.inj (hParent.symm.trans hPlace)
  obtain rfl := Option.some.inj (hKind.symm.trans hKindThere)
  obtain ⟨rfl, -⟩ := Prod.mk.inj (Option.some.inj (hWritten.symm.trans hWrittenThere))
  exact ScopeTree.eq_of_mem_references hNodup hOccurs hOther

theorem takesNothingFrom (h : unit.Renders outline root uses)
    (hNodup : unit.scopes.recorded.Nodup) {span : Span}
    (hHolds : unit.tree.Holds use (.identifier name) span scope)
    (hShielded : unit.Shielded use outside) : unit.TakesNothingFrom use outside := by
  intro candidate hMem
  have hGrown : unit.Grown := ⟨h.grown.tree, h.grown.scopes⟩
  obtain ⟨hOrigin, hReaches⟩ := (mem_origins_iff hGrown).mp hMem
  rcases Relation.ReflTransGen.cases_head hReaches with rfl | ⟨value, hLeads, hRest⟩
  · obtain ⟨kind, hKind, hIsOrigin⟩ := hOrigin
    rw [hHolds.kind?] at hKind
    cases hKind
    cases hIsOrigin
  · cases hLeads with
    | left kind | right kind => simp [hHolds.kind?] at kind
    | consequent kind | alternate kind => simp [hHolds.kind?] at kind
    | @written reference _ _ own kind found occurs assigned =>
        have hWritten := mem_writtenValues.mpr ⟨reference, occurs, assigned⟩
        refine ⟨own, value, ⟨_, kind, found⟩, hWritten,
          (mem_origins_iff hGrown).mpr ⟨hOrigin, hRest⟩, ?_⟩
        intro other v hVar hAround hWrittenThere
        obtain rfl := h.eq_of_mem_writtenValues hNodup hWritten hWrittenThere
        exact hShielded own v ⟨_, kind, found⟩ hVar hAround

end Renders

/-- What a construct that stands in the scope `outside` does for a use of a name in it, with the
frames `inner` between the two. If the construct binds the name and puts it on record, the use is
shielded from what is declared outside. It is shielded exactly if this construct or one further
inside has the name on record, or if the name stands for nothing outside; and then no value comes
from there. -/
structure Shadows (unit : SourceUnit) (name : String) (use : NodeId) (inner : List Frame)
    (frame : Frame) (outside : ScopeId) : Prop where
  bound : name ∈ frame.binds → unit.Shielded use outside
  exactly : unit.Shielded use outside ↔
    (∃ nearer ∈ inner ++ [frame], name ∈ nearer.records) ∨
      unit.scopes.lookup outside name = none
  values : unit.Shielded use outside → unit.TakesNothingFrom use outside

/-- A property of a use and one construct around it: of the name, the identifier, the frames between
the two, the frame of the construct, and the scope that the construct stands in. -/
abbrev AroundUse := String → NodeId → List Frame → Frame → ScopeId → Prop

/-- An identifier stands for a use in the scope that the constructs around the use lead to, and a
property holds of the use and each of these constructs. -/
def UnderEach (unit : SourceUnit) (property : AroundUse) (use : Name × List Frame) (id : NodeId) :
    Prop :=
  ∃ scope, unit.tree.Holds id (.identifier use.1.text) use.1.span scope ∧
    ∀ inner frame outer, use.2 = inner ++ frame :: outer →
      ∃ outside, unit.Leads id outer ScopeTree.moduleScope outside ∧
        unit.Leads id (inner ++ [frame]) outside scope ∧
        property use.1.text id inner frame outside

/-- Names that a construct binds stand for nothing that is declared outside of it. -/
def Respects (unit : SourceUnit) : AroundUse := fun name id _ frame outside =>
  name ∈ frame.binds ++ frame.misses → unit.Shielded id outside

/-- Names that a construct binds without a record are on record further inside or stand for nothing
outside. -/
def Excuses (unit : SourceUnit) : AroundUse := fun name _ inner frame outside =>
  name ∈ frame.misses →
    (∃ nearer ∈ inner ++ [frame], name ∈ nearer.records) ∨
      unit.scopes.lookup outside name = none

/-- From two properties of all constructs around a use follows what follows for each of them. -/
theorem UnderEach.imp₂ {first second third : AroundUse} {use : Name × List Frame} {id : NodeId}
    (hFirst : unit.UnderEach first use id) (hSecond : unit.UnderEach second use id)
    (hImp : ∀ inner frame outside, first use.1.text id inner frame outside →
      second use.1.text id inner frame outside → third use.1.text id inner frame outside) :
    unit.UnderEach third use id := by
  obtain ⟨scope, ⟨parent, hNode⟩, hFirst⟩ := hFirst
  obtain ⟨other, ⟨parentToo, hNodeToo⟩, hSecond⟩ := hSecond
  obtain rfl : scope = other := by
    rw [hNode] at hNodeToo
    cases hNodeToo
    rfl
  refine ⟨scope, ⟨parent, hNode⟩, fun inner frame outer hPath => ?_⟩
  obtain ⟨outside, hOuter, hInner, hHolds⟩ := hFirst inner frame outer hPath
  obtain ⟨place, -, hInnerToo, hHoldsToo⟩ := hSecond inner frame outer hPath
  obtain rfl := hInner.unique hInnerToo
  exact ⟨outside, hOuter, hInner, hImp inner frame outside hHolds hHoldsToo⟩

/-- A construct shadows what stands around it exactly if the names it misses are excused. -/
theorem Shadows.respects_iff {inner : List Frame} {frame : Frame}
    (h : unit.Shadows name use inner frame outside) :
    unit.Respects name use inner frame outside ↔ unit.Excuses name use inner frame outside := by
  rw [Respects, Excuses, ← h.exactly, List.mem_append]
  constructor
  · intro hRespects hMisses
    exact hRespects (.inr hMisses)
  · rintro hExcuses (hBinds | hMisses)
    · exact h.bound hBinds
    · exact hExcuses hMisses

end SourceUnit

/-- Every construct around a use shadows what stands around the construct. -/
theorem SourceUnit.Renders.underEach_shadows {unit : SourceUnit} {outline : Outline}
    {root id : NodeId} {waiting : List NodeId} (h : unit.Renders outline root waiting)
    (hNodup : unit.scopes.recorded.Nodup) {use : Name × List Frame}
    (hUsed : unit.UsedAt ScopeTree.moduleScope (use.1, use.2.filterMap Frame.region?) id) :
    unit.UnderEach unit.Shadows use id := by
  obtain ⟨scope, hHolds, hOpens⟩ := hUsed
  refine ⟨scope, hHolds, fun inner frame outer hPath => ?_⟩
  have hLeads : unit.Leads id (inner ++ [frame] ++ outer) ScopeTree.moduleScope scope := by
    rw [List.append_assoc, List.singleton_append, ← hPath]
    exact hOpens
  obtain ⟨outside, hOuter, hInner⟩ := leads_append_iff.mp hLeads
  have hExactly := shielded_iff h.grown.scopes hHolds hInner
  rw [← Frame.exists_mem_records_iff] at hExactly
  refine ⟨outside, hOuter, hInner, ?_, hExactly, h.takesNothingFrom hNodup hHolds⟩
  intro hBinds
  refine hExactly.mpr (.inl ⟨frame, ?_, frame.binds_subset_records hBinds⟩)
  exact List.mem_append_right _ List.mem_cons_self

/-- Every use of a program has an identifier of its own, in the order of the source, on record for
the variable it reads. A construct around the use that binds its name and puts it on record shields
it from whatever is declared outside of the construct. Of all names that constructs bind this holds
if and only if those that are bound without a record are excused. -/
theorem Program.shadowing_respected_iff (program : Program) (file source : String) :
    let unit := program.toUnit file source
    let uses := program.phrase.usesUnder []
    uses.map Prod.fst = program.phrase.uses ∧ ∃ ids : List NodeId, ids.Pairwise (· < ·) ∧
      (∀ id ∈ ids, ∀ variableId,
        id ∈ unit.scopes.references variableId ↔ unit.Reads id variableId) ∧
      List.Forall₂ (unit.UnderEach unit.Shadows) uses ids ∧
      (List.Forall₂ (unit.UnderEach unit.Respects) uses ids ↔
        List.Forall₂ (unit.UnderEach unit.Excuses) uses ids) := by
  intro unit uses
  obtain ⟨root, ids, hRenders, hAscending, hUsed⟩ := program.outline.usedAt_toUnit file source
  obtain ⟨hPerm, -⟩ := program.outline.recorded_toUnit file source
  have hNodup := hPerm.nodup_iff.mpr unit.tree.nodup_identifiers
  have hUses : Outline.usesUnder [] program.outline =
      uses.map (Prod.map id fun path => path.filterMap Frame.region?) := by
    rw [← Phrase.usesAllUnder_eq_map]
    rfl
  rw [hUses, List.forall₂_map_left_iff] at hUsed
  have hShadows : List.Forall₂ (unit.UnderEach unit.Shadows) uses ids :=
    hUsed.imp fun use id hAt => hRenders.underEach_shadows hNodup hAt
  refine ⟨program.phrase.map_fst_usesUnder [], ids, hAscending, fun id hMem variableId => ?_,
    hShadows, ?_⟩
  · obtain ⟨use, -, scope, hHolds, -⟩ := exists_of_forall₂ hShadows.flip hMem
    exact hRenders.mem_references_iff_reads hNodup hMem hHolds variableId
  · constructor
    · exact hShadows.mp fun use id hShadows hRespects =>
        hShadows.imp₂ hRespects fun _ _ _ hHere => hHere.respects_iff.mp
    · exact hShadows.mp fun use id hShadows hExcuses =>
        hShadows.imp₂ hExcuses fun _ _ _ hHere => hHere.respects_iff.mpr

/-- `let A = []; (class A { b = <Box a={A} />; });` -/
def Program.classNamedAgain : Program where
  body := .cons (.variableDecl (.variableList .lexical
      (.cons (.declare (.boundName ⟨"A", ⟨4, 5⟩⟩) (.present (.array .nil ⟨8, 10⟩)) ⟨4, 10⟩) .nil)
      ⟨0, 11⟩))
    (.cons (.expression (.wrapped .parentheses (.classExpr (.classBody .expression .nil
      (some ⟨"A", ⟨19, 20⟩⟩) .absent
      (.cons (.field .nil .absent (.present (.jsxExpr (.element (.plain "Box" ⟨28, 31⟩)
        (.cons (.namedAttribute "a"
          (.present (.container (.present (.identifier ⟨"A", ⟨35, 36⟩⟩)) ⟨34, 37⟩)) ⟨32, 37⟩) .nil)
        ⟨27, 40⟩ .nil ⟨27, 40⟩)))) .nil)
      ⟨13, 43⟩)) ⟨12, 44⟩) ⟨12, 45⟩) .nil)
  span := ⟨0, 45⟩

open Phrase in
/-- No construct around the use of `A` opens a region, and the class binds `A` without a record. -/
theorem Program.exists_path_classNamedAgain :
    ∃ path, (Name.mk "A" ⟨35, 36⟩, path) ∈ classNamedAgain.phrase.usesUnder [] ∧
      (∀ frame ∈ path, frame.region? = none) ∧ ∃ frame ∈ path, "A" ∈ frame.misses := by
  refine ⟨_, mem_usesUnder_of_part (.tail _ (.head _)) <| mem_usesUnder_of_part (.head _) <|
    mem_usesUnder_of_part (.head _) <| mem_usesUnder_of_part (.head _) <|
    mem_usesUnder_of_part (.head _) <| mem_usesUnder_of_part (.tail _ (.head _)) <|
    mem_usesUnder_of_part (.head _) <| mem_usesUnder_of_part (.head _) <|
    mem_usesUnder_of_part (.head _) <| mem_usesUnder_of_part (.head _) <|
    mem_usesUnder_of_part (.head _) <| mem_usesUnder_of_part (.head _) <|
    mem_usesUnder_of_part (.head _) <| mem_usesUnder_of_part (.head _) <|
    mem_usesUnder_of_part (.head _) <| mem_usesUnder_of_part (.head _) <|
    mem_usesUnder_of_usedName? rfl _, ?_, ?_⟩
  · decide
  · decide

/-- The own name of a class expression stands for the variable around it. -/
theorem Program.classNamedAgain_reads_around :
    let unit := classNamedAgain.toUnit "test.jsx" ""
    ¬∃ ids, List.Forall₂ (unit.UnderEach unit.Respects) (classNamedAgain.phrase.usesUnder [])
      ids := by
  rintro unit ⟨ids, hAll⟩
  obtain ⟨path, hUse, hNone, frame, hFrame, hMisses⟩ := exists_path_classNamedAgain
  obtain ⟨id, -, scope, hHolds, hEach⟩ := exists_of_forall₂ hAll hUse
  obtain ⟨inner, outer, rfl⟩ := List.append_of_mem hFrame
  obtain ⟨outside, hOuter, hInner, hRespects⟩ := hEach inner frame outer rfl
  have hShielded := hRespects (List.mem_append_right _ hMisses)
  have hGrown : unit.scopes.Grown := by
    obtain ⟨root, uses, hRenders⟩ := classNamedAgain.renders_toUnit "test.jsx" ""
    exact hRenders.grown.scopes
  -- without regions the class stands in the module scope, and so does the use
  have hNoRegion : ∀ frames ⊆ inner ++ frame :: outer, frames.filterMap Frame.region? = [] :=
    fun frames hSubset => List.filterMap_eq_nil_iff.mpr fun other hMem => hNone other (hSubset hMem)
  rw [SourceUnit.Leads, hNoRegion outer (by simp)] at hOuter
  cases hOuter
  rw [SourceUnit.shielded_iff hGrown hHolds hInner, hNoRegion _ (by simp)] at hShielded
  have hFound : unit.scopes.lookup ScopeTree.moduleScope "A" = some 0 := by decide
  simp [hFound] at hShielded

end PropTrace
