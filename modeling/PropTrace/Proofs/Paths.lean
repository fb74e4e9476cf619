import Mathlib.Data.Set.Card
import PropTrace.Proofs.Nesting
import PropTrace.Proofs.Records

/-!
The paths behind the origins of an expression. A path goes from an expression to an origin, and
every node on it but the last offers numbered choices. The search lists the end points of the paths
that read no variable twice, one for each path, in the lexicographic order of their choices.
-/
namespace PropTrace

namespace SourceUnit

/-- A path from a node to an origin, with the choices made on it and the variables read on it. The
first of two branches is choice 0 and the second choice 1. At an identifier a choice is the position
of an occurrence in the list of its variable, if a value is written there. -/
inductive Path (unit : SourceUnit) : NodeId → List Nat → List VariableId → NodeId → Prop where
  | ends {id : NodeId} (origin : unit.tree.IsOrigin id) : Path unit id [] [] id
  | left {id left right stop : NodeId} {operator : LogicalOperator} {choices : List Nat}
      {read : List VariableId} (kind : unit.tree.kind? id = some (.logical operator left right))
      (rest : Path unit left choices read stop) : Path unit id (0 :: choices) read stop
  | right {id left right stop : NodeId} {operator : LogicalOperator} {choices : List Nat}
      {read : List VariableId} (kind : unit.tree.kind? id = some (.logical operator left right))
      (rest : Path unit right choices read stop) : Path unit id (1 :: choices) read stop
  | consequent {id test consequent alternate stop : NodeId} {choices : List Nat}
      {read : List VariableId}
      (kind : unit.tree.kind? id = some (.conditional test consequent alternate))
      (rest : Path unit consequent choices read stop) : Path unit id (0 :: choices) read stop
  | alternate {id test consequent alternate stop : NodeId} {choices : List Nat}
      {read : List VariableId}
      (kind : unit.tree.kind? id = some (.conditional test consequent alternate))
      (rest : Path unit alternate choices read stop) : Path unit id (1 :: choices) read stop
  | written {id reference value stop : NodeId} {name : String} {variableId : VariableId}
      {position : Nat} {choices : List Nat} {read : List VariableId}
      (kind : unit.tree.kind? id = some (.identifier name))
      (found : unit.lookup id name = some variableId)
      (occurs : (unit.scopes.references variableId)[position]? = some reference)
      (assigned : unit.tree.assignedValue? reference = some value)
      (rest : Path unit value choices read stop) :
      Path unit id (position :: choices) (variableId :: read) stop

/-- A path that reads no variable twice. -/
def SimplePath (unit : SourceUnit) (id : NodeId) (choices : List Nat) (stop : NodeId) : Prop :=
  ∃ read, unit.Path id choices read stop ∧ read.Nodup

/-- A path from the node of a call that reads no variable twice and none that the call follows. -/
def FreshPath (unit : SourceUnit) (call : Call) (choices : List Nat) (stop : NodeId) : Prop :=
  ∃ read, unit.Path call.id choices read stop ∧ read.Nodup ∧
    ∀ variableId ∈ read, variableId ∉ call.following

/-- The calls that a call makes itself, each with the choice that leads to it. -/
def numberedCalls (unit : SourceUnit) (call : Call) : List (Nat × Call) :=
  match unit.tree.kind? call.id with
  | some (.identifier name) =>
    match unit.lookup call.id name with
    | none => []
    | some written =>
      if written ∈ call.following then []
      else (unit.scopes.references written).zipIdx.filterMap fun (reference, position) =>
        (unit.tree.assignedValue? reference).map fun value =>
          (position, ⟨written :: call.following, value⟩)
  | some (.logical _ left right) => [(0, ⟨call.following, left⟩), (1, ⟨call.following, right⟩)]
  | some (.conditional _ consequent alternate) =>
    [(0, ⟨call.following, consequent⟩), (1, ⟨call.following, alternate⟩)]
  | _ => []

/-- The search once more, with the choices on the way to each origin. -/
def pathsWithin (unit : SourceUnit) : Nat → Call → List (List Nat × NodeId)
  | 0, _ => []
  | depth + 1, call =>
    if unit.answersItself call then [([], call.id)]
    else (unit.numberedCalls call).flatMap fun (choice, next) =>
      (unit.pathsWithin depth next).map fun (choices, stop) => (choice :: choices, stop)

variable {unit : SourceUnit} {call next : Call} {choice : Nat} {choices : List Nat} {stop : NodeId}

/-- A value written to a variable is assigned at an occurrence with a position. -/
theorem writtenValues_eq (unit : SourceUnit) (variableId : VariableId) :
    unit.writtenValues variableId = (unit.scopes.references variableId).zipIdx.filterMap
      fun occurrence => unit.tree.assignedValue? occurrence.1 := by
  conv => lhs; rw [writtenValues, ← List.zipIdx_map_fst 0 (unit.scopes.references variableId)]
  rw [List.filterMap_map]
  rfl

theorem map_snd_numberedCalls (unit : SourceUnit) (call : Call) :
    (unit.numberedCalls call).map Prod.snd = unit.nestedCalls call := by
  rw [numberedCalls, nestedCalls]
  cases hKind : unit.tree.kind? call.id with
  | none => rfl
  | some kind =>
      cases kind with
      | identifier name =>
          cases hFound : unit.lookup call.id name with
          | none => simp [hFound]
          | some written =>
              by_cases hFollowed : written ∈ call.following
              · simp [hFound, hFollowed]
              · simp only [hFound, if_neg hFollowed, writtenValues_eq, List.map_filterMap]
                apply List.filterMap_congr
                rintro ⟨reference, position⟩ -
                cases unit.tree.assignedValue? reference <;> rfl
      | _ => rfl

theorem mem_nestedCalls_of_numbered (h : (choice, next) ∈ unit.numberedCalls call) :
    next ∈ unit.nestedCalls call := by
  rw [← map_snd_numberedCalls]
  exact List.mem_map.mpr ⟨(choice, next), h, rfl⟩

/-- The choices at a node ascend. -/
theorem numberedCalls_ascend (unit : SourceUnit) (call : Call) :
    (unit.numberedCalls call).Pairwise fun first second => first.1 < second.1 := by
  rw [numberedCalls]
  split
  · split
    · exact .nil
    · next written _ =>
        split
        · exact .nil
        · have hPositions : (unit.scopes.references written).zipIdx.Pairwise
              fun first second => first.2 < second.2 := by
            rw [← List.pairwise_map (f := Prod.snd), List.zipIdx_map_snd]
            exact List.pairwise_lt_range'
          rw [List.pairwise_filterMap]
          apply hPositions.imp
          intro first second hLt a hFirst b hSecond
          obtain ⟨value, -, rfl⟩ := Option.map_eq_some_iff.mp hFirst
          obtain ⟨other, -, rfl⟩ := Option.map_eq_some_iff.mp hSecond
          exact hLt
  · simp
  · simp
  · exact .nil

/-- A call that answers itself makes no calls. -/
theorem numberedCalls_of_answersItself (h : unit.answersItself call) :
    unit.numberedCalls call = [] := by
  rw [answersItself] at h
  rw [numberedCalls]
  cases hKind : unit.tree.kind? call.id with
  | none => rfl
  | some kind => cases kind <;> simp_all [NodeKind.isOrigin]

theorem answersItself_iff : unit.answersItself call ↔ unit.tree.IsOrigin call.id := by
  rw [answersItself, SyntaxTree.IsOrigin]
  cases unit.tree.kind? call.id <;> simp

/-- The only path without a choice stays at the node. -/
theorem freshPath_nil_iff :
    unit.FreshPath call [] stop ↔ unit.answersItself call ∧ stop = call.id := by
  rw [answersItself_iff]
  constructor
  · rintro ⟨read, hPath, -⟩
    cases hPath with
    | ends origin => exact ⟨origin, rfl⟩
  · rintro ⟨hOrigin, rfl⟩
    exact ⟨[], .ends hOrigin, List.nodup_nil, by simp⟩

/-- A call at an identifier goes on at the values written to the variable unless it follows the
variable already. -/
theorem mem_numberedCalls_iff_of_identifier {name : String} {written : VariableId}
    (hKind : unit.tree.kind? call.id = some (.identifier name))
    (hFound : unit.lookup call.id name = some written) :
    (choice, next) ∈ unit.numberedCalls call ↔ written ∉ call.following ∧
      ∃ reference value, (unit.scopes.references written)[choice]? = some reference ∧
        unit.tree.assignedValue? reference = some value ∧
        next = ⟨written :: call.following, value⟩ := by
  simp only [numberedCalls, hKind, hFound]
  constructor
  · intro hNext
    split at hNext
    · cases hNext
    · next hNew =>
        obtain ⟨⟨reference, position⟩, hOccurs, hCall⟩ := List.mem_filterMap.mp hNext
        obtain ⟨value, hAssigned, hPair⟩ := Option.map_eq_some_iff.mp hCall
        cases hPair
        exact ⟨hNew, reference, value, List.mk_mem_zipIdx_iff_getElem?.mp hOccurs, hAssigned, rfl⟩
  · rintro ⟨hNew, reference, value, hOccurs, hAssigned, rfl⟩
    rw [if_neg hNew, List.mem_filterMap]
    exact ⟨(reference, choice), List.mk_mem_zipIdx_iff_getElem?.mpr hOccurs, by simp [hAssigned]⟩

/-- A path with a choice goes on as a path of the call that the choice leads to. -/
theorem FreshPath.exists_call (h : unit.FreshPath call (choice :: choices) stop) :
    ∃ next, (choice, next) ∈ unit.numberedCalls call ∧ unit.FreshPath next choices stop := by
  obtain ⟨read, hPath, hNodup, hFresh⟩ := h
  cases hPath with
  | left kind rest | right kind rest | consequent kind rest | alternate kind rest =>
      exact ⟨⟨call.following, _⟩, by simp [numberedCalls, kind], _, rest, hNodup, hFresh⟩
  | @written _ reference value _ name variableId _ _ read kind found occurs assigned rest =>
      obtain ⟨hOnce, hNodup⟩ := List.nodup_cons.mp hNodup
      obtain ⟨hNew, hFresh⟩ := List.forall_mem_cons.mp hFresh
      refine ⟨⟨variableId :: call.following, value⟩, ?_, read, rest, hNodup, ?_⟩
      · apply (mem_numberedCalls_iff_of_identifier kind found).mpr
        exact ⟨hNew, reference, value, occurs, assigned, rfl⟩
      · intro other hOther
        apply List.not_mem_cons_of_ne_of_not_mem
        · rintro rfl
          exact hOnce hOther
        · exact hFresh other hOther

/-- A path of a call that a choice leads to is the rest of a path with that choice. -/
theorem FreshPath.of_call (hNext : (choice, next) ∈ unit.numberedCalls call)
    (h : unit.FreshPath next choices stop) : unit.FreshPath call (choice :: choices) stop := by
  obtain ⟨read, hPath, hNodup, hFresh⟩ := h
  cases hKind : unit.tree.kind? call.id with
  | none => simp [numberedCalls, hKind] at hNext
  | some kind =>
      cases kind with
      | identifier name =>
          cases hFound : unit.lookup call.id name with
          | none => simp [numberedCalls, hKind, hFound] at hNext
          | some written =>
              obtain ⟨hNew, reference, value, hOccurs, hAssigned, rfl⟩ :=
                (mem_numberedCalls_iff_of_identifier hKind hFound).mp hNext
              have hOnce : written ∉ read := fun hMem => hFresh written hMem List.mem_cons_self
              refine ⟨written :: read, .written hKind hFound hOccurs hAssigned hPath,
                List.nodup_cons.mpr ⟨hOnce, hNodup⟩, ?_⟩
              intro other hOther
              rcases List.mem_cons.mp hOther with rfl | hOther
              · exact hNew
              · exact fun hMem => hFresh other hOther (List.mem_cons_of_mem _ hMem)
      | logical operator left right =>
          rw [numberedCalls, hKind] at hNext
          rcases List.mem_pair.mp hNext with hPair | hPair
          · cases hPair
            exact ⟨read, .left hKind hPath, hNodup, hFresh⟩
          · cases hPair
            exact ⟨read, .right hKind hPath, hNodup, hFresh⟩
      | conditional test consequent alternate =>
          rw [numberedCalls, hKind] at hNext
          rcases List.mem_pair.mp hNext with hPair | hPair
          · cases hPair
            exact ⟨read, .consequent hKind hPath, hNodup, hFresh⟩
          · cases hPair
            exact ⟨read, .alternate hKind hPath, hNodup, hFresh⟩
      | _ => simp [numberedCalls, hKind] at hNext

theorem freshPath_cons_iff : unit.FreshPath call (choice :: choices) stop ↔
    ∃ next, (choice, next) ∈ unit.numberedCalls call ∧ unit.FreshPath next choices stop := by
  constructor
  · exact FreshPath.exists_call
  · rintro ⟨next, hNext, hRest⟩
    exact hRest.of_call hNext

/-- The end points of the paths are what the search lists, in the same order. -/
theorem map_snd_pathsWithin (unit : SourceUnit) (depth : Nat) (call : Call) :
    (unit.pathsWithin depth call).map Prod.snd =
      unit.originsWithin depth call.following call.id := by
  induction depth generalizing call with
  | zero => rfl
  | succ depth ih =>
      rw [pathsWithin, originsWithin_succ]
      split
      · rfl
      · rw [← map_snd_numberedCalls, List.flatMap_map, List.map_flatMap]
        apply List.flatMap_congr
        rintro ⟨choice, next⟩ -
        rw [← ih next, List.map_map]
        rfl

/-- The paths come in the lexicographic order of their choices. -/
theorem pathsWithin_ascend (unit : SourceUnit) (depth : Nat) (call : Call) :
    (unit.pathsWithin depth call).Pairwise fun first second => first.1 < second.1 := by
  induction depth generalizing call with
  | zero => exact .nil
  | succ depth ih =>
      rw [pathsWithin]
      split
      · exact List.pairwise_singleton _ _
      · rw [List.pairwise_flatMap]
        constructor
        · rintro ⟨choice, next⟩ -
          rw [List.pairwise_map]
          apply (ih next).imp
          intro first second hLt
          exact List.cons_lt_cons_iff.mpr (.inr ⟨rfl, hLt⟩)
        · apply (unit.numberedCalls_ascend call).imp
          rintro ⟨choice, next⟩ ⟨other, later⟩ hLt first hFirst second hSecond
          obtain ⟨path, -, rfl⟩ := List.mem_map.mp hFirst
          obtain ⟨path', -, rfl⟩ := List.mem_map.mp hSecond
          exact List.cons_lt_cons_iff.mpr (.inl hLt)

/-- A search that has room for all its calls lists every path of its call, and nothing else. -/
theorem Call.Fits.mem_pathsWithin_iff (hGrown : unit.Grown) (h : call.Fits unit) {depth : Nat}
    (hDepth : unit.room call.following call.id ≤ depth) :
    (choices, stop) ∈ unit.pathsWithin depth call ↔ unit.FreshPath call choices stop := by
  induction depth generalizing call choices with
  | zero => simp [room] at hDepth
  | succ depth ih =>
      have hNext : ∀ {choice : Nat} {next : Call} {rest : List Nat},
          (choice, next) ∈ unit.numberedCalls call →
            ((rest, stop) ∈ unit.pathsWithin depth next ↔ unit.FreshPath next rest stop) := by
        intro choice next rest hMem
        obtain ⟨hFits, hRoom⟩ := h.nested hGrown (mem_nestedCalls_of_numbered hMem)
        exact ih hFits (by omega)
      rw [pathsWithin]
      cases choices with
      | nil =>
          rw [freshPath_nil_iff]
          split
          · next hAnswers => simp [hAnswers]
          · next hAnswers => simp [hAnswers]
      | cons choice rest =>
          rw [freshPath_cons_iff]
          split
          · next hAnswers => simp [numberedCalls_of_answersItself hAnswers]
          · simp only [List.mem_flatMap, List.mem_map, Prod.exists, Prod.mk.injEq,
              List.cons.injEq]
            constructor
            · rintro ⟨_, next, hMem, _, _, hPath, ⟨rfl, rfl⟩, rfl⟩
              exact ⟨next, hMem, (hNext hMem).mp hPath⟩
            · rintro ⟨next, hMem, hPath⟩
              exact ⟨choice, next, hMem, rest, stop, (hNext hMem).mpr hPath, ⟨rfl, rfl⟩, rfl⟩

/-- What ascends strictly in its first components is determined by them, so an element is counted
among the second components as often as there are first components that go with it. -/
theorem count_map_snd_eq_ncard {paths : List (List Nat × NodeId)}
    (hAscend : paths.Pairwise fun first second => first.1 < second.1) (stop : NodeId) :
    (paths.map Prod.snd).count stop = {choices | (choices, stop) ∈ paths}.ncard := by
  have hNodup : ((paths.filter fun path => path.2 == stop).map Prod.fst).Nodup := by
    rw [List.Nodup, List.pairwise_map]
    apply (hAscend.filter _).imp
    intro first second hLt hSame
    rw [hSame] at hLt
    exact List.lt_irrefl _ hLt
  have hSet : {choices | (choices, stop) ∈ paths} =
      ((paths.filter fun path => path.2 == stop).map Prod.fst).toFinset := by
    ext choices
    simp
  rw [hSet, Set.ncard_coe_finset, List.toFinset_card_of_nodup hNodup, List.length_map,
    List.count_eq_countP, List.countP_map, List.countP_eq_length_filter]
  rfl

/-- The origins of an expression are the end points of the paths from it that read no variable
twice: there is one entry for each path, and the entries are in the lexicographic order of the
choices on their paths. So an origin occurs as often as there are such paths to it. In the unit of a
program the positions of the occurrences of a variable, and with them the choices at its
identifiers, follow the source. -/
theorem origins_list_paths (unit : SourceUnit) (hGrown : unit.Grown) (id : NodeId)
    (hId : id < unit.tree.size) :
    (∃ paths : List (List Nat × NodeId),
      paths.map Prod.snd = unit.origins id ∧
      (paths.Pairwise fun first second => first.1 < second.1) ∧
      ∀ choices stop, (choices, stop) ∈ paths ↔ unit.SimplePath id choices stop) ∧
    (∀ stop, (unit.origins id).count stop = {choices | unit.SimplePath id choices stop}.ncard) ∧
    ∀ (program : Program) (file source : String), unit = program.toUnit file source →
      ∀ variableId, (unit.scopes.references variableId).Pairwise
        fun first second => unit.tree.startOf first ≤ unit.tree.startOf second := by
  have hFirst : (Call.mk [] id).Fits unit := ⟨hId, List.nodup_nil, by simp⟩
  have hSimple : ∀ choices stop, (choices, stop) ∈ unit.pathsWithin unit.originDepth ⟨[], id⟩ ↔
      unit.SimplePath id choices stop := by
    intro choices stop
    rw [hFirst.mem_pathsWithin_iff hGrown (room_le_originDepth hId)]
    simp [FreshPath, SimplePath]
  have hStops := unit.map_snd_pathsWithin unit.originDepth ⟨[], id⟩
  have hAscend := unit.pathsWithin_ascend unit.originDepth ⟨[], id⟩
  refine ⟨⟨_, hStops, hAscend, hSimple⟩, ?_, ?_⟩
  · intro stop
    rw [origins, ← hStops, count_map_snd_eq_ncard hAscend stop]
    simp only [hSimple]
  · rintro program file source rfl variableId
    cases hVar : (program.toUnit file source).scopes.vars[variableId]? with
    | none => simp [ScopeTree.references, hVar]
    | some v =>
        simp only [ScopeTree.references, hVar, Option.map_some, Option.getD_some]
        exact ScopeTree.pairwise_sortReferences _ _ hVar

/-- `x = {}; x || x`, where both operands read the same variable. -/
def sharedUnit : SourceUnit where
  file := ""
  source := ""
  tree := [NodeKind.identifier "x", .object [], .assignment .assign 0 1, .identifier "x",
    .identifier "x", .logical .or 3 4].foldl
      (fun tree kind => (tree.push kind ⟨0, 0⟩ ScopeTree.moduleScope).2) .empty
  scopes := [0, 3, 4].foldl (fun scopes identifier => scopes.addReference 0 identifier)
    (ScopeTree.initial.declare ScopeTree.moduleScope "x").2

theorem sharedUnit_grown : sharedUnit.Grown where
  tree := SyntaxTree.Grown.empty
    |>.push (.identifier "x") ⟨0, 0⟩ 0 (by simp [NodeKind.children])
    |>.push (.object []) ⟨0, 0⟩ 0 (by simp [NodeKind.children])
    |>.push (.assignment .assign 0 1) ⟨0, 0⟩ 0 (by simp [NodeKind.children])
    |>.push (.identifier "x") ⟨0, 0⟩ 0 (by simp [NodeKind.children])
    |>.push (.identifier "x") ⟨0, 0⟩ 0 (by simp [NodeKind.children])
    |>.push (.logical .or 3 4) ⟨0, 0⟩ 0 (by simp [NodeKind.children])
  scopes := ScopeTree.Grown.initial
    |>.declare 0 "x" (by decide)
    |>.addReference 0 0 (by decide)
    |>.addReference 0 3 (by decide)
    |>.addReference 0 4 (by decide)

/-- The object is reached on two paths, one through each operand. -/
theorem sharedUnit_lists_paths :
    sharedUnit.Grown ∧ 5 < sharedUnit.tree.size ∧ sharedUnit.origins 5 = [1, 1] ∧
      {choices | sharedUnit.SimplePath 5 choices 1}.ncard = 2 := by
  have hId : 5 < sharedUnit.tree.size := by decide
  have hOrigins : sharedUnit.origins 5 = [1, 1] := by decide
  obtain ⟨-, hCount, -⟩ := origins_list_paths sharedUnit sharedUnit_grown 5 hId
  refine ⟨sharedUnit_grown, hId, hOrigins, ?_⟩
  rw [← hCount 1, hOrigins]
  rfl

end SourceUnit

end PropTrace
