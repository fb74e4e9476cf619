import Mathlib.Data.List.Flatten
import PropTrace.Proofs.Nesting

/-!
The guard of the search for origins. A search can keep the variables it follows on one stack that
all its calls share: a call that follows a variable pushes it, and pops it when its values have been
searched. No call leaves a trace on the stack, whichever way it ends, so branches next to each other
do not see each other. Only which variables stand on the stack matters, and more of them only take
answers away.
-/
namespace PropTrace

/-- A program that answers by a function at every element, and keeps the state, does so on a list. -/
theorem run_mapM_of_keeps {σ α β : Type} {program : α → StateT σ Option β} {answer : α → β}
    {state : σ} {list : List α}
    (h : ∀ a ∈ list, (program a).run state = some (answer a, state)) :
    (list.mapM program).run state = some (list.map answer, state) := by
  induction list with
  | nil => rfl
  | cons a list ih =>
      obtain ⟨hHead, hTail⟩ := List.forall_mem_cons.mp h
      rw [List.mapM_cons, StateT.run_bind, hHead, Option.bind_eq_bind, Option.bind_some,
        StateT.run_bind, ih hTail]
      rfl

/-- Two programs that keep the state keep it one after the other. -/
theorem run_append_of_keeps {σ β : Type} {first second : StateT σ Option (List β)}
    {front back : List β} {state : σ} (hFirst : first.run state = some (front, state))
    (hSecond : second.run state = some (back, state)) :
    (do
      let before ← first
      let behind ← second
      pure (before ++ behind)).run state = some (front ++ back, state) := by
  rw [StateT.run_bind, hFirst, Option.bind_eq_bind, Option.bind_some, StateT.run_bind, hSecond]
  rfl

namespace SourceUnit

/-- The search for origins with one stack of followed variables, innermost first. A search that runs
out of depth fails. -/
def searchWithin (unit : SourceUnit) : Nat → NodeId → StateT (List VariableId) Option (List NodeId)
  | 0, _ => failure
  | depth + 1, id =>
    match unit.tree.kind? id with
    | none => pure []
    | some (.literal _) => pure []
    | some (.identifier name) =>
      match unit.lookup id name with
      | none => pure []
      | some written => do
        let stack ← get
        if written ∈ stack then pure []
        else
          set (written :: stack)
          let found ← (unit.writtenValues written).mapM (unit.searchWithin depth)
          modify List.tail
          pure found.flatten
    | some (.logical _ left right) => do
      let first ← unit.searchWithin depth left
      let second ← unit.searchWithin depth right
      pure (first ++ second)
    | some (.conditional _ consequent alternate) => do
      let first ← unit.searchWithin depth consequent
      let second ← unit.searchWithin depth alternate
      pure (first ++ second)
    | some _ => pure [id]

/-- The origins of a node past the variables on a stack. -/
def originsPast (unit : SourceUnit) (stack : List VariableId) (id : NodeId) : List NodeId :=
  unit.originsWithin unit.originDepth stack id

variable {unit : SourceUnit} {call : Call} {id : NodeId}

/-- Two lists with the same variables of the unit. Other variables are never looked up. -/
def SameFollowed (unit : SourceUnit) (stack following : List VariableId) : Prop :=
  ∀ v, v < unit.scopes.vars.size → (v ∈ stack ↔ v ∈ following)

theorem SameFollowed.cons {stack following : List VariableId}
    (h : unit.SameFollowed stack following) (written : VariableId) :
    unit.SameFollowed (written :: stack) (written :: following) := by
  intro v hLt
  rw [List.mem_cons, List.mem_cons, h v hLt]

theorem lookup_lt_size (hGrown : unit.Grown) {name : String} {variableId : VariableId}
    (h : unit.lookup id name = some variableId) : variableId < unit.scopes.vars.size := by
  obtain ⟨node, -, hLookup⟩ := Option.bind_eq_some_iff.mp h
  exact hGrown.scopes.lookup_lt hLookup

/-- The variables on a stack that exist, each once. -/
def existing (unit : SourceUnit) (stack : List VariableId) : List VariableId :=
  (List.range unit.scopes.vars.size).filter (· ∈ stack)

theorem sameFollowed_existing (unit : SourceUnit) (stack : List VariableId) :
    unit.SameFollowed stack (unit.existing stack) := by
  intro v hLt
  simp [existing, hLt]

theorem existing_fits (unit : SourceUnit) (stack : List VariableId) (hId : id < unit.tree.size) :
    (Call.mk (unit.existing stack) id).Fits unit where
  node := hId
  nodup := List.nodup_range.filter _
  bound _ hMem := List.mem_range.mp (List.mem_filter.mp hMem).1

/-- Whatever is followed already, no call has more room than the first of a search. -/
theorem room_le_room_nil (unit : SourceUnit) (following : List VariableId) (id : NodeId) :
    unit.room following id ≤ unit.room [] id := by
  have hLess : unit.scopes.vars.size - following.length ≤ unit.scopes.vars.size := Nat.sub_le _ _
  have hRoom := Nat.mul_le_mul_right unit.tree.size hLess
  simp only [room, List.length_nil, Nat.sub_zero]
  omega

/-- A search with more variables on its stack answers with part of what it answers with fewer. -/
theorem originsWithin_sublist (hGrown : unit.Grown) {few many : List VariableId}
    (h : ∀ v, v < unit.scopes.vars.size → v ∈ few → v ∈ many) (depth : Nat) (id : NodeId) :
    (unit.originsWithin depth many id).Sublist (unit.originsWithin depth few id) := by
  induction depth generalizing few many id with
  | zero => exact List.Sublist.refl _
  | succ depth ih =>
      rw [originsWithin, originsWithin]
      split
      · exact List.Sublist.refl _
      · exact List.Sublist.refl _
      · split
        · exact List.Sublist.refl _
        · next written hFound =>
            by_cases hMany : written ∈ many
            · rw [if_pos hMany]
              exact List.nil_sublist _
            · have hFew : written ∉ few := fun hMem =>
                hMany (h written (lookup_lt_size hGrown hFound) hMem)
              rw [if_neg hMany, if_neg hFew]
              apply List.Sublist.flatMap_right
              intro value _
              apply ih
              intro v hLt hMem
              rcases List.mem_cons.mp hMem with rfl | hMem
              · exact List.mem_cons_self
              · exact List.mem_cons_of_mem _ (h v hLt hMem)
      · exact (ih h _).append (ih h _)
      · exact (ih h _).append (ih h _)
      · exact List.Sublist.refl _

/-- Order and repetitions on the stack do not matter, and neither do variables that do not exist. -/
theorem SameFollowed.originsWithin_eq (hGrown : unit.Grown) {stack following : List VariableId}
    (h : unit.SameFollowed stack following) (depth : Nat) (id : NodeId) :
    unit.originsWithin depth stack id = unit.originsWithin depth following id :=
  List.Sublist.antisymm (originsWithin_sublist hGrown (fun v hLt => (h v hLt).mpr) depth id)
    (originsWithin_sublist hGrown (fun v hLt => (h v hLt).mp) depth id)

/-- A search that has room for all its calls ends with its stack as it was. -/
theorem Call.Fits.run_searchWithin (hGrown : unit.Grown) (h : call.Fits unit) {depth : Nat}
    (hDepth : unit.room call.following call.id ≤ depth) {stack : List VariableId}
    (hStack : unit.SameFollowed stack call.following) :
    (unit.searchWithin depth call.id).run stack =
      some (unit.originsWithin depth stack call.id, stack) := by
  induction depth generalizing call stack with
  | zero => simp [room] at hDepth
  | succ depth ih =>
      -- a child of the node is searched with the same stack
      have hChild : ∀ child, ⟨call.following, child⟩ ∈ unit.nestedCalls call →
          (unit.searchWithin depth child).run stack =
            some (unit.originsWithin depth stack child, stack) := by
        intro child hNext
        obtain ⟨hFits, hRoom⟩ := h.nested hGrown hNext
        exact ih hFits (by omega) hStack
      rw [searchWithin, originsWithin]
      cases hKind : unit.tree.kind? call.id with
      | none => rfl
      | some kind =>
          cases kind with
          | identifier name =>
              cases hFound : unit.lookup call.id name with
              | none => simp only [hFound]; rfl
              | some written =>
                  have hLt := lookup_lt_size hGrown hFound
                  simp only [hFound, StateT.run_bind]
                  by_cases hFollowed : written ∈ stack
                  · simp [hFollowed]
                  · have hNew : written ∉ call.following := fun hMem =>
                      hFollowed ((hStack written hLt).mpr hMem)
                    have hValues : ∀ value ∈ unit.writtenValues written,
                        (unit.searchWithin depth value).run (written :: stack) =
                          some (unit.originsWithin depth (written :: stack) value,
                            written :: stack) := by
                      intro value hValue
                      have hNext : ⟨written :: call.following, value⟩ ∈ unit.nestedCalls call := by
                        simp [nestedCalls, hKind, hFound, hNew, hValue]
                      obtain ⟨hFits, hRoom⟩ := h.nested hGrown hNext
                      exact ih hFits (by omega) (hStack.cons written)
                    have hRun := run_mapM_of_keeps hValues
                    simp [hFollowed, hRun, List.flatMap]
          | logical operator left right =>
              have hLeft := hChild left (by simp [nestedCalls, hKind])
              have hRight := hChild right (by simp [nestedCalls, hKind])
              exact run_append_of_keeps hLeft hRight
          | conditional test consequent alternate =>
              have hConsequent := hChild consequent (by simp [nestedCalls, hKind])
              have hAlternate := hChild alternate (by simp [nestedCalls, hKind])
              exact run_append_of_keeps hConsequent hAlternate
          | _ => rfl

/-- The guard of the search is a frame, and it is antitone. Whatever stands on the stack at the
beginning, a search returns with that stack. Its answer depends on the variables that stand on the
stack only, and with more of them the answer is a part of it, in the same order. -/
theorem search_keeps_stack (unit : SourceUnit) (hGrown : unit.Grown) (id : NodeId)
    (hId : id < unit.tree.size) :
    (∀ depth, unit.originDepth ≤ depth → ∀ stack,
      (unit.searchWithin depth id).run stack = some (unit.originsPast stack id, stack)) ∧
    (∀ first second : List VariableId, (∀ v, v ∈ first ↔ v ∈ second) →
      unit.originsPast first id = unit.originsPast second id) ∧
    (∀ few many : List VariableId, few ⊆ many →
      (unit.originsPast many id).Sublist (unit.originsPast few id)) ∧
    unit.originsPast [] id = unit.origins id := by
  refine ⟨?_, ?_, ?_, rfl⟩
  · intro depth hDepth stack
    have hFits := existing_fits unit stack hId
    have hSame := sameFollowed_existing unit stack
    have hRoom : unit.room (unit.existing stack) id ≤ unit.originDepth :=
      Nat.le_trans (room_le_room_nil unit _ id) (room_le_originDepth hId)
    rw [hFits.run_searchWithin hGrown (Nat.le_trans hRoom hDepth) hSame, originsPast,
      hSame.originsWithin_eq hGrown, hSame.originsWithin_eq hGrown,
      hFits.originsWithin_eq hGrown (Nat.le_trans hRoom hDepth) hRoom]
  · intro first second hSame
    exact SameFollowed.originsWithin_eq hGrown (fun v _ => hSame v) _ id
  · intro few many hSubset
    exact originsWithin_sublist hGrown (fun v _ hMem => hSubset hMem) _ id

/-- In `x = y || {}; y = x; x`, following `x` already leaves nothing of the last `x`, and following
`y` still leaves the object. -/
theorem mutualUnit_keeps_stack :
    mutualUnit.Grown ∧ 8 < mutualUnit.tree.size ∧ mutualUnit.originDepth ≤ 27 ∧
      (mutualUnit.searchWithin 27 8).run [1, 5, 1] = some ([2], [1, 5, 1]) ∧
      (mutualUnit.searchWithin 27 8).run [0] = some ([], [0]) ∧
      (mutualUnit.originsPast [0, 1] 8).Sublist (mutualUnit.originsPast [1] 8) := by
  have hId : 8 < mutualUnit.tree.size := by decide
  have hDepth : mutualUnit.originDepth ≤ 27 := by decide
  obtain ⟨hRun, -, hAntitone, -⟩ := search_keeps_stack mutualUnit mutualUnit_grown 8 hId
  refine ⟨mutualUnit_grown, hId, hDepth, ?_, ?_, hAntitone [1] [0, 1] (by simp)⟩
  · exact (hRun 27 hDepth [1, 5, 1]).trans (by decide)
  · exact (hRun 27 hDepth [0]).trans (by decide)

end SourceUnit

end PropTrace
