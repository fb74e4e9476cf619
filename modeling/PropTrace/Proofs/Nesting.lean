import PropTrace.Proofs.Origins

/-!
How deep the search for origins nests. One call of the search either answers with its own node or
puts the answers of further calls together. A further call stands at an older node, or follows one
more variable; no variable is followed twice, so calls cannot nest for long, whatever the references
of a variable are.
-/
namespace PropTrace

namespace SourceUnit

/-- A call of the search: a node, and the variables that are being followed. -/
structure Call where
  following : List VariableId
  id : NodeId
  deriving DecidableEq, Repr

/-- The calls that a call makes itself, in order. -/
def nestedCalls (unit : SourceUnit) (call : Call) : List Call :=
  match unit.tree.kind? call.id with
  | some (.identifier name) =>
    match unit.lookup call.id name with
    | none => []
    | some written =>
      if written ∈ call.following then []
      else (unit.writtenValues written).map (Call.mk (written :: call.following))
  | some (.logical _ left right) => [⟨call.following, left⟩, ⟨call.following, right⟩]
  | some (.conditional _ consequent alternate) =>
    [⟨call.following, consequent⟩, ⟨call.following, alternate⟩]
  | _ => []

/-- Whether a call answers with its own node. -/
def answersItself (unit : SourceUnit) (call : Call) : Bool :=
  ((unit.tree.kind? call.id).map NodeKind.isOrigin).getD false

variable {unit : SourceUnit} {call next : Call}

/-- The search consists of these calls and no others. -/
theorem originsWithin_succ (unit : SourceUnit) (depth : Nat) (call : Call) :
    unit.originsWithin (depth + 1) call.following call.id =
      if unit.answersItself call then [call.id]
      else (unit.nestedCalls call).flatMap fun next =>
        unit.originsWithin depth next.following next.id := by
  rw [originsWithin, answersItself, nestedCalls]
  cases hKind : unit.tree.kind? call.id with
  | none => rfl
  | some kind =>
      cases kind with
      | identifier name =>
          cases hFound : unit.lookup call.id name with
          | none => simp [hFound, NodeKind.isOrigin]
          | some written =>
              by_cases hFollowed : written ∈ call.following
              · simp [hFound, hFollowed, NodeKind.isOrigin]
              · simp [hFound, hFollowed, NodeKind.isOrigin, List.flatMap_map]
      | logical | conditional => simp [NodeKind.isOrigin]
      | _ => rfl

/-- What holds of every call of a search: the node exists, and the variables being followed are
different variables of the unit. -/
structure Call.Fits (unit : SourceUnit) (call : Call) : Prop where
  node : call.id < unit.tree.size
  nodup : call.following.Nodup
  bound : ∀ variableId ∈ call.following, variableId < unit.scopes.vars.size

/-- A call only makes calls that fit, and leaves them less room. -/
theorem Call.Fits.nested (hGrown : unit.Grown) (h : call.Fits unit)
    (hNext : next ∈ unit.nestedCalls call) :
    next.Fits unit ∧ unit.room next.following next.id < unit.room call.following call.id := by
  -- a child of the node is older, and nothing more is followed
  have hChild : ∀ child, child ∈ unit.tree.children call.id →
      (Call.mk call.following child).Fits unit ∧
        unit.room call.following child < unit.room call.following call.id := by
    intro child hMem
    have hLt := hGrown.tree.mem_children_lt hMem
    exact ⟨⟨Nat.lt_trans hLt h.node, h.nodup, h.bound⟩, room_child hLt⟩
  rw [nestedCalls] at hNext
  split at hNext
  · next name hKind =>
      split at hNext
      · cases hNext
      · next written hFound =>
          split at hNext
          · cases hNext
          · next hNew =>
              obtain ⟨value, hValue, rfl⟩ := List.mem_map.mp hNext
              obtain ⟨reference, -, hAssigned⟩ := mem_writtenValues.mp hValue
              have hNode := assignedValue?_lt hGrown.tree hAssigned
              have hVariable : written < unit.scopes.vars.size := by
                obtain ⟨node, -, hLookup⟩ := Option.bind_eq_some_iff.mp hFound
                exact hGrown.scopes.lookup_lt hLookup
              have hMore := length_lt_of_not_mem h.nodup h.bound hNew hVariable
              refine ⟨⟨hNode, List.nodup_cons.mpr ⟨hNew, h.nodup⟩, ?_⟩, room_follow hMore hNode⟩
              exact List.forall_mem_cons.mpr ⟨hVariable, h.bound⟩
  · next operator left right hKind =>
      have hChildren : unit.tree.children call.id = [left, right] := by
        simp [SyntaxTree.children, hKind, NodeKind.children]
      rcases List.mem_pair.mp hNext with rfl | rfl
      · exact hChild left (by simp [hChildren])
      · exact hChild right (by simp [hChildren])
  · next test consequent alternate hKind =>
      have hChildren : unit.tree.children call.id = [test, consequent, alternate] := by
        simp [SyntaxTree.children, hKind, NodeKind.children]
      rcases List.mem_pair.mp hNext with rfl | rfl
      · exact hChild consequent (by simp [hChildren])
      · exact hChild alternate (by simp [hChildren])
  · cases hNext

/-- No call makes calls for ever. -/
theorem Call.Fits.acc (hGrown : unit.Grown) (h : call.Fits unit) :
    Acc (fun next call => next ∈ unit.nestedCalls call) call := by
  induction hRoom : unit.room call.following call.id using Nat.strong_induction_on
    generalizing call with
  | _ room ih =>
      refine Acc.intro call fun next hNext => ?_
      obtain ⟨hFits, hLess⟩ := h.nested hGrown hNext
      exact ih _ (hRoom ▸ hLess) hFits rfl

/-- Calls, each of which makes the next one, are no more than the room of the first, and all of them
fit. -/
theorem Call.Fits.length_le (hGrown : unit.Grown) {rest : List Call} (h : call.Fits unit)
    (hNested : (call :: rest).IsChain fun call next => next ∈ unit.nestedCalls call) :
    (call :: rest).length ≤ unit.room call.following call.id ∧
      ∀ other ∈ call :: rest, other.Fits unit := by
  induction rest generalizing call with
  | nil =>
      refine ⟨?_, by simpa using h⟩
      simp [room]
  | cons next rest ih =>
      obtain ⟨hNext, hRest⟩ := List.isChain_cons_cons.mp hNested
      obtain ⟨hFits, hRoom⟩ := h.nested hGrown hNext
      obtain ⟨hLength, hAll⟩ := ih hFits hRest
      refine ⟨?_, List.forall_mem_cons.mpr ⟨h, hAll⟩⟩
      rw [List.length_cons]
      omega

/-- A search that has room for all its calls answers the same with any more depth. -/
theorem Call.Fits.originsWithin_eq (hGrown : unit.Grown) (h : call.Fits unit) {depth more : Nat}
    (hDepth : unit.room call.following call.id ≤ depth)
    (hMore : unit.room call.following call.id ≤ more) :
    unit.originsWithin depth call.following call.id =
      unit.originsWithin more call.following call.id := by
  induction depth generalizing call more with
  | zero => simp [room] at hDepth
  | succ depth ih =>
      obtain ⟨more, rfl⟩ : ∃ less, more = less + 1 :=
        Nat.exists_eq_add_one_of_ne_zero fun hZero => by simp [hZero, room] at hMore
      rw [originsWithin_succ, originsWithin_succ]
      congr 1
      refine List.flatMap_congr fun next hNext => ?_
      obtain ⟨hFits, hRoom⟩ := h.nested hGrown hNext
      exact ih hFits (by omega) (by omega)

/-- The search for the origins of a node ends. Nested calls, from the first one on, are never more
than the nodes times one more than the variables, no variable is followed twice in any of them, and
so a search of that depth has the answer of every deeper one. -/
theorem origins_search_ends (unit : SourceUnit) (hGrown : unit.Grown) (id : NodeId)
    (hId : id < unit.tree.size) :
    Acc (fun next call => next ∈ unit.nestedCalls call) ⟨[], id⟩ ∧
    (∀ calls : List Call, calls.head? = some ⟨[], id⟩ →
      (calls.IsChain fun call next => next ∈ unit.nestedCalls call) →
        calls.length ≤ (unit.scopes.vars.size + 1) * unit.tree.size ∧
          ∀ call ∈ calls, call.following.Nodup) ∧
    ∀ depth, (unit.scopes.vars.size + 1) * unit.tree.size ≤ depth →
      unit.originsWithin depth [] id = unit.origins id := by
  have hFirst : (Call.mk [] id).Fits unit := ⟨hId, List.nodup_nil, by simp⟩
  have hRoom : unit.room [] id ≤ unit.originDepth := room_le_originDepth hId
  refine ⟨hFirst.acc hGrown, ?_, ?_⟩
  · intro calls hHead hNested
    obtain ⟨rest, rfl⟩ := List.head?_eq_some_iff.mp hHead
    obtain ⟨hLength, hFits⟩ := hFirst.length_le hGrown hNested
    exact ⟨Nat.le_trans hLength hRoom, fun call hMem => (hFits call hMem).nodup⟩
  · intro depth hDepth
    exact hFirst.originsWithin_eq hGrown (Nat.le_trans hRoom hDepth) hRoom

/-- `x = x || {}`, where the occurrences of `x` on record are the first `x` twice, the object, which
is no identifier, and a node that does not exist. Both the assignment and the operator list the
first `x` as a child. -/
def tangledUnit : SourceUnit where
  file := ""
  source := ""
  tree := [NodeKind.identifier "x", .object [], .logical .or 0 1, .assignment .assign 0 2].foldl
    (fun tree kind => (tree.push kind ⟨0, 0⟩ ScopeTree.moduleScope).2) .empty
  scopes :=
    [0, 0, 1, 7].foldl (fun scopes identifier => scopes.addReference 0 identifier)
      (ScopeTree.initial.declare ScopeTree.moduleScope "x").2

theorem tangledUnit_grown : tangledUnit.Grown where
  tree := SyntaxTree.Grown.empty
    |>.push (.identifier "x") ⟨0, 0⟩ 0 (by simp [NodeKind.children])
    |>.push (.object []) ⟨0, 0⟩ 0 (by simp [NodeKind.children])
    |>.push (.logical .or 0 1) ⟨0, 0⟩ 0 (by simp [NodeKind.children])
    |>.push (.assignment .assign 0 2) ⟨0, 0⟩ 0 (by simp [NodeKind.children])
  scopes := ScopeTree.Grown.initial
    |>.declare 0 "x" (by decide)
    |>.addReference 0 0 (by decide)
    |>.addReference 0 0 (by decide)
    |>.addReference 0 1 (by decide)
    |>.addReference 0 7 (by decide)

/-- From `x` on, three calls nest: `x`, the operator, and `x` again. -/
theorem tangledUnit_search_ends :
    tangledUnit.Grown ∧ 0 < tangledUnit.tree.size ∧
      Acc (fun next call => next ∈ tangledUnit.nestedCalls call) ⟨[], 0⟩ ∧
      [Call.mk [] 0, ⟨[0], 2⟩, ⟨[0], 0⟩].length ≤
        (tangledUnit.scopes.vars.size + 1) * tangledUnit.tree.size ∧
      tangledUnit.originsWithin 8 [] 0 = [1, 1] := by
  have hId : 0 < tangledUnit.tree.size := by decide
  obtain ⟨hEnds, hNested, hDeeper⟩ := origins_search_ends tangledUnit tangledUnit_grown 0 hId
  refine ⟨tangledUnit_grown, hId, hEnds, (hNested _ rfl (by decide)).1, ?_⟩
  exact (hDeeper 8 (by decide)).trans (by decide)

end SourceUnit

end PropTrace
