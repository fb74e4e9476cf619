import Mathlib.Data.List.Induction
import PropTrace.Proofs.Arena

/-!
Arenas as sequences of arrivals. A node that arrives may list any nodes that came before it, the same
one twice, one that another node lists already, or none, and a node may never be listed. The arena
keeps what every node was when it arrived, at the place of its arrival; only parents change, and a
node has the last arrival that lists it as its parent.
-/
namespace PropTrace

namespace SyntaxTree

/-- What a node is before it has a place. -/
structure Arrival where
  kind : NodeKind
  span : Span
  scope : ScopeId

/-- The arena after arrivals one after another. -/
def pushAll (tree : SyntaxTree) (arrivals : List Arrival) : SyntaxTree :=
  arrivals.foldl (fun tree arrival => (tree.push arrival.kind arrival.span arrival.scope).2) tree

/-- Every arrival lists nodes that came before it. -/
def ListsEarlier (arrivals : List Arrival) : Prop :=
  ∀ (id : NodeId) (arrival : Arrival), arrivals[id]? = some arrival →
    ∀ child ∈ arrival.kind.children, child < id

instance (arrivals : List Arrival) : Decidable (ListsEarlier arrivals) :=
  decidable_of_iff
    (∀ numbered ∈ arrivals.zipIdx, ∀ child ∈ numbered.1.kind.children, child < numbered.2)
    ⟨fun h id arrival hArrival => h (arrival, id) (List.mem_zipIdx_iff_getElem?.mpr hArrival),
      fun h numbered hMem => h numbered.2 numbered.1 (List.mem_zipIdx_iff_getElem?.mp hMem)⟩

variable {tree : SyntaxTree} {arrivals : List Arrival} {arrival : Arrival} {id : NodeId}

theorem pushAll_concat (tree : SyntaxTree) (arrivals : List Arrival) (arrival : Arrival) :
    tree.pushAll (arrivals ++ [arrival]) =
      ((tree.pushAll arrivals).push arrival.kind arrival.span arrival.scope).2 := by
  simp [pushAll]

theorem eq_or_of_getElem?_concat {index : Nat} {found : Arrival}
    (hFound : (arrivals ++ [arrival])[index]? = some found) :
    index = arrivals.length ∧ found = arrival ∨ arrivals[index]? = some found := by
  rw [List.getElem?_append] at hFound
  split at hFound
  · exact .inr hFound
  · next hNot =>
      rw [List.getElem?_singleton] at hFound
      split at hFound
      · next hZero => exact .inl ⟨by omega, (Option.some.inj hFound).symm⟩
      · cases hFound

theorem listsEarlier_concat_iff :
    ListsEarlier (arrivals ++ [arrival]) ↔
      ListsEarlier arrivals ∧ ∀ child ∈ arrival.kind.children, child < arrivals.length := by
  constructor
  · intro h
    constructor
    · intro id earlier hEarlier
      apply h id earlier
      rw [List.getElem?_append_left (List.getElem?_eq_some_iff.mp hEarlier).1, hEarlier]
    · exact h arrivals.length arrival (by simp)
  · rintro ⟨hEarlier, hLast⟩ id found hFound
    rcases eq_or_of_getElem?_concat hFound with ⟨rfl, rfl⟩ | hBefore
    · exact hLast
    · exact hEarlier id found hBefore

theorem size_pushAll (arrivals : List Arrival) :
    (empty.pushAll arrivals).size = arrivals.length := by
  induction arrivals using List.reverseRecOn with
  | nil => rfl
  | append_singleton arrivals arrival ih => simp [pushAll_concat, ih]

theorem grown_pushAll (h : ListsEarlier arrivals) : (empty.pushAll arrivals).Grown := by
  induction arrivals using List.reverseRecOn with
  | nil => exact .empty
  | append_singleton arrivals arrival ih =>
      obtain ⟨hEarlier, hLast⟩ := listsEarlier_concat_iff.mp h
      rw [pushAll_concat]
      apply (ih hEarlier).push
      rwa [size_pushAll]

/-- A node keeps its place and everything but its parent, whatever arrives later. -/
theorem holds_pushAll (hArrival : arrivals[id]? = some arrival) :
    (empty.pushAll arrivals).Holds id arrival.kind arrival.span arrival.scope := by
  induction arrivals using List.reverseRecOn with
  | nil => simp at hArrival
  | append_singleton arrivals latest ih =>
      rw [pushAll_concat]
      rcases eq_or_of_getElem?_concat hArrival with ⟨rfl, rfl⟩ | hBefore
      · rw [← size_pushAll arrivals]
        exact holds_push _ _ _ _
      · exact (ih hBefore).push _ _ _

/-- One more arrival changes nothing of an earlier node but the parent of those it lists. -/
theorem node?_push_of_some {node : Node} (hNode : tree.node? id = some node) (kind : NodeKind)
    (span : Span) (scope : ScopeId) :
    (tree.push kind span scope).2.node? id = some { node with
      parent := if id ∈ kind.children then some tree.size else node.parent } := by
  rw [node?_push, if_neg (Nat.ne_of_lt (node?_lt hNode)), hNode]
  by_cases hChild : id ∈ kind.children <;> simp [hChild]

/-- An arena after any arrivals, each of which lists only nodes that came before it. The node at a
place is the arrival of that number, with its kind, span and scope; children are older than the
nodes that list them; the parent of a node is the last arrival that lists it, and a node that none
lists has no parent. One more arrival takes the next place, as a node without a parent, and changes
nothing of the others but the parent of those it lists. -/
theorem pushAll_adopts_last (arrivals : List Arrival) (hEarlier : ListsEarlier arrivals) :
    let tree := empty.pushAll arrivals
    tree.size = arrivals.length ∧
      (∀ id arrival, arrivals[id]? = some arrival →
        tree.Holds id arrival.kind arrival.span arrival.scope) ∧
      (∀ parent, ∀ child ∈ tree.children parent, child < parent) ∧
      (∀ child parent, tree.parent? child = some parent ↔ tree.LastLister child parent) ∧
      (∀ child, tree.parent? child = none ↔ ∀ other, child ∉ tree.children other) ∧
      ∀ kind span scope,
        (tree.push kind span scope).1 = tree.size ∧
        (tree.push kind span scope).2.node? tree.size =
          some { kind, span, parent := none, scope } ∧
        ∀ id node, tree.node? id = some node →
          (tree.push kind span scope).2.node? id = some { node with
            parent := if id ∈ kind.children then some tree.size else node.parent } := by
  intro tree
  have hGrown : tree.Grown := grown_pushAll hEarlier
  refine ⟨size_pushAll arrivals, fun id arrival => holds_pushAll, ?_, ?_, ?_, ?_⟩
  · intro parent child hChild
    exact hGrown.mem_children_lt hChild
  · intro child parent
    exact hGrown.parent?_eq_some_iff
  · intro child
    exact hGrown.parent?_eq_none_iff
  · intro kind span scope
    refine ⟨rfl, by simp [node?_push], fun id node hNode => ?_⟩
    exact node?_push_of_some hNode kind span scope

/-- Two names and two lists: the first one lists `x` twice, the second one lists both. The last name is
never listed. -/
def sharedArrivals : List Arrival :=
  [⟨.identifier "x", ⟨1, 2⟩, 0⟩, ⟨.identifier "y", ⟨4, 5⟩, 0⟩, ⟨.array [0, 0], ⟨0, 3⟩, 0⟩,
    ⟨.array [1, 0], ⟨0, 6⟩, 0⟩, ⟨.identifier "z", ⟨7, 8⟩, 0⟩]

/-- The second list has both names, the first one has none left, and `z` belongs to none. -/
theorem sharedArrivals_adopted :
    ListsEarlier sharedArrivals ∧ (empty.pushAll sharedArrivals).LastLister 0 3 ∧
      (empty.pushAll sharedArrivals).LastLister 1 3 ∧
      (∀ other, 4 ∉ (empty.pushAll sharedArrivals).children other) ∧
      (((empty.pushAll sharedArrivals).push (.array [4, 0]) ⟨0, 9⟩ 0).2.node? 4).map Node.parent =
        some (some 5) := by
  have hEarlier : ListsEarlier sharedArrivals := by decide
  obtain ⟨-, -, -, hParent, hNone, hPush⟩ := pushAll_adopts_last sharedArrivals hEarlier
  refine ⟨hEarlier, (hParent 0 3).mp (by decide), (hParent 1 3).mp (by decide),
    (hNone 4).mp (by decide), ?_⟩
  obtain ⟨-, -, hOld⟩ := hPush (.array [4, 0]) ⟨0, 9⟩ 0
  rw [hOld 4 _ rfl]
  rfl

end SyntaxTree

end PropTrace
