import Mathlib.Data.List.Find
import PropTrace.Scope.Tree

/-!
Scope trees that grow by their operations. Parents are older than the scopes they contain, a name
is never declared for a variable that does not exist, and what is on record stays on record: later
operations add scopes, names and occurrences and take none away.
-/
namespace PropTrace

namespace ScopeTree

/-- The scope trees that the operations make, in any order, on scopes and variables that exist. -/
inductive Grown : ScopeTree → Prop where
  | initial : Grown initial
  | createScope {tree : ScopeTree} (grown : Grown tree) (kind : ScopeKind) (parent : ScopeId)
      (exists_parent : parent < tree.scopes.size) : Grown (tree.createScope kind parent).2
  | declare {tree : ScopeTree} (grown : Grown tree) (scope : ScopeId) (name : String)
      (exists_scope : scope < tree.scopes.size) : Grown (tree.declare scope name).2
  | addReference {tree : ScopeTree} (grown : Grown tree) (id : VariableId) (identifier : NodeId)
      (exists_id : id < tree.vars.size) : Grown (tree.addReference id identifier)
  | addUnresolved {tree : ScopeTree} (grown : Grown tree) (identifier : NodeId) :
      Grown (tree.addUnresolved identifier)
  | sortReferences {tree : ScopeTree} (grown : Grown tree) (key : NodeId → Nat) :
      Grown (tree.sortReferences key)

variable {tree before middle after : ScopeTree} {scope : ScopeId} {name : String}

section operations

variable (tree : ScopeTree)

theorem declared?_createScope (kind : ScopeKind) (parent id : ScopeId) (name : String) :
    (tree.createScope kind parent).2.declared? id name = tree.declared? id name := by
  simp only [declared?, createScope, Array.getElem?_push]
  split
  · next hNew => simp [hNew]
  · rfl

theorem parent?_createScope (kind : ScopeKind) (parent id : ScopeId) :
    (tree.createScope kind parent).2.parent? id =
      if id = tree.scopes.size then some parent else tree.parent? id := by
  simp only [parent?, createScope, Array.getElem?_push]
  split <;> rfl

/-- Declaring a name again finds the variable it has. -/
theorem declare_of_some {id : VariableId} (h : tree.declared? scope name = some id) :
    tree.declare scope name = (id, tree) := by
  simp [declare, h]

theorem declare_of_none (h : tree.declared? scope name = none) :
    tree.declare scope name =
      (tree.vars.size, { tree with
        vars := tree.vars.push { name, scope, references := [] }
        scopes := tree.scopes.modify scope fun s =>
          { s with names := s.names ++ [(name, tree.vars.size)] } }) := by
  simp [declare, h]

theorem parent?_declare (scope id : ScopeId) (name : String) :
    (tree.declare scope name).2.parent? id = tree.parent? id := by
  cases h : tree.declared? scope name with
  | some existing => rw [declare_of_some tree h]
  | none =>
      simp only [declare_of_none tree h, parent?, Array.getElem?_modify]
      split
      · cases tree.scopes[id]? <;> rfl
      · rfl

end operations

variable {tree : ScopeTree}

/-- A name that was new in its scope stands for the new variable there; every other name in every
scope stands for what it stood for. -/
theorem declared?_declare_of_none (hScope : scope < tree.scopes.size)
    (h : tree.declared? scope name = none) (id : ScopeId) (other : String) :
    (tree.declare scope name).2.declared? id other =
      if id = scope ∧ other = name then some tree.vars.size else tree.declared? id other := by
  simp only [declare_of_none tree h, declared?, Array.getElem?_modify]
  by_cases hId : scope = id
  · subst hId
    rw [if_pos rfl]
    have hSome : tree.scopes[scope]? = some tree.scopes[scope] := Array.getElem?_eq_getElem hScope
    rw [declared?, hSome] at h
    simp only [hSome, Option.map_some, Option.bind_some, true_and, List.lookup_append] at h ⊢
    by_cases hName : other = name
    · simp [hName, h]
    · simp [hName, List.lookup_cons, beq_eq_false_iff_ne.mpr hName]
  · rw [if_neg hId, if_neg fun hBoth => hId hBoth.1.symm]

/-- Declaring a name makes it stand for the variable that was answered. -/
theorem declared?_declare_self (hScope : scope < tree.scopes.size) (name : String) :
    (tree.declare scope name).2.declared? scope name = some (tree.declare scope name).1 := by
  cases h : tree.declared? scope name with
  | some id => rw [declare_of_some tree h, h]
  | none => rw [declared?_declare_of_none hScope h, declare_of_none tree h, if_pos ⟨rfl, rfl⟩]

section Extends

/-- Nothing on record is lost: scopes keep their kinds, parents and names, variables keep their
names, scopes and occurrences. -/
structure Extends (before after : ScopeTree) : Prop where
  scope : ∀ (id : ScopeId) (s : Scope), before.scopes[id]? = some s →
    ∃ names, after.scopes[id]? = some { s with names } ∧
      ∀ name found, s.names.lookup name = some found → names.lookup name = some found
  var : ∀ (id : VariableId) (v : Variable), before.vars[id]? = some v →
    ∃ references, after.vars[id]? = some { v with references } ∧ v.references ⊆ references
  unresolved : before.unresolved ⊆ after.unresolved

namespace Extends

theorem refl (tree : ScopeTree) : Extends tree tree where
  scope := fun _ s h => ⟨s.names, h, fun _ _ hName => hName⟩
  var := fun _ v h => ⟨v.references, h, List.Subset.refl _⟩
  unresolved := List.Subset.refl _

theorem trans (first : Extends before middle) (second : Extends middle after) :
    Extends before after where
  scope := by
    intro id s h
    obtain ⟨names, hMiddle, hNames⟩ := first.scope id s h
    obtain ⟨later, hAfter, hLater⟩ := second.scope id _ hMiddle
    exact ⟨later, hAfter, fun name found hName => hLater name found (hNames name found hName)⟩
  var := by
    intro id v h
    obtain ⟨references, hMiddle, hKept⟩ := first.var id v h
    obtain ⟨later, hAfter, hLater⟩ := second.var id _ hMiddle
    exact ⟨later, hAfter, List.Subset.trans hKept hLater⟩
  unresolved := List.Subset.trans first.unresolved second.unresolved

theorem size_scopes_le (h : Extends before after) : before.scopes.size ≤ after.scopes.size := by
  refine Nat.le_of_not_lt fun hLess => ?_
  obtain ⟨names, hAfter, -⟩ := h.scope after.scopes.size _ (Array.getElem?_eq_getElem hLess)
  simp at hAfter

theorem declared? (h : Extends before after) {id : VariableId}
    (hDeclared : before.declared? scope name = some id) :
    after.declared? scope name = some id := by
  obtain ⟨s, hScope, hName⟩ := Option.bind_eq_some_iff.mp hDeclared
  obtain ⟨names, hAfter, hNames⟩ := h.scope scope s hScope
  rw [ScopeTree.declared?, hAfter]
  exact hNames name id hName

theorem references (h : Extends before after) (id : VariableId) :
    before.references id ⊆ after.references id := by
  cases hVar : before.vars[id]? with
  | none => simp [ScopeTree.references, hVar]
  | some v =>
      obtain ⟨references, hAfter, hKept⟩ := h.var id v hVar
      simpa [ScopeTree.references, hVar, hAfter] using hKept

theorem parent? (h : Extends before after) (hScope : scope < before.scopes.size) :
    after.parent? scope = before.parent? scope := by
  have hSome := Array.getElem?_eq_getElem hScope
  obtain ⟨names, hAfter, -⟩ := h.scope scope _ hSome
  simp [ScopeTree.parent?, hSome, hAfter]

theorem isBlock (h : Extends before after) (hScope : scope < before.scopes.size) :
    after.isBlock scope = before.isBlock scope := by
  have hSome := Array.getElem?_eq_getElem hScope
  obtain ⟨names, hAfter, -⟩ := h.scope scope _ hSome
  simp [ScopeTree.isBlock, hSome, hAfter]

end Extends

variable (tree)

theorem extends_createScope (kind : ScopeKind) (parent : ScopeId) :
    Extends tree (tree.createScope kind parent).2 where
  scope := by
    intro id s h
    have hLt := (Array.getElem?_eq_some_iff.mp h).1
    refine ⟨s.names, ?_, fun _ _ hName => hName⟩
    rw [createScope, Array.getElem?_push, if_neg (Nat.ne_of_lt hLt), h]
  var := fun _ v h => ⟨v.references, h, List.Subset.refl _⟩
  unresolved := List.Subset.refl _

theorem extends_declare (scope : ScopeId) (name : String) :
    Extends tree (tree.declare scope name).2 := by
  cases hDeclared : tree.declared? scope name with
  | some id =>
      rw [declare_of_some tree hDeclared]
      exact Extends.refl tree
  | none =>
      rw [declare_of_none tree hDeclared]
      refine ⟨?_, ?_, List.Subset.refl _⟩
      · intro id s h
        by_cases hId : scope = id
        · refine ⟨s.names ++ [(name, tree.vars.size)], ?_, ?_⟩
          · simp [Array.getElem?_modify, hId, h]
          · intro other found hFound
            simp [List.lookup_append, hFound]
        · exact ⟨s.names, by simp [Array.getElem?_modify, hId, h], fun _ _ hName => hName⟩
      · intro id v h
        have hLt := (Array.getElem?_eq_some_iff.mp h).1
        refine ⟨v.references, ?_, List.Subset.refl _⟩
        rw [Array.getElem?_push, if_neg (Nat.ne_of_lt hLt), h]

theorem extends_addReference (id : VariableId) (identifier : NodeId) :
    Extends tree (tree.addReference id identifier) where
  scope := fun _ s h => ⟨s.names, h, fun _ _ hName => hName⟩
  var := by
    intro other v h
    by_cases hId : id = other
    · refine ⟨v.references ++ [identifier], ?_, List.subset_append_left _ _⟩
      simp [addReference, Array.getElem?_modify, hId, h]
    · exact ⟨v.references, by simp [addReference, Array.getElem?_modify, hId, h],
        List.Subset.refl _⟩
  unresolved := List.Subset.refl _

theorem extends_addUnresolved (identifier : NodeId) :
    Extends tree (tree.addUnresolved identifier) where
  scope := fun _ s h => ⟨s.names, h, fun _ _ hName => hName⟩
  var := fun _ v h => ⟨v.references, h, List.Subset.refl _⟩
  unresolved := List.subset_append_left _ _

theorem extends_sortReferences (key : NodeId → Nat) :
    Extends tree (tree.sortReferences key) where
  scope := fun _ s h => ⟨s.names, h, fun _ _ hName => hName⟩
  var := by
    intro id v h
    refine ⟨v.references.mergeSort fun a b => key a ≤ key b, ?_, ?_⟩
    · simp [sortReferences, Array.getElem?_map, h]
    · exact fun identifier hMem => List.mem_mergeSort.mpr hMem
  unresolved := List.Subset.refl _

variable {tree}

theorem mem_references_addReference {id : VariableId} (hId : id < tree.vars.size)
    (identifier : NodeId) : identifier ∈ (tree.addReference id identifier).references id := by
  simp [references, addReference, Array.getElem?_modify, Array.getElem?_eq_getElem hId]

end Extends

theorem size_vars_le_declare (tree : ScopeTree) (scope : ScopeId) (name : String) :
    tree.vars.size ≤ (tree.declare scope name).2.vars.size := by
  cases h : tree.declared? scope name with
  | some id => simp [declare_of_some tree h]
  | none => simp [declare_of_none tree h]

/-- The variable that declaring a name answers exists afterwards. -/
theorem declare_fst_lt (scope : ScopeId) (name : String)
    (hDeclared : ∀ id, tree.declared? scope name = some id → id < tree.vars.size) :
    (tree.declare scope name).1 < (tree.declare scope name).2.vars.size := by
  cases h : tree.declared? scope name with
  | some id => rw [declare_of_some tree h]; exact hDeclared id h
  | none => simp [declare_of_none tree h]

namespace Grown

/-- Parents are older than the scopes they contain. -/
theorem parent?_lt (h : tree.Grown) {parent : ScopeId}
    (hParent : tree.parent? scope = some parent) : parent < scope := by
  induction h with
  | initial =>
      have hNone : ScopeTree.initial.parent? scope = none := by
        cases scope <;> rfl
      simp [hNone] at hParent
  | createScope grown kind outer exists_parent ih =>
      rw [parent?_createScope] at hParent
      split at hParent
      · next hNew =>
          cases hParent
          exact hNew ▸ exists_parent
      · exact ih hParent
  | declare grown inScope name exists_scope ih =>
      rw [parent?_declare] at hParent
      exact ih hParent
  | addReference grown id identifier exists_id ih => exact ih hParent
  | addUnresolved grown identifier ih => exact ih hParent
  | sortReferences grown key ih => exact ih hParent

/-- Names are declared for variables that exist. -/
theorem declared?_lt (h : tree.Grown) {id : VariableId}
    (hDeclared : tree.declared? scope name = some id) : id < tree.vars.size := by
  induction h generalizing scope name id with
  | initial =>
      have hNone : ScopeTree.initial.declared? scope name = none := by
        cases scope <;> rfl
      simp [hNone] at hDeclared
  | createScope grown kind outer exists_parent ih =>
      rw [declared?_createScope] at hDeclared
      exact ih hDeclared
  | @declare before grown inScope added exists_scope ih =>
      cases hBefore : before.declared? inScope added with
      | some existing =>
          rw [declare_of_some before hBefore] at hDeclared ⊢
          exact ih hDeclared
      | none =>
          have hLe := size_vars_le_declare before inScope added
          rw [declared?_declare_of_none exists_scope hBefore] at hDeclared
          split at hDeclared
          · cases hDeclared
            simp [declare_of_none before hBefore]
          · exact Nat.lt_of_lt_of_le (ih hDeclared) hLe
  | addReference grown target identifier exists_id ih =>
      simpa [ScopeTree.addReference] using ih hDeclared
  | addUnresolved grown identifier ih => exact ih hDeclared
  | sortReferences grown key ih => simpa [ScopeTree.sortReferences] using ih hDeclared

end Grown

section chain

/-- Going up never leads to a younger scope. -/
theorem le_of_mem_chainWithin (hOlder : ∀ s parent, tree.parent? s = some parent → parent < s)
    {steps : Nat} {start outer : ScopeId} (h : outer ∈ tree.chainWithin steps start) :
    outer ≤ start := by
  induction steps generalizing start with
  | zero => simp [chainWithin] at h
  | succ steps ih =>
      simp only [chainWithin, List.mem_cons] at h
      rcases h with hSelf | hAbove
      · exact Nat.le_of_eq hSelf
      · cases hParent : tree.parent? start with
        | none => simp [hParent] at hAbove
        | some parent =>
            rw [hParent] at hAbove
            exact Nat.le_trans (ih hAbove) (Nat.le_of_lt (hOlder start parent hParent))

theorem Grown.le_of_mem_chain (h : tree.Grown) {start outer : ScopeId}
    (hMem : outer ∈ tree.chain start) : outer ≤ start :=
  le_of_mem_chainWithin (fun _ _ hParent => h.parent?_lt hParent) hMem

/-- A lookup answers a variable that exists. -/
theorem Grown.lookup_lt (h : tree.Grown) {id : VariableId}
    (hLookup : tree.lookup scope name = some id) : id < tree.vars.size := by
  obtain ⟨declaring, -, hDeclared⟩ := List.exists_of_findSome?_eq_some hLookup
  exact h.declared?_lt hDeclared

theorem Grown.hoistTarget_le (h : tree.Grown) (scope : ScopeId) :
    tree.hoistTarget scope ≤ scope := by
  rw [hoistTarget]
  cases hFind : (tree.chain scope).find? fun s => !tree.isBlock s with
  | none => exact Nat.le_refl _
  | some target => exact h.le_of_mem_chain (List.mem_of_find?_eq_some hFind)

/-- Scopes that exist keep the scopes around them. -/
theorem Extends.chain (h : Extends before after) (hGrown : before.Grown)
    (hScope : scope < before.scopes.size) : after.chain scope = before.chain scope := by
  have hWithin (steps : Nat) : ∀ start < before.scopes.size,
      after.chainWithin steps start = before.chainWithin steps start := by
    induction steps with
    | zero => intro start hStart; rfl
    | succ steps ih =>
        intro start hStart
        rw [chainWithin, chainWithin, h.parent? hStart]
        cases hParent : before.parent? start with
        | none => rfl
        | some parent => simp [ih parent (Nat.lt_trans (hGrown.parent?_lt hParent) hStart)]
  exact hWithin (scope + 1) scope hScope

/-- A `var` keeps its place whatever is recorded later. -/
theorem Extends.hoistTarget (h : Extends before after) (hGrown : before.Grown)
    (hScope : scope < before.scopes.size) :
    after.hoistTarget scope = before.hoistTarget scope := by
  rw [ScopeTree.hoistTarget, ScopeTree.hoistTarget, h.chain hGrown hScope]
  congr 1
  have hSame : ∀ s ∈ before.chain scope, (!after.isBlock s) = !before.isBlock s := by
    intro s hMem
    rw [h.isBlock (Nat.lt_of_le_of_lt (hGrown.le_of_mem_chain hMem) hScope)]
  exact List.find?_congr hSame

end chain

end ScopeTree

end PropTrace
