import Mathlib.Logic.Relation
import PropTrace.Proofs.Scopes

/-!
Scopes and the scopes around them. A lookup goes outwards from scope to scope and stops at the first
one that declares the name; parents are older than the scopes they contain, so it comes to an end.
What a name stands for is decided by the nearest scope that declares it, and one more declaration
matters only where nothing nearer hides it.
-/
namespace PropTrace

namespace ScopeTree

/-- The scope `outer` is `inner` or stands around it. -/
def Encloses (tree : ScopeTree) (outer inner : ScopeId) : Prop :=
  Relation.ReflTransGen (fun scope parent => tree.parent? scope = some parent) inner outer

/-- How a lookup goes outwards, with the answer it ends with. Nothing bounds the number of scopes it
passes. -/
inductive LooksUp (tree : ScopeTree) (name : String) : ScopeId → Option VariableId → Prop where
  | found {scope : ScopeId} {id : VariableId} (declared : tree.declared? scope name = some id) :
      LooksUp tree name scope (some id)
  | outwards {scope parent : ScopeId} {answer : Option VariableId}
      (undeclared : tree.declared? scope name = none) (inside : tree.parent? scope = some parent)
      (above : LooksUp tree name parent answer) : LooksUp tree name scope answer
  | outermost {scope : ScopeId} (undeclared : tree.declared? scope name = none)
      (top : tree.parent? scope = none) : LooksUp tree name scope none

/-- The scope `declaring` is the nearest one around `scope`, itself included, that declares the
name. -/
structure Nearest (tree : ScopeTree) (name : String) (scope declaring : ScopeId) : Prop where
  around : tree.Encloses declaring scope
  declares : (tree.declared? declaring name).isSome
  first : ∀ other, tree.Encloses other scope → (tree.declared? other name).isSome →
    tree.Encloses other declaring

/-- A declaration of the name in `declaring` would be seen from `scope`: it is around, and no scope
up to it declares the name. -/
structure Exposed (tree : ScopeTree) (name : String) (declaring scope : ScopeId) : Prop where
  around : tree.Encloses declaring scope
  undeclared : ∀ other, tree.Encloses other scope → tree.Encloses declaring other →
    tree.declared? other name = none

variable {tree : ScopeTree} {scope parent outer inner : ScopeId} {name : String}
  {id : VariableId}

/-- Going out from a scope means staying or going out from the one around it. -/
theorem encloses_iff_of_parent (hParent : tree.parent? scope = some parent) :
    tree.Encloses outer scope ↔ outer = scope ∨ tree.Encloses outer parent := by
  constructor
  · intro h
    rcases Relation.ReflTransGen.cases_head h with hSelf | ⟨next, hNext, hRest⟩
    · exact .inl hSelf.symm
    · obtain rfl := Option.some.inj (hParent.symm.trans hNext)
      exact .inr hRest
  · rintro (rfl | hAbove)
    · exact .refl
    · exact .head hParent hAbove

theorem encloses_iff_of_top (hTop : tree.parent? scope = none) :
    tree.Encloses outer scope ↔ outer = scope := by
  constructor
  · intro h
    rcases Relation.ReflTransGen.cases_head h with hSelf | ⟨next, hNext, -⟩
    · exact hSelf.symm
    · simp [hTop] at hNext
  · rintro rfl
    exact .refl

/-- The scopes around one scope stand in a row. -/
theorem Encloses.total (hOuter : tree.Encloses outer scope) (hInner : tree.Encloses inner scope) :
    tree.Encloses inner outer ∨ tree.Encloses outer inner := by
  refine Relation.ReflTransGen.total_of_right_unique ?_ hOuter hInner
  intro start first second hFirst hSecond
  exact Option.some.inj (hFirst.symm.trans hSecond)

namespace Grown

theorem encloses_le (h : tree.Grown) (hEncloses : tree.Encloses outer inner) : outer ≤ inner := by
  induction hEncloses with
  | refl => exact Nat.le_refl _
  | tail _ hParent ih => exact Nat.le_trans (Nat.le_of_lt (h.parent?_lt hParent)) ih

theorem encloses_antisymm (h : tree.Grown) (hOuter : tree.Encloses outer inner)
    (hInner : tree.Encloses inner outer) : outer = inner :=
  Nat.le_antisymm (h.encloses_le hOuter) (h.encloses_le hInner)

/-- Parents are older, so what holds of a scope if it holds of its parent holds of every scope. -/
theorem outwards_induction (h : tree.Grown) {motive : ScopeId → Prop}
    (top : ∀ scope, tree.parent? scope = none → motive scope)
    (inside : ∀ scope parent, tree.parent? scope = some parent → motive parent → motive scope)
    (scope : ScopeId) : motive scope := by
  induction scope using Nat.strong_induction_on with
  | _ scope ih =>
      cases hParent : tree.parent? scope with
      | none => exact top scope hParent
      | some parent => exact inside scope parent hParent (ih parent (h.parent?_lt hParent))

/-- More steps than it takes to the module scope find no further scope. -/
theorem chainWithin_eq_chain (h : tree.Grown) {steps : Nat} (hSteps : scope < steps) :
    tree.chainWithin steps scope = tree.chain scope := by
  induction scope using h.outwards_induction generalizing steps with
  | top scope hTop =>
      obtain ⟨steps, rfl⟩ := Nat.exists_eq_add_one_of_ne_zero (Nat.ne_zero_of_lt hSteps)
      simp [chain, chainWithin, hTop]
  | inside scope parent hParent ih =>
      obtain ⟨steps, rfl⟩ := Nat.exists_eq_add_one_of_ne_zero (Nat.ne_zero_of_lt hSteps)
      have hLt := h.parent?_lt hParent
      simp only [chain, chainWithin, hParent]
      rw [ih (Nat.lt_of_lt_of_le hLt (Nat.le_of_lt_succ hSteps)), ih hLt]

theorem chain_eq (h : tree.Grown) (scope : ScopeId) :
    tree.chain scope = scope :: ((tree.parent? scope).map tree.chain).getD [] := by
  rw [chain, chainWithin]
  cases hParent : tree.parent? scope with
  | none => rfl
  | some parent => simp [h.chainWithin_eq_chain (h.parent?_lt hParent)]

/-- The chain of a scope lists the scopes around it. -/
theorem mem_chain_iff (h : tree.Grown) : outer ∈ tree.chain inner ↔ tree.Encloses outer inner := by
  induction inner using h.outwards_induction with
  | top scope hTop => simp [h.chain_eq scope, hTop, encloses_iff_of_top hTop]
  | inside scope parent hParent ih =>
      simp [h.chain_eq scope, hParent, encloses_iff_of_parent hParent, ih]

theorem lookup_eq (h : tree.Grown) (scope : ScopeId) (name : String) :
    tree.lookup scope name =
      (tree.declared? scope name).or ((tree.parent? scope).bind (tree.lookup · name)) := by
  rw [lookup, h.chain_eq, List.findSome?_cons]
  cases tree.declared? scope name with
  | some id => rfl
  | none => cases tree.parent? scope <;> rfl

/-- A lookup comes to an end, with the answer of `lookup`. -/
theorem looksUp (h : tree.Grown) (scope : ScopeId) (name : String) :
    tree.LooksUp name scope (tree.lookup scope name) := by
  induction scope using h.outwards_induction with
  | top scope hTop =>
      rw [h.lookup_eq]
      cases hDeclared : tree.declared? scope name with
      | some id => exact .found hDeclared
      | none => simpa [hTop] using LooksUp.outermost hDeclared hTop
  | inside scope parent hParent ih =>
      rw [h.lookup_eq]
      cases hDeclared : tree.declared? scope name with
      | some id => exact .found hDeclared
      | none => simpa [hParent] using LooksUp.outwards hDeclared hParent ih

theorem lookup_eq_none_iff (h : tree.Grown) :
    tree.lookup scope name = none ↔
      ∀ outer, tree.Encloses outer scope → tree.declared? outer name = none := by
  simp only [lookup, List.findSome?_eq_none_iff, h.mem_chain_iff]

/-- A name stands for the variable that the nearest declaring scope has for it. -/
theorem lookup_eq_some_iff (h : tree.Grown) :
    tree.lookup scope name = some id ↔
      ∃ declaring, tree.Nearest name scope declaring ∧ tree.declared? declaring name = some id := by
  constructor
  · intro hLookup
    induction scope using h.outwards_induction with
    | top scope hTop =>
        rw [h.lookup_eq, hTop] at hLookup
        have hDeclared : tree.declared? scope name = some id := by simpa using hLookup
        refine ⟨scope, ⟨.refl, by simp [hDeclared], ?_⟩, hDeclared⟩
        intro other hOther _
        exact hOther
    | inside scope parent hParent ih =>
        rw [h.lookup_eq, hParent] at hLookup
        cases hDeclared : tree.declared? scope name with
        | some found =>
            obtain rfl : found = id := by simpa [hDeclared] using hLookup
            exact ⟨scope, ⟨.refl, by simp [hDeclared], fun _ hOther _ => hOther⟩, hDeclared⟩
        | none =>
            obtain ⟨declaring, hNearest, hFound⟩ := ih (by simpa [hDeclared] using hLookup)
            refine ⟨declaring, ⟨.head hParent hNearest.around, hNearest.declares, ?_⟩, hFound⟩
            intro other hOther hSome
            rcases (encloses_iff_of_parent hParent).mp hOther with rfl | hAbove
            · simp [hDeclared] at hSome
            · exact hNearest.first other hAbove hSome
  · rintro ⟨declaring, ⟨hAround, -, hFirst⟩, hDeclared⟩
    induction hAround using Relation.ReflTransGen.head_induction_on with
    | refl =>
        rw [h.lookup_eq, hDeclared]
        rfl
    | @head start next hParent hAbove ih =>
        rw [h.lookup_eq, hParent, Option.bind_some]
        have hNone : tree.declared? start name = none := by
          rw [← Option.not_isSome_iff_eq_none]
          intro hSome
          -- the start would be at or above its own parent
          have hLe := h.encloses_le (hFirst start .refl hSome)
          have hLt := h.parent?_lt hParent
          have hGe := h.encloses_le hAbove
          exact Nat.lt_irrefl _ (Nat.lt_of_le_of_lt (Nat.le_trans hLe hGe) hLt)
        rw [hNone, Option.none_or]
        exact ih fun other hOther => hFirst other (.head hParent hOther)

/-- Declarations and variables are the same: a name is declared in a scope for the variable of this
scope and this name. -/
theorem declared?_eq_some_iff (h : tree.Grown) :
    tree.declared? scope name = some id ↔
      ∃ v, tree.vars[id]? = some v ∧ v.scope = scope ∧ v.name = name := by
  induction h generalizing scope name id with
  | initial =>
      have hNone : ScopeTree.initial.declared? scope name = none := by
        cases scope <;> rfl
      rw [hNone]
      simp [ScopeTree.initial]
  | createScope grown kind outer exists_parent ih =>
      rw [declared?_createScope]
      exact ih
  | @declare before grown inScope added exists_scope ih =>
      cases hBefore : before.declared? inScope added with
      | some existing =>
          rw [declare_of_some before hBefore]
          exact ih
      | none =>
          rw [declared?_declare_of_none exists_scope hBefore, declare_of_none before hBefore]
          simp only [Array.getElem?_push]
          by_cases hNew : id = before.vars.size
          · subst hNew
            have hOld : before.declared? scope name ≠ some before.vars.size := fun hSome =>
              absurd (grown.declared?_lt hSome) (Nat.lt_irrefl _)
            by_cases hSame : scope = inScope ∧ name = added
            · simp [hSame]
            · rw [if_neg hSame, if_pos rfl]
              refine iff_of_false hOld ?_
              rintro ⟨v, hVar, rfl, rfl⟩
              cases hVar
              exact hSame ⟨rfl, rfl⟩
          · rw [if_neg hNew]
            by_cases hSame : scope = inScope ∧ name = added
            · obtain ⟨rfl, rfl⟩ := hSame
              rw [if_pos ⟨rfl, rfl⟩, ← ih, hBefore]
              simp [Ne.symm hNew]
            · rw [if_neg hSame, ih]
  | @addReference before grown target identifier exists_id ih =>
      refine ih.trans ?_
      simp only [ScopeTree.addReference, Array.getElem?_modify]
      split
      · cases before.vars[id]? <;> simp
      · rfl
  | addUnresolved grown identifier ih => exact ih
  | @sortReferences before grown key ih =>
      refine ih.trans ?_
      simp only [ScopeTree.sortReferences, Array.getElem?_map]
      cases before.vars[id]? <;> simp

/-- A lookup answers a variable of the name, declared in the scope it starts from or around it. -/
theorem exists_var_of_lookup (h : tree.Grown) (hLookup : tree.lookup scope name = some id) :
    ∃ v, tree.vars[id]? = some v ∧ v.name = name ∧ tree.Encloses v.scope scope := by
  obtain ⟨declaring, hNearest, hDeclared⟩ := h.lookup_eq_some_iff.mp hLookup
  obtain ⟨v, hVar, rfl, hName⟩ := h.declared?_eq_some_iff.mp hDeclared
  exact ⟨v, hVar, hName, hNearest.around⟩

end Grown

/-- Declaring a name in a scope that exists: the name stands for the answered variable there, if it
stood for none, and every other name in every scope stands for what it stood for. -/
theorem declared?_declare (hScope : scope < tree.scopes.size) (inner : ScopeId) (other : String) :
    (tree.declare scope name).2.declared? inner other =
      (tree.declared? inner other).or
        (if inner = scope ∧ other = name then some (tree.declare scope name).1 else none) := by
  cases hBefore : tree.declared? scope name with
  | some existing =>
      rw [declare_of_some tree hBefore]
      by_cases hSame : inner = scope ∧ other = name
      · simp [hSame, hBefore]
      · simp [hSame]
  | none =>
      rw [declared?_declare_of_none hScope hBefore, declare_of_none tree hBefore]
      by_cases hSame : inner = scope ∧ other = name
      · simp [hSame, hBefore]
      · simp [hSame]

/-- A declaration moves no scope. -/
theorem encloses_declare (scope : ScopeId) (name : String) :
    (tree.declare scope name).2.Encloses outer inner ↔ tree.Encloses outer inner := by
  simp only [Encloses, parent?_declare]

/-- Where a declaration is not seen, everything stands for what it stood for. -/
theorem Grown.lookup_declare_of_not_exposed (h : tree.Grown) (hScope : scope < tree.scopes.size)
    {other : String} (hHidden : ¬(other = name ∧ tree.Exposed name scope inner)) :
    (tree.declare scope name).2.lookup inner other = tree.lookup inner other := by
  have hGrown := h.declare scope name hScope
  induction inner using h.outwards_induction with
  | top inner hTop =>
      rw [hGrown.lookup_eq, h.lookup_eq, parent?_declare, hTop, declared?_declare hScope]
      split
      · next hSame =>
          obtain ⟨rfl, rfl⟩ := hSame
          cases hDeclared : tree.declared? inner other with
          | some found => rfl
          | none =>
              refine absurd ⟨rfl, .refl, ?_⟩ hHidden
              intro between hBetween _
              rwa [(encloses_iff_of_top hTop).mp hBetween]
      · rw [Option.or_none]
        rfl
  | inside inner parent hParent ih =>
      rw [hGrown.lookup_eq, h.lookup_eq, parent?_declare, hParent, declared?_declare hScope]
      cases hDeclared : tree.declared? inner other with
      | some found => rfl
      | none =>
          split
          · next hSame =>
              obtain ⟨rfl, rfl⟩ := hSame
              refine absurd ⟨rfl, .refl, ?_⟩ hHidden
              intro between hBetween hAround
              rwa [h.encloses_antisymm hBetween hAround]
          · simp only [Option.none_or, Option.bind_some]
            refine ih ?_
            rintro ⟨rfl, hAround, hNone⟩
            refine hHidden ⟨rfl, .head hParent hAround, ?_⟩
            intro between hBetween hOuter
            rcases (encloses_iff_of_parent hParent).mp hBetween with rfl | hAbove
            · exact hDeclared
            · exact hNone between hAbove hOuter

/-- Where a declaration is seen, the name stands for the answered variable. -/
theorem Grown.lookup_declare_of_exposed (h : tree.Grown) (hScope : scope < tree.scopes.size)
    (hExposed : tree.Exposed name scope inner) :
    (tree.declare scope name).2.lookup inner name = some (tree.declare scope name).1 := by
  have hGrown := h.declare scope name hScope
  refine hGrown.lookup_eq_some_iff.mpr ⟨scope, ⟨?_, ?_, ?_⟩, declared?_declare_self hScope name⟩
  · exact (encloses_declare scope name).mpr hExposed.around
  · rw [declared?_declare_self hScope name]
    rfl
  · intro other hOther hSome
    rw [encloses_declare] at hOther ⊢
    rcases hOther.total hExposed.around with hInside | hAround
    · -- what declares the name further inside can only be the scope itself
      rw [declared?_declare hScope, hExposed.undeclared other hOther hInside] at hSome
      obtain rfl : other = scope := by simpa using hSome
      exact .refl
    · exact hAround

end ScopeTree

end PropTrace
