import PropTrace.Proofs.History

/-!
Where a `var` belongs. The search goes outwards from block to block and stops at the first scope that
is no block. Parents are older than the scopes in them, so it ends; only the module scope has no
parent, and it is no block, so the search never runs out of scopes inside a block. Scopes and names
that come later leave every earlier answer as it was.
-/
namespace PropTrace

namespace ScopeTree

/-- How the search for the scope of a `var` goes outwards, with the scope it stops at. Nothing bounds
the number of scopes it goes through, and a block without a parent would stop it as well. -/
inductive Hoists (tree : ScopeTree) : ScopeId → ScopeId → Prop where
  | stops {scope : ScopeId} {s : Scope} (here : tree.scopes[scope]? = some s)
      (last : s.kind ≠ .block ∨ s.parent = none) : Hoists tree scope scope
  | outwards {scope parent target : ScopeId} {s : Scope} (here : tree.scopes[scope]? = some s)
      (block : s.kind = .block) (inside : s.parent = some parent)
      (above : Hoists tree parent target) : Hoists tree scope target

/-- The scope `target` is the nearest one around `scope`, itself included, that is no block. -/
structure NearestNoBlock (tree : ScopeTree) (scope target : ScopeId) : Prop where
  around : tree.Encloses target scope
  noBlock : ∃ s, tree.scopes[target]? = some s ∧ s.kind ≠ .block
  blocks : ∀ between, tree.Encloses between scope → tree.Encloses target between →
    between ≠ target → tree.isBlock between

variable {tree : ScopeTree} {scope parent target between : ScopeId}

theorem isBlock_eq_of_getElem? {s : Scope} (hScope : tree.scopes[scope]? = some s) :
    tree.isBlock scope = (s.kind == .block) := by
  simp [isBlock, hScope]

namespace Grown

/-- Only scopes inside others are blocks. -/
theorem isBlock_of_top (h : tree.Grown) (hTop : tree.parent? scope = none) :
    tree.isBlock scope = false := by
  induction h with
  | initial => cases scope <;> rfl
  | @createScope before grown kind outer exists_parent ih =>
      rw [parent?_createScope] at hTop
      split at hTop
      · cases hTop
      · next hOld =>
          rw [isBlock, ScopeTree.createScope, Array.getElem?_push, if_neg hOld]
          exact ih hTop
  | @declare before grown inScope name exists_scope ih =>
      rw [parent?_declare] at hTop
      cases hDeclared : before.declared? inScope name with
      | some existing =>
          rw [declare_of_some before hDeclared]
          exact ih hTop
      | none =>
          have hBefore := ih hTop
          simp only [declare_of_none before hDeclared, isBlock, Array.getElem?_modify] at hBefore ⊢
          split
          · cases hScope : before.scopes[scope]? <;> simp_all
          · exact hBefore
  | addReference grown id identifier exists_id ih => exact ih hTop
  | addUnresolved grown identifier ih => exact ih hTop
  | sortReferences grown key ih => exact ih hTop

theorem hoistTarget_of_not_isBlock (h : tree.Grown) (hBlock : tree.isBlock scope = false) :
    tree.hoistTarget scope = scope := by
  rw [hoistTarget, h.chain_eq]
  simp [hBlock]

/-- Some scope around is no block. -/
theorem exists_not_isBlock (h : tree.Grown) (scope : ScopeId) :
    ∃ target, (tree.chain scope).find? (fun s => !tree.isBlock s) = some target := by
  induction scope using h.outwards_induction with
  | top scope hTop => exact ⟨scope, by simp [h.chain_eq scope, h.isBlock_of_top hTop]⟩
  | inside scope parent hParent ih =>
      obtain ⟨target, hTarget⟩ := ih
      rw [h.chain_eq scope, hParent]
      cases hBlock : tree.isBlock scope with
      | false => exact ⟨scope, by simp [hBlock]⟩
      | true => exact ⟨target, by simpa [hBlock] using hTarget⟩

/-- A block hands its `var` declarations on to the scope around it. -/
theorem hoistTarget_of_isBlock (h : tree.Grown) (hBlock : tree.isBlock scope)
    (hParent : tree.parent? scope = some parent) :
    tree.hoistTarget scope = tree.hoistTarget parent := by
  obtain ⟨target, hTarget⟩ := h.exists_not_isBlock parent
  rw [hoistTarget, hoistTarget, h.chain_eq scope, hParent, hTarget]
  simp [hBlock, hTarget]

theorem encloses_hoistTarget (h : tree.Grown) (scope : ScopeId) :
    tree.Encloses (tree.hoistTarget scope) scope := by
  induction scope using h.outwards_induction with
  | top scope hTop =>
      rw [h.hoistTarget_of_not_isBlock (h.isBlock_of_top hTop)]
      exact .refl
  | inside scope parent hParent ih =>
      cases hBlock : tree.isBlock scope with
      | false =>
          rw [h.hoistTarget_of_not_isBlock hBlock]
          exact .refl
      | true =>
          rw [h.hoistTarget_of_isBlock hBlock hParent]
          exact .head hParent ih

theorem isBlock_hoistTarget (h : tree.Grown) (scope : ScopeId) :
    tree.isBlock (tree.hoistTarget scope) = false := by
  obtain ⟨target, hTarget⟩ := h.exists_not_isBlock scope
  rw [hoistTarget, hTarget]
  simpa using List.find?_some hTarget

/-- All scopes on the way of a `var` to its function are blocks. -/
theorem isBlock_of_between (h : tree.Grown) (hInner : tree.Encloses between scope)
    (hOuter : tree.Encloses (tree.hoistTarget scope) between)
    (hNe : between ≠ tree.hoistTarget scope) : tree.isBlock between := by
  induction scope using h.outwards_induction with
  | top scope hTop =>
      rw [h.hoistTarget_of_not_isBlock (h.isBlock_of_top hTop)] at hNe
      exact absurd ((encloses_iff_of_top hTop).mp hInner) hNe
  | inside scope parent hParent ih =>
      cases hBlock : tree.isBlock scope with
      | false =>
          rw [h.hoistTarget_of_not_isBlock hBlock] at hOuter hNe
          exact absurd (h.encloses_antisymm hInner hOuter) hNe
      | true =>
          rw [h.hoistTarget_of_isBlock hBlock hParent] at hOuter hNe
          rcases (encloses_iff_of_parent hParent).mp hInner with rfl | hAbove
          · exact hBlock
          · exact ih hAbove hOuter hNe

/-- The search ends at every scope that exists, and the answer is `hoistTarget`. -/
theorem hoists_iff (h : tree.Grown) (hScope : scope < tree.scopes.size) :
    tree.Hoists scope target ↔ target = tree.hoistTarget scope := by
  constructor
  · intro hHoists
    induction hHoists with
    | @stops scope s here last =>
        have hBlock : tree.isBlock scope = false := by
          rcases last with hKind | hTop
          · simpa [isBlock_eq_of_getElem? here] using hKind
          · exact h.isBlock_of_top (by simp [parent?, here, hTop])
        exact (h.hoistTarget_of_not_isBlock hBlock).symm
    | @outwards scope parent target s here block inside above ih =>
        have hBlock : tree.isBlock scope := by simp [isBlock_eq_of_getElem? here, block]
        have hParent : tree.parent? scope = some parent := by simp [parent?, here, inside]
        rw [h.hoistTarget_of_isBlock hBlock hParent]
        exact ih ((h.parent?_lt hParent).trans hScope)
  · rintro rfl
    induction scope using h.outwards_induction with
    | top scope hTop =>
        have here := Array.getElem?_eq_getElem hScope
        rw [h.hoistTarget_of_not_isBlock (h.isBlock_of_top hTop)]
        exact .stops here (.inr (by simpa [parent?, here] using hTop))
    | inside scope parent hParent ih =>
        have here := Array.getElem?_eq_getElem hScope
        cases hBlock : tree.isBlock scope with
        | false =>
            rw [h.hoistTarget_of_not_isBlock hBlock]
            exact .stops here (.inl (by simpa [isBlock_eq_of_getElem? here] using hBlock))
        | true =>
            rw [h.hoistTarget_of_isBlock hBlock hParent]
            apply Hoists.outwards here
            · simpa [isBlock_eq_of_getElem? here] using hBlock
            · simpa [parent?, here] using hParent
            · exact ih ((h.parent?_lt hParent).trans hScope)

/-- A `var` belongs to the nearest scope that is no block, and there is only one such scope. -/
theorem nearestNoBlock_iff (h : tree.Grown) (hScope : scope < tree.scopes.size) :
    tree.NearestNoBlock scope target ↔ target = tree.hoistTarget scope := by
  have hAround := h.encloses_hoistTarget scope
  have hNoBlock := h.isBlock_hoistTarget scope
  have here := Array.getElem?_eq_getElem ((h.hoistTarget_le scope).trans_lt hScope)
  constructor
  · intro hNearest
    obtain ⟨s, hTarget, hKind⟩ := hNearest.noBlock
    have hOther : tree.isBlock target = false := by
      simpa [isBlock_eq_of_getElem? hTarget] using hKind
    by_contra hNe
    -- the two scopes stand in a row, and the inner one would have to be a block
    rcases hNearest.around.total hAround with hOutside | hInside
    · have hBlock := h.isBlock_of_between hNearest.around hOutside hNe
      rw [hOther] at hBlock
      cases hBlock
    · have hBlock := hNearest.blocks _ hAround hInside (Ne.symm hNe)
      rw [hNoBlock] at hBlock
      cases hBlock
  · rintro rfl
    refine ⟨hAround, ⟨_, here, ?_⟩, fun between => h.isBlock_of_between⟩
    simpa [isBlock_eq_of_getElem? here] using hNoBlock

end Grown

/-- Where a `var` belongs, after any operations on scopes and names. From every scope the search
ends, at one scope; it is the nearest scope around that is no block, and the only one with this
property. A scope that is found belongs to itself, a block hands its `var` declarations on to the
scope around it, and whatever is done later changes none of these answers. -/
theorem run_hoists_to_nearest (operations : List Operation)
    (hAllows : initial.Allows operations) :
    let tree := initial.run operations
    ∀ scope < tree.scopes.size,
      (∀ target, tree.Hoists scope target ↔ target = tree.hoistTarget scope) ∧
      (∀ target, tree.NearestNoBlock scope target ↔ target = tree.hoistTarget scope) ∧
      tree.hoistTarget (tree.hoistTarget scope) = tree.hoistTarget scope ∧
      (tree.isBlock scope → ∃ parent, tree.parent? scope = some parent ∧
        tree.hoistTarget scope = tree.hoistTarget parent) ∧
      ∀ later, (tree.run later).hoistTarget scope = tree.hoistTarget scope := by
  intro tree scope hScope
  have hGrown : tree.Grown := Grown.initial.run hAllows
  have hTarget := hGrown.isBlock_hoistTarget scope
  refine ⟨fun target => hGrown.hoists_iff hScope, fun target => hGrown.nearestNoBlock_iff hScope,
    hGrown.hoistTarget_of_not_isBlock hTarget, ?_, ?_⟩
  · intro hBlock
    cases hParent : tree.parent? scope with
    | none =>
        rw [hGrown.isBlock_of_top hParent] at hBlock
        cases hBlock
    | some parent => exact ⟨parent, rfl, hGrown.hoistTarget_of_isBlock hBlock hParent⟩
  · intro later
    exact (extends_run tree later).hoistTarget hGrown hScope

/-- A function with two blocks in it, one inside the other, and a second function in the inner one. -/
def blocksInFunction : List Operation :=
  [.createScope .function 0, .createScope .block 1, .declare 2 "x", .createScope .block 2,
    .createScope .function 3]

/-- A `var` in the inner block belongs to the outer function, also when more scopes follow. -/
theorem blocksInFunction_hoists :
    initial.Allows blocksInFunction ∧ (initial.run blocksInFunction).Hoists 3 1 ∧
      (initial.run blocksInFunction).NearestNoBlock 3 1 ∧
      ((initial.run blocksInFunction).run [.createScope .block 3, .declare 3 "x"]).hoistTarget 3 =
        1 := by
  have hAllows : initial.Allows blocksInFunction := by
    simp only [blocksInFunction, Allows, Operation.Fits]
    decide
  have hTarget : (initial.run blocksInFunction).hoistTarget 3 = 1 := by decide
  obtain ⟨hSearch, hNearest, -, -, hLater⟩ :=
    run_hoists_to_nearest blocksInFunction hAllows 3 (by decide)
  exact ⟨hAllows, (hSearch 1).mpr hTarget.symm, (hNearest 1).mpr hTarget.symm,
    (hLater _).trans hTarget⟩

end ScopeTree

end PropTrace
