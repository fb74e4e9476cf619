import PropTrace.Proofs.Building
import PropTrace.Proofs.Hoisting

/-!
The regions of an outline and the names of the scopes they open. A region is a part of an outline
with a scope of its own. The names of that scope are the ones that the region binds: those that are
bound in it and in no region further inside, and, unless it is a block, those that blocks in it hand
on.
-/
namespace PropTrace

/-- A part of an outline with a scope of its own, and the node it belongs to. -/
structure Region where
  shape : Shape
  span : Span
  kind : ScopeKind
  inside : List Outline

namespace Outline

mutual

/-- The names an outline binds in the scope it stands in, for `here`, or in the nearest scope around
it that is no block, for `hoisted`. -/
def bindsAt (place : BindingPlace) : Outline → List String
  | .use _ => []
  | .bind name target => if target = place then [name.text] else []
  | .node _ _ parts => bindsAllAt place parts
  | .region _ _ before kind inside =>
    bindsAllAt place before ++
      if place = .hoisted ∧ kind = .block then bindsAllAt place inside else []

/-- The names that outlines side by side bind there. -/
def bindsAllAt (place : BindingPlace) : List Outline → List String
  | [] => []
  | outline :: rest => bindsAt place outline ++ bindsAllAt place rest

end

end Outline

/-- The names of the scope that a region opens. -/
def Region.names (region : Region) : List String :=
  Outline.bindsAllAt .here region.inside ++
    if region.kind = .block then [] else Outline.bindsAllAt .hoisted region.inside

namespace Draft

variable {draft after : Draft} {scope : ScopeId}

theorem Grown.placeOf_le (h : draft.Grown) (place : BindingPlace) (scope : ScopeId) :
    draft.placeOf place scope ≤ scope := by
  cases place with
  | here => exact Nat.le_refl _
  | hoisted => exact h.scopes.hoistTarget_le scope

/-- In a new block a `var` belongs where it belongs outside; any other new scope keeps it. -/
theorem placeOf_openScope (hGrown : draft.Grown) (hScope : scope < draft.scopes.scopes.size)
    (kind : ScopeKind) (place : BindingPlace) :
    (draft.openScope kind scope).placeOf place draft.scopes.scopes.size =
      if place = .hoisted ∧ kind = .block then draft.placeOf .hoisted scope
      else draft.scopes.scopes.size := by
  have hOpened := hGrown.openScope kind hScope
  have hKind : (draft.openScope kind scope).scopes.isBlock draft.scopes.scopes.size =
      decide (kind = .block) := by
    cases kind <;> simp [openScope, ScopeTree.createScope, ScopeTree.isBlock]
  cases place with
  | here => simp [placeOf]
  | hoisted =>
      by_cases hBlock : kind = .block
      · have hParent : (draft.openScope kind scope).scopes.parent? draft.scopes.scopes.size =
            some scope := by
          simp [openScope, ScopeTree.createScope, ScopeTree.parent?]
        rw [if_pos ⟨rfl, hBlock⟩]
        have hIsBlock := hKind.trans (decide_eq_true hBlock)
        refine (hOpened.scopes.hoistTarget_of_isBlock hIsBlock hParent).trans ?_
        exact (draft.extends_openScope kind scope).scopes.hoistTarget hGrown.scopes hScope
      · rw [if_neg fun hBoth => hBlock hBoth.2]
        exact hOpened.scopes.hoistTarget_of_not_isBlock (hKind.trans (decide_eq_false hBlock))

end Draft

namespace Outline

@[simp]
theorem bindsAllAt_nil (place : BindingPlace) : bindsAllAt place [] = [] := by simp [bindsAllAt]

@[simp]
theorem bindsAllAt_use (place : BindingPlace) (name : Name) (rest : List Outline) :
    bindsAllAt place (.use name :: rest) = bindsAllAt place rest := by simp [bindsAllAt, bindsAt]

@[simp]
theorem bindsAllAt_bind (place target : BindingPlace) (name : Name) (rest : List Outline) :
    bindsAllAt place (.bind name target :: rest) =
      (if target = place then [name.text] else []) ++ bindsAllAt place rest := by
  simp [bindsAllAt, bindsAt]

@[simp]
theorem bindsAllAt_node (place : BindingPlace) (shape : Shape) (span : Span)
    (parts rest : List Outline) :
    bindsAllAt place (.node shape span parts :: rest) =
      bindsAllAt place parts ++ bindsAllAt place rest := by simp [bindsAllAt, bindsAt]

@[simp]
theorem bindsAllAt_region (place : BindingPlace) (shape : Shape) (span : Span)
    (before inside rest : List Outline) (kind : ScopeKind) :
    bindsAllAt place (.region shape span before kind inside :: rest) =
      bindsAllAt place before ++
        (if place = .hoisted ∧ kind = .block then bindsAllAt place inside else []) ++
          bindsAllAt place rest := by simp [bindsAllAt, bindsAt]

@[simp]
theorem bindsAllAt_labeled (place : BindingPlace) (label : String) (span : Span)
    (parts rest : List Outline) :
    bindsAllAt place (labeled label span parts :: rest) =
      bindsAllAt place parts ++ bindsAllAt place rest :=
  bindsAllAt_node place (.other label) span parts rest

@[simp]
theorem bindsAllAt_append (place : BindingPlace) (before after : List Outline) :
    bindsAllAt place (before ++ after) =
      bindsAllAt place before ++ bindsAllAt place after := by
  induction before with
  | nil => simp
  | cons outline before ih => simp [bindsAllAt, ih]

theorem mem_bindsAllAt_map_bind {names : List Name} {name : Name} (hName : name ∈ names)
    (place : BindingPlace) :
    name.text ∈ bindsAllAt place (names.map fun name => .bind name place) := by
  induction names with
  | nil => cases hName
  | cons first names ih =>
      rcases List.mem_cons.mp hName with rfl | hRest
      · simp
      · simp [ih hRest]

/-- Outlines that are built in a scope bind a name for some scope. -/
def BindsFor (draft : Draft) (scope : ScopeId) (outlines : List Outline) (target : ScopeId)
    (name : String) : Prop :=
  ∃ place, target = draft.placeOf place scope ∧ name ∈ bindsAllAt place outlines

variable {draft : Draft} {scope target : ScopeId} {name : String} {parts rest : List Outline}

theorem bindsFor_append :
    BindsFor draft scope (parts ++ rest) target name ↔
      BindsFor draft scope parts target name ∨ BindsFor draft scope rest target name := by
  simp only [BindsFor, bindsAllAt_append, List.mem_append, and_or_left, exists_or]

theorem bindsFor_bind {bound : Name} {place : BindingPlace} :
    BindsFor draft scope [.bind bound place] target name ↔
      target = draft.placeOf place scope ∧ name = bound.text := by
  constructor
  · rintro ⟨other, rfl, hMem⟩
    by_cases hPlace : place = other
    · exact ⟨by rw [hPlace], by simpa [hPlace] using hMem⟩
    · simp [hPlace] at hMem
  · rintro ⟨rfl, rfl⟩
    exact ⟨place, rfl, by simp⟩

theorem BindsFor.congr {after : Draft}
    (h : ∀ place, after.placeOf place scope = draft.placeOf place scope) :
    BindsFor after scope rest target name ↔ BindsFor draft scope rest target name := by
  simp only [BindsFor, h]

/-- What a new scope hands on to older ones: the `var` declarations of a block. -/
theorem bindsFor_openScope (hGrown : draft.Grown) (hScope : scope < draft.scopes.scopes.size)
    (hOld : target < draft.scopes.scopes.size) (kind : ScopeKind) :
    BindsFor (draft.openScope kind scope) draft.scopes.scopes.size parts target name ↔
      kind = .block ∧ target = draft.placeOf .hoisted scope ∧
        name ∈ bindsAllAt .hoisted parts := by
  simp only [BindsFor, Draft.placeOf_openScope hGrown hScope]
  constructor
  · rintro ⟨place, hTarget, hMem⟩
    split at hTarget
    · next hBoth =>
        obtain ⟨rfl, hBlock⟩ := hBoth
        exact ⟨hBlock, hTarget, hMem⟩
    · exact absurd hTarget (Nat.ne_of_lt hOld)
  · rintro ⟨hBlock, hTarget, hMem⟩
    exact ⟨.hoisted, by rw [if_pos ⟨rfl, hBlock⟩, hTarget], hMem⟩

/-- What a new scope gets is what its region binds. -/
theorem bindsFor_opened (hGrown : draft.Grown) (hScope : scope < draft.scopes.scopes.size)
    {shape : Shape} {span : Span} {kind : ScopeKind} :
    BindsFor (draft.openScope kind scope) draft.scopes.scopes.size parts
      draft.scopes.scopes.size name ↔ name ∈ Region.names ⟨shape, span, kind, parts⟩ := by
  have hHoisted : draft.placeOf .hoisted scope ≠ draft.scopes.scopes.size :=
    Nat.ne_of_lt (hGrown.placeOf_lt .hoisted hScope)
  simp only [BindsFor, Draft.placeOf_openScope hGrown hScope, Region.names, List.mem_append]
  constructor
  · rintro ⟨place, hTarget, hMem⟩
    cases place with
    | here => exact .inl hMem
    | hoisted =>
        by_cases hBlock : kind = .block
        · simp [hBlock, hHoisted.symm] at hTarget
        · exact .inr (by simpa [hBlock] using hMem)
  · rintro (hHere | hMem)
    · exact ⟨.here, by simp, hHere⟩
    · by_cases hBlock : kind = .block
      · simp [hBlock] at hMem
      · exact ⟨.hoisted, by simp [hBlock], by simpa [hBlock] using hMem⟩

theorem bindsFor_region {shape : Shape} {span : Span} {before inside : List Outline}
    {kind : ScopeKind} :
    BindsFor draft scope [.region shape span before kind inside] target name ↔
      BindsFor draft scope before target name ∨
        kind = .block ∧ target = draft.placeOf .hoisted scope ∧
          name ∈ bindsAllAt .hoisted inside := by
  constructor
  · rintro ⟨place, hTarget, hMem⟩
    rw [bindsAllAt_region, bindsAllAt_nil, List.append_nil, List.mem_append] at hMem
    rcases hMem with hBefore | hInside
    · exact .inl ⟨place, hTarget, hBefore⟩
    · split at hInside
      · next hBoth =>
          obtain ⟨rfl, hBlock⟩ := hBoth
          exact .inr ⟨hBlock, hTarget, hInside⟩
      · cases hInside
  · rintro (⟨place, hTarget, hMem⟩ | ⟨hBlock, hTarget, hMem⟩)
    · exact ⟨place, hTarget, by simp [hMem]⟩
    · exact ⟨.hoisted, hTarget, by simp [hBlock, hMem]⟩

/-- Building outlines in a scope gives the older scopes the names that are bound for them, and no
others. -/
def Adds (outlines : List Outline) (scope : ScopeId) (draft after : Draft) : Prop :=
  ∀ old < draft.scopes.scopes.size, ∀ name, (after.scopes.declared? old name).isSome ↔
    (draft.scopes.declared? old name).isSome ∨ BindsFor draft scope outlines old name

namespace Adds

variable {middle after outside : Draft} {before inside : List Outline} {ids outer : List NodeId}

theorem append (hFirst : Adds parts scope draft middle)
    (hBuilt : Built parts scope draft ids middle) (hGrown : draft.Grown)
    (hScope : scope < draft.scopes.scopes.size)
    (hRest : Adds rest scope middle after) : Adds (parts ++ rest) scope draft after := by
  intro old hOld name
  have hSame : BindsFor middle scope rest old name ↔ BindsFor draft scope rest old name :=
    BindsFor.congr fun place => hBuilt.keeps.placeOf hGrown place hScope
  rw [hRest old (hBuilt.scope_lt hOld) name, hFirst old hOld name, hSame, or_assoc,
    ← bindsFor_append]

theorem bind (bound : Name) (place : BindingPlace) (hGrown : draft.Grown)
    (hScope : scope < draft.scopes.scopes.size) :
    Adds [.bind bound place] scope draft
      (draft.bind bound (draft.placeOf place scope) scope).2 := by
  intro old _ name
  change ((draft.scopes.declare (draft.placeOf place scope) bound.text).2.declared? old
    name).isSome ↔ _
  rw [ScopeTree.declared?_declare (hGrown.placeOf_lt place hScope), bindsFor_bind,
    Option.isSome_or, Bool.or_eq_true]
  by_cases hSame : old = draft.placeOf place scope ∧ name = bound.text <;> simp [hSame]

/-- A region gives older scopes what stands outside of it and the `var` declarations of a block. -/
theorem region (shape : Shape) (span : Span) (kind : ScopeKind)
    (hBuilt : Built before scope draft outer outside) (hGrown : draft.Grown)
    (hScope : scope < draft.scopes.scopes.size) (hBefore : Adds before scope draft outside)
    (hInside : Adds inside outside.scopes.scopes.size (outside.openScope kind scope) after) :
    Adds [.region shape span before kind inside] scope draft after := by
  intro old hOld name
  have hOuter := hBuilt.scope_lt hOld
  have hOpened : BindsFor (outside.openScope kind scope) outside.scopes.scopes.size inside old
      name ↔ _ := bindsFor_openScope hBuilt.grown (hBuilt.scope_lt hScope) hOuter kind
  have hUnopened : ((outside.openScope kind scope).scopes.declared? old name).isSome ↔
      (outside.scopes.declared? old name).isSome := by
    rw [Draft.openScope, ScopeTree.declared?_createScope]
  have hFresh := Nat.lt_trans hOuter (outside.size_lt_openScope kind scope)
  rw [hInside old hFresh name, hUnopened, hOpened, hBefore old hOld name, or_assoc,
    hBuilt.keeps.placeOf hGrown .hoisted hScope, bindsFor_region]

end Adds

theorem adds_cons {outline : Outline} (hGrown : draft.Grown)
    (hScope : scope < draft.scopes.scopes.size)
    (hFirst : Adds [outline] scope draft (buildAll [outline] scope draft).2)
    (hRest : ∀ middle : Draft, middle.Grown → scope < middle.scopes.scopes.size →
      Adds rest scope middle (buildAll rest scope middle).2) :
    Adds (outline :: rest) scope draft (buildAll (outline :: rest) scope draft).2 := by
  have hBuilt := built_buildAll [outline] scope draft hGrown hScope
  exact hFirst.append hBuilt hGrown hScope (hRest _ hBuilt.grown (hBuilt.scope_lt hScope))

/-- The names of a scope after building are those it had and those that were bound for it. -/
theorem adds_buildAll (outlines : List Outline) (scope : ScopeId) (draft : Draft)
    (hGrown : draft.Grown) (hScope : scope < draft.scopes.scopes.size) :
    Adds outlines scope draft (buildAll outlines scope draft).2 := by
  induction outlines using forest_induction generalizing scope draft with
  | nil =>
      intro old _ name
      simp [buildAll, BindsFor]
  | use used rest ih =>
      refine adds_cons hGrown hScope ?_ (ih scope)
      intro old _ name
      simp [BindsFor]
      rfl
  | bind bound place rest ih =>
      exact adds_cons hGrown hScope (.bind bound place hGrown hScope) (ih scope)
  | node shape span parts rest ihParts ihRest =>
      refine adds_cons hGrown hScope ?_ (ihRest scope)
      intro old hOld name
      refine (ihParts scope draft hGrown hScope old hOld name).trans ?_
      simp [BindsFor]
  | region shape span before kind inside rest ihBefore ihInside ihRest =>
      have hBefore := built_buildAll before scope draft hGrown hScope
      refine adds_cons hGrown hScope ?_ (ihRest scope)
      refine .region shape span kind hBefore hGrown hScope (ihBefore scope draft hGrown hScope) ?_
      exact ihInside _ _ (hBefore.grown.openScope kind (hBefore.scope_lt hScope))
        (Draft.size_lt_openScope _ kind scope)

end Outline

end PropTrace
