import PropTrace.Proofs.PostOrder
import PropTrace.Proofs.Regions

/-!
The regions around a use and the scopes they open. A draft lists its uses while it is built, and
whatever is built later adds no name to the scopes that were opened for a region. So in the finished
unit the regions around a use lead from the module scope to the scope where its identifier stands,
and each of the scopes on the way has the names of its region.
-/
namespace PropTrace

namespace Outline

mutual

/-- The names an outline uses, each with the regions around it, innermost first. -/
def usesUnder (around : List Region) : Outline → List (Name × List Region)
  | .use name => [(name, around)]
  | .bind _ _ => []
  | .node _ _ parts => usesAllUnder around parts
  | .region shape span before kind inside =>
    usesAllUnder around before ++ usesAllUnder (⟨shape, span, kind, inside⟩ :: around) inside

/-- The names that outlines side by side use. -/
def usesAllUnder (around : List Region) : List Outline → List (Name × List Region)
  | [] => []
  | outline :: rest => usesUnder around outline ++ usesAllUnder around rest

end

end Outline

namespace SourceUnit

/-- A node below the node of a region stands in a scope that the region opened: it has the kind of
the region, stands inside the scope of that node, and has the names of the region and no others. -/
structure Opened (unit : SourceUnit) (use : NodeId) (region : Region) (outer inner : ScopeId) :
    Prop where
  scope : ∃ names,
    unit.scopes.scopes[inner]? = some { kind := region.kind, parent := some outer, names }
  named : ∀ name, (unit.scopes.declared? inner name).isSome ↔ name ∈ region.names
  node : ∃ id parts, unit.tree.Holds id (region.shape.kind parts) region.span outer ∧
    unit.tree.Descends id use

/-- The regions around a node, innermost first, lead from one scope into another. -/
inductive Opens (unit : SourceUnit) (use : NodeId) : List Region → ScopeId → ScopeId → Prop where
  | nil (scope : ScopeId) : Opens unit use [] scope scope
  | cons {region : Region} {around : List Region} {outside outer inner : ScopeId}
      (above : Opens unit use around outside outer) (opened : unit.Opened use region outer inner) :
      Opens unit use (region :: around) outside inner

/-- An identifier uses a name in the scope that the regions around it lead to. -/
def UsedAt (unit : SourceUnit) (outside : ScopeId) (use : Name × List Region) (id : NodeId) :
    Prop :=
  ∃ scope, unit.tree.Holds id (.identifier use.1.text) use.1.span scope ∧
    unit.Opens id use.2 outside scope

/-- A finished unit has all that a draft holds, and the scopes that the draft got since `before`
have no further names. -/
structure Finishes (unit : SourceUnit) (waiting : List NodeId) (before draft : Draft) : Prop where
  keeps : draft.Extends (unit.drafted waiting)
  names : ∀ scope, before.scopes.scopes.size ≤ scope → scope < draft.scopes.scopes.size →
    ∀ name, (unit.scopes.declared? scope name).isSome ↔ (draft.scopes.declared? scope name).isSome

namespace Finishes

variable {unit : SourceUnit} {waiting : List NodeId} {before middle after : Draft} {scope : ScopeId}
  {rest : List Outline} {ids : List NodeId}

/-- A draft may be left out if none of the scopes in question gets a name from there on. -/
theorem of_extends (h : unit.Finishes waiting before after) (hKeeps : middle.Extends after)
    (hSame : ∀ inner, before.scopes.scopes.size ≤ inner → inner < middle.scopes.scopes.size →
      ∀ name, (after.scopes.declared? inner name).isSome ↔
        (middle.scopes.declared? inner name).isSome) : unit.Finishes waiting before middle where
  keeps := hKeeps.trans h.keeps
  names := by
    intro inner hSince hInner name
    have hAfter := Nat.lt_of_lt_of_le hInner hKeeps.scopes.size_scopes_le
    rw [h.names inner hSince hAfter name, hSame inner hSince hInner name]

/-- Building in an old scope adds nothing to newer ones. -/
theorem of_built (h : unit.Finishes waiting before after)
    (hScope : scope < before.scopes.scopes.size) (hGrown : middle.Grown)
    (hBuilt : Outline.Built rest scope middle ids after)
    (hAdds : Outline.Adds rest scope middle after) : unit.Finishes waiting before middle := by
  refine h.of_extends hBuilt.keeps fun inner hSince hInner name => ?_
  rw [hAdds inner hInner name, or_iff_left]
  rintro ⟨place, rfl, -⟩
  exact Nat.not_lt_of_le hSince (Nat.lt_of_le_of_lt (hGrown.placeOf_le place scope) hScope)

/-- Building in a new scope adds nothing to those that are neither older than `before` nor new. -/
theorem of_built_region {kind : ScopeKind} {inside : List Outline}
    (h : unit.Finishes waiting before after) (hScope : scope < before.scopes.scopes.size)
    (hOlder : before.scopes.scopes.size ≤ middle.scopes.scopes.size) (hGrown : middle.Grown)
    (hBuilt : Outline.Built inside middle.scopes.scopes.size (middle.openScope kind scope) ids
      after)
    (hAdds : Outline.Adds inside middle.scopes.scopes.size (middle.openScope kind scope) after) :
    unit.Finishes waiting before middle := by
  have hKeeps := (middle.extends_openScope kind scope).trans hBuilt.keeps
  refine h.of_extends hKeeps fun inner hSince hInner name => ?_
  have hOuter := Nat.lt_of_lt_of_le hScope hOlder
  have hFresh := Nat.lt_trans hInner (middle.size_lt_openScope kind scope)
  rw [hAdds inner hFresh name, Outline.bindsFor_openScope hGrown hOuter hInner, Draft.openScope,
    ScopeTree.declared?_createScope, or_iff_left]
  rintro ⟨-, rfl, -⟩
  exact Nat.not_lt_of_le hSince (Nat.lt_of_le_of_lt (hGrown.placeOf_le .hoisted scope) hScope)

theorem of_push {kind : NodeKind} {span : Span}
    (h : unit.Finishes waiting before (middle.push kind span scope).2) :
    unit.Finishes waiting before middle :=
  ⟨(middle.extends_push kind span scope).trans h.keeps, h.names⟩

theorem since (h : unit.Finishes waiting before after)
    (hOlder : before.scopes.scopes.size ≤ middle.scopes.scopes.size) :
    unit.Finishes waiting middle after :=
  ⟨h.keeps, fun scope hSince => h.names scope (Nat.le_trans hOlder hSince)⟩

end Finishes

/-- The uses that were put on the list between two drafts, in order. -/
structure Waits (unit : SourceUnit) (outside : ScopeId) (uses : List (Name × List Region))
    (before after : Draft) (ids : List NodeId) : Prop where
  list : after.uses = before.uses ++ ids
  fresh : ∀ id ∈ ids, before.tree.size ≤ id ∧ id < after.tree.size
  ascending : ids.Pairwise (· < ·)
  used : List.Forall₂ (unit.UsedAt outside) uses ids

namespace Waits

variable {unit : SourceUnit} {outside : ScopeId} {uses more : List (Name × List Region)}
  {before middle after : Draft} {ids others : List NodeId}

theorem append (hFirst : unit.Waits outside uses before middle ids)
    (hRest : unit.Waits outside more middle after others)
    (hBefore : before.tree.size ≤ middle.tree.size) (hAfter : middle.tree.size ≤ after.tree.size) :
    unit.Waits outside (uses ++ more) before after (ids ++ others) where
  list := by rw [hRest.list, hFirst.list, List.append_assoc]
  fresh := by
    intro id hMem
    rcases List.mem_append.mp hMem with hFirstMem | hRestMem
    · obtain ⟨hLow, hHigh⟩ := hFirst.fresh id hFirstMem
      exact ⟨hLow, Nat.lt_of_lt_of_le hHigh hAfter⟩
    · obtain ⟨hLow, hHigh⟩ := hRest.fresh id hRestMem
      exact ⟨Nat.le_trans hBefore hLow, hHigh⟩
  ascending := by
    refine List.pairwise_append.mpr ⟨hFirst.ascending, hRest.ascending, ?_⟩
    intro id hId other hOther
    exact Nat.lt_of_lt_of_le (hFirst.fresh id hId).2 (hRest.fresh other hOther).1
  used := List.rel_append hFirst.used hRest.used

theorem push (h : unit.Waits outside uses before after ids) (kind : NodeKind) (span : Span)
    (scope : ScopeId) : unit.Waits outside uses before (after.push kind span scope).2 ids where
  list := h.list
  fresh := by
    intro id hMem
    have hSize : (after.push kind span scope).2.tree.size = after.tree.size + 1 :=
      SyntaxTree.size_push ..
    exact ⟨(h.fresh id hMem).1, hSize ▸ Nat.lt_succ_of_lt (h.fresh id hMem).2⟩
  ascending := h.ascending
  used := h.used

end Waits

end SourceUnit

namespace Outline

section waiting

variable {unit : SourceUnit} {waiting : List NodeId} {outside scope : ScopeId} {draft : Draft}
  {around : List Region}

/-- Building outlines under some regions puts their uses on the list, if the unit that the draft
becomes is the given one and the regions stand around everything that is built. -/
def Lists (unit : SourceUnit) (waiting : List NodeId) (outside scope : ScopeId)
    (around : List Region) (outlines : List Outline) (draft : Draft) : Prop :=
  unit.Finishes waiting draft (buildAll outlines scope draft).2 →
    (∀ id, draft.tree.size ≤ id → id < (buildAll outlines scope draft).2.tree.size →
      unit.Opens id around outside scope) →
    ∃ ids, unit.Waits outside (usesAllUnder around outlines) draft
      (buildAll outlines scope draft).2 ids

theorem lists_cons {outline : Outline} {rest : List Outline} (hGrown : draft.Grown)
    (hScope : scope < draft.scopes.scopes.size)
    (hFirst : Lists unit waiting outside scope around [outline] draft)
    (hRest : ∀ middle : Draft, middle.Grown → scope < middle.scopes.scopes.size →
      Lists unit waiting outside scope around rest middle) :
    Lists unit waiting outside scope around (outline :: rest) draft := by
  intro hFinishes hAround
  have hBuilt := built_buildAll [outline] scope draft hGrown hScope
  have hInner := hBuilt.scope_lt hScope
  have hLater := built_buildAll rest scope _ hBuilt.grown hInner
  have hAdds := adds_buildAll rest scope _ hBuilt.grown hInner
  obtain ⟨ids, hIds⟩ := hFirst (hFinishes.of_built hScope hBuilt.grown hLater hAdds)
    fun id hLow hHigh => hAround id hLow (Nat.lt_of_lt_of_le hHigh hLater.size_le)
  obtain ⟨others, hOthers⟩ := hRest _ hBuilt.grown hInner
    (hFinishes.since hBuilt.keeps.scopes.size_scopes_le)
    fun id hLow hHigh => hAround id (Nat.le_trans hBuilt.size_le hLow) hHigh
  refine ⟨ids ++ others, ?_⟩
  have hAll := hIds.append hOthers hBuilt.size_le hLater.size_le
  rw [usesAllUnder, usesAllUnder, List.append_nil] at hAll
  exact hAll

theorem lists_use (name : Name) : Lists unit waiting outside scope around [.use name] draft := by
  intro hFinishes hAround
  have hSize : (buildAll [.use name] scope draft).2.tree.size = draft.tree.size + 1 :=
    SyntaxTree.size_push ..
  have hFresh : draft.tree.size < (buildAll [.use name] scope draft).2.tree.size := by omega
  refine ⟨[draft.tree.size], rfl, ?_, List.pairwise_singleton _ _, ?_⟩
  · intro id hMem
    rw [List.mem_singleton.mp hMem]
    exact ⟨Nat.le_refl _, hFresh⟩
  · simp only [usesAllUnder, usesUnder, List.append_nil]
    refine .cons ⟨scope, hFinishes.keeps.holds (SyntaxTree.holds_push ..), ?_⟩ .nil
    exact hAround _ (Nat.le_refl _) hFresh

theorem lists_node {shape : Shape} {span : Span} {parts : List Outline}
    (hParts : Lists unit waiting outside scope around parts draft) :
    Lists unit waiting outside scope around [.node shape span parts] draft := by
  intro hFinishes hAround
  have hSize : (buildAll [.node shape span parts] scope draft).2.tree.size =
      (buildAll parts scope draft).2.tree.size + 1 := SyntaxTree.size_push ..
  obtain ⟨ids, hIds⟩ := hParts hFinishes.of_push fun id hLow hHigh =>
    hAround id hLow (by omega)
  refine ⟨ids, ?_⟩
  simp only [usesAllUnder, usesUnder, List.append_nil]
  exact hIds.push _ span scope

/-- Everything that is built inside of a region stands in the scope that the region opened. -/
theorem opened_of_built {shape : Shape} {span : Span} {inside : List Outline} {kind : ScopeKind}
    {after before : Draft} {outer inner : List NodeId} (hGrown : draft.Grown)
    (hScope : scope < draft.scopes.scopes.size)
    (hOlder : before.scopes.scopes.size ≤ draft.scopes.scopes.size)
    (hBuilt : Built inside draft.scopes.scopes.size (draft.openScope kind scope) inner after)
    (hAdds : Adds inside draft.scopes.scopes.size (draft.openScope kind scope) after)
    (hFinishes : unit.Finishes waiting before
      (after.push (shape.kind (outer ++ inner)) span scope).2)
    {id : NodeId} (hLow : draft.tree.size ≤ id) (hHigh : id < after.tree.size) :
    unit.Opened id ⟨shape, span, kind, inside⟩ scope draft.scopes.scopes.size where
  scope := by
    obtain ⟨names, hOpened, -⟩ := (hBuilt.keeps.trans hFinishes.of_push.keeps).scopes.scope _ _
      (draft.getElem?_openScope kind scope)
    exact ⟨names, hOpened⟩
  named := by
    intro name
    have hFresh := draft.size_lt_openScope kind scope
    have hNone : (draft.openScope kind scope).scopes.declared? draft.scopes.scopes.size name =
        none := by
      rw [Draft.openScope, ScopeTree.declared?_createScope, ScopeTree.declared?]
      simp
    have hOpened : BindsFor (draft.openScope kind scope) draft.scopes.scopes.size inside
        draft.scopes.scopes.size name ↔ name ∈ Region.names ⟨shape, span, kind, inside⟩ :=
      bindsFor_opened hGrown hScope
    rw [hFinishes.of_push.names _ hOlder (hBuilt.scope_lt hFresh) name, hAdds _ hFresh name, hNone,
      hOpened]
    simp
  node := by
    have hNode := hFinishes.keeps.holds
      (SyntaxTree.holds_push after.tree (shape.kind (outer ++ inner)) span scope)
    have hRendered := hBuilt.renders.extend hBuilt.grown hFinishes.of_push.keeps
      (hBuilt.scope_lt (draft.size_lt_openScope kind scope))
    obtain ⟨top, hTop, hBelow⟩ := hRendered.postOrder.descends_of_mem id
      (List.Ico.mem.mpr ⟨hLow, hHigh⟩)
    refine ⟨_, _, hNode, hBelow.head ?_⟩
    have hChildren := hNode.children
    rw [Shape.children_kind] at hChildren
    change top ∈ unit.tree.children _
    rw [show unit.tree.children after.tree.size = outer ++ inner from hChildren]
    exact List.mem_append_right _ hTop

theorem lists_region {shape : Shape} {span : Span} {before inside : List Outline}
    {kind : ScopeKind} (hGrown : draft.Grown) (hScope : scope < draft.scopes.scopes.size)
    (hBefore : Lists unit waiting outside scope around before draft)
    (hInside : ∀ (inner : ScopeId) (middle : Draft), middle.Grown →
      inner < middle.scopes.scopes.size →
        Lists unit waiting outside inner (⟨shape, span, kind, inside⟩ :: around) inside middle) :
    Lists unit waiting outside scope around [.region shape span before kind inside] draft := by
  intro hFinishes hAround
  let first := (buildAll before scope draft).2
  let second := (buildAll inside first.scopes.scopes.size (first.openScope kind scope)).2
  have hBuilt : Built before scope draft _ first := built_buildAll before scope draft hGrown hScope
  have hOuter := hBuilt.scope_lt hScope
  have hOlder := hBuilt.keeps.scopes.size_scopes_le
  have hOpened := hBuilt.grown.openScope kind hOuter
  have hFresh := first.size_lt_openScope kind scope
  have hBuiltInside : Built inside _ (first.openScope kind scope) _ second :=
    built_buildAll inside _ _ hOpened hFresh
  have hAdds : Adds inside _ (first.openScope kind scope) second :=
    adds_buildAll inside _ _ hOpened hFresh
  have hSize : (buildAll [.region shape span before kind inside] scope draft).2.tree.size =
      second.tree.size + 1 := SyntaxTree.size_push ..
  have hLe : first.tree.size ≤ second.tree.size := hBuiltInside.size_le
  have hWithin : ∀ id, id < second.tree.size →
      id < (buildAll [.region shape span before kind inside] scope draft).2.tree.size := by
    intro id hLt
    rw [hSize]
    exact Nat.lt_succ_of_lt hLt
  obtain ⟨ids, hIds⟩ := hBefore
    (hFinishes.of_push.of_built_region hScope hOlder hBuilt.grown hBuiltInside hAdds)
    fun id hLow hHigh => hAround id hLow (hWithin id (Nat.lt_of_lt_of_le hHigh hLe))
  obtain ⟨others, hOthers⟩ := hInside _ _ hOpened hFresh
    (hFinishes.of_push.since (Nat.le_of_lt (Nat.lt_of_le_of_lt hOlder hFresh)))
    fun id hLow hHigh => by
      refine .cons (hAround id (Nat.le_trans hBuilt.size_le hLow) (hWithin id hHigh)) ?_
      exact opened_of_built hBuilt.grown hOuter hOlder hBuiltInside hAdds hFinishes hLow hHigh
  have hInsideIds : unit.Waits outside _ first second others :=
    ⟨hOthers.list, hOthers.fresh, hOthers.ascending, hOthers.used⟩
  refine ⟨ids ++ others, ?_⟩
  simp only [usesAllUnder, usesUnder, List.append_nil]
  exact (hIds.append hInsideIds hBuilt.size_le hLe).push _ span scope

end waiting

theorem lists_buildAll (outlines : List Outline) (scope : ScopeId) (draft : Draft)
    (hGrown : draft.Grown) (hScope : scope < draft.scopes.scopes.size) (unit : SourceUnit)
    (waiting : List NodeId) (outside : ScopeId) (around : List Region) :
    Lists unit waiting outside scope around outlines draft := by
  induction outlines using forest_induction generalizing scope draft around with
  | nil =>
      intro _ _
      exact ⟨[], by simp [buildAll], by simp, .nil, by simp [usesAllUnder]⟩
  | use used rest ih =>
      exact lists_cons hGrown hScope (lists_use used) fun middle hMiddle hInner =>
        ih scope middle hMiddle hInner around
  | bind bound place rest ih =>
      refine lists_cons hGrown hScope ?_ fun middle hMiddle hInner =>
        ih scope middle hMiddle hInner around
      intro _ _
      exact ⟨[], (List.append_nil _).symm, by simp, .nil, by simp [usesAllUnder, usesUnder]⟩
  | node shape span parts rest ihParts ihRest =>
      exact lists_cons hGrown hScope (lists_node (ihParts scope draft hGrown hScope around))
        fun middle hMiddle hInner => ihRest scope middle hMiddle hInner around
  | region shape span before kind inside rest ihBefore ihInside ihRest =>
      refine lists_cons hGrown hScope ?_ fun middle hMiddle hInner =>
        ihRest scope middle hMiddle hInner around
      exact lists_region hGrown hScope (ihBefore scope draft hGrown hScope around)
        fun inner middle hMiddle hInner => ihInside inner middle hMiddle hInner _

/-- In the unit of an outline every use has an identifier of its own, in the order of the source.
The regions around it lead from the module scope to the scope where the identifier stands. -/
theorem usedAt_toUnit (outline : Outline) (file source : String) :
    ∃ root uses, (outline.toUnit file source).Renders outline root uses ∧
      uses.Pairwise (· < ·) ∧
      List.Forall₂ ((outline.toUnit file source).UsedAt ScopeTree.moduleScope)
        (usesUnder [] outline) uses := by
  have hGrown : Draft.empty.Grown := ⟨.empty, .initial⟩
  have hBuilt := built_buildAll [outline] ScopeTree.moduleScope .empty hGrown (by decide)
  let draft := (outline.build ScopeTree.moduleScope .empty).2
  obtain ⟨hResolves, hRecorded⟩ := Draft.resolves_foldl draft.uses hBuilt.grown.scopes
  have hTree : (draft.uses.foldl Draft.resolve draft).tree = draft.tree := hResolves.tree
  have hScopes : (draft.uses.foldl Draft.resolve draft).scopes.scopes = draft.scopes.scopes :=
    hResolves.scopes
  have hFinishes : (outline.toUnit file source).Finishes draft.uses .empty draft := by
    refine ⟨⟨?_, ?_, List.Subset.refl _⟩, ?_⟩
    · intro id kind span scope hHolds
      change (SyntaxTree.mk (draft.uses.foldl Draft.resolve draft).tree.nodes _).Holds id kind span
        scope
      rwa [hTree]
    · exact hResolves.keeps.trans (ScopeTree.extends_sortReferences _ _)
    · intro scope _ _ name
      change (((draft.uses.foldl Draft.resolve draft).scopes.scopes[scope]?.bind _).isSome) ↔ _
      rw [hScopes]
      rfl
  obtain ⟨ids, hIds⟩ := lists_buildAll [outline] ScopeTree.moduleScope .empty hGrown (by decide)
    (outline.toUnit file source) draft.uses ScopeTree.moduleScope [] hFinishes
    fun id _ _ => .nil _
  obtain rfl : draft.uses = ids := hIds.list
  refine ⟨_, draft.uses, SourceUnit.renders_of_resolved hBuilt hResolves hRecorded file source,
    hIds.ascending, ?_⟩
  have hUsed := hIds.used
  rwa [usesAllUnder, usesAllUnder, List.append_nil] at hUsed

end Outline

end PropTrace
