import PropTrace.Lowering
import PropTrace.Proofs.Rendering

/-!
Building outlines renders them, and a finished unit keeps the rendering: every place of the outline
has its node, every use is on record for the variable its name stands for in the finished scope
tree, or among the identifiers without a declaration.
-/
namespace PropTrace

namespace Outline

/-- Induction over outlines that stand side by side: the first one by its form, and the rest. -/
theorem forest_induction {motive : List Outline → Prop} (nil : motive [])
    (use : ∀ name rest, motive rest → motive (.use name :: rest))
    (bind : ∀ name place rest, motive rest → motive (.bind name place :: rest))
    (node : ∀ shape span parts rest, motive parts → motive rest →
      motive (.node shape span parts :: rest))
    (region : ∀ shape span before kind inside rest, motive before → motive inside →
      motive rest → motive (.region shape span before kind inside :: rest)) :
    ∀ outlines, motive outlines := by
  have hCons : ∀ outline : Outline, ∀ rest, motive rest → motive (outline :: rest) := by
    refine @Outline.rec (fun outline => ∀ rest, motive rest → motive (outline :: rest)) motive
      use bind ?_ ?_ nil ?_
    · intro shape span parts ih rest
      exact node shape span parts rest ih
    · intro shape span before kind inside ihBefore ihInside rest
      exact region shape span before kind inside rest ihBefore ihInside
    · intro first rest ihFirst ihRest
      exact ihFirst rest ihRest
  intro outlines
  induction outlines with
  | nil => exact nil
  | cons outline rest ih => exact hCons outline rest ih

/-- What building outlines in a scope of a draft leaves: it renders them right after what stood in
the draft, which keeps everything it had. -/
structure Built (outlines : List Outline) (scope : ScopeId) (draft : Draft) (ids : List NodeId)
    (after : Draft) : Prop where
  grown : after.Grown
  keeps : draft.Extends after
  renders : after.Renders scope outlines draft.tree.size after.tree.size ids

namespace Built

variable {outlines rest parts before inside : List Outline} {scope : ScopeId}
  {draft after outside final : Draft} {ids inner outer : List NodeId}

/-- A scope that existed before building exists afterwards. -/
theorem scope_lt (h : Built outlines scope draft ids after) {other : ScopeId}
    (hScope : other < draft.scopes.scopes.size) : other < after.scopes.scopes.size :=
  Nat.lt_of_lt_of_le hScope h.keeps.scopes.size_scopes_le

/-- The nodes that were built exist. -/
theorem lt_size (h : Built outlines scope draft ids after) : ∀ id ∈ ids, id < after.tree.size :=
  fun id hMem => (h.renders.mem_bounds id hMem).2

theorem size_le (h : Built outlines scope draft ids after) :
    draft.tree.size ≤ after.tree.size :=
  h.renders.first_le_stop

theorem cons_use (name : Name) (h : Built rest scope (draft.use name scope).2 ids after) :
    Built (.use name :: rest) scope draft (draft.tree.size :: ids) after where
  grown := h.grown
  keeps := (draft.extends_use name scope).trans h.keeps
  renders := by
    have hSize : (draft.use name scope).2.tree.size = draft.tree.size + 1 :=
      SyntaxTree.size_push ..
    refine .use (h.keeps.holds (SyntaxTree.holds_push ..)) ?_ (hSize ▸ h.renders)
    exact h.keeps.uses (List.mem_append_right _ (List.mem_singleton_self _))

theorem cons_bind (name : Name) (place : BindingPlace) (hGrown : draft.Grown)
    (hScope : scope < draft.scopes.scopes.size)
    (h : Built rest scope (draft.bind name (draft.placeOf place scope) scope).2 ids after) :
    Built (.bind name place :: rest) scope draft (draft.tree.size :: ids) after := by
  have hSize : (draft.bind name (draft.placeOf place scope) scope).2.tree.size =
      draft.tree.size + 1 := SyntaxTree.size_push ..
  obtain ⟨variableId, hDeclared, hRecorded⟩ :=
    Draft.bind_records hGrown name scope (hGrown.placeOf_lt place hScope)
  have hKeeps := (draft.extends_bind name (draft.placeOf place scope) scope).trans h.keeps
  refine ⟨h.grown, hKeeps, ?_⟩
  refine .bind (h.keeps.holds (SyntaxTree.holds_push ..)) ?_
    (h.keeps.scopes.references variableId hRecorded) (hSize ▸ h.renders)
  rw [hKeeps.placeOf hGrown place hScope]
  exact h.keeps.scopes.declared? hDeclared

/-- The parts of a node exist when it is appended. -/
theorem older (h : Built parts scope draft inner after) (shape : Shape) :
    ∀ child ∈ (shape.kind inner).children, child < after.tree.size := by
  rw [Shape.children_kind]
  exact h.lt_size

theorem grown_push (h : Built parts scope draft inner after) (shape : Shape) (span : Span) :
    (after.push (shape.kind inner) span scope).2.Grown :=
  h.grown.push _ _ _ (h.older shape)

theorem cons_node (shape : Shape) (span : Span) (hScope : scope < draft.scopes.scopes.size)
    (hParts : Built parts scope draft inner after)
    (hRest : Built rest scope (after.push (shape.kind inner) span scope).2 ids final) :
    Built (.node shape span parts :: rest) scope draft (after.tree.size :: ids) final := by
  have hPush := after.extends_push (shape.kind inner) span scope
  have hLater := hPush.trans hRest.keeps
  have hSize : (after.push (shape.kind inner) span scope).2.tree.size = after.tree.size + 1 :=
    SyntaxTree.size_push ..
  refine ⟨hRest.grown, hParts.keeps.trans hLater, ?_⟩
  exact .node (hParts.renders.extend hParts.grown hLater (hParts.scope_lt hScope))
    (hRest.keeps.holds (SyntaxTree.holds_push ..)) (hSize ▸ hRest.renders)

theorem older_region {kind : ScopeKind} {opened : ScopeId}
    (hBefore : Built before scope draft outer outside)
    (hInside : Built inside opened (outside.openScope kind scope) inner after) (shape : Shape) :
    ∀ child ∈ (shape.kind (outer ++ inner)).children, child < after.tree.size := by
  intro child hMem
  rw [Shape.children_kind] at hMem
  rcases List.mem_append.mp hMem with hOuter | hInner
  · exact Nat.lt_of_lt_of_le (hBefore.lt_size child hOuter) hInside.size_le
  · exact hInside.lt_size child hInner

theorem grown_push_region {kind : ScopeKind} {opened : ScopeId}
    (hBefore : Built before scope draft outer outside)
    (hInside : Built inside opened (outside.openScope kind scope) inner after) (shape : Shape)
    (span : Span) : (after.push (shape.kind (outer ++ inner)) span scope).2.Grown :=
  hInside.grown.push _ _ _ (hBefore.older_region hInside shape)

theorem cons_region (shape : Shape) (span : Span) {kind : ScopeKind}
    (hScope : scope < draft.scopes.scopes.size)
    (hBefore : Built before scope draft outer outside)
    (hInside : Built inside outside.scopes.scopes.size (outside.openScope kind scope) inner after)
    (hRest : Built rest scope (after.push (shape.kind (outer ++ inner)) span scope).2 ids final) :
    Built (.region shape span before kind inside :: rest) scope draft (after.tree.size :: ids)
      final := by
  have hOpen := outside.extends_openScope kind scope
  have hPush := after.extends_push (shape.kind (outer ++ inner)) span scope
  have hLater := hPush.trans hRest.keeps
  have hSize : (after.push (shape.kind (outer ++ inner)) span scope).2.tree.size =
      after.tree.size + 1 := SyntaxTree.size_push ..
  obtain ⟨names, hOpened, -⟩ := (hInside.keeps.trans hLater).scopes.scope _ _
    (outside.getElem?_openScope kind scope)
  have hOpenedLt := hInside.scope_lt (outside.size_lt_openScope kind scope)
  refine ⟨hRest.grown, hBefore.keeps.trans ((hOpen.trans hInside.keeps).trans hLater), ?_⟩
  exact .region
    (hBefore.renders.extend hBefore.grown ((hOpen.trans hInside.keeps).trans hLater)
      (hBefore.scope_lt hScope))
    hOpened (hInside.renders.extend hInside.grown hLater hOpenedLt)
    (hRest.keeps.holds (SyntaxTree.holds_push ..)) (hSize ▸ hRest.renders)

end Built

/-- Building outlines in a scope that exists renders them. -/
theorem built_buildAll (outlines : List Outline) (scope : ScopeId) (draft : Draft)
    (hGrown : draft.Grown) (hScope : scope < draft.scopes.scopes.size) :
    Built outlines scope draft (buildAll outlines scope draft).1
      (buildAll outlines scope draft).2 := by
  induction outlines using forest_induction generalizing scope draft with
  | nil => exact ⟨hGrown, .refl _, .nil⟩
  | use name rest ih => exact .cons_use name (ih scope _ (hGrown.use name scope) hScope)
  | bind name place rest ih =>
      have hTarget := hGrown.placeOf_lt place hScope
      have hKeeps := draft.extends_bind name (draft.placeOf place scope) scope
      have hScope' := Nat.lt_of_lt_of_le hScope hKeeps.scopes.size_scopes_le
      exact .cons_bind name place hGrown hScope
        (ih scope _ (hGrown.bind name scope hTarget) hScope')
  | node shape span parts rest ihParts ihRest =>
      have hParts := ihParts scope draft hGrown hScope
      have hRest := ihRest scope _ (hParts.grown_push shape span) (hParts.scope_lt hScope)
      exact .cons_node shape span hScope hParts hRest
  | region shape span before kind inside rest ihBefore ihInside ihRest =>
      have hBefore := ihBefore scope draft hGrown hScope
      have hOuter := hBefore.scope_lt hScope
      have hInside := ihInside (buildAll before scope draft).2.scopes.scopes.size _
        (hBefore.grown.openScope kind hOuter) (Draft.size_lt_openScope _ kind scope)
      have hKeeps := ((buildAll before scope draft).2.extends_openScope kind scope).trans
        hInside.keeps
      have hRest := ihRest scope _ (hBefore.grown_push_region hInside shape span)
        (Nat.lt_of_lt_of_le hOuter hKeeps.scopes.size_scopes_le)
      exact .cons_region shape span hScope hBefore hInside hRest

end Outline

namespace ScopeTree

/-- A use of a name in a scope is where it belongs: with the variable the name stands for there, or
with the identifiers that have no declaration. -/
def Recorded (tree : ScopeTree) (scope : ScopeId) (name : String) (id : NodeId) : Prop :=
  (∀ variableId, tree.lookup scope name = some variableId → id ∈ tree.references variableId) ∧
    (tree.lookup scope name = none → id ∈ tree.unresolved)

/-- What a name stands for depends on the scopes and their names only. -/
theorem lookup_congr {before after : ScopeTree} (h : after.scopes = before.scopes)
    (scope : ScopeId) (name : String) : after.lookup scope name = before.lookup scope name := by
  have hParent : after.parent? = before.parent? := by
    funext s
    rw [parent?, parent?, h]
  have hWithin (steps : Nat) : after.chainWithin steps = before.chainWithin steps := by
    induction steps with
    | zero => rfl
    | succ steps ih =>
        funext s
        rw [chainWithin, chainWithin, hParent, ih]
  have hDeclared : (after.declared? · name) = (before.declared? · name) := by
    funext s
    rw [declared?, declared?, h]
  rw [lookup, lookup, chain, chain, hWithin]
  exact congrArg (fun f => List.findSome? f _) hDeclared

theorem Recorded.extend {before after : ScopeTree} {scope : ScopeId} {name : String} {id : NodeId}
    (h : before.Recorded scope name id) (hExtends : before.Extends after)
    (hScopes : after.scopes = before.scopes) : after.Recorded scope name id := by
  constructor
  · intro variableId hLookup
    rw [lookup_congr hScopes] at hLookup
    exact hExtends.references variableId (h.1 variableId hLookup)
  · intro hLookup
    rw [lookup_congr hScopes] at hLookup
    exact hExtends.unresolved (h.2 hLookup)

end ScopeTree

namespace Draft

variable {draft : Draft}

/-- Resolving a use records it in the scope tree and touches nothing else. -/
structure Resolves (draft after : Draft) : Prop where
  tree : after.tree = draft.tree
  uses : after.uses = draft.uses
  scopes : after.scopes.scopes = draft.scopes.scopes
  keeps : draft.scopes.Extends after.scopes
  grown : draft.scopes.Grown → after.scopes.Grown

namespace Resolves

theorem refl (draft : Draft) : Resolves draft draft := ⟨rfl, rfl, rfl, .refl _, id⟩

theorem trans {middle after : Draft} (first : Resolves draft middle)
    (second : Resolves middle after) : Resolves draft after :=
  ⟨second.tree.trans first.tree, second.uses.trans first.uses, second.scopes.trans first.scopes,
    first.keeps.trans second.keeps, fun h => second.grown (first.grown h)⟩

end Resolves

theorem resolves_resolve (hGrown : draft.scopes.Grown) (id : NodeId) :
    Resolves draft (draft.resolve id) := by
  unfold resolve
  split
  · split
    · next variableId hLookup =>
        exact ⟨rfl, rfl, rfl, ScopeTree.extends_addReference _ _ _,
          fun h => h.addReference variableId id (hGrown.lookup_lt hLookup)⟩
    · exact ⟨rfl, rfl, rfl, ScopeTree.extends_addUnresolved _ _, fun h => h.addUnresolved id⟩
  · exact .refl draft

theorem recorded_resolve (hGrown : draft.scopes.Grown) {id : NodeId} {name : String} {span : Span}
    {scope : ScopeId} (hNode : draft.tree.Holds id (.identifier name) span scope) :
    (draft.resolve id).scopes.Recorded scope name id := by
  have hScopes := (resolves_resolve hGrown id).scopes
  obtain ⟨parent, hNode⟩ := hNode
  rw [ScopeTree.Recorded, ScopeTree.lookup_congr hScopes]
  unfold resolve
  simp only [hNode]
  cases hLookup : draft.scopes.lookup scope name with
  | some variableId =>
      refine ⟨?_, by simp⟩
      rintro _ ⟨⟩
      exact ScopeTree.mem_references_addReference (hGrown.lookup_lt hLookup) id
  | none => exact ⟨by simp, fun _ => List.mem_append_right _ (List.mem_singleton_self _)⟩

/-- Resolving uses one after another records each of them. -/
theorem resolves_foldl (uses : List NodeId) (hGrown : draft.scopes.Grown) :
    Resolves draft (uses.foldl resolve draft) ∧
      ∀ id ∈ uses, ∀ name span scope, draft.tree.Holds id (.identifier name) span scope →
        (uses.foldl resolve draft).scopes.Recorded scope name id := by
  induction uses generalizing draft with
  | nil => exact ⟨.refl draft, by simp⟩
  | cons first rest ih =>
      have hFirst := resolves_resolve hGrown first
      obtain ⟨hRest, hRecorded⟩ := ih (hFirst.grown hGrown)
      refine ⟨hFirst.trans hRest, ?_⟩
      intro id hMem name span scope hNode
      rcases List.mem_cons.mp hMem with rfl | hMem
      · exact (recorded_resolve hGrown hNode).extend hRest.keeps hRest.scopes
      · exact hRecorded id hMem name span scope (hFirst.tree ▸ hNode)

end Draft

/-- A unit seen as a draft with these uses. -/
def SourceUnit.drafted (unit : SourceUnit) (uses : List NodeId) : Draft :=
  { tree := unit.tree, scopes := unit.scopes, uses }

/-- A unit renders an outline: its arena holds the nodes of the outline and no others, the node of
the outline is the root, and every use is where it belongs. -/
structure SourceUnit.Renders (unit : SourceUnit) (outline : Outline) (root : NodeId)
    (uses : List NodeId) : Prop where
  grown : (unit.drafted uses).Grown
  rooted : unit.tree.root = some root
  renders : (unit.drafted uses).Renders ScopeTree.moduleScope [outline] 0 unit.tree.size [root]
  recorded : ∀ id ∈ uses, ∀ name span scope, unit.tree.Holds id (.identifier name) span scope →
    unit.scopes.Recorded scope name id

/-- Choosing the root and sorting occurrences keeps what a resolved draft holds. -/
theorem SourceUnit.renders_of_resolved {outline : Outline} {root : NodeId} {draft resolved : Draft}
    (hBuilt : Outline.Built [outline] ScopeTree.moduleScope .empty [root] draft)
    (hResolves : draft.Resolves resolved)
    (hRecorded : ∀ id ∈ draft.uses, ∀ name span scope,
      draft.tree.Holds id (.identifier name) span scope → resolved.scopes.Recorded scope name id)
    (file source : String) :
    (SourceUnit.sortReferences {
      file, source, tree := { resolved.tree with root := some root }, scopes := resolved.scopes
    }).Renders outline root draft.uses := by
  rw [hResolves.tree]
  have hSorted := resolved.scopes.extends_sortReferences
    (SyntaxTree.startOf { draft.tree with root := some root })
  have hKeeps : draft.Extends
      { tree := { draft.tree with root := some root }
        scopes := resolved.scopes.sortReferences
          (SyntaxTree.startOf { draft.tree with root := some root })
        uses := draft.uses } :=
    ⟨id, hResolves.keeps.trans hSorted, List.Subset.refl _⟩
  refine ⟨⟨hBuilt.grown.tree.withRoot _, (hResolves.grown hBuilt.grown.scopes).sortReferences _⟩,
    rfl, ?_, ?_⟩
  · exact hBuilt.renders.extend hBuilt.grown hKeeps (hBuilt.scope_lt (by decide))
  · intro id hMem name span scope hNode
    exact (hRecorded id hMem name span scope hNode).extend hSorted rfl

/-- The unit of an outline renders it. -/
theorem Outline.renders_toUnit (outline : Outline) (file source : String) :
    ∃ root uses, (outline.toUnit file source).Renders outline root uses := by
  have hBuilt := built_buildAll [outline] ScopeTree.moduleScope .empty
    ⟨.empty, .initial⟩ (by decide)
  obtain ⟨hResolves, hRecorded⟩ := Draft.resolves_foldl
    (outline.build ScopeTree.moduleScope .empty).2.uses hBuilt.grown.scopes
  exact ⟨_, _, SourceUnit.renders_of_resolved hBuilt hResolves hRecorded file source⟩

/-- The unit of a program renders the outline of the program. -/
theorem Program.renders_toUnit (program : Program) (file source : String) :
    ∃ root uses, (program.toUnit file source).Renders program.outline root uses :=
  program.outline.renders_toUnit file source

end PropTrace
