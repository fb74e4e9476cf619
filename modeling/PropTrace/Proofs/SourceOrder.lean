import PropTrace.Proofs.Layouts
import PropTrace.Proofs.Records

/-!
The order of the source in the unit of a program. A walk meets the nodes of a unit in the order of
the outlines they render, and a node and its outline have the same span. So what holds of the
layouts of outlines holds of the arena: if the source is tidy, children stand in their parents one
after another, a walk never goes back, and no two identifiers start at the same place.
-/
namespace PropTrace

namespace SyntaxTree

variable {tree : SyntaxTree} {id : NodeId} {kind : NodeKind} {span : Span} {scope : ScopeId}

def span? (tree : SyntaxTree) (id : NodeId) : Option Span := (tree.node? id).map Node.span

theorem Holds.span? (h : tree.Holds id kind span scope) : tree.span? id = some span := by
  obtain ⟨parent, hNode⟩ := h
  simp [SyntaxTree.span?, hNode]

/-- Nodes start where their spans do. -/
theorem map_startOf {ids : List NodeId} {spans : List Span}
    (h : ids.map tree.span? = spans.map some) : ids.map tree.startOf = spans.map Span.start := by
  have hStart : tree.startOf = (fun span => (span.map Span.start).getD 0) ∘ tree.span? := by
    funext id
    simp only [startOf, SyntaxTree.span?, Function.comp_apply, Option.map_map]
    rfl
  rw [hStart, ← List.map_map, h, List.map_map]
  rfl

end SyntaxTree

namespace Outline

open Layout

/-- The outlines of the children of a node. -/
def parts : Outline → List Outline
  | .use _ | .bind _ _ => []
  | .node _ _ parts => parts
  | .region _ _ before _ inside => before ++ inside

def span (outline : Outline) : Span := outline.layout.span

theorem spansAll_layoutAll (outlines : List Outline) :
    spansAll (layoutAll outlines) = (preorderAll outlines).map span := by
  induction outlines using forest_induction with
  | nil => rfl
  | use name rest ih | bind name place rest ih => exact congrArg (name.span :: ·) ih
  | node shape span parts rest ihParts ihRest =>
      simp [layoutAll, layout, spansAll, spans, preorderAll, preorder, ihParts, ihRest,
        Outline.span, Layout.span]
  | region shape span before kind inside rest ihBefore ihInside ihRest =>
      simp [layoutAll, layout, spansAll, spans, spansAll_append, preorderAll, preorder, ihBefore,
        ihInside, ihRest, Outline.span, Layout.span]

theorem namesAll_layoutAll (outlines : List Outline) :
    namesAll (layoutAll outlines) = ((preorderAll outlines).filter isName).map span := by
  induction outlines using forest_induction with
  | nil => rfl
  | use name rest ih | bind name place rest ih => exact congrArg (name.span :: ·) ih
  | node shape span parts rest ihParts ihRest =>
      simp [layoutAll, layout, namesAll, names, preorderAll, preorder, ihParts, ihRest, isName]
  | region shape span before kind inside rest ihBefore ihInside ihRest =>
      simp [layoutAll, layout, namesAll, names, namesAll_append, preorderAll, preorder, ihBefore,
        ihInside, ihRest, isName]

theorem map_span_layoutAll (outlines : List Outline) :
    (layoutAll outlines).map Layout.span = outlines.map span := by
  induction outlines with
  | nil => rfl
  | cons outline rest ih => simp [layoutAll, ih, span]

/-- The outlines inside of tidy ones are tidy. -/
theorem tidy_of_mem_preorderAll {low high : Nat} {outlines : List Outline}
    (h : Between low high (layoutAll outlines)) :
    ∀ outline ∈ preorderAll outlines, outline.layout.Tidy := by
  induction outlines using forest_induction generalizing low high with
  | nil => simp [preorderAll]
  | use name rest ih | bind name place rest ih =>
      obtain ⟨-, hTidy, hRest⟩ := h
      exact List.forall_mem_cons.mpr ⟨hTidy, ih hRest⟩
  | node shape span parts rest ihParts ihRest =>
      obtain ⟨-, hTidy, hRest⟩ := h
      exact List.forall_mem_cons.mpr
        ⟨hTidy, List.forall_mem_append.mpr ⟨ihParts hTidy, ihRest hRest⟩⟩
  | region shape span before kind inside rest ihBefore ihInside ihRest =>
      obtain ⟨-, hTidy, hRest⟩ := h
      obtain ⟨middle, hBefore, hInside⟩ := between_append_iff.mp hTidy
      refine List.forall_mem_cons.mpr ⟨hTidy, List.forall_mem_append.mpr ⟨?_, ihRest hRest⟩⟩
      exact List.forall_mem_append.mpr ⟨ihBefore hBefore, ihInside hInside⟩

/-- In a tidy outline the parts stand one after another. -/
theorem between_parts {outline : Outline} (h : outline.layout.Tidy) :
    Between outline.span.start outline.span.stop (layoutAll outline.parts) := by
  cases outline with
  | use name | bind name place => exact Nat.le_of_lt h
  | node shape span parts => exact h
  | region shape span before kind inside =>
      rw [parts, layoutAll_append]
      exact h

end Outline

namespace Draft.RendersAt

variable {draft : Draft} {scope : ScopeId} {outline : Outline} {id : NodeId}

/-- The node of an outline has its span, and its children are the nodes of the parts. -/
theorem parts (h : draft.RendersAt scope outline id) : ∃ kind,
    draft.tree.Holds id kind outline.span scope ∧
      List.Forall₂ (fun part child => ∃ inner, draft.RendersAt inner part child) outline.parts
        kind.children := by
  cases outline with
  | use name => exact ⟨_, h.use_inv.1, .nil⟩
  | bind name place => exact ⟨_, h.bind_inv.1, .nil⟩
  | node shape span parts =>
      obtain ⟨inner, hParts, hNode⟩ := h.node_inv
      refine ⟨_, hNode, ?_⟩
      rw [Shape.children_kind]
      exact hParts.imp fun _ _ hAt => ⟨_, hAt⟩
  | region shape span before kind inside =>
      obtain ⟨first, h⟩ := h
      cases h with
      | region outer _ inner node _ =>
          refine ⟨_, node, ?_⟩
          rw [Shape.children_kind]
          exact List.rel_append (outer.forall₂.imp fun _ _ hAt => ⟨_, hAt⟩)
            (inner.forall₂.imp fun _ _ hAt => ⟨_, hAt⟩)

theorem span? (h : draft.RendersAt scope outline id) :
    draft.tree.span? id = some outline.span := by
  obtain ⟨kind, hNode, -⟩ := h.parts
  exact hNode.span?

end Draft.RendersAt

/-- Outlines and their nodes have the same spans. -/
theorem Draft.map_span? {draft : Draft} {outlines : List Outline} {ids : List NodeId}
    (h : List.Forall₂ (fun outline id => ∃ scope, draft.RendersAt scope outline id) outlines ids) :
    ids.map draft.tree.span? = (outlines.map Outline.span).map some := by
  induction h with
  | nil => rfl
  | cons hAt _ ih =>
      obtain ⟨scope, hAt⟩ := hAt
      rw [List.map_cons, hAt.span?, ih, List.map_cons, List.map_cons]

namespace SourceUnit.Renders

open Layout

variable {unit : SourceUnit} {outline : Outline} {root : NodeId} {uses : List NodeId}

/-- A tidy outline is a row of its own. -/
theorem between_self (hTidy : outline.layout.Tidy) :
    Between outline.span.start outline.span.stop (Outline.layoutAll [outline]) :=
  ⟨Nat.le_refl _, hTidy, Nat.le_refl _⟩

theorem preorderAll_self (outline : Outline) : Outline.preorderAll [outline] = outline.preorder :=
  List.append_nil _

/-- In the unit of a tidy outline the children of a node stand in it, one after another. -/
theorem children_in_order (h : unit.Renders outline root uses) (hTidy : outline.layout.Tidy)
    {id : NodeId} {node : Node} (hNode : unit.tree.node? id = some node) :
    ∃ spans : List Span, node.kind.children.map unit.tree.span? = spans.map some ∧
      (∀ span ∈ spans, span.Within node.span) ∧ spans.Pairwise Span.Precedes := by
  have hWalked : id ∈ unit.tree.walkAll :=
    h.walkAll_perm.mem_iff.mpr (List.mem_range.mpr (SyntaxTree.node?_lt hNode))
  obtain ⟨rendered, hMem, scope, hAt⟩ := exists_of_forall₂ h.forall₂_walkAll.flip hWalked
  rw [← preorderAll_self] at hMem
  have hBetween := Outline.between_parts
    (Outline.tidy_of_mem_preorderAll (between_self hTidy) rendered hMem)
  obtain ⟨kind, ⟨parent, hHolds⟩, hParts⟩ := hAt.parts
  obtain rfl := Option.some.inj (hNode.symm.trans hHolds)
  refine ⟨rendered.parts.map Outline.span, Draft.map_span? hParts, ?_, ?_⟩
  · intro span hSpan
    rw [← Outline.map_span_layoutAll] at hSpan
    obtain ⟨layout, hLayout, rfl⟩ := List.mem_map.mp hSpan
    exact hBetween.within _ (span_mem_spansAll hLayout)
  · rw [← Outline.map_span_layoutAll]
    exact hBetween.pairwise_precedes

/-- A walk over the unit of a tidy outline never goes back in the source. -/
theorem walkAll_in_order (h : unit.Renders outline root uses) (hTidy : outline.layout.Tidy) :
    unit.tree.walkAll.Pairwise fun first second =>
      unit.tree.startOf first ≤ unit.tree.startOf second := by
  have hStarts : unit.tree.walkAll.map unit.tree.startOf =
      (outline.preorder.map Outline.span).map Span.start :=
    SyntaxTree.map_startOf (Draft.map_span? h.forall₂_walkAll)
  rw [← preorderAll_self, ← Outline.spansAll_layoutAll] at hStarts
  refine List.pairwise_map.mp ?_
  rw [hStarts]
  exact List.pairwise_map.mpr (between_self hTidy).pairwise_spansAll

/-- No two identifiers in the unit of a tidy outline start at the same place. -/
theorem eq_of_startOf_eq (h : unit.Renders outline root uses) (hTidy : outline.layout.Tidy)
    {first second : NodeId} (hFirst : first ∈ unit.tree.identifiers)
    (hSecond : second ∈ unit.tree.identifiers)
    (hStart : unit.tree.startOf first = unit.tree.startOf second) : first = second := by
  let isIdentifier := fun id => ((unit.tree.kind? id).map NodeKind.isIdentifier).getD false
  have hNames : List.Forall₂ (fun outline id => ∃ scope,
      (unit.drafted uses).RendersAt scope outline id)
      (outline.preorder.filter Outline.isName) (unit.tree.walkAll.filter isIdentifier) := by
    refine List.rel_filter ?_ h.forall₂_walkAll
    rintro rendered id ⟨scope, hAt⟩
    have hSame : isIdentifier id = rendered.isName := hAt.isIdentifier_eq
    change rendered.isName = true ↔ isIdentifier id = true
    rw [hSame]
  have hStarts := SyntaxTree.map_startOf (Draft.map_span? hNames)
  rw [← preorderAll_self, ← Outline.namesAll_layoutAll] at hStarts
  have hNodup : ((unit.tree.walkAll.filter isIdentifier).map unit.tree.startOf).Nodup := by
    refine List.Pairwise.imp Nat.ne_of_lt ?_
    exact hStarts ▸ List.pairwise_map.mpr (between_self hTidy).pairwise_namesAll
  have hPerm : (unit.tree.walkAll.filter isIdentifier).Perm unit.tree.identifiers :=
    h.walkAll_perm.filter _
  exact List.inj_on_of_nodup_map hNodup (hPerm.mem_iff.mpr hFirst) (hPerm.mem_iff.mpr hSecond)
    hStart

end SourceUnit.Renders

/-- The unit of a tidy program keeps the order of the source. The children of every node stand in
its span one after another, without overlap; a walk never goes back; and the occurrences of a
variable start one after another. -/
theorem Program.nodes_in_source_order (program : Program) (file source : String)
    (hTidy : program.layout.Tidy) :
    let unit := program.toUnit file source
    (∀ (id : NodeId) (node : Node), unit.tree.node? id = some node →
      ∃ spans : List Span, node.kind.children.map unit.tree.span? = spans.map some ∧
        (∀ span ∈ spans, span.Within node.span) ∧ spans.Pairwise Span.Precedes) ∧
      (unit.tree.walkAll.Pairwise fun first second =>
        unit.tree.startOf first ≤ unit.tree.startOf second) ∧
      ∀ (variableId : VariableId) (v : Variable), unit.scopes.vars[variableId]? = some v →
        v.references.Pairwise fun first second =>
          unit.tree.startOf first < unit.tree.startOf second := by
  intro unit
  have hOutline := program.tidy_outline hTidy
  obtain ⟨root, uses, hRenders⟩ := program.renders_toUnit file source
  obtain ⟨hPerm, hNamed⟩ := program.outline.recorded_toUnit file source
  refine ⟨fun id node hNode => hRenders.children_in_order hOutline hNode,
    hRenders.walkAll_in_order hOutline, ?_⟩
  intro variableId v hVar
  have hIdentifier : ∀ id ∈ v.references, id ∈ unit.tree.identifiers := fun id hMem =>
    SyntaxTree.mem_identifiers_iff.mpr ⟨v.name, hNamed variableId v hVar id hMem⟩
  have hRecorded : unit.scopes.recorded.Nodup :=
    hPerm.nodup_iff.mpr unit.tree.nodup_identifiers
  have hNodup : v.references.Nodup := by
    have hVariables := (List.nodup_append.mp hRecorded).1
    exact (List.nodup_flatMap.mp hVariables).1 v
      (Array.mem_toList_iff.mpr (Array.mem_of_getElem? hVar))
  have hSorted := ScopeTree.pairwise_sortReferences _ unit.tree.startOf hVar
  -- occurrences are sorted, and two that start at the same place are the same
  refine (hSorted.and hNodup).imp_of_mem ?_
  rintro first second hFirst hSecond ⟨hLe, hNe⟩
  refine Nat.lt_of_le_of_ne hLe fun hEq => hNe ?_
  exact hRenders.eq_of_startOf_eq hOutline (hIdentifier _ hFirst) (hIdentifier _ hSecond) hEq

/-- `let { a = [] } = p; (function g(b = a, ...[c, d]) { return <i y={c || (d)}>{}</i>; });` -/
def Program.defaultsAndRest : Program where
  body := .cons (.variableDecl (.variableList .lexical
      (.cons (.declare
        (.objectPattern (.cons (.patternMember .absent
          (.defaultPattern (.boundName ⟨"a", ⟨6, 7⟩⟩) (.array .nil ⟨10, 12⟩) ⟨6, 12⟩)) .nil)
          .absent ⟨4, 14⟩)
        (.present (.identifier ⟨"p", ⟨17, 18⟩⟩)) ⟨4, 18⟩) .nil) ⟨0, 19⟩))
    (.cons (.expression (.wrapped .parentheses (.functionExpr
      (.func .expression (some ⟨"g", ⟨30, 31⟩⟩)
        (.cons (.parameter .nil (.boundName ⟨"b", ⟨32, 33⟩⟩)
          (.present (.identifier ⟨"a", ⟨36, 37⟩⟩)) ⟨32, 37⟩) .nil)
        (.present (.arrayPattern (.cons (.boundName ⟨"c", ⟨43, 44⟩⟩)
          (.cons (.boundName ⟨"d", ⟨46, 47⟩⟩) .nil)) .absent ⟨42, 48⟩)) ⟨39, 48⟩
        (.cons (.returns (.present (.jsxExpr (.element (.plain "i" ⟨60, 61⟩)
          (.cons (.namedAttribute "y" (.present (.container (.present
            (.logical .or (.identifier ⟨"c", ⟨65, 66⟩⟩)
              (.wrapped .parentheses (.identifier ⟨"d", ⟨71, 72⟩⟩) ⟨70, 73⟩) ⟨65, 73⟩))
            ⟨64, 74⟩)) ⟨62, 74⟩) .nil)
          ⟨59, 75⟩ (.cons (.container .absent ⟨75, 77⟩) .nil) ⟨59, 81⟩))) ⟨52, 82⟩) .nil)
        ⟨21, 84⟩)) ⟨20, 85⟩) ⟨20, 86⟩) .nil)
  span := ⟨0, 86⟩

/-- The walk goes through the names of the rest parameter, which start at 43 and 46, and on to the
empty expression, which starts with its container at 75. -/
theorem Program.defaultsAndRest_in_source_order :
    let tree := (defaultsAndRest.toUnit "test.jsx" "").tree
    defaultsAndRest.layout.Tidy ∧
      (tree.walkAll.Pairwise fun first second => tree.startOf first ≤ tree.startOf second) ∧
      tree.walkAll.map tree.startOf =
        [0, 0, 4, 4, 6, 6, 10, 17, 20, 21, 30, 32, 32, 36, 39, 43, 46, 52, 59, 59, 60, 62, 64, 65,
          65, 71, 75, 75] := by
  have hTidy : defaultsAndRest.layout.Tidy := by decide
  exact ⟨hTidy, (defaultsAndRest.nodes_in_source_order "test.jsx" "" hTidy).2.1, by decide +kernel⟩

end PropTrace
