import PropTrace.Proofs.Records

/-!
Units up to spans. The spans in an outline end up in the nodes and nowhere else, with one exception:
occurrences of a variable are sorted by where they start. So outlines that differ in spans other
than those of names have units that differ in spans only.
-/
namespace PropTrace

/-- What a node is apart from its span. -/
def Node.withoutSpan (node : Node) : NodeKind × Option NodeId × ScopeId :=
  (node.kind, node.parent, node.scope)

/-- The same nodes, in the same order and with the same children, parents and scopes, and the same
scopes, variables, occurrences and identifiers without a declaration. -/
structure SourceUnit.SameButSpans (first second : SourceUnit) : Prop where
  root : first.tree.root = second.tree.root
  nodes : first.tree.nodes.map Node.withoutSpan = second.tree.nodes.map Node.withoutSpan
  scopes : first.scopes = second.scopes

theorem SourceUnit.SameButSpans.kind?_eq {first second : SourceUnit}
    (h : first.SameButSpans second) (id : NodeId) : first.tree.kind? id = second.tree.kind? id := by
  have hNode := congrArg (fun nodes => nodes[id]?.map Prod.fst) h.nodes
  simp only [Array.getElem?_map, Option.map_map] at hNode
  exact hNode

def Span.none : Span := ⟨0, 0⟩

namespace Outline

mutual

/-- An outline without spans, but with those of names. -/
def bare : Outline → Outline
  | .use name => .use name
  | .bind name place => .bind name place
  | .node shape _ parts => .node shape .none (bareAll parts)
  | .region shape _ before kind inside =>
    .region shape .none (bareAll before) kind (bareAll inside)

def bareAll : List Outline → List Outline
  | [] => []
  | outline :: rest => outline.bare :: bareAll rest

end

@[simp]
theorem bareAll_append (before after : List Outline) :
    bareAll (before ++ after) = bareAll before ++ bareAll after := by
  induction before with
  | nil => rfl
  | cons outline before ih => simp [bareAll, ih]

theorem length_bareAll (outlines : List Outline) : (bareAll outlines).length = outlines.length := by
  induction outlines with
  | nil => rfl
  | cons outline outlines ih => simp [bareAll, ih]

end Outline

/-- A node without its span, unless it is an identifier. -/
def Node.bare (node : Node) : Node :=
  if node.kind.isIdentifier then node else { node with span := .none }

theorem Node.withoutSpan_bare (node : Node) : node.bare.withoutSpan = node.withoutSpan := by
  unfold bare
  split <;> rfl

namespace SyntaxTree

variable (tree : SyntaxTree)

def bare : SyntaxTree := { tree with nodes := tree.nodes.map Node.bare }

@[simp]
theorem size_bare : tree.bare.size = tree.size := Array.size_map

@[simp]
theorem node?_bare (id : NodeId) : tree.bare.node? id = (tree.node? id).map Node.bare :=
  Array.getElem?_map

/-- Identifiers keep their spans. -/
theorem startOf_bare {id : NodeId} {name : String}
    (hKind : tree.kind? id = some (.identifier name)) : tree.bare.startOf id = tree.startOf id := by
  obtain ⟨node, hNode, hIdentifier⟩ := Option.map_eq_some_iff.mp hKind
  simp [startOf, hNode, Node.bare, hIdentifier, NodeKind.isIdentifier]

theorem map_bare_adopt (nodes : Array Node) (parent : NodeId) (children : List NodeId) :
    (adopt nodes parent children).map Node.bare = adopt (nodes.map Node.bare) parent children := by
  refine Array.ext_getElem? fun id => ?_
  rw [Array.getElem?_map, getElem?_adopt, getElem?_adopt, Array.getElem?_map, Option.map_map,
    Option.map_map]
  congr 1
  funext node
  simp only [Function.comp_apply]
  by_cases hMem : id ∈ children <;> cases hKind : node.kind.isIdentifier <;>
    simp [hMem, Node.bare, hKind]

theorem bare_push_identifier (name : String) (span : Span) (scope : ScopeId) :
    (tree.push (.identifier name) span scope).2.bare =
      (tree.bare.push (.identifier name) span scope).2 := by
  simp [push, bare, size, map_bare_adopt, Node.bare, NodeKind.isIdentifier]

theorem bare_push {kind : NodeKind} (hKind : kind.isIdentifier = false) (span : Span)
    (scope : ScopeId) :
    (tree.push kind span scope).2.bare = (tree.bare.push kind .none scope).2 := by
  simp [push, bare, size, map_bare_adopt, Node.bare, hKind]

end SyntaxTree

namespace Draft

variable (draft : Draft)

def bare : Draft := { draft with tree := draft.tree.bare }

theorem bare_push {kind : NodeKind} (hKind : kind.isIdentifier = false) (span : Span)
    (scope : ScopeId) :
    draft.bare.push kind .none scope =
      ((draft.push kind span scope).1, (draft.push kind span scope).2.bare) := by
  refine Prod.ext draft.tree.size_bare ?_
  exact congrArg (fun tree => { draft with tree }) (draft.tree.bare_push hKind span scope).symm

theorem bare_use (name : Name) (scope : ScopeId) :
    draft.bare.use name scope = ((draft.use name scope).1, (draft.use name scope).2.bare) := by
  have hTree := draft.tree.bare_push_identifier name.text name.span scope
  have hId : draft.bare.tree.size = draft.tree.size := draft.tree.size_bare
  refine Prod.ext hId ?_
  change Draft.mk _ _ (draft.uses ++ [draft.bare.tree.size]) = Draft.mk _ _ _
  rw [hId]
  exact congrArg (fun tree => Draft.mk tree draft.scopes _) hTree.symm

theorem bare_bind (name : Name) (target scope : ScopeId) :
    draft.bare.bind name target scope =
      ((draft.bind name target scope).1, (draft.bind name target scope).2.bare) := by
  have hTree := draft.tree.bare_push_identifier name.text name.span scope
  have hId : draft.bare.tree.size = draft.tree.size := draft.tree.size_bare
  refine Prod.ext hId ?_
  change Draft.mk _ (ScopeTree.addReference _ _ draft.bare.tree.size) _ = Draft.mk _ _ _
  rw [hId]
  exact congrArg (fun tree => Draft.mk tree _ draft.uses) hTree.symm

end Draft

namespace Outline

theorem build_region (shape : Shape) (span : Span) (before inside : List Outline)
    (kind : ScopeKind) (scope : ScopeId) (draft : Draft) :
    build (.region shape span before kind inside) scope draft =
      let outside := buildAll before scope draft
      let within := buildAll inside outside.2.scopes.scopes.size (outside.2.openScope kind scope)
      within.2.push (shape.kind (outside.1 ++ within.1)) span scope := rfl

/-- Building an outline without its spans builds the same nodes without theirs. -/
theorem buildAll_bareAll (outlines : List Outline) (scope : ScopeId) (draft : Draft) :
    buildAll (bareAll outlines) scope draft.bare =
      ((buildAll outlines scope draft).1, (buildAll outlines scope draft).2.bare) := by
  induction outlines using forest_induction generalizing scope draft with
  | nil => rfl
  | use name rest ih => simp only [bareAll, bare, buildAll, build, Draft.bare_use, ih]
  | bind name place rest ih =>
      have hPlace : draft.bare.placeOf place scope = draft.placeOf place scope := rfl
      simp only [bareAll, bare, buildAll, build, hPlace, Draft.bare_bind, ih]
  | node shape span parts rest ihParts ihRest =>
      simp only [bareAll, bare, buildAll, build, ihParts,
        Draft.bare_push _ (shape.isIdentifier_kind _) span, ihRest]
  | region shape span before kind inside rest ihBefore ihInside ihRest =>
      have hOpen : ∀ outside : Draft, outside.bare.openScope kind scope =
          (outside.openScope kind scope).bare := fun _ => rfl
      have hScopes : ∀ outside : Draft, outside.bare.scopes = outside.scopes := fun _ => rfl
      simp only [bareAll, bare, buildAll, build_region, ihBefore, hOpen, hScopes, ihInside,
        Draft.bare_push _ (shape.isIdentifier_kind _) span, ihRest]

end Outline

namespace Draft

variable (draft : Draft)

theorem bare_resolve (id : NodeId) : draft.bare.resolve id = (draft.resolve id).bare := by
  have hNode : draft.bare.tree.node? id = (draft.tree.node? id).map Node.bare :=
    draft.tree.node?_bare id
  have hScopes : draft.bare.scopes = draft.scopes := rfl
  unfold resolve
  rw [hNode]
  cases draft.tree.node? id with
  | none => rfl
  | some node =>
      obtain ⟨kind, span, parent, scope⟩ := node
      cases kind with
      | identifier name =>
          simp only [Option.map_some, Node.bare, NodeKind.isIdentifier, if_true, hScopes]
          cases draft.scopes.lookup scope name <;> rfl
      | _ => rfl

theorem bare_foldl_resolve (uses : List NodeId) :
    uses.foldl resolve draft.bare = (uses.foldl resolve draft).bare := by
  induction uses generalizing draft with
  | nil => rfl
  | cons first rest ih => rw [List.foldl_cons, List.foldl_cons, bare_resolve, ih]

end Draft

/-- Occurrences are sorted alike by keys that agree on them. -/
theorem ScopeTree.sortReferences_congr {tree : ScopeTree} {first second : NodeId → Nat}
    (h : ∀ (variableId : VariableId) (v : Variable), tree.vars[variableId]? = some v →
      ∀ id ∈ v.references, first id = second id) :
    tree.sortReferences first = tree.sortReferences second := by
  unfold sortReferences
  congr 1
  refine Array.ext_getElem? fun variableId => ?_
  rw [Array.getElem?_map, Array.getElem?_map]
  cases hVar : tree.vars[variableId]? with
  | none => rfl
  | some v =>
      have hKey := h variableId v hVar
      have hSorted := List.map_mergeSort (f := id) (l := v.references)
        (r := fun a b => decide (first a ≤ first b)) (s := fun a b => decide (second a ≤ second b))
        fun a hFirst b hSecond => by simp only [id, hKey a hFirst, hKey b hSecond]
      simp only [List.map_id] at hSorted
      simp only [Option.map_some, hSorted]

namespace Outline

theorem build_bare (outline : Outline) (scope : ScopeId) (draft : Draft) :
    outline.bare.build scope draft.bare =
      ((outline.build scope draft).1, (outline.build scope draft).2.bare) := by
  have h := buildAll_bareAll [outline] scope draft
  simp only [bareAll, buildAll, Prod.mk.injEq, List.cons.injEq, and_true] at h
  exact Prod.ext h.1 h.2

/-- The unit of an outline without spans. Sorting occurrences by where they start is the one step
that reads spans, and it reads those of identifiers only. -/
theorem sameButSpans_bare (outline : Outline) (file source : String) :
    (outline.bare.toUnit file source).SameButSpans (outline.toUnit file source) := by
  let built := outline.build ScopeTree.moduleScope .empty
  let resolved := built.2.uses.foldl Draft.resolve built.2
  let tree : SyntaxTree := { resolved.tree with root := some built.1 }
  have hEmpty : Draft.empty.bare = Draft.empty := by
    simp [Draft.bare, Draft.empty, SyntaxTree.bare, SyntaxTree.empty]
  have hBuilt := outline.build_bare ScopeTree.moduleScope .empty
  rw [hEmpty] at hBuilt
  have hResolved : built.2.bare.uses.foldl Draft.resolve built.2.bare = resolved.bare :=
    built.2.bare_foldl_resolve built.2.uses
  have hUnit : outline.bare.toUnit file source =
      SourceUnit.sortReferences ⟨file, source, tree.bare, resolved.scopes⟩ := by
    unfold toUnit
    simp only [hBuilt]
    exact congrArg (fun draft : Draft => SourceUnit.sortReferences
      ⟨file, source, { draft.tree with root := some built.1 }, draft.scopes⟩) hResolved
  have hNamed : resolved.scopes.NamedIn tree :=
    ScopeTree.namedIn_sortReferences_iff.mp (outline.recorded_toUnit file source).2
  have hSorted : resolved.scopes.sortReferences tree.bare.startOf =
      resolved.scopes.sortReferences tree.startOf :=
    ScopeTree.sortReferences_congr fun variableId v hVar id hMem =>
      tree.startOf_bare (hNamed variableId v hVar id hMem)
  rw [hUnit]
  refine ⟨rfl, ?_, hSorted⟩
  change (tree.nodes.map Node.bare).map Node.withoutSpan = tree.nodes.map Node.withoutSpan
  rw [Array.map_map]
  exact congrArg (tree.nodes.map ·) (funext Node.withoutSpan_bare)

theorem sameButSpans_of_bare_eq {first second : Outline} (h : first.bare = second.bare)
    (file source file' source' : String) :
    (first.toUnit file source).SameButSpans (second.toUnit file' source') := by
  have hFirst := first.sameButSpans_bare file source
  have hSecond := second.sameButSpans_bare file' source'
  rw [h] at hFirst
  exact ⟨hFirst.root.symm.trans hSecond.root, hFirst.nodes.symm.trans hSecond.nodes,
    hFirst.scopes.symm.trans hSecond.scopes⟩

end Outline

/-- Whether a node is what lowering makes of a target that it does not look into. -/
def NodeKind.isPlaceholder : NodeKind → Bool
  | .other label _ => label = "AssignmentTargetPattern"
  | _ => false

def Shape.isPlaceholder : Shape → Bool
  | other label => label = "AssignmentTargetPattern"
  | _ => false

theorem Shape.isPlaceholder_kind (shape : Shape) (ids : List NodeId) :
    (shape.kind ids).isPlaceholder = shape.isPlaceholder := by
  by_cases hOther : ∃ label, shape = .other label
  · obtain ⟨label, rfl⟩ := hOther
    rfl
  · have hNone : shape.isPlaceholder = false := by
      unfold isPlaceholder
      split
      · exact absurd ⟨_, rfl⟩ hOther
      · rfl
    rw [hNone]
    unfold kind
    split <;> simp_all [NodeKind.isPlaceholder]

namespace Outline

def isPlaceholder : Outline → Bool
  | .node shape _ _ | .region shape _ _ _ _ => shape.isPlaceholder
  | _ => false

/-- How many nodes outlines become, placeholders not counted. -/
def weight (outlines : List Outline) : Nat :=
  (preorderAll outlines).countP fun outline => !outline.isPlaceholder

@[simp]
theorem weight_nil : weight [] = 0 := rfl

@[simp]
theorem weight_append (before after : List Outline) :
    weight (before ++ after) = weight before + weight after := by simp [weight]

theorem weight_cons (outline : Outline) (rest : List Outline) :
    weight (outline :: rest) = weight [outline] + weight rest :=
  weight_append [outline] rest

theorem weight_node (shape : Shape) (span : Span) (parts rest : List Outline) :
    weight (.node shape span parts :: rest) =
      weight parts + weight rest + if shape.isPlaceholder then 0 else 1 := by
  cases h : shape.isPlaceholder <;> simp [weight, preorderAll, preorder, isPlaceholder, h]

theorem weight_node_pos {shape : Shape} (h : shape.isPlaceholder = false) (span : Span)
    (parts : List Outline) : 0 < weight [.node shape span parts] := by
  simp [weight_node, h]

theorem weight_region (shape : Shape) (span : Span) (before inside rest : List Outline)
    (kind : ScopeKind) :
    weight (.region shape span before kind inside :: rest) =
      weight before + weight inside + weight rest + if shape.isPlaceholder then 0 else 1 := by
  cases h : shape.isPlaceholder <;>
    simp [weight, preorderAll, preorder, isPlaceholder, h, Nat.add_assoc]

theorem weight_map_bind (names : List Name) (place : BindingPlace) :
    weight (names.map fun name => .bind name place) = names.length := by
  induction names with
  | nil => rfl
  | cons name names ih => simp_all [weight, preorderAll, preorder, isPlaceholder]

theorem weight_functionOutline (kind : FunctionKind) (name : Option Name)
    (params body : List Outline) (span : Span) :
    weight [functionOutline kind name params body span] =
      weight params + weight body + (name.toList.length + 1) := by
  cases kind <;> simp only [functionOutline, weight_region, weight_append, weight_map_bind,
    weight_nil, Shape.isPlaceholder, Bool.false_eq_true, if_false] <;> omega

/-- Spans have no weight. -/
theorem weight_bareAll (outlines : List Outline) : weight (bareAll outlines) = weight outlines := by
  induction outlines using forest_induction with
  | nil => rfl
  | use name rest ih | bind name place rest ih =>
      rw [bareAll, bare, weight_cons, ih, ← weight_cons]
  | node shape span parts rest ihParts ihRest =>
      simp only [bareAll, bare, weight_node, ihParts, ihRest]
  | region shape span before kind inside rest ihBefore ihInside ihRest =>
      simp only [bareAll, bare, weight_region, ihBefore, ihInside, ihRest]

end Outline

/-- The number of nodes, placeholders not counted. -/
def SyntaxTree.weight (tree : SyntaxTree) : Nat :=
  tree.ids.countP fun id => ((tree.kind? id).map fun kind => !kind.isPlaceholder).getD false

theorem SourceUnit.SameButSpans.weight_eq {first second : SourceUnit}
    (h : first.SameButSpans second) : first.tree.weight = second.tree.weight := by
  have hSize : first.tree.size = second.tree.size := by
    simpa [SyntaxTree.size] using congrArg Array.size h.nodes
  simp only [SyntaxTree.weight, SyntaxTree.ids, hSize, h.kind?_eq]

theorem Draft.RendersAt.isPlaceholder_eq {draft : Draft} {scope : ScopeId} {outline : Outline}
    {id : NodeId} (h : draft.RendersAt scope outline id) :
    (draft.tree.kind? id).map NodeKind.isPlaceholder = some outline.isPlaceholder := by
  cases outline with
  | use name => rw [h.use_inv.1.kind?]; rfl
  | bind name place => rw [h.bind_inv.1.kind?]; rfl
  | node shape span parts =>
      obtain ⟨inner, -, hHolds⟩ := h.node_inv
      rw [hHolds.kind?, Option.map_some, shape.isPlaceholder_kind]
      rfl
  | region shape span before kind inside =>
      obtain ⟨inner, hHolds⟩ := h.region_inv
      rw [hHolds.kind?, Option.map_some, shape.isPlaceholder_kind]
      rfl

/-- The nodes of a unit are those that its outline becomes. -/
theorem SourceUnit.Renders.weight_eq {unit : SourceUnit} {outline : Outline} {root : NodeId}
    {uses : List NodeId} (h : unit.Renders outline root uses) :
    unit.tree.weight = Outline.weight [outline] := by
  let counts (id : NodeId) : Bool :=
    ((unit.tree.kind? id).map fun kind => !kind.isPlaceholder).getD false
  have hKept : List.Forall₂ (fun outline id => (!outline.isPlaceholder) = counts id)
      outline.preorder unit.tree.walkAll := by
    refine h.forall₂_walkAll.imp ?_
    rintro inner id ⟨scope, hAt⟩
    obtain ⟨kind, hKind, hSame⟩ := Option.map_eq_some_iff.mp hAt.isPlaceholder_eq
    have hKind : unit.tree.kind? id = some kind := hKind
    simp [counts, hKind, hSame]
  have hLength := (List.rel_filter (p := fun outline : Outline => !outline.isPlaceholder)
    (q := counts) (fun _ _ hSame => Bool.eq_iff_iff.mp hSame) hKept).length_eq
  rw [← List.countP_eq_length_filter, ← List.countP_eq_length_filter] at hLength
  calc unit.tree.weight
      _ = unit.tree.walkAll.countP counts := (h.walkAll_perm.countP_eq counts).symm
      _ = Outline.weight [outline] := by
        rw [← hLength, Outline.weight, Outline.preorderAll, Outline.preorderAll, List.append_nil]

end PropTrace
