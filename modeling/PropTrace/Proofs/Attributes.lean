import PropTrace.Proofs.Phrases

/-!
The attributes that lowering keeps. A walk over the unit of a program meets exactly the attributes
of the lowered phrases, in source order and each once, so an attribute is lost if and only if it
stands in a part that lowering skips.
-/
namespace PropTrace

namespace Syntax

/-- The name and the span of a phrase that is an attribute with a name. -/
def attribute? : {c : Category} → Syntax c → Option (String × Span)
  | _, .namedAttribute name _ span => some (name, span)
  | _, _ => none

theorem length_outline_attributeValue (value : Syntax (.option .jsxPart)) (place : BindingPlace) :
    (value.outline place).length ≤ 1 := by
  cases value with
  | absent => exact Nat.zero_le 1
  | present part => exact (part.length_outline place rfl).le

end Syntax

namespace Phrase

/-- The attributes in a phrase, wherever they stand in it. -/
def attributes (phrase : Phrase) : List (String × Span) :=
  phrase.all.filterMap fun inner => inner.content.attribute?

/-- The attributes in a phrase that lowering comes to. -/
def loweredAttributes (phrase : Phrase) : List (String × Span) :=
  phrase.lowered.filterMap fun inner => inner.content.attribute?

/-- Attributes are lowered or stand in an outermost skipped part. -/
theorem attributes_perm (phrase : Phrase) :
    phrase.attributes.Perm (phrase.loweredAttributes ++ phrase.skipped.flatMap attributes) := by
  refine (phrase.all_perm.filterMap _).trans (.of_eq ?_)
  rw [List.filterMap_append, List.filterMap_flatMap]
  rfl

end Phrase

namespace Shape

/-- The name of the attribute that a node of a shape with so many parts is. -/
def attributeName? : Shape → Nat → Option String
  | jsxAttribute name, 0 | jsxAttribute name, 1 => some name
  | _, _ => none

theorem attributeName?_of_le_one (name : String) {count : Nat} (h : count ≤ 1) :
    (jsxAttribute name).attributeName? count = some name := by
  rcases Nat.le_one_iff_eq_zero_or_eq_one.mp h with rfl | rfl <;> rfl

theorem attributeName?_of_not_isSite {shape : Shape} (h : shape.isSite = false) (count : Nat) :
    shape.attributeName? count = none := by
  cases shape <;> simp_all [isSite, attributeName?]

end Shape

/-- The name of an attribute node. -/
def NodeKind.attributeName? : NodeKind → Option String
  | jsxAttribute name _ => some name
  | _ => none

theorem NodeKind.isSome_attributeName? (kind : NodeKind) :
    kind.attributeName?.isSome = kind.isAttribute := by cases kind <;> rfl

theorem Shape.attributeName?_kind (shape : Shape) (ids : List NodeId) :
    (shape.kind ids).attributeName? = shape.attributeName? ids.length := by
  by_cases hAttribute : ∃ name, shape = .jsxAttribute name
  · obtain ⟨name, rfl⟩ := hAttribute
    rcases ids with _ | ⟨id, _ | ⟨second, rest⟩⟩ <;> rfl
  · have hNone : shape.attributeName? ids.length = none := by
      unfold attributeName?
      split
      · exact absurd ⟨_, rfl⟩ hAttribute
      · exact absurd ⟨_, rfl⟩ hAttribute
      · rfl
    rw [hNone]
    unfold kind
    split <;> simp_all [NodeKind.attributeName?]

/-- The name and the span of an attribute node. -/
def SyntaxTree.attribute? (tree : SyntaxTree) (id : NodeId) : Option (String × Span) :=
  (tree.node? id).bind fun node => node.kind.attributeName?.map fun name => (name, node.span)

theorem SyntaxTree.Holds.attribute?_eq {tree : SyntaxTree} {id : NodeId} {kind : NodeKind}
    {span : Span} {scope : ScopeId} (h : tree.Holds id kind span scope) :
    tree.attribute? id = kind.attributeName?.map fun name => (name, span) := by
  obtain ⟨parent, hNode⟩ := h
  simp [attribute?, hNode]

/-- A walk that keeps to the attributes reads a name and a span off each. -/
theorem SyntaxTree.map_attribute?_filter (tree : SyntaxTree) (ids : List NodeId) :
    (ids.filter fun id => ((tree.kind? id).map NodeKind.isAttribute).getD false).map
      tree.attribute? = (ids.filterMap tree.attribute?).map some := by
  have hSome : ∀ id, (tree.attribute? id).isSome =
      ((tree.kind? id).map NodeKind.isAttribute).getD false := by
    intro id
    cases hNode : tree.node? id with
    | none => simp [attribute?, kind?, hNode]
    | some node => simp [attribute?, kind?, hNode, NodeKind.isSome_attributeName?]
  simp only [← hSome]
  induction ids with
  | nil => rfl
  | cons id ids ih => cases hId : tree.attribute? id <;> simp [hId, ih]

namespace Outline

/-- The name and the span of an outline that becomes an attribute. -/
def attribute? : Outline → Option (String × Span)
  | .node shape span parts => (shape.attributeName? parts.length).map fun name => (name, span)
  | _ => none

theorem attribute?_of_not_isSite {outline : Outline} (h : outline.isSite = false) :
    outline.attribute? = none := by
  cases outline with
  | use name | bind name place | region shape span before kind inside => rfl
  | node shape span parts => simp [attribute?, Shape.attributeName?_of_not_isSite h]

end Outline

namespace Phrase

theorem filterMap_attribute?_site (phrase : Phrase) :
    phrase.site.filterMap Outline.attribute? = phrase.content.attribute?.toList := by
  obtain ⟨content, place, flag⟩ := phrase
  cases content <;>
    simp only [site, Syntax.makesSite, Syntax.attribute?, Bool.false_eq_true, if_false, if_true,
      Option.toList_none, List.filterMap_nil]
  case parameter decorators pattern initial span => cases initial <;> rfl
  case shorthand name value span => cases value <;> rfl
  case namedAttribute name value span =>
      have hLength := value.length_outline_attributeValue .here
      change [Outline.node _ _ (value.outline .here)].filterMap Outline.attribute? = _
      simp [Outline.attribute?, Shape.attributeName?_of_le_one name hLength]
  all_goals rfl

/-- The attributes among the sites of a phrase are those of the lowered phrases in it. -/
theorem filterMap_attribute?_sites (phrase : Phrase) :
    (phrase.lowered.flatMap site).filterMap Outline.attribute? = phrase.loweredAttributes := by
  rw [loweredAttributes, List.filterMap_flatMap, List.filterMap_eq_flatMap_toList]
  exact List.flatMap_congr fun inner _ => inner.filterMap_attribute?_site

end Phrase

/-- A node is the attribute that its outline is. -/
theorem Draft.RendersAt.attribute?_eq {draft : Draft} {scope : ScopeId} {outline : Outline}
    {id : NodeId} (h : draft.RendersAt scope outline id)
    (hNode : outline.isSite → outline.isNode) :
    outline.attribute? = draft.tree.attribute? id := by
  cases outline with
  | use name => rw [h.use_inv.1.attribute?_eq]; rfl
  | bind name place => rw [h.bind_inv.1.attribute?_eq]; rfl
  | node shape span parts =>
      obtain ⟨inner, hParts, hHolds⟩ := h.node_inv
      rw [hHolds.attribute?_eq, Shape.attributeName?_kind, ← hParts.length_eq]
      rfl
  | region shape span before kind inside =>
      obtain ⟨inner, hHolds⟩ := h.region_inv
      rw [hHolds.attribute?_eq, Shape.attributeName?_kind,
        Shape.attributeName?_of_not_isSite (Outline.isSite_region_eq_false hNode)]
      rfl

/-- The attributes that a walk meets are those of the lowered phrases, in order. -/
theorem SourceUnit.Renders.walkedAttributes_eq {unit : SourceUnit} {program : Program}
    {root : NodeId} {uses : List NodeId} (h : unit.Renders program.outline root uses) :
    unit.tree.walkedAttributes.map unit.tree.attribute? =
      program.phrase.loweredAttributes.map some := by
  have hSites : List.Forall₂ (· = ·) program.phrase.loweredAttributes
      (unit.tree.walkAll.filterMap unit.tree.attribute?) := by
    rw [← Phrase.filterMap_attribute?_sites]
    refine h.forall₂_sites (fun _ => Outline.attribute?_of_not_isSite) ?_
    intro outline id scope hAt hNode
    have hEq : outline.attribute? = unit.tree.attribute? id := hAt.attribute?_eq hNode
    rw [hEq]
    cases unit.tree.attribute? id with
    | none => exact .none
    | some label => exact .some rfl
  rw [SyntaxTree.walkedAttributes, SyntaxTree.map_attribute?_filter]
  rw [List.forall₂_eq_eq_eq] at hSites
  rw [hSites]

/-- No attribute is invented or met twice: the attributes of the arena are those that a walk meets,
and these are the attributes of the lowered phrases, with their names and spans. All attributes of
a program are among them if and only if none stands in a part that lowering skips. -/
theorem Program.attributes_kept_iff (program : Program) (file source : String) :
    let tree := (program.toUnit file source).tree
    tree.walkedAttributes.Perm tree.attributes ∧
      tree.walkedAttributes.map tree.attribute? = program.phrase.loweredAttributes.map some ∧
      ((tree.walkedAttributes.map tree.attribute?).Perm (program.phrase.attributes.map some) ↔
        ∀ part ∈ program.phrase.skipped, part.attributes = []) := by
  obtain ⟨root, uses, hRenders⟩ := program.renders_toUnit file source
  refine ⟨hRenders.walkedAttributes_perm, hRenders.walkedAttributes_eq, ?_⟩
  have hAll := program.phrase.attributes_perm
  have hWalked : (program.toUnit file source).tree.walkedAttributes.map
      (program.toUnit file source).tree.attribute? =
        program.phrase.loweredAttributes.map some := hRenders.walkedAttributes_eq
  rw [hWalked, ← List.flatMap_eq_nil_iff]
  constructor
  · intro hKept
    have hLength := (hKept.trans (hAll.map some)).length_eq
    rw [List.map_append, List.length_append, List.length_map, List.length_map] at hLength
    exact List.length_eq_zero_iff.mp (by omega)
  · intro hNone
    rw [hNone, List.append_nil] at hAll
    exact (hAll.map some).symm

/-- `namespace A.B { <Box a={[]} />; }` -/
def Program.dottedNamespace : Program where
  body := .cons (.namespaceDecl ["A", "B"]
    (.cons (.expression (.jsxExpr (.element (.plain "Box" ⟨17, 20⟩)
      (.cons (.namedAttribute "a"
        (.present (.container (.present (.array .nil ⟨24, 26⟩)) ⟨23, 27⟩)) ⟨21, 27⟩) .nil)
      ⟨16, 30⟩ .nil ⟨16, 30⟩)) ⟨16, 31⟩) .nil) ⟨0, 33⟩) .nil
  span := ⟨0, 33⟩

/-- The body of a dotted namespace is skipped, and the attribute in it is lost. -/
theorem Program.dottedNamespace_attribute_lost :
    ¬((dottedNamespace.toUnit "test.jsx" "").tree.walkedAttributes.map
      (dottedNamespace.toUnit "test.jsx" "").tree.attribute?).Perm
        (dottedNamespace.phrase.attributes.map some) := by
  have hWalked : (dottedNamespace.toUnit "test.jsx" "").tree.walkedAttributes = [] := by decide
  have hMem : ("a", ⟨21, 27⟩) ∈ dottedNamespace.phrase.attributes := by
    simp [dottedNamespace, Program.phrase, Phrase.attributes, Phrase.all_eq, Phrase.parts,
      Syntax.parts, Syntax.entered, Syntax.enteredAt, Syntax.enteredIf, Syntax.attribute?]
  intro hKept
  rw [hWalked] at hKept
  have hFound := hKept.mem_iff.mpr (List.mem_map_of_mem hMem)
  exact absurd hFound List.not_mem_nil

end PropTrace
