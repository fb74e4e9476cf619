import PropTrace.Proofs.Origins
import PropTrace.Proofs.Phrases

/-!
Writes to plain names and how the search for origins follows them. Every write that lowering comes
to has an identifier of its own in the unit; the value the identifier takes is the written
expression, and whoever reads the variable finds the origins of that expression. A write is missed
if and only if it stands in a part that lowering skips.
-/
namespace PropTrace

/-- A value that is written to a plain name. -/
structure Write where
  name : Name
  value : Syntax .expr
  /-- Where the name is bound, if the write binds it; otherwise it is looked up. -/
  binding : Option BindingPlace

namespace Syntax

def boundName? : Syntax .pattern → Option Name
  | .boundName name => some name
  | _ => none

def value? {c : Category} : Syntax (.option c) → Option (Syntax c)
  | .absent => none
  | .present value => some value

/-- The write that a phrase itself makes: an assignment, a declarator with an initial value or a
default value, each to a plain name. -/
def write? : {c : Category} → BindingPlace → Syntax c → Option Write
  | _, _, .assign _ target value _ => target.writtenName?.map fun name => ⟨name, value, none⟩
  | _, _, .targetDefault target value _ => target.writtenName?.map fun name => ⟨name, value, none⟩
  | _, _, .shorthand name value _ => value.value?.map fun value => ⟨name, value, none⟩
  | _, place, .defaultPattern target value _ =>
    target.boundName?.map fun name => ⟨name, value, some place⟩
  | _, _, .parameter _ pattern initial _ =>
    initial.value?.bind fun value => pattern.boundName?.map fun name => ⟨name, value, some .here⟩
  | _, place, .declare pattern init _ =>
    init.value?.bind fun value => pattern.boundName?.map fun name => ⟨name, value, some place⟩
  | _, _, _ => none

end Syntax

namespace Phrase

/-- The write that a phrase makes where it stands. -/
def write? (phrase : Phrase) : Option Write := phrase.content.write? phrase.place

/-- The writes in a phrase, wherever they stand in it. -/
def writes (phrase : Phrase) : List Write := phrase.all.filterMap write?

/-- The writes in a phrase that lowering comes to. -/
def loweredWrites (phrase : Phrase) : List Write := phrase.lowered.filterMap write?

/-- Writes are lowered or stand in an outermost skipped part. -/
theorem writes_perm (phrase : Phrase) :
    phrase.writes.Perm (phrase.loweredWrites ++ phrase.skipped.flatMap writes) := by
  refine (phrase.all_perm.filterMap _).trans (.of_eq ?_)
  rw [List.filterMap_append, List.filterMap_flatMap]
  rfl

end Phrase

/-- The outline of the written name. -/
def Write.target (write : Write) : Outline :=
  match write.binding with
  | none => .use write.name
  | some place => .bind write.name place

/-- Whether a node of a shape writes its second part to its first. -/
def Shape.isWrite : Shape → Bool
  | assignment _ | declarator | assignmentPattern => true
  | _ => false

theorem Shape.isWrite_of_not_isSite {shape : Shape} (h : shape.isSite = false) :
    shape.isWrite = false := by
  cases shape <;> simp_all [isWrite, isSite]

namespace Outline

def isName : Outline → Bool
  | .use _ | .bind _ _ => true
  | _ => false

/-- Whether an outline writes the value of its second part to the name that its first part is. -/
def isWrite : Outline → Bool
  | .node shape _ [left, _] => shape.isWrite && left.isName
  | _ => false

/-- An outline that makes a write. -/
def Makes (outline : Outline) (write : Write) : Prop :=
  ∃ shape span value, outline = .node shape span [write.target, value] ∧
    write.value.outline .here = [value]

theorem isWrite_node_of_shape {shape : Shape} (h : shape.isWrite = false) (span : Span)
    (parts : List Outline) : isWrite (.node shape span parts) = false := by
  unfold isWrite
  split
  · simp_all
  · rfl

theorem isWrite_of_not_isSite {outline : Outline} (h : outline.isSite = false) :
    outline.isWrite = false := by
  cases outline with
  | use name | bind name place | region shape span before kind inside => rfl
  | node shape span parts => exact isWrite_node_of_shape (Shape.isWrite_of_not_isSite h) span parts

end Outline

namespace Syntax

variable {c : Category}

/-- The outline of a target is a name only if a plain name is written. -/
theorem isName_of_mem_outline {s : Syntax c} {place : BindingPlace} {outline : Outline}
    (hTarget : c = .target) (hOutline : outline ∈ s.outline place) (hName : outline.isName) :
    s.writtenName?.isSome := by
  induction s generalizing place with
  | targetName name => rfl
  | targetWrapped wrapper inner span ih =>
      cases wrapper with
      | parentheses => exact ih rfl hOutline
      | _ =>
          obtain rfl := List.mem_singleton.mp hOutline
          cases hName
  | targetMember | targetIndex | targetPrivate | targetObject | targetArray | targetDefault =>
      obtain rfl := List.mem_singleton.mp hOutline
      cases hName
  | _ => cases hTarget

/-- What is left of the value in a write through a target: the written name, or no name. -/
theorem outline_target (target : Syntax .target) (value : Syntax .expr) :
    ∃ left, target.outline .here = [left] ∧
      (∀ name, target.writtenName? = some name → left = (Write.mk name value none).target) ∧
      (target.writtenName? = none → left.isName = false) := by
  obtain ⟨left, hLeft⟩ := List.length_eq_one_iff.mp (target.length_outline .here rfl)
  refine ⟨left, hLeft, ?_, ?_⟩
  · intro name hName
    rw [outline_of_writtenName? hName] at hLeft
    exact (List.singleton_inj.mp hLeft).symm
  · intro hNone
    have hMem : left ∈ target.outline .here := by rw [hLeft]; exact List.mem_singleton_self left
    cases hName : left.isName with
    | false => rfl
    | true =>
        have hSome := isName_of_mem_outline rfl hMem hName
        rw [hNone] at hSome
        cases hSome

/-- The same for a pattern, which binds the name. -/
theorem outline_pattern (pattern : Syntax .pattern) (value : Syntax .expr) (place : BindingPlace) :
    ∃ left, pattern.outline place = [left] ∧
      (∀ name, pattern.boundName? = some name →
        left = (Write.mk name value (some place)).target) ∧
      (pattern.boundName? = none → left.isName = false) := by
  cases pattern with
  | boundName name =>
      refine ⟨_, rfl, ?_, ?_⟩
      · intro other hOther
        cases hOther
        rfl
      · intro hNone
        cases hNone
  | objectPattern | arrayPattern | defaultPattern =>
      refine ⟨_, rfl, ?_, fun _ => rfl⟩
      intro name hSome
      cases hSome

end Syntax

namespace Outline

/-- A node that writes makes the write of the name on its left, if there is one. -/
theorem forall₂_makes {shape : Shape} (hShape : shape.isWrite) (span : Span) {left : Outline}
    (name? : Option Name) (value : Syntax .expr) (binding : Option BindingPlace)
    (hSome : ∀ name, name? = some name → left = (Write.mk name value binding).target)
    (hNone : name? = none → left.isName = false) :
    List.Forall₂ (fun write outline => outline.Makes write)
      (name?.map fun name => (⟨name, value, binding⟩ : Write)).toList
      ([Outline.node shape span (left :: value.outline .here)].filter isWrite) := by
  obtain ⟨right, hRight⟩ := List.length_eq_one_iff.mp (value.length_outline .here rfl)
  cases hName : name? with
  | none => simp [hRight, isWrite, hNone hName]
  | some name =>
      have hLeft := hSome name hName
      have hIsName : left.isName := by
        rw [hLeft]
        cases binding <;> rfl
      have hWrite : isWrite (.node shape span [left, right]) := by simp [isWrite, hShape, hIsName]
      rw [hRight, List.filter_cons_of_pos hWrite]
      refine .cons ⟨shape, span, right, ?_, hRight⟩ .nil
      rw [hLeft]

theorem forall₂_makes_target {shape : Shape} (hShape : shape.isWrite) (target : Syntax .target)
    (value : Syntax .expr) (span : Span) :
    List.Forall₂ (fun write outline => outline.Makes write)
      (target.writtenName?.map fun name => (⟨name, value, none⟩ : Write)).toList
      ([Outline.node shape span (target.outline .here ++ value.outline .here)].filter
        isWrite) := by
  obtain ⟨left, hLeft, hSome, hNone⟩ := target.outline_target value
  rw [hLeft]
  exact forall₂_makes hShape span _ value none hSome hNone

theorem forall₂_makes_pattern {shape : Shape} (hShape : shape.isWrite) (pattern : Syntax .pattern)
    (place : BindingPlace) (value : Syntax .expr) (span : Span) :
    List.Forall₂ (fun write outline => outline.Makes write)
      (pattern.boundName?.map fun name => (⟨name, value, some place⟩ : Write)).toList
      ([Outline.node shape span (pattern.outline place ++ value.outline .here)].filter
        isWrite) := by
  obtain ⟨left, hLeft, hSome, hNone⟩ := pattern.outline_pattern value place
  rw [hLeft]
  exact forall₂_makes hShape span _ value (some place) hSome hNone

end Outline

namespace Phrase

/-- The outline that a phrase makes itself writes exactly what the phrase writes. -/
theorem forall₂_site (phrase : Phrase) :
    List.Forall₂ (fun write outline => outline.Makes write) phrase.write?.toList
      (phrase.site.filter Outline.isWrite) := by
  obtain ⟨content, place, flag⟩ := phrase
  cases content <;>
    simp only [site, Syntax.makesSite, write?, Syntax.write?, Bool.false_eq_true, if_false,
      if_true, List.filter_nil, Option.toList_none, List.Forall₂.nil]
  case assign operator target value span => exact Outline.forall₂_makes_target rfl target value span
  case targetDefault target value span => exact Outline.forall₂_makes_target rfl target value span
  case defaultPattern target value span =>
      exact Outline.forall₂_makes_pattern rfl target place value span
  case parameter decorators pattern initial span =>
      cases initial with
      | absent => exact .nil
      | present value => exact Outline.forall₂_makes_pattern rfl pattern .here value span
  case declare pattern init span =>
      cases init with
      | absent =>
          -- a declarator without a value has one part and writes nothing
          obtain ⟨left, hLeft⟩ := List.length_eq_one_iff.mp (pattern.length_outline place rfl)
          change List.Forall₂ _ [] ([Outline.node _ _ (pattern.outline place ++ _)].filter _)
          rw [hLeft]
          exact .nil
      | present value => exact Outline.forall₂_makes_pattern rfl pattern place value span
  case shorthand name value span =>
      cases value with
      | absent => exact .nil
      | present value =>
          exact Outline.forall₂_makes_target rfl (.targetName name) value span
  case namedAttribute name value span =>
      have hWrite : Outline.isWrite (.node (.jsxAttribute name) span (value.outline .here)) =
          false := Outline.isWrite_node_of_shape rfl span _
      change List.Forall₂ _ [] ([Outline.node _ _ (value.outline .here)].filter _)
      rw [List.filter_cons_of_neg (Bool.eq_false_iff.mp hWrite)]
      exact .nil

/-- The writing sites of a phrase make the writes of the lowered phrases in it, in order. -/
theorem forall₂_loweredWrites (phrase : Phrase) :
    List.Forall₂ (fun write outline => outline.Makes write) phrase.loweredWrites
      ((phrase.lowered.flatMap site).filter Outline.isWrite) := by
  rw [loweredWrites, List.filterMap_eq_flatMap_toList, List.filter_flatMap]
  induction phrase.lowered with
  | nil => exact .nil
  | cons inner phrases ih =>
      rw [List.flatMap_cons, List.flatMap_cons]
      exact List.rel_append inner.forall₂_site ih

end Phrase

namespace NodeKind

def isIdentifier : NodeKind → Bool
  | identifier _ => true
  | _ => false

/-- Where a node writes a value to, and the value. -/
def written? : NodeKind → Option (NodeId × NodeId)
  | assignment _ left right | assignmentPattern left right => some (left, right)
  | declarator id (some init) => some (id, init)
  | _ => none

/-- Both sides of a write are children of the node that writes. -/
theorem mem_children_of_written? {kind : NodeKind} {left right : NodeId}
    (h : kind.written? = some (left, right)) : left ∈ kind.children ∧ right ∈ kind.children := by
  cases kind with
  | assignment operator => simp_all [written?, children]
  | assignmentPattern => simp_all [written?, children]
  | declarator id init => cases init <;> simp_all [written?, children]
  | _ => cases h

end NodeKind

namespace Shape

theorem isIdentifier_kind (shape : Shape) (ids : List NodeId) :
    (shape.kind ids).isIdentifier = false := by
  unfold kind
  split <;> rfl

theorem written?_kind_pair {shape : Shape} (h : shape.isWrite) (left right : NodeId) :
    (shape.kind [left, right]).written? = some (left, right) := by
  cases shape with
  | assignment | declarator | assignmentPattern => rfl
  | _ => cases h

theorem written?_kind_of_length_ne {ids : List NodeId} (shape : Shape) (h : ids.length ≠ 2) :
    (shape.kind ids).written? = none := by
  unfold kind
  split <;> simp_all [NodeKind.written?]

theorem written?_kind_of_not_isWrite {shape : Shape} (h : shape.isWrite = false)
    (ids : List NodeId) : (shape.kind ids).written? = none := by
  unfold kind
  split <;> simp_all [NodeKind.written?, isWrite]

end Shape

namespace SyntaxTree

variable {tree : SyntaxTree}

/-- An identifier takes a value if its parent writes the value to it. -/
theorem assignedValue?_eq_some_iff {id value : NodeId} :
    tree.assignedValue? id = some value ↔
      ∃ parent kind, tree.parent? id = some parent ∧ tree.kind? parent = some kind ∧
        kind.written? = some (id, value) := by
  constructor
  · intro h
    obtain ⟨parent, hParent, hValue⟩ := Option.bind_eq_some_iff.mp h
    cases hKind : tree.kind? parent with
    | none => simp [hKind] at hValue
    | some kind =>
        refine ⟨parent, kind, hParent, hKind, ?_⟩
        cases kind with
        | assignment | assignmentPattern => simp_all [NodeKind.written?]
        | declarator name init => cases init <;> simp_all [NodeKind.written?]
        | _ => simp [hKind] at hValue
  · rintro ⟨parent, kind, hParent, hKind, hWritten⟩
    cases kind with
    | assignment | assignmentPattern => simp_all [NodeKind.written?, assignedValue?]
    | declarator name init => cases init <;> simp_all [NodeKind.written?, assignedValue?]
    | _ => cases hWritten

/-- The identifier that a node writes a value to. -/
def writtenAt? (tree : SyntaxTree) (id : NodeId) : Option NodeId :=
  (((tree.kind? id).bind NodeKind.written?).map Prod.fst).filter fun left =>
    ((tree.kind? left).map NodeKind.isIdentifier).getD false

theorem mem_children_of_writtenAt? {id left : NodeId} (h : tree.writtenAt? id = some left) :
    left ∈ tree.children id := by
  obtain ⟨hFirst, -⟩ := Option.filter_eq_some_iff.mp h
  obtain ⟨⟨_, right⟩, hWritten, rfl⟩ := Option.map_eq_some_iff.mp hFirst
  obtain ⟨kind, hKind, hWritten⟩ := Option.bind_eq_some_iff.mp hWritten
  simpa [children, hKind] using (NodeKind.mem_children_of_written? hWritten).1

/-- An identifier that takes a value is written at its parent. -/
theorem exists_writtenAt? {id value : NodeId} {name : String}
    (hKind : tree.kind? id = some (.identifier name))
    (hTaken : tree.assignedValue? id = some value) :
    ∃ parent, parent < tree.size ∧ tree.writtenAt? parent = some id := by
  obtain ⟨parent, kind, -, hParent, hWritten⟩ := assignedValue?_eq_some_iff.mp hTaken
  refine ⟨parent, kind?_lt hParent, ?_⟩
  simp [writtenAt?, hParent, hWritten, hKind, NodeKind.isIdentifier]

end SyntaxTree

namespace Draft.RendersAt

variable {draft : Draft} {scope : ScopeId} {outline : Outline} {id : NodeId}

/-- Only names become identifiers. -/
theorem isIdentifier_eq (h : draft.RendersAt scope outline id) :
    ((draft.tree.kind? id).map NodeKind.isIdentifier).getD false = outline.isName := by
  cases outline with
  | use name => rw [h.use_inv.1.kind?]; rfl
  | bind name place => rw [h.bind_inv.1.kind?]; rfl
  | node shape span parts =>
      obtain ⟨inner, -, hHolds⟩ := h.node_inv
      rw [hHolds.kind?]
      exact shape.isIdentifier_kind inner
  | region shape span before kind inside =>
      obtain ⟨inner, hHolds⟩ := h.region_inv
      rw [hHolds.kind?]
      exact shape.isIdentifier_kind inner

end Draft.RendersAt

/-- An identifier is what the name in a writing outline becomes: the value becomes a node in the
same scope, and the node above the two writes it. -/
def Draft.RendersWrite (draft : Draft) (outline : Outline) (left : NodeId) : Prop :=
  ∃ shape span target value, outline = .node shape span [target, value] ∧
    ∃ scope right, draft.RendersAt scope target left ∧ draft.RendersAt scope value right ∧
      ∃ parent kind, draft.tree.kind? parent = some kind ∧ kind.written? = some (left, right)

namespace Draft.RendersAt

variable {draft : Draft} {scope : ScopeId} {outline : Outline} {id : NodeId}

theorem writtenAt?_of_isWrite (h : draft.RendersAt scope outline id) (hWrite : outline.isWrite) :
    ∃ left, draft.tree.writtenAt? id = some left ∧ draft.RendersWrite outline left := by
  unfold Outline.isWrite at hWrite
  split at hWrite
  · next shape span target value =>
      obtain ⟨hShape, hName⟩ := Bool.and_eq_true_iff.mp hWrite
      obtain ⟨inner, hParts, hHolds⟩ := h.node_inv
      cases hParts with
      | @cons _ left _ _ hLeft hParts =>
          cases hParts with
          | @cons _ right _ _ hRight hParts =>
              cases hParts
              have hWritten := Shape.written?_kind_pair hShape left right
              have hIdentifier := hLeft.isIdentifier_eq
              rw [hName] at hIdentifier
              refine ⟨left, ?_, shape, span, target, value, rfl, scope, right, hLeft, hRight, id, _,
                hHolds.kind?, hWritten⟩
              simp [SyntaxTree.writtenAt?, hHolds.kind?, hWritten, hIdentifier]
  · cases hWrite

theorem writtenAt?_of_not_isWrite (h : draft.RendersAt scope outline id)
    (hNode : outline.isSite → outline.isNode)
    (hWrite : outline.isWrite = false) : draft.tree.writtenAt? id = none := by
  -- a node that writes to something else than a name writes to no identifier
  cases outline with
  | use name => simp [SyntaxTree.writtenAt?, h.use_inv.1.kind?, NodeKind.written?]
  | bind name place => simp [SyntaxTree.writtenAt?, h.bind_inv.1.kind?, NodeKind.written?]
  | region shape span before kind inside =>
      obtain ⟨inner, hHolds⟩ := h.region_inv
      have hShape := Shape.isWrite_of_not_isSite (Outline.isSite_region_eq_false hNode)
      simp [SyntaxTree.writtenAt?, hHolds.kind?, Shape.written?_kind_of_not_isWrite hShape]
  | node shape span parts =>
      obtain ⟨inner, hParts, hHolds⟩ := h.node_inv
      cases hShape : shape.isWrite with
      | false =>
          simp [SyntaxTree.writtenAt?, hHolds.kind?, Shape.written?_kind_of_not_isWrite hShape]
      | true =>
          by_cases hLength : inner.length = 2
          · obtain ⟨left, right, rfl⟩ := List.length_eq_two.mp hLength
            obtain ⟨target, value, rfl⟩ := List.length_eq_two.mp (hParts.length_eq.trans hLength)
            have hName : target.isName = false := by simpa [Outline.isWrite, hShape] using hWrite
            have hIdentifier := (List.forall₂_cons.mp hParts).1.isIdentifier_eq
            rw [hName] at hIdentifier
            have hWritten := Shape.written?_kind_pair hShape left right
            simp [SyntaxTree.writtenAt?, hHolds.kind?, hWritten, hIdentifier]
          · simp [SyntaxTree.writtenAt?, hHolds.kind?,
              Shape.written?_kind_of_length_ne shape hLength]

end Draft.RendersAt

namespace SourceUnit.Renders

variable {unit : SourceUnit} {program : Program} {root : NodeId} {uses : List NodeId}

/-- The identifiers that a walk finds written are those of the writing sites, in order. -/
theorem forall₂_writtenAt? (h : unit.Renders program.outline root uses) :
    List.Forall₂ (unit.drafted uses).RendersWrite
      ((program.phrase.lowered.flatMap Phrase.site).filter Outline.isWrite)
      (unit.tree.walkAll.filterMap unit.tree.writtenAt?) := by
  rw [← List.filterMap_eq_filter]
  refine h.forall₂_sites ?_ ?_
  · intro outline hSite
    simp [Option.guard, Outline.isWrite_of_not_isSite hSite]
  · intro outline id scope hAt hNode
    cases hWrite : outline.isWrite with
    | false =>
        have hNone : unit.tree.writtenAt? id = none := hAt.writtenAt?_of_not_isWrite hNode hWrite
        simp [Option.guard, hWrite, hNone]
    | true =>
        obtain ⟨left, hLeft, hRendered⟩ := hAt.writtenAt?_of_isWrite hWrite
        have hSome : unit.tree.writtenAt? id = some left := hLeft
        simpa [Option.guard, hWrite, hSome] using hRendered

end SourceUnit.Renders

theorem forall₂_comp {α β γ : Type} {first : α → β → Prop} {second : β → γ → Prop} {as : List α}
    {bs : List β} {cs : List γ} (hFirst : List.Forall₂ first as bs)
    (hSecond : List.Forall₂ second bs cs) :
    List.Forall₂ (fun a c => ∃ b, first a b ∧ second b c) as cs := by
  induction hFirst generalizing cs with
  | nil =>
      cases hSecond
      exact .nil
  | cons hHead _ ih =>
      cases hSecond with
      | cons hNext hRest => exact .cons ⟨_, hHead, hNext⟩ (ih hRest)

/-- The variable that a write in a scope goes to: the one it binds, or the one its name stands
for. -/
def Write.destination? (write : Write) (scopes : ScopeTree) (scope : ScopeId) : Option VariableId :=
  match write.binding with
  | none => scopes.lookup scope write.name.text
  | some .here => scopes.declared? scope write.name.text
  | some .hoisted => scopes.declared? (scopes.hoistTarget scope) write.name.text

/-- A node is what lowering makes of an expression in a scope. -/
def SourceUnit.Lowers (unit : SourceUnit) (scope : ScopeId) (value : Syntax .expr) (id : NodeId) :
    Prop :=
  ∃ uses outline, value.outline .here = [outline] ∧
    (unit.drafted uses).RendersAt scope outline id

/-- An identifier in a scope follows a write by taking the value: it is an occurrence of the
variable that the write goes to, the value is the lowered expression, and every reader of the
variable has the origins of the value. A write that binds its name always goes to a variable. -/
structure SourceUnit.FollowsBy (unit : SourceUnit) (write : Write) (id : NodeId) (scope : ScopeId)
    (value : NodeId) : Prop where
  named : unit.tree.Holds id (.identifier write.name.text) write.name.span scope
  taken : unit.tree.assignedValue? id = some value
  lowered : unit.Lowers scope write.value value
  bound : write.binding.isSome → (write.destination? unit.scopes scope).isSome
  recorded : ∀ variableId, write.destination? unit.scopes scope = some variableId →
    id ∈ unit.scopes.references variableId
  read : ∀ variableId, write.destination? unit.scopes scope = some variableId →
    ∀ reader, unit.Reads reader variableId → unit.origins value ⊆ unit.origins reader

def SourceUnit.Follows (unit : SourceUnit) (write : Write) (id : NodeId) : Prop :=
  ∃ scope value, unit.FollowsBy write id scope value

/-- Each of these writes is followed by an identifier of its own. -/
def SourceUnit.FollowsAll (unit : SourceUnit) (writes : List Write) : Prop :=
  ∃ ids : List NodeId, ids.Nodup ∧ List.Forall₂ unit.Follows writes ids

namespace SourceUnit.Renders

variable {unit : SourceUnit} {outline : Outline} {root : NodeId} {uses : List NodeId}

/-- What is written to an occurrence of a variable is read wherever the variable is read. -/
theorem origins_subset_of_reads (h : unit.Renders outline root uses) {id value reader : NodeId}
    {variableId : VariableId} (hRecorded : id ∈ unit.scopes.references variableId)
    (hTaken : unit.tree.assignedValue? id = some value) (hReads : unit.Reads reader variableId) :
    unit.origins value ⊆ unit.origins reader := by
  have hGrown : unit.Grown := ⟨h.grown.tree, h.grown.scopes⟩
  obtain ⟨name, hKind, hFound⟩ := hReads
  intro candidate hMem
  obtain ⟨hOrigin, hReaches⟩ := (mem_origins_iff hGrown).mp hMem
  exact (mem_origins_iff hGrown).mpr
    ⟨hOrigin, .head (.written hKind hFound hRecorded hTaken) hReaches⟩

/-- The node of a written name stands with the variable the write goes to. -/
theorem recorded_of_rendersAt_target (h : unit.Renders outline root uses) {write : Write}
    {scope : ScopeId} {id : NodeId} (hAt : (unit.drafted uses).RendersAt scope write.target id) :
    unit.tree.Holds id (.identifier write.name.text) write.name.span scope ∧
      (write.binding.isSome → (write.destination? unit.scopes scope).isSome) ∧
      ∀ variableId, write.destination? unit.scopes scope = some variableId →
        id ∈ unit.scopes.references variableId := by
  obtain ⟨name, value, binding⟩ := write
  cases binding with
  | none =>
      obtain ⟨hHolds, hWaits⟩ := hAt.use_inv
      refine ⟨hHolds, ?_, (h.recorded id hWaits _ _ _ hHolds).1⟩
      intro hBound
      cases hBound
  | some place =>
      obtain ⟨hHolds, variableId, hDeclared, hRecorded⟩ := hAt.bind_inv
      have hVariable : (Write.mk name value (some place)).destination? unit.scopes scope =
          some variableId := by cases place <;> exact hDeclared
      refine ⟨hHolds, fun _ => by rw [hVariable]; rfl, ?_⟩
      intro other hOther
      rw [hVariable] at hOther
      cases hOther
      exact hRecorded

/-- The identifier of a writing outline follows the write that the outline makes. -/
theorem follows_of_makes (h : unit.Renders outline root uses) {write : Write} {site : Outline}
    {id : NodeId} (hMakes : site.Makes write)
    (hRendered : (unit.drafted uses).RendersWrite site id) : unit.Follows write id := by
  obtain ⟨shape, span, right, rfl, hRight⟩ := hMakes
  obtain ⟨_, _, _, _, hSite, scope, value, hTarget, hValue, parent, kind, hKind, hWritten⟩ :=
    hRendered
  cases hSite
  have hChild : id ∈ unit.tree.children parent := by
    have hKind' : unit.tree.kind? parent = some kind := hKind
    simpa [SyntaxTree.children, hKind'] using (NodeKind.mem_children_of_written? hWritten).1
  have hTaken : unit.tree.assignedValue? id = some value :=
    SyntaxTree.assignedValue?_eq_some_iff.mpr
      ⟨parent, kind, h.parent?_eq hChild, hKind, hWritten⟩
  obtain ⟨hHolds, hBound, hRecorded⟩ := h.recorded_of_rendersAt_target hTarget
  exact ⟨scope, value, {
    named := hHolds
    taken := hTaken
    lowered := ⟨uses, right, hRight, hValue⟩
    bound := hBound
    recorded := hRecorded
    read := fun variableId hVariable reader hReads =>
      h.origins_subset_of_reads (hRecorded variableId hVariable) hTaken hReads }⟩

/-- No identifier is written twice. -/
theorem nodup_written (h : unit.Renders outline root uses) :
    (unit.tree.walkAll.filterMap unit.tree.writtenAt?).Nodup := by
  refine List.Nodup.filterMap ?_ (h.walkAll_perm.nodup_iff.mpr List.nodup_range)
  intro first second left hFirst hSecond
  have hParent := h.parent?_eq (SyntaxTree.mem_children_of_writtenAt? hFirst)
  rw [h.parent?_eq (SyntaxTree.mem_children_of_writtenAt? hSecond)] at hParent
  exact (Option.some.inj hParent).symm

/-- Whatever follows a write is found written in a walk. -/
theorem mem_written_of_follows (h : unit.Renders outline root uses) {write : Write} {id : NodeId}
    (hFollows : unit.Follows write id) :
    id ∈ unit.tree.walkAll.filterMap unit.tree.writtenAt? := by
  obtain ⟨scope, value, hBy⟩ := hFollows
  obtain ⟨parent, hLt, hWritten⟩ := SyntaxTree.exists_writtenAt? hBy.named.kind? hBy.taken
  have hMem : parent ∈ unit.tree.walkAll := h.walkAll_perm.mem_iff.mpr (List.mem_range.mpr hLt)
  exact List.mem_filterMap.mpr ⟨parent, hMem, hWritten⟩

/-- The lowered writes of a program are followed one by one by the identifiers that are written. -/
theorem forall₂_follows {program : Program} (h : unit.Renders program.outline root uses) :
    List.Forall₂ unit.Follows program.phrase.loweredWrites
      (unit.tree.walkAll.filterMap unit.tree.writtenAt?) := by
  refine (forall₂_comp program.phrase.forall₂_loweredWrites h.forall₂_writtenAt?).imp ?_
  rintro write id ⟨site, hMakes, hRendered⟩
  exact h.follows_of_makes hMakes hRendered

/-- No more writes are followed than lowering comes to. -/
theorem length_le_of_followsAll {program : Program}
    (h : unit.Renders program.outline root uses) {writes : List Write}
    (hAll : unit.FollowsAll writes) : writes.length ≤ program.phrase.loweredWrites.length := by
  obtain ⟨ids, hNodup, hFollows⟩ := hAll
  have hSubset : ids ⊆ unit.tree.walkAll.filterMap unit.tree.writtenAt? := by
    clear hNodup
    induction hFollows with
    | nil => exact List.nil_subset _
    | cons hFirst _ ih => exact List.cons_subset.mpr ⟨h.mem_written_of_follows hFirst, ih⟩
  calc writes.length
      _ = ids.length := hFollows.length_eq
      _ ≤ (unit.tree.walkAll.filterMap unit.tree.writtenAt?).length :=
        (List.subperm_of_subset hNodup hSubset).length_le
      _ = program.phrase.loweredWrites.length := h.forall₂_follows.length_eq.symm

end SourceUnit.Renders

/-- Every lowered write is followed, each by an identifier of its own. All writes of a program are
followed so if and only if none stands in a part that lowering skips. -/
theorem Program.writes_followed_iff (program : Program) (file source : String) :
    (program.toUnit file source).FollowsAll program.phrase.loweredWrites ∧
      ((program.toUnit file source).FollowsAll program.phrase.writes ↔
        ∀ part ∈ program.phrase.skipped, part.writes = []) := by
  obtain ⟨root, uses, hRenders⟩ := program.renders_toUnit file source
  have hAll := program.phrase.writes_perm
  refine ⟨⟨_, hRenders.nodup_written, hRenders.forall₂_follows⟩, ?_⟩
  rw [← List.flatMap_eq_nil_iff]
  constructor
  · intro hFollows
    have hLe := hRenders.length_le_of_followsAll hFollows
    have hLength := hAll.length_eq
    rw [List.length_append] at hLength
    exact List.length_eq_zero_iff.mp (by omega)
  · intro hNone
    rw [hNone, List.append_nil] at hAll
    obtain ⟨ids, hFollows, hPerm⟩ := List.perm_comp_forall₂ hAll hRenders.forall₂_follows
    exact ⟨ids, hPerm.nodup_iff.mpr hRenders.nodup_written, hFollows⟩

/-- `let x; for ([x = {}] of ys) {}` -/
def Program.defaultInHead : Program where
  body := .cons (.variableDecl (.variableList .lexical
      (.cons (.declare (.boundName ⟨"x", ⟨4, 5⟩⟩) .absent ⟨4, 5⟩) .nil) ⟨0, 6⟩))
    (.cons (.forEach .values
      (.headTarget (.targetArray
        (.cons (.targetDefault (.targetName ⟨"x", ⟨13, 14⟩⟩) (.object .nil ⟨17, 19⟩) ⟨13, 19⟩) .nil)
        .absent ⟨12, 20⟩))
      (.identifier ⟨"ys", ⟨24, 26⟩⟩) (.block .nil ⟨28, 30⟩) ⟨7, 30⟩) .nil)
  span := ⟨0, 30⟩

/-- The default in the head of the loop is written to `x`, and no identifier follows it. -/
theorem Program.defaultInHead_write_missed :
    ¬(defaultInHead.toUnit "test.jsx" "").FollowsAll defaultInHead.phrase.writes := by
  rintro ⟨ids, -, hFollows⟩
  obtain ⟨root, uses, hRenders⟩ := defaultInHead.renders_toUnit "test.jsx" ""
  have hNone : (defaultInHead.toUnit "test.jsx" "").tree.walkAll.filterMap
      (defaultInHead.toUnit "test.jsx" "").tree.writtenAt? = [] := by decide
  have hWrites : defaultInHead.phrase.writes =
      [⟨⟨"x", ⟨13, 14⟩⟩, .object .nil ⟨17, 19⟩, none⟩] := by
    simp [defaultInHead, Program.phrase, Phrase.writes, Phrase.write?, Phrase.all_eq, Phrase.parts,
      Syntax.parts, Syntax.entered, Syntax.enteredAt, Syntax.skipped, Syntax.write?,
      Syntax.writtenName?, Syntax.value?, List.filterMap_cons]
  rw [hWrites] at hFollows
  cases hFollows with
  | cons hFirst _ =>
      have hMem := hRenders.mem_written_of_follows hFirst
      rw [hNone] at hMem
      exact absurd hMem List.not_mem_nil

end PropTrace
