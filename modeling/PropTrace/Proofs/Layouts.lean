import PropTrace.Proofs.Phrases

/-!
Layouts: where a phrase and its parts stand in the source, and nothing else of them. A layout is
tidy if every span holds the spans of its parts and these follow each other without overlap.

Lowering drops some parts of a phrase, passes on others in place of the phrase, and makes nodes that
nobody wrote. None of this spoils a row of layouts: what becomes of a phrase stays between the same
two offsets and is as tidy as the phrase.
-/
namespace PropTrace

/-- A span that does not run backwards lies within another one. -/
def Span.Within (inner outer : Span) : Prop :=
  outer.start ≤ inner.start ∧ inner.start ≤ inner.stop ∧ inner.stop ≤ outer.stop

/-- A span ends before another one starts. -/
def Span.Precedes (first second : Span) : Prop := first.stop ≤ second.start

inductive Layout where
  | name (span : Span)
  | node (span : Span) (parts : List Layout)

namespace Layout

def span : Layout → Span
  | name span | node span _ => span

mutual

/-- The spans in a layout nest, those of its parts stand one after another, and names are not
empty. -/
def Tidy : Layout → Prop
  | name span => span.start < span.stop
  | node span parts => Between span.start span.stop parts

/-- Tidy layouts stand one after another from the offset `low` up to the offset `high`. Between two
of them there may be a gap. -/
def Between (low high : Nat) : List Layout → Prop
  | [] => low ≤ high
  | layout :: rest => low ≤ layout.span.start ∧ Tidy layout ∧ Between layout.span.stop high rest

end

mutual

/-- Whether a layout is tidy can be computed. -/
def decideTidy : (layout : Layout) → Decidable layout.Tidy
  | name span => inferInstanceAs (Decidable (span.start < span.stop))
  | node span parts => decideBetween span.start span.stop parts

def decideBetween (low high : Nat) : (row : List Layout) → Decidable (Between low high row)
  | [] => inferInstanceAs (Decidable (low ≤ high))
  | layout :: rest =>
    @instDecidableAnd _ _ _ (@instDecidableAnd _ _ (decideTidy layout)
      (decideBetween layout.span.stop high rest))

end

instance (layout : Layout) : Decidable layout.Tidy := decideTidy layout

mutual

/-- The spans in a layout, each before those of its parts. -/
def spans : Layout → List Span
  | name span => [span]
  | node span parts => span :: spansAll parts

def spansAll : List Layout → List Span
  | [] => []
  | layout :: rest => layout.spans ++ spansAll rest

end

mutual

/-- The spans of the names in a layout, in order. -/
def names : Layout → List Span
  | name span => [span]
  | node _ parts => namesAll parts

def namesAll : List Layout → List Span
  | [] => []
  | layout :: rest => layout.names ++ namesAll rest

end

theorem spansAll_append (before after : List Layout) :
    spansAll (before ++ after) = spansAll before ++ spansAll after := by
  induction before with
  | nil => rfl
  | cons layout before ih => simp [spansAll, ih]

theorem namesAll_append (before after : List Layout) :
    namesAll (before ++ after) = namesAll before ++ namesAll after := by
  induction before with
  | nil => rfl
  | cons layout before ih => simp [namesAll, ih]

/-- Induction over rows: the first layout by its form, and the rest. -/
theorem row_induction {motive : List Layout → Prop} (nil : motive [])
    (name : ∀ span rest, motive rest → motive (.name span :: rest))
    (node : ∀ span parts rest, motive parts → motive rest → motive (.node span parts :: rest)) :
    ∀ row, motive row := by
  have hCons : ∀ layout : Layout, ∀ rest, motive rest → motive (layout :: rest) := by
    refine @Layout.rec (fun layout => ∀ rest, motive rest → motive (layout :: rest)) motive
      name ?_ nil ?_
    · intro span parts ih rest
      exact node span parts rest ih
    · intro first rest ihFirst ihRest
      exact ihFirst rest ihRest
  intro row
  induction row with
  | nil => exact nil
  | cons layout rest ih => exact hCons layout rest ih

variable {low high : Nat} {before after moreBefore moreAfter row : List Layout}

theorem Between.le (h : Between low high row) : low ≤ high := by
  induction row using row_induction generalizing low high with
  | nil => exact h
  | name span rest ih =>
      obtain ⟨hStart, hTidy, hRest⟩ := h
      exact Nat.le_trans hStart (Nat.le_trans (Nat.le_of_lt hTidy) (ih hRest))
  | node span parts rest ihParts ihRest =>
      obtain ⟨hStart, hTidy, hRest⟩ := h
      exact Nat.le_trans hStart (Nat.le_trans (ihParts hTidy) (ihRest hRest))

/-- A row between two offsets stands between any two offsets around these. -/
theorem Between.widen {outerLow outerHigh : Nat} (h : Between low high row)
    (hLow : outerLow ≤ low) (hHigh : high ≤ outerHigh) : Between outerLow outerHigh row := by
  induction row generalizing low outerLow with
  | nil => exact Nat.le_trans hLow (Nat.le_trans h hHigh)
  | cons layout rest ih =>
      obtain ⟨hStart, hTidy, hRest⟩ := h
      exact ⟨Nat.le_trans hLow hStart, hTidy, ih hRest (Nat.le_refl _)⟩

theorem between_append_iff : Between low high (before ++ after) ↔
    ∃ middle, Between low middle before ∧ Between middle high after := by
  induction before generalizing low with
  | nil =>
      constructor
      · exact fun h => ⟨low, Nat.le_refl low, h⟩
      · rintro ⟨middle, hLow, hAfter⟩
        exact hAfter.widen hLow (Nat.le_refl _)
  | cons layout rest ih =>
      constructor
      · rintro ⟨hStart, hTidy, hRest⟩
        obtain ⟨middle, hBefore, hAfter⟩ := ih.mp hRest
        exact ⟨middle, ⟨hStart, hTidy, hBefore⟩, hAfter⟩
      · rintro ⟨middle, ⟨hStart, hTidy, hBefore⟩, hAfter⟩
        exact ⟨hStart, hTidy, ih.mpr ⟨middle, hBefore, hAfter⟩⟩

theorem span_mem_spansAll {layout : Layout} (h : layout ∈ row) : layout.span ∈ spansAll row := by
  induction h with
  | head rest => cases layout <;> exact List.mem_append_left _ List.mem_cons_self
  | tail other _ ih => exact List.mem_append_right _ ih

theorem namesAll_subset (row : List Layout) : namesAll row ⊆ spansAll row := by
  induction row using row_induction with
  | nil => exact List.Subset.refl _
  | name span rest ih => exact List.cons_subset_cons span ih
  | node span parts rest ihParts ihRest =>
      intro inner hMem
      refine List.mem_cons_of_mem _ (List.mem_append.mpr ?_)
      exact (List.mem_append.mp hMem).imp (ihParts ·) (ihRest ·)

namespace Between

/-- Every span in a row lies within the bounds of the row. -/
theorem within (h : Between low high row) : ∀ inner ∈ spansAll row, inner.Within ⟨low, high⟩ := by
  induction row using row_induction generalizing low high with
  | nil => simp [spansAll]
  | name span rest ih =>
      obtain ⟨hStart, hTidy, hRest⟩ := h
      have hLe : span.start ≤ span.stop := Nat.le_of_lt hTidy
      intro inner hMem
      rcases List.mem_cons.mp hMem with rfl | hMem
      · exact ⟨hStart, hLe, hRest.le⟩
      · obtain ⟨hAfter, hRight, hHigh⟩ := ih hRest inner hMem
        exact ⟨Nat.le_trans hStart (Nat.le_trans hLe hAfter), hRight, hHigh⟩
  | node span parts rest ihParts ihRest =>
      obtain ⟨hStart, hTidy, hRest⟩ := h
      have hLe : span.start ≤ span.stop := Between.le hTidy
      intro inner hMem
      rcases List.mem_cons.mp hMem with rfl | hMem
      · exact ⟨hStart, hLe, hRest.le⟩
      · rcases List.mem_append.mp hMem with hMem | hMem
        · obtain ⟨hAfter, hRight, hInside⟩ := ihParts hTidy inner hMem
          exact ⟨Nat.le_trans hStart hAfter, hRight, Nat.le_trans hInside hRest.le⟩
        · obtain ⟨hAfter, hRight, hHigh⟩ := ihRest hRest inner hMem
          exact ⟨Nat.le_trans hStart (Nat.le_trans hLe hAfter), hRight, hHigh⟩

/-- The layouts of a row stand one after another. -/
theorem pairwise_precedes (h : Between low high row) :
    (row.map span).Pairwise Span.Precedes := by
  induction row generalizing low with
  | nil => exact .nil
  | cons layout rest ih =>
      obtain ⟨-, -, hRest⟩ := h
      refine List.pairwise_cons.mpr ⟨?_, ih hRest⟩
      intro later hMem
      obtain ⟨other, hOther, rfl⟩ := List.mem_map.mp hMem
      exact (hRest.within _ (span_mem_spansAll hOther)).1

/-- No span in a row starts before an earlier one. -/
theorem pairwise_spansAll (h : Between low high row) :
    (spansAll row).Pairwise fun first second => first.start ≤ second.start := by
  induction row using row_induction generalizing low high with
  | nil => exact .nil
  | name span rest ih =>
      obtain ⟨-, hTidy, hRest⟩ := h
      refine List.pairwise_cons.mpr ⟨?_, ih hRest⟩
      intro later hMem
      exact Nat.le_trans (Nat.le_of_lt hTidy) (hRest.within later hMem).1
  | node span parts rest ihParts ihRest =>
      obtain ⟨-, hTidy, hRest⟩ := h
      have hInside : ∀ inner ∈ spansAll parts, inner.Within span := within hTidy
      refine List.pairwise_cons.mpr ⟨?_, List.pairwise_append.mpr ⟨ihParts hTidy, ihRest hRest, ?_⟩⟩
      · intro later hMem
        rcases List.mem_append.mp hMem with hMem | hMem
        · exact (hInside later hMem).1
        · exact Nat.le_trans (Between.le hTidy) (hRest.within later hMem).1
      · intro inner hInner later hLater
        obtain ⟨-, hRight, hStop⟩ := hInside inner hInner
        exact Nat.le_trans hRight (Nat.le_trans hStop (hRest.within later hLater).1)

theorem name_nonempty (h : Between low high row) :
    ∀ inner ∈ namesAll row, inner.start < inner.stop := by
  induction row using row_induction generalizing low high with
  | nil => simp [namesAll]
  | name span rest ih =>
      obtain ⟨-, hTidy, hRest⟩ := h
      exact List.forall_mem_cons.mpr ⟨hTidy, ih hRest⟩
  | node span parts rest ihParts ihRest =>
      obtain ⟨-, hTidy, hRest⟩ := h
      exact List.forall_mem_append.mpr ⟨ihParts hTidy, ihRest hRest⟩

/-- No two names in a row start at the same place. -/
theorem pairwise_namesAll (h : Between low high row) :
    (namesAll row).Pairwise fun first second => first.start < second.start := by
  induction row using row_induction generalizing low high with
  | nil => exact .nil
  | name span rest ih =>
      obtain ⟨-, hTidy, hRest⟩ := h
      refine List.pairwise_cons.mpr ⟨?_, ih hRest⟩
      intro later hMem
      exact Nat.lt_of_lt_of_le hTidy (hRest.within later (namesAll_subset rest hMem)).1
  | node span parts rest ihParts ihRest =>
      obtain ⟨-, hTidy, hRest⟩ := h
      refine List.pairwise_append.mpr ⟨ihParts hTidy, ihRest hRest, ?_⟩
      intro inner hInner later hLater
      have hWithin : inner.Within span := within hTidy inner (namesAll_subset parts hInner)
      have hLater := (hRest.within later (namesAll_subset rest hLater)).1
      exact Nat.lt_of_lt_of_le (name_nonempty hTidy inner hInner)
        (Nat.le_trans hWithin.2.2 hLater)

end Between

/-- Wherever the first row stands in order, the second one does. -/
def Keeps (before after : List Layout) : Prop :=
  ∀ low high, Between low high before → Between low high after

namespace Keeps

theorem refl (row : List Layout) : Keeps row row := fun _ _ h => h

theorem append (hFirst : Keeps before after) (hSecond : Keeps moreBefore moreAfter) :
    Keeps (before ++ moreBefore) (after ++ moreAfter) := by
  intro low high h
  obtain ⟨middle, hBefore, hMore⟩ := between_append_iff.mp h
  exact between_append_iff.mpr ⟨middle, hFirst _ _ hBefore, hSecond _ _ hMore⟩

/-- Parts may change inside of a span. -/
theorem node {span : Span} (h : Keeps before after) :
    Keeps [.node span before] [.node span after] :=
  fun _ _ ⟨hStart, hTidy, hStop⟩ => ⟨hStart, h _ _ hTidy, hStop⟩

/-- Parts may stand in the place of what they are parts of. -/
theorem opened {span : Span} (h : Keeps before after) : Keeps [.node span before] after :=
  fun _ _ ⟨hStart, hTidy, hStop⟩ => (h _ _ hTidy).widen hStart hStop

theorem dropped (row : List Layout) : Keeps row [] := fun _ _ h => h.le

/-- What is there can have a part of just its span. -/
theorem filled (span : Span) : Keeps [.node span []] [.node span [.node span []]] :=
  fun _ _ ⟨hStart, hTidy, hStop⟩ => ⟨hStart, ⟨Nat.le_refl _, hTidy, Nat.le_refl _⟩, hStop⟩

theorem of_sublist (h : after.Sublist before) : Keeps before after := by
  induction h with
  | slnil => exact .refl []
  | cons layout _ ih => exact (dropped [layout]).append ih
  | cons_cons layout _ ih => exact (refl [layout]).append ih

end Keeps

end Layout

def Name.layout (name : Name) : Layout := .name name.span

def JsxName.layout : JsxName → Layout
  | plain _ span | namespaced _ _ span | path _ span => .node span []

namespace Syntax

/-- The layouts of a phrase: one for a phrase with a span of its own, and otherwise those of its
parts. Decorators of a class are left out, since they may stand in front of an `export`, outside of
the class. -/
def layout : {c : Category} → Syntax c → List Layout
  | _, .nil | _, .absent => []
  | _, .cons first rest => first.layout ++ rest.layout
  | _, .present value => value.layout
  -- phrases without parts
  | _, .literal _ span | _, .thisExpr span | _, .word span | _, .quoted _ span | _, .plain span =>
    [.node span []]
  | _, .identifier name | _, .boundName name | _, .targetName name => [name.layout]
  -- phrases that have the span of their only part
  | _, .functionExpr value | _, .functionDecl value => value.layout
  | _, .classExpr value | _, .classDecl value => value.layout
  | _, .jsxExpr value | _, .nested value => value.layout
  | _, .item value | _, .headExpr value => value.layout
  | _, .variableDecl value | _, .headVariables value => value.layout
  | _, .headTarget value => value.layout
  -- expressions
  | _, .template parts span | _, .sequence parts span => [.node span parts.layout]
  | _, .tagged tag parts span => [.node span (tag.layout ++ parts.layout)]
  | _, .logical _ left right span | _, .binary left right span =>
    [.node span (left.layout ++ right.layout)]
  | _, .privateIn _ right span => [.node span right.layout]
  | _, .unary operand span | _, .await operand span => [.node span operand.layout]
  | _, .update operand span => [.node span operand.layout]
  | _, .conditional test consequent alternate span =>
    [.node span (test.layout ++ consequent.layout ++ alternate.layout)]
  | _, .call callee arguments span | _, .new callee arguments span =>
    [.node span (callee.layout ++ arguments.layout)]
  | _, .member base _ span | _, .privateMember base _ span => [.node span base.layout]
  | _, .index base key span => [.node span (base.layout ++ key.layout)]
  | _, .chain link span => [.node span link.layout]
  | _, .assign _ target value span => [.node span (target.layout ++ value.layout)]
  | _, .object properties span => [.node span properties.layout]
  | _, .array elements span => [.node span elements.layout]
  | _, .wrapped _ inner span => [.node span inner.layout]
  | _, .yield operand span => [.node span operand.layout]
  | _, .importCall source options span => [.node span (source.layout ++ options.layout)]
  | _, .spread value span | _, .spreadProperty value span => [.node span value.layout]
  | _, .keyed key value span => [.node span (key.layout ++ value.layout)]
  -- functions and classes
  | _, .func _ name params rest restSpan body span =>
    let rest := if rest.isPresent then [.node restSpan rest.layout] else []
    [.node span (name.toList.map Name.layout ++ (params.layout ++ rest) ++ body.layout)]
  | _, .parameter decorators pattern initial span =>
    [.node span (decorators.layout ++ pattern.layout ++ initial.layout)]
  | _, .classBody _ _ name parent members span =>
    [.node span (name.toList.map Name.layout ++ parent.layout ++ members.layout)]
  | _, .method decorators key value => decorators.layout ++ key.layout ++ value.layout
  | _, .field decorators key value | _, .signature decorators key value =>
    decorators.layout ++ key.layout ++ value.layout
  | _, .staticBlock body span => [.node span body.layout]
  -- patterns of declarations
  | _, .objectPattern properties rest span => [.node span (properties.layout ++ rest.layout)]
  | _, .arrayPattern elements rest span => [.node span (elements.layout ++ rest.layout)]
  | _, .defaultPattern target value span => [.node span (target.layout ++ value.layout)]
  | _, .patternMember key value => key.layout ++ value.layout
  -- targets of assignments
  | _, .targetMember base _ span | _, .targetPrivate base _ span => [.node span base.layout]
  | _, .targetIndex base key span => [.node span (base.layout ++ key.layout)]
  | _, .targetWrapped _ inner span => [.node span inner.layout]
  | _, .targetObject properties rest span => [.node span (properties.layout ++ rest.layout)]
  | _, .targetArray elements rest span => [.node span (elements.layout ++ rest.layout)]
  | _, .targetDefault target value span => [.node span (target.layout ++ value.layout)]
  | _, .shorthand name value span => [.node span (name.layout :: value.layout)]
  | _, .targetKeyed key target span => [.node span (key.layout ++ target.layout)]
  -- elements
  | _, .element name attributes openingSpan children span =>
    [.node span (.node openingSpan (name.layout :: attributes.layout) :: children.layout)]
  | _, .fragment children span => [.node span children.layout]
  | _, .namedAttribute _ value span => [.node span value.layout]
  | _, .spreadAttribute value span | _, .spreadChild value span => [.node span value.layout]
  | _, .container value span => [.node span value.layout]
  -- declarations and clauses
  | _, .declare pattern init span => [.node span (pattern.layout ++ init.layout)]
  | _, .variableList _ declarators span => [.node span declarators.layout]
  | _, .case test body span => [.node span (test.layout ++ body.layout)]
  | _, .handler param body span => [.node span (param.layout ++ body.layout)]
  -- statements
  | _, .expression value span | _, .throws value span => [.node span value.layout]
  | _, .exportDefaultValue value span | _, .exportValue value span => [.node span value.layout]
  | _, .returns value span => [.node span value.layout]
  | _, .block body span | _, .globalDecl body span => [.node span body.layout]
  | _, .namespaceDecl _ body span => [.node span body.layout]
  | _, .ifElse test consequent alternate span =>
    [.node span (test.layout ++ consequent.layout ++ alternate.layout)]
  | _, .forLoop head test step body span =>
    [.node span (head.layout ++ test.layout ++ step.layout ++ body.layout)]
  | _, .forEach _ head collection body span =>
    [.node span (head.layout ++ collection.layout ++ body.layout)]
  | _, .whileLoop test body span => [.node span (test.layout ++ body.layout)]
  | _, .doWhile body test span => [.node span (body.layout ++ test.layout)]
  | _, .labeled _ body span => [.node span body.layout]
  | _, .switch discriminant cases span => [.node span (discriminant.layout ++ cases.layout)]
  | _, .tryCatch body clause finalizer span =>
    [.node span (body.layout ++ clause.layout ++ finalizer.layout)]
  | _, .withObject base body span => [.node span (base.layout ++ body.layout)]
  | _, .exportNamed declaration span => [.node span declaration.layout]
  | _, .exportDefault declaration span => [.node span declaration.layout]
  | _, .enumDecl name values span => [.node span (name.layout :: values.layout)]

end Syntax

/-- The layout of a whole module. -/
def Program.layout (program : Program) : Layout := .node program.span program.body.layout

namespace Outline

mutual

/-- The layout of the node an outline becomes, with the nodes below it. -/
def layout : Outline → Layout
  | .use name | .bind name _ => name.layout
  | .node _ span parts => .node span (layoutAll parts)
  | .region _ span before _ inside => .node span (layoutAll before ++ layoutAll inside)

/-- The layouts of outlines that stand side by side. -/
def layoutAll : List Outline → List Layout
  | [] => []
  | outline :: rest => outline.layout :: layoutAll rest

end

@[simp]
theorem layoutAll_append (before after : List Outline) :
    layoutAll (before ++ after) = layoutAll before ++ layoutAll after := by
  induction before with
  | nil => rfl
  | cons outline before ih => simp [layoutAll, ih]

@[simp]
theorem layoutAll_map_bind (names : List Name) (place : BindingPlace) :
    layoutAll (names.map fun name => .bind name place) = names.map Name.layout := by
  induction names with
  | nil => rfl
  | cons name names ih => simp [layoutAll, layout, ih]

end Outline

/-- A function has its name first, wherever the name belongs. -/
theorem layout_functionOutline (kind : FunctionKind) (name : Option Name)
    (params body : List Outline) (span : Span) :
    (functionOutline kind name params body span).layout =
      .node span (name.toList.map Name.layout ++ Outline.layoutAll params ++
        Outline.layoutAll body) := by
  cases kind <;> simp [functionOutline, Outline.layout, Outline.layoutAll]

open Layout Outline

namespace Syntax

variable {c : Category}

/-- The names a pattern binds stand in the pattern, in order. -/
theorem keeps_boundNames (s : Syntax c) : Keeps s.layout (s.boundNames.map Name.layout) := by
  induction s
  case cons ihFirst ihRest =>
      rw [boundNames, List.map_append]
      exact ihFirst.append ihRest
  case present ih => exact ih
  case boundName => exact .refl _
  case parameter decorators pattern initial span _ ih _ =>
      have hPattern := ((Keeps.dropped decorators.layout).append ih).append
        (.dropped initial.layout)
      rw [List.nil_append, List.append_nil] at hPattern
      exact hPattern.opened
  case objectPattern ihProperties ihRest | arrayPattern ihProperties ihRest =>
      rw [boundNames, List.map_append]
      exact (ihProperties.append ihRest).opened
  case defaultPattern target value span ih _ =>
      have hTarget := ih.append (.dropped value.layout)
      rw [List.append_nil] at hTarget
      exact hTarget.opened
  case patternMember key value _ ih => exact (Keeps.dropped key.layout).append ih
  all_goals exact .dropped _

/-- The node of a rest parameter holds the names that are not bound before. -/
theorem keeps_restOutline (bound : List String) (rest : Syntax (.option .pattern))
    (restSpan : Span) : Keeps (if rest.isPresent then [.node restSpan rest.layout] else [])
      (layoutAll (restOutline bound rest.boundNames restSpan)) := by
  cases rest with
  | absent => exact .refl []
  | present pattern =>
      let fresh := pattern.boundNames.filter fun name => !bound.contains name.text
      have hFresh : Keeps pattern.layout (fresh.map Name.layout) := by
        intro low high h
        have hNames := pattern.keeps_boundNames low high h
        exact Keeps.of_sublist (List.filter_sublist.map Name.layout) low high hNames
      change Keeps [.node restSpan pattern.layout]
        (layoutAll (restOutline bound pattern.boundNames restSpan))
      unfold restOutline
      split
      · exact .dropped _
      · change Keeps _ [.node restSpan (layoutAll _)]
        rw [layoutAll_map_bind]
        exact hFresh.node

/-- The outlines of a phrase stand where the phrase does, in order. -/
theorem keeps_outline (s : Syntax c) (place : BindingPlace) :
    Keeps s.layout (layoutAll (s.outline place)) := by
  induction s generalizing place
  -- phrases that are outlined with nothing of their parts, or not at all
  case nil | absent | literal | identifier | thisExpr | word | boundName | targetName | quoted
    | plain => exact .refl _
  case privateIn | targetPrivate | exportValue | globalDecl | enumDecl =>
      exact (Keeps.dropped _).node
  case signature | headTarget => exact .dropped _
  -- phrases that are outlined by one of their parts or by both
  case present value ih => exact ih place
  case functionExpr ih | classExpr ih | jsxExpr ih | item ih | nested ih | headVariables ih
    | headExpr ih | variableDecl ih | functionDecl ih | classDecl ih => exact ih .here
  case wrapped ih => exact (ih .here).opened
  case cons ihFirst ihRest =>
      change Keeps _ (layoutAll (_ ++ _))
      rw [layoutAll_append]
      exact (ihFirst place).append (ihRest place)
  case patternMember ihKey ihValue =>
      change Keeps _ (layoutAll (_ ++ _))
      rw [layoutAll_append]
      exact (ihKey .here).append (ihValue place)
  case method decorators key value _ _ ih | field decorators key value _ _ ih =>
      exact ((Keeps.dropped decorators.layout).append (.dropped key.layout)).append (ih .here)
  -- phrases that become one node, with or without a scope
  case template ih | unary ih | sequence ih | member ih | privateMember ih | object ih | array ih
    | await ih | yield ih | spread ih | spreadProperty ih | targetMember ih | fragment ih
    | namedAttribute ih | spreadAttribute ih | spreadChild ih | expression ih | returns ih
    | throws ih | labeled ih | exportDefaultValue ih | staticBlock ih | block ih =>
      exact (ih .here).node
  case variableList kind declarators span ih => exact (ih kind.place).node
  case importCall source options span ih _ =>
      have hSource := (ih .here).append (.dropped options.layout)
      rw [List.append_nil] at hSource
      exact hSource.node
  case tagged ihFirst ihSecond | logical ihFirst ihSecond | binary ihFirst ihSecond
    | call ihFirst ihSecond | new ihFirst ihSecond | index ihFirst ihSecond
    | assign ihFirst ihSecond | keyed ihFirst ihSecond | targetIndex ihFirst ihSecond
    | targetObject ihFirst ihSecond | targetArray ihFirst ihSecond
    | targetDefault ihFirst ihSecond | targetKeyed ihFirst ihSecond | case ihFirst ihSecond
    | whileLoop ihFirst ihSecond | doWhile ihFirst ihSecond | withObject ihFirst ihSecond
    | handler ihFirst ihSecond =>
      change Keeps _ [.node _ (layoutAll (_ ++ _))]
      rw [layoutAll_append]
      exact ((ihFirst .here).append (ihSecond .here)).node
  case switch ihBefore ihCases => exact ((ihBefore .here).append (ihCases .here)).node
  case objectPattern ihFirst ihSecond | arrayPattern ihFirst ihSecond =>
      change Keeps _ [.node _ (layoutAll (_ ++ _))]
      rw [layoutAll_append]
      exact ((ihFirst place).append (ihSecond place)).node
  case defaultPattern ihFirst ihSecond | declare ihFirst ihSecond =>
      change Keeps _ [.node _ (layoutAll (_ ++ _))]
      rw [layoutAll_append]
      exact ((ihFirst place).append (ihSecond .here)).node
  case conditional ihFirst ihSecond ihThird | ifElse ihFirst ihSecond ihThird
    | tryCatch ihFirst ihSecond ihThird | forEach ihFirst ihSecond ihThird =>
      change Keeps _ [.node _ (layoutAll (_ ++ _ ++ _))]
      rw [layoutAll_append, layoutAll_append]
      exact (((ihFirst .here).append (ihSecond .here)).append (ihThird .here)).node
  case forLoop ihHead ihTest ihStep ihBody =>
      change Keeps _ [.node _ (layoutAll (_ ++ _ ++ _ ++ _))]
      rw [layoutAll_append, layoutAll_append, layoutAll_append]
      exact ((((ihHead .here).append (ihTest .here)).append (ihStep .here)).append
        (ihBody .here)).node
  -- phrases whose outline holds more than the outlines of their parts
  case func kind name params rest restSpan body span ihParams _ ihBody =>
      change Keeps _ [(functionOutline _ _ (_ ++ restOutline _ _ _) _ _).layout]
      rw [layout_functionOutline, layoutAll_append]
      exact (((Keeps.refl _).append ((ihParams .here).append
        (keeps_restOutline _ rest restSpan))).append (ihBody .here)).node
  case classBody kind decorators name parent members span _ ihParent ihMembers =>
      have hNamed : Keeps (name.toList.map Name.layout) (layoutAll
          (if kind = .declaration then name.toList.map fun name => .bind name .here else [])) := by
        cases kind with
        | declaration =>
            change Keeps _ (layoutAll (name.toList.map fun name => .bind name .here))
            rw [layoutAll_map_bind]
            exact .refl _
        | expression => exact .dropped _
      change Keeps _ [.node _ (layoutAll (_ ++ _ ++ _))]
      rw [layoutAll_append, layoutAll_append]
      exact ((hNamed.append (ihParent .here)).append (ihMembers .here)).node
  case element name attributes openingSpan children span ihAttributes ihChildren =>
      have hName : Keeps [name.layout] [name.outline.layout] := by
        cases name <;> exact .refl _
      exact ((hName.append (ihAttributes .here)).node.append (ihChildren .here)).node
  -- phrases that are outlined in one way or another
  case parameter decorators pattern initial span _ ihPattern ihInitial =>
      have hBoth := ((Keeps.dropped decorators.layout).append (ihPattern .here)).append
        (ihInitial .here)
      cases initial with
      | absent =>
          rw [List.nil_append] at hBoth
          change Keeps _ (_ ++ []) at hBoth
          rw [List.append_nil] at hBoth
          exact hBoth.opened
      | present value =>
          change Keeps _ [.node _ (layoutAll (_ ++ _))]
          rw [layoutAll_append]
          exact hBoth.node
  case shorthand name value span ih =>
      have hBoth := (Keeps.refl [name.layout]).append (ih .here)
      cases value with
      | absent => exact hBoth.opened
      | present value => exact hBoth.node
  case container value span ih =>
      cases value with
      | absent => exact .filled span
      | present value => exact (ih .here).node
  case update operand span ih =>
      change Keeps _ [.node _ (layoutAll (operand.writtenName?.toList.map Outline.use))]
      cases hWritten : operand.writtenName? with
      | none => exact (Keeps.dropped _).node
      | some name =>
          have hName := ih .here
          rw [outline_of_writtenName? hWritten] at hName
          exact hName.node
  case chain link span ih =>
      change Keeps _ [.node _ (layoutAll (if link.isPlainLink then _ else []))]
      cases link.isPlainLink with
      | true => exact (ih .here).node
      | false => exact (Keeps.dropped _).node
  case targetWrapped wrapper inner span ih =>
      cases wrapper with
      | parentheses => exact (ih .here).opened
      | _ => exact (Keeps.dropped _).node
  case exportNamed declaration span ih | exportDefault declaration span ih =>
      change Keeps _ [.node _ (layoutAll (if declaration.isValueDeclaration then _ else []))]
      cases declaration.isValueDeclaration with
      | true => exact (ih .here).node
      | false => exact (Keeps.dropped _).node
  case namespaceDecl path body span ih =>
      change Keeps _ [.node _ (layoutAll (if path.length = 1 then _ else []))]
      by_cases hPath : path.length = 1 <;> simp only [hPath]
      · exact (ih .here).node
      · exact (Keeps.dropped _).node

end Syntax

/-- The node of a tidy program is tidy, with everything below it. -/
theorem Program.tidy_outline {program : Program} (h : program.layout.Tidy) :
    program.outline.layout.Tidy :=
  program.body.keeps_outline .here _ _ h

end PropTrace
