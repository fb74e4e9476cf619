import Mathlib.Data.List.Perm.Basic
import PropTrace.Proofs.Walk
import PropTrace.Syntax.Outline

/-!
The phrases of a program, and which of them lowering enters. Every phrase lists its parts, each
marked as entered or skipped; a phrase is lowered if no skipped part stands between it and the
program.

What matters of an outline are its marks: attributes, whatever writes a value, and names that are
used. The first two are called sites. The marks of an outline are those of the lowered phrases, in
order.
-/
namespace PropTrace

/-- A phrase of any category where it stands in the phrase around it. -/
structure Phrase where
  {category : Category}
  content : Syntax category
  /-- Where the names of a pattern belong. -/
  place : BindingPlace
  /-- Whether lowering goes on with it. -/
  entered : Bool

namespace Syntax

variable {c : Category}

def enteredAt (content : Syntax c) (place : BindingPlace) : Phrase := ⟨content, place, true⟩

def entered (content : Syntax c) : Phrase := ⟨content, .here, true⟩

def skipped (content : Syntax c) : Phrase := ⟨content, .here, false⟩

def enteredIf (content : Syntax c) (condition : Bool) : Phrase := ⟨content, .here, condition⟩

/-- The parts of a phrase. What lowering passes over: decorators, keys of classes, everything in a
signature, the pattern of a rest parameter, targets in the head of a loop, operands of `++` other
than names, targets with private names or under type-only forms, the right side of `#name in`,
optional chains that do not end in a plain link, the options of `import()`, enumerations,
`export =`, `declare global`, dotted namespaces and what is exported without being a value
declaration. -/
def parts : {c : Category} → BindingPlace → Syntax c → List Phrase
  | _, place, .cons first rest => [first.enteredAt place, rest.enteredAt place]
  | _, place, .present value => [value.enteredAt place]
  | _, _, .nil | _, _, .absent | _, _, .literal _ _ | _, _, .identifier _ | _, _, .thisExpr _
  | _, _, .word _ | _, _, .boundName _ | _, _, .targetName _ | _, _, .quoted _ _
  | _, _, .plain _ => []
  -- expressions
  | _, _, .template parts _ => [parts.entered]
  | _, _, .tagged tag parts _ => [tag.entered, parts.entered]
  | _, _, .logical _ left right _ => [left.entered, right.entered]
  | _, _, .binary left right _ => [left.entered, right.entered]
  | _, _, .privateIn _ right _ => [right.skipped]
  | _, _, .unary operand _ => [operand.entered]
  | _, _, .update operand _ => [operand.enteredIf operand.writtenName?.isSome]
  | _, _, .conditional test consequent alternate _ =>
    [test.entered, consequent.entered, alternate.entered]
  | _, _, .sequence parts _ => [parts.entered]
  | _, _, .call callee arguments _ => [callee.entered, arguments.entered]
  | _, _, .new callee arguments _ => [callee.entered, arguments.entered]
  | _, _, .member base _ _ => [base.entered]
  | _, _, .index base key _ => [base.entered, key.entered]
  | _, _, .privateMember base _ _ => [base.entered]
  | _, _, .chain link _ => [link.enteredIf link.isPlainLink]
  | _, _, .assign _ target value _ => [target.entered, value.entered]
  | _, _, .functionExpr value => [value.entered]
  | _, _, .classExpr value => [value.entered]
  | _, _, .object properties _ => [properties.entered]
  | _, _, .array elements _ => [elements.entered]
  | _, _, .jsxExpr value => [value.entered]
  | _, _, .wrapped _ inner _ => [inner.entered]
  | _, _, .await operand _ => [operand.entered]
  | _, _, .yield operand _ => [operand.entered]
  | _, _, .importCall source options _ => [source.entered, options.skipped]
  | _, _, .item value => [value.entered]
  | _, _, .spread value _ => [value.entered]
  | _, _, .keyed key value _ => [key.entered, value.entered]
  | _, _, .spreadProperty value _ => [value.entered]
  -- functions and classes
  | _, _, .func _ _ params rest _ body _ => [params.entered, rest.skipped, body.entered]
  | _, _, .parameter decorators pattern initial _ =>
    [decorators.skipped, pattern.entered, initial.entered]
  | _, _, .classBody _ decorators _ parent members _ =>
    [decorators.skipped, parent.entered, members.entered]
  | _, _, .method decorators key value => [decorators.skipped, key.skipped, value.entered]
  | _, _, .field decorators key value => [decorators.skipped, key.skipped, value.entered]
  | _, _, .staticBlock body _ => [body.entered]
  | _, _, .signature decorators key value => [decorators.skipped, key.skipped, value.skipped]
  -- patterns of declarations
  | _, place, .objectPattern properties rest _ =>
    [properties.enteredAt place, rest.enteredAt place]
  | _, place, .arrayPattern elements rest _ => [elements.enteredAt place, rest.enteredAt place]
  | _, place, .defaultPattern target value _ => [target.enteredAt place, value.entered]
  | _, place, .patternMember key value => [key.entered, value.enteredAt place]
  -- targets of assignments
  | _, _, .targetMember base _ _ => [base.entered]
  | _, _, .targetIndex base key _ => [base.entered, key.entered]
  | _, _, .targetPrivate base _ _ => [base.skipped]
  | _, _, .targetWrapped wrapper inner _ => [inner.enteredIf (wrapper = .parentheses)]
  | _, _, .targetObject properties rest _ => [properties.entered, rest.entered]
  | _, _, .targetArray elements rest _ => [elements.entered, rest.entered]
  | _, _, .targetDefault target value _ => [target.entered, value.entered]
  | _, _, .shorthand _ value _ => [value.entered]
  | _, _, .targetKeyed key target _ => [key.entered, target.entered]
  -- elements
  | _, _, .element _ attributes _ children _ => [attributes.entered, children.entered]
  | _, _, .fragment children _ => [children.entered]
  | _, _, .namedAttribute _ value _ => [value.entered]
  | _, _, .spreadAttribute value _ => [value.entered]
  | _, _, .container value _ => [value.entered]
  | _, _, .nested value => [value.entered]
  | _, _, .spreadChild value _ => [value.entered]
  -- declarations and clauses
  | _, place, .declare pattern init _ => [pattern.enteredAt place, init.entered]
  | _, _, .variableList kind declarators _ => [declarators.enteredAt kind.place]
  | _, _, .headVariables value => [value.entered]
  | _, _, .headExpr value => [value.entered]
  | _, _, .headTarget value => [value.skipped]
  | _, _, .case test body _ => [test.entered, body.entered]
  | _, _, .handler param body _ => [param.entered, body.entered]
  -- statements
  | _, _, .expression value _ => [value.entered]
  | _, _, .variableDecl value => [value.entered]
  | _, _, .functionDecl value => [value.entered]
  | _, _, .classDecl value => [value.entered]
  | _, _, .returns value _ => [value.entered]
  | _, _, .throws value _ => [value.entered]
  | _, _, .block body _ => [body.entered]
  | _, _, .ifElse test consequent alternate _ =>
    [test.entered, consequent.entered, alternate.entered]
  | _, _, .forLoop head test step body _ =>
    [head.entered, test.entered, step.entered, body.entered]
  | _, _, .forEach _ head collection body _ => [head.entered, collection.entered, body.entered]
  | _, _, .whileLoop test body _ => [test.entered, body.entered]
  | _, _, .doWhile body test _ => [body.entered, test.entered]
  | _, _, .labeled _ body _ => [body.entered]
  | _, _, .switch discriminant cases _ => [discriminant.entered, cases.entered]
  | _, _, .tryCatch body clause finalizer _ => [body.entered, clause.entered, finalizer.entered]
  | _, _, .withObject base body _ => [base.entered, body.entered]
  | _, _, .exportNamed declaration _ => [declaration.enteredIf declaration.isValueDeclaration]
  | _, _, .exportDefault declaration _ => [declaration.enteredIf declaration.isValueDeclaration]
  | _, _, .exportDefaultValue value _ => [value.entered]
  | _, _, .exportValue value _ => [value.skipped]
  | _, _, .namespaceDecl path body _ => [body.enteredIf (path.length = 1)]
  | _, _, .globalDecl body _ => [body.skipped]
  | _, _, .enumDecl _ values _ => [values.skipped]

theorem sizeOf_lt_of_mem_parts {s : Syntax c} {place : BindingPlace} :
    ∀ q ∈ s.parts place, sizeOf q.content < sizeOf s := by
  cases s <;>
    simp only [parts, enteredAt, entered, skipped, enteredIf, List.forall_mem_cons,
      List.not_mem_nil, false_implies, implies_true, and_true] <;>
    simp +arith

end Syntax

namespace Phrase

/-- The parts of a phrase. -/
def parts (phrase : Phrase) : List Phrase := phrase.content.parts phrase.place

/-- The outlines of a phrase. -/
def outline (phrase : Phrase) : List Outline := phrase.content.outline phrase.place

section entering

variable {c : Category} (content : Syntax c) (place : BindingPlace) (rest : List Phrase)

@[simp]
theorem outline_enteredAt : (content.enteredAt place).outline = content.outline place := rfl

@[simp]
theorem outline_entered : content.entered.outline = content.outline .here := rfl

@[simp]
theorem filter_enteredAt : (content.enteredAt place :: rest).filter entered =
    content.enteredAt place :: rest.filter entered := rfl

@[simp]
theorem filter_entered :
    (content.entered :: rest).filter entered = content.entered :: rest.filter entered := rfl

@[simp]
theorem filter_skipped : (content.skipped :: rest).filter entered = rest.filter entered := rfl

@[simp]
theorem filter_enteredIf (condition : Bool) : (content.enteredIf condition :: rest).filter entered =
    (if condition then [content.entered] else []) ++ rest.filter entered := by
  cases condition <;> rfl

end entering

/-- A phrase and the phrases below it that can be reached through allowed parts, each before its
own parts. -/
def reached (allowed : Phrase → Bool) (phrase : Phrase) : List Phrase :=
  phrase :: (phrase.parts.filter allowed).attach.flatMap fun ⟨part, _⟩ => part.reached allowed
termination_by sizeOf phrase.content
decreasing_by
  rename_i hMem
  exact Syntax.sizeOf_lt_of_mem_parts _ (List.mem_filter.mp hMem).1

theorem reached_eq (allowed : Phrase → Bool) (phrase : Phrase) :
    phrase.reached allowed = phrase :: (phrase.parts.filter allowed).flatMap (reached allowed) := by
  rw [reached]
  simp only [List.flatMap_subtype, List.unattach_attach]

/-- Induction over phrases: what holds of a phrase if it holds of its parts holds of all. -/
theorem parts_induction {motive : Phrase → Prop}
    (step : ∀ phrase, (∀ part ∈ phrase.parts, motive part) → motive phrase) (phrase : Phrase) :
    motive phrase :=
  step phrase fun part hMem =>
    have := Syntax.sizeOf_lt_of_mem_parts part hMem
    parts_induction step part
termination_by sizeOf phrase.content

/-- A phrase and every phrase below it. -/
def all (phrase : Phrase) : List Phrase := phrase.reached fun _ => true

/-- A phrase and the phrases below it that lowering enters. -/
def lowered (phrase : Phrase) : List Phrase := phrase.reached Phrase.entered

/-- The outermost phrases that lowering passes over. -/
def skipped (phrase : Phrase) : List Phrase :=
  phrase.lowered.flatMap fun inner => inner.parts.filter fun part => !part.entered

theorem lowered_eq (phrase : Phrase) :
    phrase.lowered = phrase :: (phrase.parts.filter Phrase.entered).flatMap lowered :=
  reached_eq _ phrase

theorem all_eq (phrase : Phrase) : phrase.all = phrase :: phrase.parts.flatMap all := by
  rw [all, reached_eq, List.filter_true]
  rfl

theorem skipped_eq (phrase : Phrase) :
    phrase.skipped = (phrase.parts.filter fun part => !part.entered) ++
      (phrase.parts.filter Phrase.entered).flatMap skipped := by
  rw [skipped, lowered_eq, List.flatMap_cons, List.flatMap_assoc]
  rfl

/-- Every phrase is lowered or stands in an outermost skipped one. -/
theorem all_perm (phrase : Phrase) :
    phrase.all.Perm (phrase.lowered ++ phrase.skipped.flatMap all) := by
  induction phrase using parts_induction with
  | step phrase ih =>
      let inside := phrase.parts.filter Phrase.entered
      let outside := phrase.parts.filter fun part => !part.entered
      have hParts : phrase.parts.Perm (inside ++ outside) :=
        (List.filter_append_perm Phrase.entered phrase.parts).symm
      have hInside : (inside.flatMap all).Perm
          (inside.flatMap lowered ++ (inside.flatMap skipped).flatMap all) := by
        rw [List.flatMap_assoc]
        refine List.Perm.trans ?_ (List.flatMap_append_perm _ _ _).symm
        exact List.Perm.flatMap_left _ fun part hMem => ih part (List.mem_filter.mp hMem).1
      rw [all_eq, lowered_eq, skipped_eq, List.cons_append, List.flatMap_append]
      refine List.Perm.cons phrase ?_
      calc phrase.parts.flatMap all
          _ |>.Perm (inside.flatMap all ++ outside.flatMap all) := by
            rw [← List.flatMap_append]
            exact hParts.flatMap_right _
          _ |>.Perm ((inside.flatMap lowered ++ (inside.flatMap skipped).flatMap all) ++
              outside.flatMap all) := hInside.append_right _
          _ |>.Perm (inside.flatMap lowered ++
              (outside.flatMap all ++ (inside.flatMap skipped).flatMap all)) := by
            rw [List.append_assoc]
            exact List.perm_append_comm.append_left _

end Phrase

/-- Whether a node of a shape is an attribute or writes a value. -/
def Shape.isSite : Shape → Bool
  | jsxAttribute _ | assignment _ | declarator | assignmentPattern => true
  | _ => false

namespace Outline

/-- Whether an outline is an attribute or writes a value. -/
def isSite : Outline → Bool
  | .use _ | .bind _ _ => false
  | .node shape _ _ | .region shape _ _ _ _ => shape.isSite

/-- Whether an outline becomes a node without a scope of its own. -/
def isNode : Outline → Bool
  | .node _ _ _ => true
  | _ => false

/-- What opens a scope has no shape of a site where only nodes are sites. -/
theorem isSite_region_eq_false {shape : Shape} {span : Span} {before inside : List Outline}
    {kind : ScopeKind} (h : isSite (.region shape span before kind inside) →
      isNode (.region shape span before kind inside)) : shape.isSite = false :=
  Bool.eq_false_iff.mpr fun hSite => Bool.noConfusion (h hSite)

/-- The sites of outlines that stand side by side, in order. -/
def sites (outlines : List Outline) : List Outline := (preorderAll outlines).filter isSite

/-- Whether an outline is a site or uses a name. -/
def isMark : Outline → Bool
  | .use _ => true
  | .bind _ _ => false
  | .node shape _ _ | .region shape _ _ _ _ => shape.isSite

/-- The sites and uses of outlines that stand side by side, in order. -/
def marks (outlines : List Outline) : List Outline := (preorderAll outlines).filter isMark

theorem filter_isSite_marks (outlines : List Outline) :
    (marks outlines).filter isSite = sites outlines := by
  rw [marks, List.filter_filter, sites]
  refine List.filter_congr fun outline _ => ?_
  cases outline <;> simp [isSite, isMark]

@[simp]
theorem marks_nil : marks [] = [] := rfl

@[simp]
theorem marks_append (before after : List Outline) :
    marks (before ++ after) = marks before ++ marks after := by simp [marks]

@[simp]
theorem marks_use (name : Name) (rest : List Outline) :
    marks (.use name :: rest) = .use name :: marks rest :=
  List.filter_cons_of_pos rfl

@[simp]
theorem marks_bind (name : Name) (place : BindingPlace) (rest : List Outline) :
    marks (.bind name place :: rest) = marks rest := by
  simp [marks, preorderAll, preorder, isMark]

@[simp]
theorem marks_node (shape : Shape) (span : Span) (parts rest : List Outline) :
    marks (.node shape span parts :: rest) =
      (if shape.isSite then [.node shape span parts] else []) ++ marks parts ++ marks rest := by
  cases hSite : shape.isSite <;> simp [marks, preorderAll, preorder, isMark, hSite]

@[simp]
theorem marks_labeled (label : String) (span : Span) (parts rest : List Outline) :
    marks (labeled label span parts :: rest) = marks parts ++ marks rest :=
  marks_node (.other label) span parts rest

@[simp]
theorem marks_region (shape : Shape) (span : Span) (before inside rest : List Outline)
    (kind : ScopeKind) :
    marks (.region shape span before kind inside :: rest) =
      (if shape.isSite then [.region shape span before kind inside] else []) ++
        marks before ++ marks inside ++ marks rest := by
  cases hSite : shape.isSite <;> simp [marks, preorderAll, preorder, isMark, hSite]

@[simp]
theorem marks_map_bind (names : List Name) (place : BindingPlace) :
    marks (names.map fun name => .bind name place) = [] := by
  induction names with
  | nil => rfl
  | cons name names ih => simp [ih]

@[simp]
theorem marks_jsxName (name : JsxName) (rest : List Outline) :
    marks (name.outline :: rest) = marks rest := by
  cases name <;> simp [JsxName.outline, Shape.isSite]

/-- The names of a rest parameter are bound, and nothing is written to them. -/
@[simp]
theorem marks_restOutline (bound : List String) (names : List Name) (span : Span) :
    marks (restOutline bound names span) = [] := by
  rw [restOutline]
  split <;> simp

@[simp]
theorem marks_functionOutline (kind : FunctionKind) (name : Option Name)
    (params body : List Outline) (span : Span) :
    marks [functionOutline kind name params body span] = marks params ++ marks body := by
  cases kind <;> simp [functionOutline, Shape.isSite]

end Outline

/-- Whether every phrase of a category is outlined as one outline. -/
def Category.isSingle : Category → Bool
  | list _ | option _ | member | patternProperty | loopHead => false
  | _ => true

namespace Syntax

variable {c : Category}

def isPresent : Syntax (.option c) → Bool
  | .absent => false
  | .present _ => true

/-- Whether the outline of a phrase itself is a site. -/
def makesSite : {c : Category} → Syntax c → Bool
  | _, .namedAttribute .. | _, .assign .. | _, .declare .. | _, .defaultPattern ..
  | _, .targetDefault .. => true
  | _, .parameter _ _ initial _ => initial.isPresent
  | _, .shorthand _ value _ => value.isPresent
  | _, _ => false

/-- The name that a phrase itself uses: an expression or a target that is nothing but the name. -/
def usedName? : {c : Category} → Syntax c → Option Name
  | _, .identifier name | _, .targetName name | _, .shorthand name _ _ => some name
  | _, _ => none

@[simp]
theorem outline_present (value : Syntax c) (place : BindingPlace) :
    (present value).outline place = value.outline place := rfl

/-- A phrase of a single category is outlined as one outline. -/
theorem length_outline (s : Syntax c) (place : BindingPlace) (h : c.isSingle) :
    (s.outline place).length = 1 := by
  induction s generalizing place with
  | targetWrapped wrapper inner span ih =>
      cases wrapper with
      | parentheses => exact ih .here rfl
      | _ => rfl
  | parameter decorators pattern initial span _ ih _ =>
      cases initial with
      | absent => exact ih .here rfl
      | present value => rfl
  | container value span => cases value <;> rfl
  | shorthand name value span => cases value <;> rfl
  | functionExpr value ih | classExpr value ih | jsxExpr value ih | wrapped _ value _ ih
  | item value ih | nested value ih | variableDecl value ih | functionDecl value ih
  | classDecl value ih => exact ih .here rfl
  | nil | cons | absent | present | method | field | signature | patternMember | headVariables
  | headExpr | headTarget => simp [Category.isSingle] at h
  | _ => rfl

/-- A written name is outlined as nothing but its use. -/
theorem outline_of_writtenName? {s : Syntax c} {name : Name} {place : BindingPlace}
    (h : s.writtenName? = some name) : s.outline place = [.use name] := by
  induction s generalizing place with
  | targetName =>
      cases h
      rfl
  | targetWrapped wrapper inner span ih =>
      cases wrapper with
      | parentheses => exact ih h
      | _ => cases h
  | _ => cases h

end Syntax

namespace Phrase

/-- The site a phrase itself makes, if it makes one. -/
def site (phrase : Phrase) : List Outline :=
  if phrase.content.makesSite then phrase.outline else []

/-- The marks a phrase itself makes: the site, if it makes one, and the name it uses. -/
def mark (phrase : Phrase) : List Outline :=
  phrase.site ++ phrase.content.usedName?.toList.map .use

/-- What a phrase makes is no site, or a node without a scope that is one. -/
theorem site_cases (phrase : Phrase) : phrase.site = [] ∨
    ∃ shape span parts, Shape.isSite shape ∧ phrase.site = [.node shape span parts] := by
  obtain ⟨content, place, flag⟩ := phrase
  cases content <;> try exact .inl rfl
  case assign | defaultPattern | targetDefault | namedAttribute | declare =>
      exact .inr ⟨_, _, _, rfl, rfl⟩
  case parameter decorators pattern initial span =>
      cases initial with
      | absent => exact .inl rfl
      | present value => exact .inr ⟨_, _, _, rfl, rfl⟩
  case shorthand name value span =>
      cases value with
      | absent => exact .inl rfl
      | present value => exact .inr ⟨_, _, _, rfl, rfl⟩

theorem filter_isSite_mark (phrase : Phrase) : phrase.mark.filter Outline.isSite = phrase.site := by
  have hUses : (phrase.content.usedName?.toList.map Outline.use).filter Outline.isSite = [] := by
    cases phrase.content.usedName? <;> rfl
  rw [mark, List.filter_append, hUses, List.append_nil]
  rcases phrase.site_cases with hNone | ⟨shape, span, parts, hSite, hOne⟩
  · rw [hNone]
    rfl
  · rw [hOne]
    exact List.filter_cons_of_pos hSite

/-- The marks of a phrase are its own and those of the parts that lowering enters. -/
theorem marks_outline (phrase : Phrase) :
    Outline.marks phrase.outline = phrase.mark ++
      (phrase.parts.filter Phrase.entered).flatMap fun part => Outline.marks part.outline := by
  obtain ⟨content, place, flag⟩ := phrase
  cases content <;>
    simp only [mark, site, parts, Syntax.parts, Syntax.makesSite, Syntax.usedName?,
      Option.toList_none, List.map_nil, Bool.false_eq_true, if_false, if_true, List.nil_append,
      List.append_nil]
  -- phrases without outlines, names, and phrases that are outlined by one of their parts or by both
  case nil | absent | signature | headTarget | identifier | targetName | boundName => rfl
  case present | functionExpr | classExpr | jsxExpr | wrapped | item | method | field | nested
    | headVariables | headExpr | variableDecl | functionDecl | classDecl =>
      exact (List.append_nil _).symm
  case cons | patternMember =>
      change Outline.marks (_ ++ _) = _
      simp
  -- phrases that are sites themselves
  case assign | defaultPattern | targetDefault | namedAttribute | declare =>
      change Outline.marks [Outline.node _ _ _] = [Outline.node _ _ _] ++ _
      simp [Shape.isSite]
  case parameter decorators pattern initial span =>
      cases initial with
      | absent =>
          exact (List.append_nil _).symm
      | present value =>
          change Outline.marks [Outline.node _ _ _] = [Outline.node _ _ _] ++ _
          simp [Shape.isSite]
  case shorthand name value span =>
      cases value with
      | absent => rfl
      | present value =>
          change Outline.marks [Outline.node _ _ _] = [Outline.node _ _ _] ++ _
          simp [Shape.isSite]
  -- phrases with a part that is entered only under a condition
  case update operand span =>
      change Outline.marks [Outline.node _ _ (operand.writtenName?.toList.map Outline.use)] = _
      cases hWritten : operand.writtenName? with
      | none => simp [Shape.isSite]
      | some name => simp [Shape.isSite, Syntax.outline_of_writtenName? hWritten]
  case chain link span =>
      change Outline.marks [Outline.node _ _ (if link.isPlainLink then _ else [])] = _
      cases link.isPlainLink <;> simp [Shape.isSite]
  case targetWrapped wrapper inner span =>
      change Outline.marks (if wrapper = .parentheses then _ else [Outline.node _ _ []]) = _
      cases wrapper <;> simp [Shape.isSite]
  case exportNamed declaration span | exportDefault declaration span =>
      change Outline.marks [Outline.node _ _ (if declaration.isValueDeclaration then _ else [])] = _
      cases declaration.isValueDeclaration <;> simp [Shape.isSite]
  case namespaceDecl path body span =>
      change Outline.marks
        [Outline.region _ _ [] _ (if path.length = 1 then body.outline .here else [])] = _
      by_cases hPath : path.length = 1 <;> simp [hPath, Shape.isSite]
  -- phrases whose outline holds more than the outlines of their parts
  case func =>
      change Outline.marks [functionOutline _ _ (_ ++ restOutline _ _ _) _ _] = _
      simp
  case classBody kind decorators name parent members span =>
      change Outline.marks
        [Outline.node _ _ ((if kind = .declaration then _ else []) ++ _ ++ _)] = _
      cases kind <;> simp [Shape.isSite]
  case element name attributes openingSpan children span =>
      change Outline.marks [Outline.node _ _ (Outline.node _ _ (name.outline :: _) :: _)] = _
      simp [Shape.isSite]
  case container value span =>
      cases value with
      | absent => rfl
      | present value =>
          change Outline.marks [Outline.node _ _ _] = _
          simp [Shape.isSite]
  -- all other phrases become one node, with or without a scope
  case staticBlock | handler | block | forLoop | forEach | switch =>
      change Outline.marks [Outline.region _ _ _ _ _] = _
      simp [Shape.isSite]
  all_goals
    change Outline.marks [Outline.node _ _ _] = _
    simp [Shape.isSite]

/-- The marks of a phrase are those that the lowered phrases in it make. -/
theorem marks_eq_flatMap (phrase : Phrase) :
    Outline.marks phrase.outline = phrase.lowered.flatMap mark := by
  induction phrase using parts_induction with
  | step phrase ih =>
      rw [marks_outline, lowered_eq, List.flatMap_cons, List.flatMap_assoc]
      congr 1
      exact List.flatMap_congr fun part hMem => ih part (List.mem_filter.mp hMem).1

/-- The sites of a phrase are those that the lowered phrases in it make. -/
theorem sites_eq_flatMap (phrase : Phrase) :
    Outline.sites phrase.outline = phrase.lowered.flatMap site := by
  rw [← Outline.filter_isSite_marks, marks_eq_flatMap, List.filter_flatMap]
  exact List.flatMap_congr fun inner _ => inner.filter_isSite_mark

/-- Sites open no scope. -/
theorem isNode_of_mem_site {phrase : Phrase} {outline : Outline} (h : outline ∈ phrase.site) :
    outline.isNode := by
  rcases phrase.site_cases with hNone | ⟨shape, span, parts, -, hOne⟩
  · rw [hNone] at h
    cases h
  · rw [hOne] at h
    rw [List.mem_singleton.mp h]
    rfl

/-- No outline in a phrase that opens a scope is a site. -/
theorem isNode_of_isSite {phrase : Phrase} {outline : Outline}
    (hMem : outline ∈ Outline.preorderAll phrase.outline) (hSite : outline.isSite) :
    outline.isNode := by
  have hSites : outline ∈ phrase.lowered.flatMap site := by
    rw [← sites_eq_flatMap]
    exact List.mem_filter.mpr ⟨hMem, hSite⟩
  obtain ⟨inner, -, hInner⟩ := List.mem_flatMap.mp hSites
  exact isNode_of_mem_site hInner

end Phrase

/-- All statements of a module as one phrase. -/
def Program.phrase (program : Program) : Phrase := program.body.entered

theorem Program.preorder_outline (program : Program) :
    program.outline.preorder = program.outline :: Outline.preorderAll program.phrase.outline := rfl

/-- What can be read off the sites of the lowered phrases corresponds in order to what a walk reads
off the nodes, if the two agree at every node. An outline that opens a scope is never a site. -/
theorem SourceUnit.Renders.forall₂_sites {unit : SourceUnit} {program : Program} {root : NodeId}
    {uses : List NodeId} (h : unit.Renders program.outline root uses) {α β : Type}
    {own : Outline → Option α} {view : NodeId → Option β} {relates : α → β → Prop}
    (hOwn : ∀ outline : Outline, outline.isSite = false → own outline = none)
    (hAgree : ∀ outline id scope, (unit.drafted uses).RendersAt scope outline id →
      (outline.isSite → outline.isNode) → Option.Rel relates (own outline) (view id)) :
    List.Forall₂ relates ((program.phrase.lowered.flatMap Phrase.site).filterMap own)
      (unit.tree.walkAll.filterMap view) := by
  have hNodes : ∀ outline ∈ program.outline.preorder, outline.isSite → outline.isNode := by
    rw [program.preorder_outline]
    intro outline hMem hSite
    rcases List.mem_cons.mp hMem with rfl | hMem
    · rfl
    · exact Phrase.isNode_of_isSite hMem hSite
  have hSites : (program.phrase.lowered.flatMap Phrase.site).filterMap own =
      program.outline.preorder.filterMap own := by
    rw [← Phrase.sites_eq_flatMap, Outline.sites, List.filterMap_filter, program.preorder_outline,
      List.filterMap_cons_none (hOwn program.outline rfl)]
    refine List.filterMap_congr fun outline _ => ?_
    cases hSite : outline.isSite <;> simp [hSite, hOwn]
  rw [hSites]
  refine List.rel_filterMap ?_ ((List.forall₂_and_left _ _).mpr ⟨hNodes, h.forall₂_walkAll⟩)
  rintro outline id ⟨hNode, scope, hAt⟩
  exact hAgree outline id scope hAt hNode

end PropTrace
