import PropTrace.Proofs.Phrases
import PropTrace.Proofs.Spans

/-!
Programs without wrappers. Erasing replaces every wrapper by what it wraps, wherever it stands. A
program and its erasure have the same unit up to spans, unless lowering comes to a wrapper that it
does not look through: a type-only form around the target of an assignment or around the name that
`++` updates, or a wrapper at the end of an optional chain. There the unit of the erasure has nodes
that the unit of the program lacks.
-/
namespace PropTrace

namespace Syntax

/-- A phrase without wrappers. -/
def erase : {c : Category} → Syntax c → Syntax c
  | _, .wrapped _ inner _ => inner.erase
  | _, .targetWrapped _ inner _ => inner.erase
  | _, .nil => .nil
  | _, .cons first rest => .cons first.erase rest.erase
  | _, .absent => .absent
  | _, .present value => .present value.erase
  -- expressions
  | _, .literal value span => .literal value span
  | _, .identifier name => .identifier name
  | _, .template parts span => .template parts.erase span
  | _, .tagged tag parts span => .tagged tag.erase parts.erase span
  | _, .logical operator left right span => .logical operator left.erase right.erase span
  | _, .binary left right span => .binary left.erase right.erase span
  | _, .privateIn name right span => .privateIn name right.erase span
  | _, .unary operand span => .unary operand.erase span
  | _, .update operand span => .update operand.erase span
  | _, .conditional test consequent alternate span =>
    .conditional test.erase consequent.erase alternate.erase span
  | _, .sequence parts span => .sequence parts.erase span
  | _, .call callee arguments span => .call callee.erase arguments.erase span
  | _, .new callee arguments span => .new callee.erase arguments.erase span
  | _, .member base name span => .member base.erase name span
  | _, .index base key span => .index base.erase key.erase span
  | _, .privateMember base name span => .privateMember base.erase name span
  | _, .chain link span => .chain link.erase span
  | _, .assign operator target value span => .assign operator target.erase value.erase span
  | _, .functionExpr value => .functionExpr value.erase
  | _, .classExpr value => .classExpr value.erase
  | _, .object properties span => .object properties.erase span
  | _, .array elements span => .array elements.erase span
  | _, .jsxExpr value => .jsxExpr value.erase
  | _, .await operand span => .await operand.erase span
  | _, .yield operand span => .yield operand.erase span
  | _, .thisExpr span => .thisExpr span
  | _, .importCall source options span => .importCall source.erase options.erase span
  | _, .word span => .word span
  | _, .item value => .item value.erase
  | _, .spread value span => .spread value.erase span
  | _, .keyed key value span => .keyed key.erase value.erase span
  | _, .spreadProperty value span => .spreadProperty value.erase span
  -- functions and classes
  | _, .func kind name params rest restSpan body span =>
    .func kind name params.erase rest.erase restSpan body.erase span
  | _, .parameter decorators pattern initial span =>
    .parameter decorators.erase pattern.erase initial.erase span
  | _, .classBody kind decorators name parent members span =>
    .classBody kind decorators.erase name parent.erase members.erase span
  | _, .method decorators key value => .method decorators.erase key.erase value.erase
  | _, .field decorators key value => .field decorators.erase key.erase value.erase
  | _, .staticBlock body span => .staticBlock body.erase span
  | _, .signature decorators key value => .signature decorators.erase key.erase value.erase
  -- patterns of declarations
  | _, .boundName name => .boundName name
  | _, .objectPattern properties rest span => .objectPattern properties.erase rest.erase span
  | _, .arrayPattern elements rest span => .arrayPattern elements.erase rest.erase span
  | _, .defaultPattern target value span => .defaultPattern target.erase value.erase span
  | _, .patternMember key value => .patternMember key.erase value.erase
  -- targets of assignments
  | _, .targetName name => .targetName name
  | _, .targetMember base name span => .targetMember base.erase name span
  | _, .targetIndex base key span => .targetIndex base.erase key.erase span
  | _, .targetPrivate base name span => .targetPrivate base.erase name span
  | _, .targetObject properties rest span => .targetObject properties.erase rest.erase span
  | _, .targetArray elements rest span => .targetArray elements.erase rest.erase span
  | _, .targetDefault target value span => .targetDefault target.erase value.erase span
  | _, .shorthand name value span => .shorthand name value.erase span
  | _, .targetKeyed key target span => .targetKeyed key.erase target.erase span
  -- elements
  | _, .element name attributes openingSpan children span =>
    .element name attributes.erase openingSpan children.erase span
  | _, .fragment children span => .fragment children.erase span
  | _, .namedAttribute name value span => .namedAttribute name value.erase span
  | _, .spreadAttribute value span => .spreadAttribute value.erase span
  | _, .quoted text span => .quoted text span
  | _, .container value span => .container value.erase span
  | _, .nested value => .nested value.erase
  | _, .spreadChild value span => .spreadChild value.erase span
  -- declarations and clauses
  | _, .declare pattern init span => .declare pattern.erase init.erase span
  | _, .variableList kind declarators span => .variableList kind declarators.erase span
  | _, .headVariables value => .headVariables value.erase
  | _, .headExpr value => .headExpr value.erase
  | _, .headTarget value => .headTarget value.erase
  | _, .case test body span => .case test.erase body.erase span
  | _, .handler param body span => .handler param.erase body.erase span
  -- statements
  | _, .expression value span => .expression value.erase span
  | _, .variableDecl value => .variableDecl value.erase
  | _, .functionDecl value => .functionDecl value.erase
  | _, .classDecl value => .classDecl value.erase
  | _, .returns value span => .returns value.erase span
  | _, .throws value span => .throws value.erase span
  | _, .block body span => .block body.erase span
  | _, .ifElse test consequent alternate span =>
    .ifElse test.erase consequent.erase alternate.erase span
  | _, .forLoop head test step body span =>
    .forLoop head.erase test.erase step.erase body.erase span
  | _, .forEach kind head collection body span =>
    .forEach kind head.erase collection.erase body.erase span
  | _, .whileLoop test body span => .whileLoop test.erase body.erase span
  | _, .doWhile body test span => .doWhile body.erase test.erase span
  | _, .labeled label body span => .labeled label body.erase span
  | _, .switch discriminant cases span => .switch discriminant.erase cases.erase span
  | _, .tryCatch body clause finalizer span =>
    .tryCatch body.erase clause.erase finalizer.erase span
  | _, .withObject base body span => .withObject base.erase body.erase span
  | _, .exportNamed declaration span => .exportNamed declaration.erase span
  | _, .exportDefault declaration span => .exportDefault declaration.erase span
  | _, .exportDefaultValue value span => .exportDefaultValue value.erase span
  | _, .exportValue value span => .exportValue value.erase span
  | _, .namespaceDecl path body span => .namespaceDecl path body.erase span
  | _, .globalDecl body span => .globalDecl body.erase span
  | _, .enumDecl name values span => .enumDecl name values.erase span
  | _, .plain span => .plain span

variable {c : Category}

@[simp]
theorem boundNames_erase (s : Syntax c) : s.erase.boundNames = s.boundNames := by
  induction s with
  | cons first rest ihFirst ihRest => exact congrArg₂ (· ++ ·) ihFirst ihRest
  | objectPattern properties rest span ihFirst ihRest
  | arrayPattern elements rest span ihFirst ihRest => exact congrArg₂ (· ++ ·) ihFirst ihRest
  | present value ih | defaultPattern value _ span ih | patternMember _ value _ ih => exact ih
  | parameter decorators pattern initial span _ ih => exact ih
  | wrapped _ inner _ ih | targetWrapped _ inner _ ih => exact ih.trans (by cases inner <;> rfl)
  | _ => rfl

@[simp]
theorem isValueDeclaration_erase (s : Syntax c) :
    s.erase.isValueDeclaration = s.isValueDeclaration := by
  induction s with
  | present value ih => exact ih
  | wrapped _ inner _ ih | targetWrapped _ inner _ ih => exact ih.trans (by cases inner <;> rfl)
  | _ => rfl

theorem writtenName?_erase {s : Syntax c} {name : Name} (h : s.writtenName? = some name) :
    s.erase.writtenName? = some name := by
  induction s with
  | targetName => exact h
  | targetWrapped wrapper inner span ih =>
      cases wrapper with
      | parentheses => exact ih h
      | _ => cases h
  | _ => cases h

theorem isPlainLink_erase {link : Syntax .expr} (h : link.isPlainLink) : link.erase.isPlainLink := by
  cases link <;> first | rfl | cases h

/-- Expressions and targets are outlined alike in all places. -/
theorem outline_place (s : Syntax c) (h : c = .expr ∨ c = .target) (place : BindingPlace) :
    s.outline place = s.outline .here := by
  cases s <;> first | rfl | simp at h

/-- Whether a target is a member with a private name, which is outlined without its parts. -/
def isPrivateTarget : Syntax .target → Bool
  | .targetPrivate .. => true
  | _ => false

/-- Whether lowering that has come to a phrase stops at a wrapper there: at a type-only form around
a target, at a wrapper around the last link of an optional chain, or at a type-only form around the
name that `++` updates. -/
def stops : {c : Category} → Syntax c → Bool
  | _, .targetWrapped wrapper inner _ =>
    !(wrapper = .parentheses) && !inner.erase.isPrivateTarget
  | _, .chain link _ => !link.isPlainLink && link.erase.isPlainLink
  | _, .update operand _ => operand.writtenName?.isNone && operand.erase.writtenName?.isSome
  | _, _ => false

end Syntax

/-- Whether lowering stops at a wrapper somewhere in a phrase. -/
def Phrase.stops (phrase : Phrase) : Bool := phrase.lowered.any fun inner => inner.content.stops

/-- Lowering stops in a phrase at the phrase itself or in a part that it enters. -/
theorem Phrase.stops_enteredAt {c : Category} (content : Syntax c) (place : BindingPlace) :
    (content.enteredAt place).stops =
      (content.stops || ((content.parts place).filter Phrase.entered).any Phrase.stops) := by
  rw [stops, lowered_eq, List.any_cons, List.any_flatMap]
  rfl

theorem Phrase.any_enteredIf {c : Category} (content : Syntax c) (condition : Bool)
    (holds : Phrase → Bool) : (if condition then [content.entered] else []).any holds =
      (condition && holds content.entered) := by
  cases condition <;> simp

namespace Outline

/-- What erasing wrappers does to outlines. If lowering stopped at a wrapper in them, there is more
after it; otherwise there is the same as before, up to spans. -/
def Reveals (stops : Bool) (before after : List Outline) : Prop :=
  if stops then weight before < weight after else bareAll before = bareAll after

namespace Reveals

variable {stops more : Bool} {before after moreBefore moreAfter : List Outline}

theorem refl (outlines : List Outline) : Reveals false outlines outlines := rfl

theorem weight_le (h : Reveals stops before after) : weight before ≤ weight after := by
  cases stops with
  | true => exact Nat.le_of_lt h
  | false =>
      have hBare : bareAll before = bareAll after := h
      rw [← weight_bareAll before, hBare, weight_bareAll]

theorem of_weight_pos (h : 0 < weight after) : Reveals true [] after := h

/-- Outlines put together from two parts, with some weight besides. -/
theorem combine (join : List Outline → List Outline → List Outline) (besides : Nat)
    (hWeight : ∀ first second,
      weight (join first second) = weight first + weight second + besides)
    (hBare : bareAll before = bareAll after → bareAll moreBefore = bareAll moreAfter →
      bareAll (join before moreBefore) = bareAll (join after moreAfter))
    (hFirst : Reveals stops before after) (hSecond : Reveals more moreBefore moreAfter) :
    Reveals (stops || more) (join before moreBefore) (join after moreAfter) := by
  have hFirstLe := hFirst.weight_le
  have hSecondLe := hSecond.weight_le
  cases stops with
  | true =>
      have hLt : weight before < weight after := hFirst
      change weight _ < weight _
      rw [hWeight, hWeight]
      omega
  | false =>
      cases more with
      | true =>
          have hLt : weight moreBefore < weight moreAfter := hSecond
          change weight _ < weight _
          rw [hWeight, hWeight]
          omega
      | false => exact hBare hFirst hSecond

theorem append (hFirst : Reveals stops before after)
    (hSecond : Reveals more moreBefore moreAfter) :
    Reveals (stops || more) (before ++ moreBefore) (after ++ moreAfter) := by
  refine combine (· ++ ·) 0 weight_append ?_ hFirst hSecond
  intro hBefore hMore
  simp only [bareAll_append, hBefore, hMore]

/-- The same outlines in front change nothing. -/
theorem append_left (same : List Outline) (h : Reveals stops before after) :
    Reveals stops (same ++ before) (same ++ after) := by
  simpa only [Bool.false_or] using (refl same).append h

theorem append_right (h : Reveals stops before after) (same : List Outline) :
    Reveals stops (before ++ same) (after ++ same) := by
  simpa only [Bool.or_false] using h.append (refl same)

theorem node {shape : Shape} {span : Span} (h : Reveals stops before after) :
    Reveals stops [.node shape span before] [.node shape span after] := by
  rw [← Bool.or_false stops]
  refine combine (fun parts rest => .node shape span parts :: rest) _
    (weight_node shape span) ?_ h (refl [])
  intro hParts _
  simp only [bareAll, bare, hParts]

theorem region {shape : Shape} {span : Span} {kind : ScopeKind}
    (hBefore : Reveals stops before after) (hInside : Reveals more moreBefore moreAfter) :
    Reveals (stops || more) [.region shape span before kind moreBefore]
      [.region shape span after kind moreAfter] := by
  refine combine (fun outer inner => [.region shape span outer kind inner]) _
    (fun outer inner => weight_region shape span outer inner [] kind) ?_ hBefore hInside
  intro hOuter hInner
  simp only [bareAll, bare, hOuter, hInner]

/-- The parameters of a function are counted in its node, so there have to be as many. -/
theorem functionOutline {kind : FunctionKind} {name : Option Name} {span : Span}
    (hParams : Reveals stops before after) (hBody : Reveals more moreBefore moreAfter) :
    Reveals (stops || more) [functionOutline kind name before moreBefore span]
      [functionOutline kind name after moreAfter span] := by
  refine combine (fun params body => [PropTrace.functionOutline kind name params body span])
    (name.toList.length + 1) (fun params body => weight_functionOutline kind name params body span)
    ?_ hParams hBody
  intro hSame hSameBody
  have hCount : before.length = after.length := by
    rw [← length_bareAll before, hSame, length_bareAll]
  cases kind <;>
    simp only [PropTrace.functionOutline, bareAll, bare, bareAll_append, hSame, hSameBody, hCount]

end Reveals

end Outline

namespace Syntax

variable {c : Category}

theorem weight_isPlainLink {link : Syntax .expr} (h : link.isPlainLink) :
    0 < Outline.weight (link.outline .here) := by
  cases link with
  | call | member | index => exact Outline.weight_node_pos rfl _ _
  | _ => cases h

/-- A placeholder instead of a target hides it, unless lowering makes a placeholder of the target
anyway. -/
theorem reveals_target (span : Span) : (target : Syntax .target) →
    Outline.Reveals (!target.erase.isPrivateTarget)
      [.labeled "AssignmentTargetPattern" span []] (target.erase.outline .here)
  | .targetWrapped _ inner _ => reveals_target span inner
  | .targetPrivate .. => rfl
  | .targetName _ => Nat.zero_lt_one
  | .targetMember .. | .targetIndex .. | .targetObject .. | .targetArray .. | .targetDefault .. =>
    Outline.weight_node_pos rfl _ _

/-- Erasing wrappers leaves the outlines of a phrase as they are up to spans, unless lowering stops
at one of the wrappers. -/
theorem reveals_outline (s : Syntax c) (place : BindingPlace) :
    Outline.Reveals (s.enteredAt place).stops (s.outline place) (s.erase.outline place) := by
  induction s generalizing place <;> rw [Phrase.stops_enteredAt] <;>
    simp only [parts, stops, List.filter_nil, Phrase.filter_entered, Phrase.filter_enteredAt,
      Phrase.filter_skipped, Phrase.filter_enteredIf, Phrase.any_enteredIf, List.any_append,
      List.any_cons, List.any_nil, Bool.false_or, Bool.or_false, ← Bool.or_assoc]
  -- phrases whose outlines do not depend on their parts
  case nil | absent | literal | identifier | privateIn | thisExpr | word | boundName | targetName
    | targetPrivate | signature | quoted | headTarget | exportValue | globalDecl | enumDecl
    | plain => exact .refl _
  -- phrases that are outlined by one of their parts or by both
  case present value ih => exact ih place
  case functionExpr value ih | classExpr value ih | jsxExpr value ih | item value ih
    | nested value ih | method _ _ value _ _ ih | field _ _ value _ _ ih | headVariables value ih
    | headExpr value ih | variableDecl value ih | functionDecl value ih | classDecl value ih =>
      exact ih .here
  case cons first rest ihFirst ihRest => exact (ihFirst place).append (ihRest place)
  case patternMember key value ihKey ihValue => exact (ihKey .here).append (ihValue place)
  -- phrases that become one node, with or without a scope
  case template ih | unary ih | sequence ih | member ih | privateMember ih | object ih | array ih
    | await ih | yield ih | spread ih | spreadProperty ih | targetMember ih | fragment ih
    | namedAttribute ih | spreadAttribute ih | spreadChild ih | expression ih | returns ih
    | throws ih | labeled ih | exportDefaultValue ih => exact (ih .here).node
  case importCall ih _ => exact (ih .here).node
  case variableList kind declarators span ih => exact (ih kind.place).node
  case tagged ihFirst ihSecond | logical ihFirst ihSecond | binary ihFirst ihSecond
    | call ihFirst ihSecond | new ihFirst ihSecond | index ihFirst ihSecond
    | assign ihFirst ihSecond | keyed ihFirst ihSecond | targetIndex ihFirst ihSecond
    | targetObject ihFirst ihSecond | targetArray ihFirst ihSecond
    | targetDefault ihFirst ihSecond | targetKeyed ihFirst ihSecond | case ihFirst ihSecond
    | whileLoop ihFirst ihSecond | doWhile ihFirst ihSecond | withObject ihFirst ihSecond =>
      exact ((ihFirst .here).append (ihSecond .here)).node
  case objectPattern ihFirst ihSecond | arrayPattern ihFirst ihSecond =>
      exact ((ihFirst place).append (ihSecond place)).node
  case defaultPattern ihFirst ihSecond | declare ihFirst ihSecond =>
      exact ((ihFirst place).append (ihSecond .here)).node
  case conditional ihFirst ihSecond ihThird | ifElse ihFirst ihSecond ihThird
    | tryCatch ihFirst ihSecond ihThird =>
      exact (((ihFirst .here).append (ihSecond .here)).append (ihThird .here)).node
  case staticBlock ih | block ih => exact (Outline.Reveals.refl []).region (ih .here)
  case handler ihFirst ihSecond =>
      exact (Outline.Reveals.refl []).region ((ihFirst .here).append (ihSecond .here))
  case forEach ihHead ihCollection ihBody =>
      exact (Outline.Reveals.refl []).region
        (((ihHead .here).append (ihCollection .here)).append (ihBody .here))
  case forLoop ihHead ihTest ihStep ihBody =>
      exact (Outline.Reveals.refl []).region
        ((((ihHead .here).append (ihTest .here)).append (ihStep .here)).append (ihBody .here))
  case switch ihBefore ihCases => exact (ihBefore .here).region (ihCases .here)
  -- phrases whose outline holds more than the outlines of their parts
  case func kind name params rest restSpan body span ihParams _ ihBody =>
      change Outline.Reveals _ [functionOutline _ _ (_ ++ restOutline _ _ _) _ _]
        [functionOutline _ _ (_ ++ restOutline (namesBeforeRest _ _ params.erase.boundNames)
          rest.erase.boundNames _) _ _]
      rw [boundNames_erase, boundNames_erase]
      exact ((ihParams .here).append_right _).functionOutline (ihBody .here)
  case classBody ihParent ihMembers =>
      exact (((ihParent .here).append_left _).append (ihMembers .here)).node
  case element name attributes openingSpan children span ihAttributes ihChildren =>
      exact (((ihAttributes .here).append_left [name.outline]).node.append (ihChildren .here)).node
  -- phrases that are outlined in one way or another
  case parameter decorators pattern initial span _ ihPattern ihInitial =>
      have hBoth := (ihPattern .here).append (ihInitial .here)
      cases initial with
      | absent =>
          change Outline.Reveals _ (_ ++ []) (_ ++ []) at hBoth
          rwa [List.append_nil, List.append_nil] at hBoth
      | present value => exact hBoth.node
  case shorthand name value span ih =>
      cases value with
      | absent => exact (ih .here).append_left [.use name]
      | present value => exact ((ih .here).append_left [.use name]).node
  case container value span ih =>
      cases value with
      | absent => exact ((ih .here).append_left [.labeled "JSXEmptyExpression" span []]).node
      | present value => exact (ih .here).node
  case exportNamed declaration span ih | exportDefault declaration span ih =>
      change Outline.Reveals _ [.node _ _ (if declaration.isValueDeclaration then _ else [])]
        [.node _ _ (if declaration.erase.isValueDeclaration then _ else [])]
      rw [isValueDeclaration_erase]
      cases declaration.isValueDeclaration with
      | true => exact (ih .here).node
      | false => exact .refl _
  case namespaceDecl path body span ih =>
      change Outline.Reveals _ [.region _ _ [] _ (if path.length = 1 then _ else [])]
        [.region _ _ [] _ (if path.length = 1 then _ else [])]
      by_cases hPath : path.length = 1 <;> simp only [hPath]
      · exact (Outline.Reveals.refl []).region (ih .here)
      · exact .refl _
  -- wrappers, and phrases where one may stop lowering
  case wrapped wrapper inner span ih =>
      change Outline.Reveals _ (inner.outline .here) (inner.erase.outline place)
      rw [outline_place inner.erase (.inl rfl)]
      exact ih .here
  case targetWrapped wrapper inner span ih =>
      change Outline.Reveals _ _ (inner.erase.outline place)
      rw [outline_place inner.erase (.inr rfl)]
      cases wrapper with
      | parentheses => exact ih .here
      | _ =>
          change Outline.Reveals (!inner.erase.isPrivateTarget || false) _ _
          rw [Bool.or_false]
          exact reveals_target span inner
  case chain link span ih =>
      change Outline.Reveals _ [.node _ _ (if link.isPlainLink then _ else [])]
        [.node _ _ (if link.erase.isPlainLink then _ else [])]
      cases hPlain : link.isPlainLink with
      | true =>
          rw [isPlainLink_erase hPlain]
          exact (ih .here).node
      | false =>
          cases hErased : link.erase.isPlainLink with
          | true =>
              have hWeight := weight_isPlainLink hErased
              exact Outline.Reveals.node (Outline.Reveals.of_weight_pos hWeight)
          | false => exact .refl _
  case update operand span ih =>
      change Outline.Reveals _ [.node _ _ (operand.writtenName?.toList.map Outline.use)]
        [.node _ _ (operand.erase.writtenName?.toList.map Outline.use)]
      cases hWritten : operand.writtenName? with
      | some name =>
          have hErased := writtenName?_erase hWritten
          have hInside := ih .here
          rw [outline_of_writtenName? hWritten, outline_of_writtenName? hErased] at hInside
          rw [hErased]
          exact hInside.node
      | none =>
          cases hErased : operand.erase.writtenName? with
          | some name => exact Outline.Reveals.node (Outline.Reveals.of_weight_pos Nat.one_pos)
          | none => exact .refl _

end Syntax

/-- A module without wrappers. -/
def Program.erase (program : Program) : Program where
  body := program.body.erase
  span := program.span

/-- Erasing the wrappers of a program leaves its unit as it is up to spans if and only if lowering
stops at none of them, that is wherever it comes to a type-only form around a target, a wrapper at
the end of an optional chain or a type-only form around the name that `++` updates. -/
theorem Program.erase_sameButSpans_iff (program : Program) (file source file' source' : String) :
    (program.toUnit file source).SameButSpans (program.erase.toUnit file' source') ↔
      ∀ phrase ∈ program.phrase.lowered, phrase.content.stops = false := by
  have hReveals : Outline.Reveals program.phrase.stops [program.outline] [program.erase.outline] :=
    (program.body.reveals_outline .here).node
  have hStops : program.phrase.stops = false ↔
      ∀ phrase ∈ program.phrase.lowered, phrase.content.stops = false := by
    simp only [Phrase.stops, List.any_eq_false, Bool.not_eq_true]
  rw [← hStops]
  constructor
  · intro hSame
    obtain ⟨root, uses, hRenders⟩ := program.renders_toUnit file source
    obtain ⟨erasedRoot, erasedUses, hErased⟩ := program.erase.renders_toUnit file' source'
    refine Bool.eq_false_iff.mpr fun hTrue => ?_
    rw [hTrue] at hReveals
    have hLt : Outline.weight [program.outline] < Outline.weight [program.erase.outline] := hReveals
    rw [← hRenders.weight_eq, ← hErased.weight_eq, hSame.weight_eq] at hLt
    exact Nat.lt_irrefl _ hLt
  · intro hFalse
    rw [hFalse] at hReveals
    have hBare : Outline.bareAll [program.outline] = Outline.bareAll [program.erase.outline] :=
      hReveals
    exact Outline.sameButSpans_of_bare_eq (List.singleton_inj.mp hBare) file source file' source'

/-- `let x; (x as any) = []; <Box a={x} />;` -/
def Program.writeUnderCast : Program where
  body := .cons (.variableDecl (.variableList .lexical
      (.cons (.declare (.boundName ⟨"x", ⟨4, 5⟩⟩) .absent ⟨4, 5⟩) .nil) ⟨0, 6⟩))
    (.cons (.expression (.assign .assign
      (.targetWrapped .parentheses
        (.targetWrapped .asType (.targetName ⟨"x", ⟨8, 9⟩⟩) ⟨8, 16⟩) ⟨7, 17⟩)
      (.array .nil ⟨20, 22⟩) ⟨7, 22⟩) ⟨7, 23⟩)
    (.cons (.expression (.jsxExpr (.element (.plain "Box" ⟨25, 28⟩)
      (.cons (.namedAttribute "a"
        (.present (.container (.present (.identifier ⟨"x", ⟨32, 33⟩⟩)) ⟨31, 34⟩)) ⟨29, 34⟩) .nil)
      ⟨24, 37⟩ .nil ⟨24, 37⟩)) ⟨24, 38⟩) .nil))
  span := ⟨0, 38⟩

/-- The target under the type-only form is a node without children, and not the identifier that it
is without the form. -/
theorem Program.writeUnderCast_target_lost :
    ¬(writeUnderCast.toUnit "test.tsx" "").SameButSpans
      (writeUnderCast.erase.toUnit "test.tsx" "") := by
  intro hSame
  have hKind := hSame.kind?_eq 3
  have hPlaceholder : (writeUnderCast.toUnit "test.tsx" "").tree.kind? 3 =
      some (.other "AssignmentTargetPattern" []) := by decide +kernel
  have hIdentifier : (writeUnderCast.erase.toUnit "test.tsx" "").tree.kind? 3 =
      some (.identifier "x") := by decide +kernel
  rw [hPlaceholder, hIdentifier] at hKind
  cases hKind

end PropTrace
