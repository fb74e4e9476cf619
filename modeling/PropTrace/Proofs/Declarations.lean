import Mathlib.Data.List.Perm.Basic
import PropTrace.Proofs.Bindings

/-!
What makes names known. Declarations of variables, functions and classes, parameters, and `catch`
clauses introduce names; patterns leave theirs to the phrase they belong to. The outline of a
program binds the names that its lowered phrases introduce, each for the place that the form of its
introduction asks for.
-/
namespace PropTrace

/-- How a name is introduced. -/
inductive IntroductionForm where
  | declared (kind : DeclarationKind)
  | parameter
  | restParameter
  | catchParameter
  /-- The own name of a function, whether it is a declaration or not. -/
  | functionName
  /-- The name of a class declaration. -/
  | className
  deriving DecidableEq, Repr

/-- Only `var` declarations belong elsewhere than in the scope they stand in. -/
def IntroductionForm.place : IntroductionForm → BindingPlace
  | declared kind => kind.place
  | _ => .here

/-- A name and how it is introduced. -/
structure Introduction where
  name : Name
  form : IntroductionForm
  deriving DecidableEq, Repr

/-- The binding that an introduction becomes. -/
def Introduction.binding (introduction : Introduction) : Name × BindingPlace :=
  (introduction.name, introduction.form.place)

@[simp]
theorem Introduction.binding_comp (form : IntroductionForm) :
    (binding ∘ fun name => ⟨name, form⟩) = fun name => (name, form.place) := rfl

namespace Syntax

variable {c : Category}

/-- The names that a phrase itself introduces. A rest parameter introduces no name that the function
has bound before it. -/
def introduces : {c : Category} → Syntax c → List Introduction
  | _, .variableList kind declarators _ =>
    declarators.declaratorNames.map fun name => ⟨name, .declared kind⟩
  | _, .func kind name params rest _ _ _ =>
    let before := namesBeforeRest kind name params.boundNames
    let fresh := rest.boundNames.filter fun name => !before.contains name.text
    name.toList.map (fun name => ⟨name, .functionName⟩) ++
      params.boundNames.map (fun name => ⟨name, .parameter⟩) ++
        fresh.map fun name => ⟨name, .restParameter⟩
  | _, .classBody kind _ name _ _ _ =>
    if kind = .declaration then name.toList.map fun name => ⟨name, .className⟩ else []
  | _, .handler param _ _ => param.boundNames.map fun name => ⟨name, .catchParameter⟩
  | _, _ => []

/-- The names of patterns that are left to the phrase around them, each with its place. -/
def leaves : {c : Category} → BindingPlace → Syntax c → List (Name × BindingPlace)
  | _, place, .cons first rest => first.leaves place ++ rest.leaves place
  | _, place, .present value => value.leaves place
  | _, _, .parameter _ pattern _ _ => pattern.leaves .here
  | _, place, .boundName name => [(name, place)]
  | _, place, .objectPattern properties rest _ => properties.leaves place ++ rest.leaves place
  | _, place, .arrayPattern elements rest _ => elements.leaves place ++ rest.leaves place
  | _, place, .defaultPattern target _ _ => target.leaves place
  | _, place, .patternMember _ value => value.leaves place
  | _, place, .declare pattern _ _ => pattern.leaves place
  | _, _, _ => []

end Syntax

/-- Whether phrases of a category leave names to the phrase around them. -/
def Category.leavesNames : Category → Bool
  | pattern | patternProperty | param | declarator => true
  | list c | option c => c.leavesNames
  | _ => false

def Category.isDeclarator : Category → Bool
  | declarator => true
  | list c => c.isDeclarator
  | _ => false

/-- Whether a category is of parameters or made up of them. -/
def Category.isParameter : Category → Bool
  | param => true
  | list c => c.isParameter
  | _ => false

namespace Syntax

variable {c : Category} {place : BindingPlace}

theorem leaves_eq_nil (s : Syntax c) (h : c.leavesNames = false) : s.leaves place = [] := by
  induction s with
  | cons first rest ihFirst ihRest =>
      change first.leaves place ++ rest.leaves place = []
      rw [ihFirst h, ihRest h, List.append_nil]
  | present value ih => exact ih h
  | parameter | boundName | objectPattern | arrayPattern | defaultPattern | patternMember
  | declare => cases h
  | _ => rfl

theorem leaves_pattern (s : Syntax c) (h : c.isPattern) :
    s.leaves place = s.boundNames.map fun name => (name, place) := by
  induction s with
  | nil | absent | boundName => rfl
  | cons first rest ihFirst ihRest =>
      change first.leaves place ++ rest.leaves place = (first.boundNames ++ rest.boundNames).map _
      rw [ihFirst h, ihRest h, List.map_append]
  | objectPattern parts rest span ihParts ihRest | arrayPattern parts rest span ihParts ihRest =>
      change parts.leaves place ++ rest.leaves place = (parts.boundNames ++ rest.boundNames).map _
      rw [ihParts rfl, ihRest rfl, List.map_append]
  | present value ih => exact ih h
  | defaultPattern target value span ih _ => exact ih rfl
  | patternMember key value _ ih => exact ih rfl
  | _ => cases h

theorem leaves_parameters (s : Syntax c) (h : c.isParameter) :
    s.leaves .here = s.boundNames.map fun name => (name, .here) := by
  induction s with
  | nil => rfl
  | cons first rest ihFirst ihRest =>
      change first.leaves .here ++ rest.leaves .here = (first.boundNames ++ rest.boundNames).map _
      rw [ihFirst h, ihRest h, List.map_append]
  | parameter decorators pattern initial span _ _ _ => exact pattern.leaves_pattern rfl
  | _ => cases h

theorem leaves_declarators (s : Syntax c) (h : c.isDeclarator) :
    s.leaves place = s.declaratorNames.map fun name => (name, place) := by
  induction s with
  | nil => rfl
  | cons first rest ihFirst ihRest =>
      change first.leaves place ++ rest.leaves place =
        (first.declaratorNames ++ rest.declaratorNames).map _
      rw [ihFirst h, ihRest h, List.map_append]
  | declare pattern init span _ _ => exact pattern.leaves_pattern rfl
  | _ => cases h

end Syntax

namespace Outline

def bound? : Outline → Option (Name × BindingPlace)
  | .bind name place => some (name, place)
  | _ => none

/-- The names that outlines side by side bind, wherever in them, each with its place. -/
def bindings (outlines : List Outline) : List (Name × BindingPlace) :=
  (preorderAll outlines).filterMap bound?

@[simp]
theorem bindings_nil : bindings [] = [] := rfl

@[simp]
theorem bindings_append (before after : List Outline) :
    bindings (before ++ after) = bindings before ++ bindings after := by simp [bindings]

@[simp]
theorem bindings_use (name : Name) (rest : List Outline) :
    bindings (.use name :: rest) = bindings rest :=
  List.filterMap_cons_none rfl

@[simp]
theorem bindings_bind (name : Name) (place : BindingPlace) (rest : List Outline) :
    bindings (.bind name place :: rest) = (name, place) :: bindings rest :=
  List.filterMap_cons_some rfl

@[simp]
theorem bindings_node (shape : Shape) (span : Span) (parts rest : List Outline) :
    bindings (.node shape span parts :: rest) = bindings parts ++ bindings rest := by
  rw [bindings, preorderAll, preorder, List.cons_append, List.filterMap_cons_none rfl,
    List.filterMap_append]
  rfl

@[simp]
theorem bindings_labeled (label : String) (span : Span) (parts rest : List Outline) :
    bindings (labeled label span parts :: rest) = bindings parts ++ bindings rest :=
  bindings_node (.other label) span parts rest

@[simp]
theorem bindings_region (shape : Shape) (span : Span) (before inside rest : List Outline)
    (kind : ScopeKind) :
    bindings (.region shape span before kind inside :: rest) =
      bindings before ++ bindings inside ++ bindings rest := by
  rw [bindings, preorderAll, preorder, List.cons_append, List.filterMap_cons_none rfl,
    List.filterMap_append, List.filterMap_append]
  rfl

@[simp]
theorem bindings_map_bind (names : List Name) (place : BindingPlace) :
    bindings (names.map fun name => .bind name place) = names.map fun name => (name, place) := by
  induction names with
  | nil => rfl
  | cons name names ih => simp [ih]

@[simp]
theorem bindings_jsxName (name : JsxName) (rest : List Outline) :
    bindings (name.outline :: rest) = bindings rest := by
  cases name <;> simp [JsxName.outline]

@[simp]
theorem bindings_restOutline (bound : List String) (names : List Name) (span : Span) :
    bindings (restOutline bound names span) =
      (names.filter fun name => !bound.contains name.text).map fun name => (name, .here) := by
  rw [restOutline]
  split
  · next hNone =>
      rw [hNone]
      rfl
  · simp

@[simp]
theorem bindings_functionOutline (kind : FunctionKind) (name : Option Name)
    (params body : List Outline) (span : Span) :
    bindings [functionOutline kind name params body span] =
      name.toList.map (fun name => (name, .here)) ++ bindings params ++ bindings body := by
  cases kind <;> simp [functionOutline]

end Outline

namespace Phrase

/-- The names that a phrase leaves to the phrase around it. -/
def leaves (phrase : Phrase) : List (Name × BindingPlace) := phrase.content.leaves phrase.place

/-- The names that are introduced in a phrase where lowering comes to. -/
def introductions (phrase : Phrase) : List Introduction :=
  phrase.lowered.flatMap fun inner => inner.content.introduces

@[simp]
theorem leaves_enteredAt {c : Category} (content : Syntax c) (place : BindingPlace) :
    (content.enteredAt place).leaves = content.leaves place := rfl

@[simp]
theorem leaves_entered {c : Category} (content : Syntax c) :
    content.entered.leaves = content.leaves .here := rfl

/-- Most phrases have no parts that leave names to them. -/
theorem flatMap_leaves_eq_nil {parts : List Phrase}
    (h : parts.all fun part => !part.category.leavesNames) :
    (parts.filter Phrase.entered).flatMap leaves = [] := by
  apply List.flatMap_eq_nil_iff.mpr
  intro part hMem
  have hPart := List.all_eq_true.mp h part (List.mem_filter.mp hMem).1
  exact part.content.leaves_eq_nil (by simpa using hPart)

/-- What a phrase binds, together with what its parts leave to it, is what it leaves or introduces
itself, together with what its parts bind. -/
theorem bindings_step (phrase : Phrase) :
    (Outline.bindings phrase.outline ++ (phrase.parts.filter Phrase.entered).flatMap leaves).Perm
      (phrase.leaves ++ phrase.content.introduces.map Introduction.binding ++
        (phrase.parts.filter Phrase.entered).flatMap fun part => Outline.bindings part.outline) := by
  obtain ⟨content, place, flag⟩ := phrase
  cases content <;> simp only [parts, Syntax.parts]
  -- phrases without outlines and names
  case nil | absent | signature | headTarget | identifier | targetName | boundName =>
      exact List.Perm.refl _
  -- phrases that pass on what their parts leave to them
  case present value =>
      change (Outline.bindings (value.outline place) ++ _).Perm (value.leaves place ++ [] ++ _)
      simpa [-List.append_assoc] using List.perm_append_comm
  case cons first rest =>
      change (Outline.bindings (_ ++ _) ++ _).Perm (first.leaves place ++ rest.leaves place ++ [] ++ _)
      simpa [-List.append_assoc] using List.perm_append_comm
  case objectPattern parts rest span | arrayPattern parts rest span =>
      change (Outline.bindings [Outline.node _ _ _] ++ _).Perm
        (parts.leaves place ++ rest.leaves place ++ [] ++ _)
      simpa [-List.append_assoc] using List.perm_append_comm
  case patternMember key value =>
      change (Outline.bindings (_ ++ _) ++ _).Perm (value.leaves place ++ [] ++ _)
      simpa [-List.append_assoc, key.leaves_eq_nil rfl] using List.perm_append_comm
  case defaultPattern target value span =>
      change (Outline.bindings [Outline.node _ _ _] ++ _).Perm (target.leaves place ++ [] ++ _)
      simpa [-List.append_assoc, value.leaves_eq_nil rfl] using List.perm_append_comm
  case declare pattern init span =>
      change (Outline.bindings [Outline.node _ _ _] ++ _).Perm (pattern.leaves place ++ [] ++ _)
      simpa [-List.append_assoc, init.leaves_eq_nil rfl] using List.perm_append_comm
  case parameter decorators pattern initial span =>
      cases initial with
      | absent =>
          change (Outline.bindings (pattern.outline .here) ++ (pattern.leaves .here ++ [])).Perm
            (pattern.leaves .here ++ [] ++ (Outline.bindings (pattern.outline .here) ++ []))
          simpa using List.perm_append_comm
      | present value =>
          change (Outline.bindings [Outline.node _ _ _] ++ _).Perm (pattern.leaves .here ++ [] ++ _)
          simpa [-List.append_assoc, value.present.leaves_eq_nil rfl] using List.perm_append_comm
  -- phrases that introduce names
  case variableList kind declarators span =>
      change (Outline.bindings [Outline.node _ _ _] ++ _).Perm ([] ++ _ ++ _)
      simpa [declarators.leaves_declarators rfl, Syntax.introduces, IntroductionForm.place] using
        List.perm_append_comm
  case handler param body span =>
      change (Outline.bindings [Outline.region _ _ _ _ _] ++ _).Perm ([] ++ _ ++ _)
      simpa [param.leaves_pattern rfl, body.leaves_eq_nil rfl, Syntax.introduces,
        IntroductionForm.place, -List.append_assoc] using List.perm_append_comm
  case func kind name params rest restSpan body span =>
      change (Outline.bindings [functionOutline _ _ (_ ++ restOutline _ _ _) _ _] ++ _).Perm
        ([] ++ _ ++ _)
      simp only [Outline.bindings_functionOutline, Outline.bindings_append,
        Outline.bindings_restOutline, filter_entered, filter_skipped, List.filter_nil,
        List.flatMap_cons, List.flatMap_nil, leaves_entered, outline_entered, Syntax.introduces,
        body.leaves_eq_nil rfl, params.leaves_parameters rfl, List.map_append, List.map_map,
        Introduction.binding_comp, IntroductionForm.place, List.append_nil, List.nil_append,
        List.append_assoc]
      apply List.Perm.append_left
      -- what the parameters leave to the function stands behind its body on the left
      rw [← List.append_assoc, ← List.append_assoc]
      refine List.perm_append_comm.trans ?_
      rw [List.append_assoc]
      exact (List.perm_append_comm_assoc _ _ _).append_left _
  case classBody kind decorators name parent members span =>
      rw [flatMap_leaves_eq_nil rfl]
      change (Outline.bindings
        [Outline.node _ _ ((if kind = .declaration then _ else []) ++ _ ++ _)] ++ _).Perm
          ([] ++ _ ++ _)
      cases kind <;> simp [Syntax.introduces, IntroductionForm.place]
  all_goals rw [flatMap_leaves_eq_nil rfl]
  -- phrases that are outlined by one of their parts
  case functionExpr | classExpr | jsxExpr | wrapped | item | method | field | nested
    | headVariables | headExpr | variableDecl | functionDecl | classDecl =>
      exact List.Perm.refl _
  -- phrases with a part that may be missing
  case shorthand name value span =>
      cases value with
      | absent => exact List.Perm.refl _
      | present value =>
          change (Outline.bindings [Outline.node _ _ _] ++ _).Perm ([] ++ [] ++ _)
          simp
  case container value span =>
      cases value with
      | absent => exact List.Perm.refl _
      | present value =>
          change (Outline.bindings [Outline.node _ _ _] ++ _).Perm ([] ++ [] ++ _)
          simp
  -- phrases with a part that is entered only under a condition
  case update operand span =>
      change (Outline.bindings [Outline.node _ _ (operand.writtenName?.toList.map Outline.use)] ++
        _).Perm ([] ++ [] ++ _)
      cases hWritten : operand.writtenName? with
      | none => simp
      | some name => simp [Syntax.outline_of_writtenName? hWritten]
  case chain link span =>
      change (Outline.bindings [Outline.node _ _ (if link.isPlainLink then _ else [])] ++ _).Perm
        ([] ++ [] ++ _)
      cases link.isPlainLink <;> simp
  case targetWrapped wrapper inner span =>
      change (Outline.bindings (if wrapper = .parentheses then _ else [Outline.node _ _ []]) ++
        _).Perm ([] ++ [] ++ _)
      cases wrapper <;> simp
  case exportNamed declaration span | exportDefault declaration span =>
      change (Outline.bindings
        [Outline.node _ _ (if declaration.isValueDeclaration then _ else [])] ++ _).Perm
          ([] ++ [] ++ _)
      cases declaration.isValueDeclaration <;> simp
  case namespaceDecl path body span =>
      change (Outline.bindings
        [Outline.region _ _ [] _ (if path.length = 1 then body.outline .here else [])] ++ _).Perm
          ([] ++ [] ++ _)
      by_cases hPath : path.length = 1 <;> simp [hPath]
  -- all other phrases become one node, with or without a scope
  case element name attributes openingSpan children span =>
      change (Outline.bindings [Outline.node _ _ (Outline.node _ _ (name.outline :: _) :: _)] ++
        _).Perm ([] ++ [] ++ _)
      simp
  case staticBlock | block | forLoop | forEach | switch =>
      change (Outline.bindings [Outline.region _ _ _ _ _] ++ _).Perm ([] ++ [] ++ _)
      simp
  all_goals
    change (Outline.bindings [Outline.node _ _ _] ++ _).Perm ([] ++ [] ++ _)
    simp

/-- The outlines of a phrase bind the names that it leaves to the phrase around it and those that
are introduced in it. -/
theorem bindings_outline_perm (phrase : Phrase) :
    (Outline.bindings phrase.outline).Perm
      (phrase.leaves ++ phrase.introductions.map Introduction.binding) := by
  induction phrase using parts_induction with
  | step phrase ih =>
      let inside := phrase.parts.filter Phrase.entered
      let introduced (part : Phrase) := part.introductions.map Introduction.binding
      have hAll : phrase.introductions.map Introduction.binding =
          phrase.content.introduces.map Introduction.binding ++ inside.flatMap introduced := by
        rw [introductions, lowered_eq, List.flatMap_cons, List.map_append, List.flatMap_assoc,
          List.map_flatMap]
        rfl
      have hInside : (inside.flatMap fun part => Outline.bindings part.outline).Perm
          (inside.flatMap introduced ++ inside.flatMap leaves) := by
        refine List.Perm.trans ?_ List.perm_append_comm
        refine List.Perm.trans ?_ (List.flatMap_append_perm _ _ _).symm
        exact List.Perm.flatMap_left _ fun part hMem => ih part (List.mem_filter.mp hMem).1
      -- what the parts leave to the phrase stands on both sides
      refine (List.perm_append_right_iff (inside.flatMap leaves)).mp ?_
      refine phrase.bindings_step.trans ?_
      rw [hAll, ← List.append_assoc phrase.leaves, List.append_assoc (_ ++ _)]
      exact hInside.append_left _

end Phrase

/-- A program binds the names that are introduced in it. -/
theorem Program.bindings_perm (program : Program) :
    (Outline.bindings [program.outline]).Perm
      (program.phrase.introductions.map Introduction.binding) := by
  have hPhrase := program.phrase.bindings_outline_perm
  have hLeaves : program.phrase.leaves = [] := program.body.leaves_eq_nil rfl
  rw [hLeaves, List.nil_append] at hPhrase
  rw [Program.outline, Outline.bindings_node, Outline.bindings_nil, List.append_nil]
  exact hPhrase

end PropTrace
