import PropTrace.Proofs.Frames

/-!
The names that a construct binds for a part of it. Lowering records them all in the scope of the
construct, but for two kinds: the own name of a class expression and the names of enumerations.
-/
namespace PropTrace

namespace Syntax

/-- The names that a list of declarators binds. -/
def declaratorNames : {c : Category} → Syntax c → List Name
  | _, .cons first rest => first.declaratorNames ++ rest.declaratorNames
  | _, .declare pattern _ _ => pattern.boundNames
  | _, _ => []

/-- The names that statements declare: for `here` variables with `let` or `const`, functions and
classes directly among them, for `hoisted` variables with `var` wherever they stand in the same
function. -/
def declaredNames (place : BindingPlace) : {c : Category} → Syntax c → List Name
  | _, .cons first rest => first.declaredNames place ++ rest.declaredNames place
  | _, .present value => value.declaredNames place
  | _, .case _ body _ => body.declaredNames place
  | _, .labeled _ body _ => body.declaredNames place
  | _, .variableDecl value | _, .headVariables value => value.declaredNames place
  | _, .variableList kind declarators _ =>
    if kind.place = place then declarators.declaratorNames else []
  | _, .functionDecl value | _, .classDecl value => value.declaredNames place
  | _, .func kind name _ _ _ _ _ =>
    if kind = .declaration ∧ place = .here then name.toList else []
  | _, .classBody kind _ name _ _ _ =>
    if kind = .declaration ∧ place = .here then name.toList else []
  | _, .exportNamed declaration _ =>
    if declaration.isValueDeclaration then declaration.declaredNames place else []
  | _, .exportDefault declaration _ =>
    if declaration.isValueDeclaration then declaration.declaredNames place else []
  -- statements with statements in them that do not stand directly among the others
  | _, .block body _ => if place = .hoisted then body.declaredNames place else []
  | _, .ifElse _ consequent alternate _ =>
    if place = .hoisted then consequent.declaredNames place ++ alternate.declaredNames place else []
  | _, .forLoop head _ _ body _ =>
    if place = .hoisted then head.declaredNames place ++ body.declaredNames place else []
  | _, .forEach _ head _ body _ =>
    if place = .hoisted then head.declaredNames place ++ body.declaredNames place else []
  | _, .whileLoop _ body _ | _, .doWhile body _ _ | _, .withObject _ body _ =>
    if place = .hoisted then body.declaredNames place else []
  | _, .switch _ cases _ => if place = .hoisted then cases.declaredNames place else []
  | _, .tryCatch body clause finalizer _ =>
    if place = .hoisted then
      body.declaredNames place ++ clause.declaredNames place ++ finalizer.declaredNames place
    else []
  | _, .handler _ body _ => if place = .hoisted then body.declaredNames place else []
  | _, _ => []

/-- The names of the enumerations directly among statements. -/
def enumNames : {c : Category} → Syntax c → List Name
  | _, .cons first rest => first.enumNames ++ rest.enumNames
  | _, .present value => value.enumNames
  | _, .case _ body _ => body.enumNames
  | _, .exportNamed declaration _ => declaration.enumNames
  | _, .enumDecl name _ _ => [name]
  | _, _ => []

/-- The names that a construct binds for one of its parts: a function its own name if it is an
expression, its parameters, and for its body everything declared there; a block, the cases of a
`switch`, a static block and a namespace what is declared directly in them, the last two their `var`
declarations as well; a loop what its head declares with `let` or `const`; and a `catch` clause its
parameter. -/
def bindsFor : {c : Category} → Syntax c → Phrase → List Name
  | _, .func kind name params rest _ body _, part =>
    (if kind = .declaration then [] else name.toList) ++ params.boundNames ++ rest.boundNames ++
      if part.category = .list .statement then
        body.declaredNames .here ++ body.declaredNames .hoisted
      else []
  | _, .staticBlock body _, _ => body.declaredNames .here ++ body.declaredNames .hoisted
  | _, .namespaceDecl path body _, _ =>
    if path.length = 1 then body.declaredNames .here ++ body.declaredNames .hoisted else []
  | _, .block body _, _ => body.declaredNames .here
  | _, .forLoop head _ _ _ _, _ => head.declaredNames .here
  | _, .forEach _ head _ _ _, _ => head.declaredNames .here
  | _, .switch _ cases _, part =>
    if part.category = .expr then [] else cases.declaredNames .here
  | _, .handler param _ _, _ => param.boundNames
  | _, _, _ => []

/-- The names that a construct binds for one of its parts without a record: a class expression its
own name, and whatever holds statements the names of the enumerations directly in it. -/
def missesFor : {c : Category} → Syntax c → Phrase → List Name
  | _, .classBody kind _ name _ _ _, _ => if kind = .expression then name.toList else []
  | _, .func _ _ _ _ _ body _, part =>
    if part.category = .list .statement then body.enumNames else []
  | _, .staticBlock body _, _ => body.enumNames
  | _, .namespaceDecl path body _, _ => if path.length = 1 then body.enumNames else []
  | _, .block body _, _ => body.enumNames
  | _, .switch _ cases _, part => if part.category = .expr then [] else cases.enumNames
  | _, _, _ => []

end Syntax

/-- Whether a phrase of a category is a pattern or made up of patterns. -/
def Category.isPattern : Category → Bool
  | pattern | patternProperty => true
  | list c | option c => c.isPattern
  | _ => false

namespace Syntax

variable {c : Category}

/-- Patterns bind their names where they are told to, parameters in the scope they stand in. -/
theorem mem_bindsAllAt_of_mem_boundNames {s : Syntax c} {place : BindingPlace} {name : Name}
    (hPlace : place = .here ∨ c.isPattern) (hName : name ∈ s.boundNames) :
    name.text ∈ Outline.bindsAllAt place (s.outline place) := by
  induction s generalizing place with
  | cons first rest ihFirst ihRest =>
      change _ ∈ Outline.bindsAllAt _ (_ ++ _)
      rcases List.mem_append.mp hName with hFirst | hRest
      · simp [ihFirst hPlace hFirst]
      · simp [ihRest hPlace hRest]
  | present value ih => exact ih hPlace hName
  | parameter decorators pattern initial span _ ih _ =>
      obtain rfl : place = .here := hPlace.resolve_right Bool.false_ne_true
      have hPattern := ih (.inl rfl) hName
      cases initial with
      | absent => exact hPattern
      | present value =>
          change _ ∈ Outline.bindsAllAt _ [Outline.node _ _ _]
          simp [hPattern]
  | boundName bound =>
      obtain rfl := List.mem_singleton.mp hName
      change _ ∈ Outline.bindsAllAt _ [Outline.bind _ _]
      simp
  | objectPattern parts rest span ihParts ihRest | arrayPattern parts rest span ihParts ihRest =>
      change _ ∈ Outline.bindsAllAt _ [Outline.node _ _ _]
      rcases List.mem_append.mp hName with hParts | hRest
      · simp [ihParts (.inr rfl) hParts]
      · simp [ihRest (.inr rfl) hRest]
  | defaultPattern target value span ihTarget _ =>
      change _ ∈ Outline.bindsAllAt _ [Outline.node _ _ _]
      simp [ihTarget (.inr rfl) hName]
  | patternMember key value _ ihValue =>
      change _ ∈ Outline.bindsAllAt _ (_ ++ _)
      simp [ihValue (.inr rfl) hName]
  | _ => cases hName

/-- The names of declarators stand where the declaration says. -/
theorem mem_bindsAllAt_of_mem_declaratorNames {s : Syntax c} {place : BindingPlace} {name : Name}
    (hName : name ∈ s.declaratorNames) :
    name.text ∈ Outline.bindsAllAt place (s.outline place) := by
  induction s with
  | cons first rest ihFirst ihRest =>
      change _ ∈ Outline.bindsAllAt _ (_ ++ _)
      rcases List.mem_append.mp hName with hFirst | hRest
      · simp [ihFirst hFirst]
      · simp [ihRest hRest]
  | declare pattern init span _ _ =>
      have hPattern : name.text ∈ Outline.bindsAllAt place (pattern.outline place) :=
        mem_bindsAllAt_of_mem_boundNames (.inr rfl) hName
      change _ ∈ Outline.bindsAllAt _ [Outline.node _ _ _]
      simp [hPattern]
  | _ => cases hName

/-- What statements declare is recorded in the scope they stand in, or handed on to the function
around them. -/
theorem mem_bindsAllAt_of_mem_declaredNames {s : Syntax c} {place : BindingPlace} {name : Name}
    (hName : name ∈ s.declaredNames place) (outer : BindingPlace) :
    name.text ∈ Outline.bindsAllAt place (s.outline outer) := by
  induction s generalizing outer with
  | cons first rest ihFirst ihRest =>
      change _ ∈ Outline.bindsAllAt _ (_ ++ _)
      rcases List.mem_append.mp hName with hFirst | hRest
      · simp [ihFirst hFirst]
      · simp [ihRest hRest]
  | present value ih | variableDecl value ih | headVariables value ih | functionDecl value ih
  | classDecl value ih => exact ih hName _
  | case test body span _ ih | labeled test body span ih =>
      change _ ∈ Outline.bindsAllAt _ [Outline.node _ _ _]
      simp [ih hName]
  | variableList kind declarators span _ =>
      obtain ⟨rfl, hDeclared⟩ := List.mem_ite_nil_right.mp hName
      change _ ∈ Outline.bindsAllAt _ [Outline.node _ _ _]
      simp [mem_bindsAllAt_of_mem_declaratorNames hDeclared]
  | func kind own params rest restSpan body span _ _ _ =>
      obtain ⟨⟨rfl, rfl⟩, hOwn⟩ := List.mem_ite_nil_right.mp hName
      change _ ∈ Outline.bindsAllAt _ [Outline.region _ _ _ _ _]
      simp [Outline.mem_bindsAllAt_map_bind hOwn]
  | classBody kind decorators own parent members span _ _ _ =>
      obtain ⟨⟨rfl, rfl⟩, hOwn⟩ := List.mem_ite_nil_right.mp hName
      change _ ∈ Outline.bindsAllAt _ [Outline.node _ _ (own.toList.map _ ++ _ ++ _)]
      simp [Outline.mem_bindsAllAt_map_bind hOwn]
  | exportNamed declaration span ih | exportDefault declaration span ih =>
      obtain ⟨hValue, hDeclared⟩ := List.mem_ite_nil_right.mp hName
      change _ ∈ Outline.bindsAllAt _
        [Outline.node _ _ (if declaration.isValueDeclaration then _ else [])]
      simp [hValue, ih hDeclared]
  | block body span ih | handler _ body span _ ih | switch _ body span _ ih =>
      obtain ⟨rfl, hBody⟩ := List.mem_ite_nil_right.mp hName
      change _ ∈ Outline.bindsAllAt _ [Outline.region _ _ _ _ _]
      simp [ih hBody]
  | whileLoop test body span _ ih | doWhile body test span ih _ | withObject base body span _ ih =>
      obtain ⟨rfl, hBody⟩ := List.mem_ite_nil_right.mp hName
      change _ ∈ Outline.bindsAllAt _ [Outline.node _ _ _]
      simp [ih hBody]
  | ifElse test consequent alternate span _ ihConsequent ihAlternate =>
      obtain ⟨rfl, hBranch⟩ := List.mem_ite_nil_right.mp hName
      change _ ∈ Outline.bindsAllAt _ [Outline.node _ _ _]
      rcases List.mem_append.mp hBranch with hConsequent | hAlternate
      · simp [ihConsequent hConsequent]
      · simp [ihAlternate hAlternate]
  | forLoop head test step body span ihHead _ _ ihBody
  | forEach kind head collection body span ihHead _ ihBody =>
      obtain ⟨rfl, hInside⟩ := List.mem_ite_nil_right.mp hName
      change _ ∈ Outline.bindsAllAt _ [Outline.region _ _ _ _ _]
      rcases List.mem_append.mp hInside with hHead | hBody
      · simp [ihHead hHead]
      · simp [ihBody hBody]
  | tryCatch body clause finalizer span ihBody ihClause ihFinalizer =>
      obtain ⟨rfl, hInside⟩ := List.mem_ite_nil_right.mp hName
      change _ ∈ Outline.bindsAllAt _ [Outline.node _ _ _]
      rcases List.mem_append.mp hInside with hBefore | hFinalizer
      · rcases List.mem_append.mp hBefore with hBody | hClause
        · simp [ihBody hBody]
        · simp [ihClause hClause]
      · simp [ihFinalizer hFinalizer]
  | _ => cases hName

end Syntax

namespace Frame

/-- The names that the construct of a frame binds for the part, recorded ones. -/
def binds (frame : Frame) : List String :=
  (frame.construct.content.bindsFor frame.part).map Name.text

/-- The names that the construct binds without a record. -/
def misses (frame : Frame) : List String :=
  (frame.construct.content.missesFor frame.part).map Name.text

/-- The names of the scope that the construct opens for the part, none if it opens no scope. -/
def records (frame : Frame) : List String := (frame.region?.map Region.names).getD []

end Frame

theorem mem_records_iff {frame : Frame} {name : String} :
    name ∈ frame.records ↔ ∃ region, frame.region? = some region ∧ name ∈ region.names := by
  rw [Frame.records]
  cases frame.region? <;> simp

/-- A rest parameter binds all names but those that are bound already. -/
theorem mem_bindsAllAt_restOutline (bound : List String) {names : List Name} {name : Name}
    (hName : name ∈ names) (span : Span) :
    name.text ∈ bound ∨
      name.text ∈ Outline.bindsAllAt .here (restOutline bound names span) := by
  by_cases hBound : name.text ∈ bound
  · exact .inl hBound
  · have hFresh : name ∈ names.filter fun name => !bound.contains name.text :=
      List.mem_filter.mpr ⟨hName, by simpa using hBound⟩
    refine .inr ?_
    rw [restOutline]
    split
    · next hNone =>
        rw [hNone] at hFresh
        cases hFresh
    · rw [Outline.bindsAllAt_labeled]
      exact List.mem_append_left _ (Outline.mem_bindsAllAt_map_bind hFresh _)

/-- A function records its own name unless it is a declaration, its parameters, and what its body
declares. -/
theorem mem_functionNames {kind : FunctionKind} {own : Option Name}
    {params : Syntax (.list .param)} {rest : Syntax (.option .pattern)} {restSpan span : Span}
    {body : Syntax (.list .statement)} {shape : Shape} {part : Phrase} {name : Name}
    (hName : name ∈ (Syntax.func kind own params rest restSpan body span).bindsFor part) :
    name.text ∈ Region.names ⟨shape, span, .function,
      (if kind = .declaration then [] else own.toList.map fun name => .bind name .here) ++
        (params.outline .here ++ restOutline (namesBeforeRest kind own params.boundNames)
          rest.boundNames restSpan) ++ body.outline .here⟩ := by
  have hOwn : ∀ other ∈ (if kind = .declaration then [] else own.toList), other.text ∈
      Outline.bindsAllAt .here (if kind = .declaration then [] else
        own.toList.map fun name => Outline.bind name .here) := by
    intro other hOther
    obtain ⟨hKind, hMem⟩ := List.mem_ite_nil_left.mp hOther
    rw [if_neg hKind]
    exact Outline.mem_bindsAllAt_map_bind hMem _
  have hParams : ∀ other ∈ params.boundNames,
      other.text ∈ Outline.bindsAllAt .here (params.outline .here) :=
    fun other hOther => Syntax.mem_bindsAllAt_of_mem_boundNames (.inl rfl) hOther
  simp only [Region.names, Outline.bindsAllAt_append, List.mem_append]
  rcases List.mem_append.mp hName with hHead | hBody
  · rcases List.mem_append.mp hHead with hBefore | hRest
    · rcases List.mem_append.mp hBefore with hMem | hMem
      · simp [hOwn name hMem]
      · simp [hParams name hMem]
    · -- a name of the rest parameter that is bound already is recorded for what binds it
      rcases mem_bindsAllAt_restOutline (namesBeforeRest kind own params.boundNames) hRest restSpan
        with hBound | hFresh
      · rcases List.mem_append.mp hBound with hMem | hMem
        · obtain ⟨hKind, hMem⟩ := List.mem_ite_nil_left.mp hMem
          obtain ⟨other, hOther, hText⟩ := List.mem_map.mp hMem
          simp [← hText, hOwn other (List.mem_ite_nil_left.mpr ⟨hKind, hOther⟩)]
        · obtain ⟨other, hOther, hText⟩ := List.mem_map.mp hMem
          simp [← hText, hParams other hOther]
      · simp [hFresh]
  · obtain ⟨-, hDeclared⟩ := List.mem_ite_nil_right.mp hBody
    rcases List.mem_append.mp hDeclared with hHere | hHoisted
    · simp [Syntax.mem_bindsAllAt_of_mem_declaredNames hHere]
    · simp [Syntax.mem_bindsAllAt_of_mem_declaredNames hHoisted]

/-- What a construct binds for a part is on record in the scope that it opens for the part. -/
theorem Frame.binds_subset_records (frame : Frame) : frame.binds ⊆ frame.records := by
  obtain ⟨⟨content, place, flag⟩, part⟩ := frame
  intro text hText
  obtain ⟨name, hName, rfl⟩ := List.mem_map.mp hText
  rw [mem_records_iff]
  cases content with
  | func kind own params rest restSpan body span =>
      exact ⟨_, region?_eq ⟨.func kind own params rest restSpan body span, place, flag⟩ part rfl
        (congrArg (fun outline => [outline]) (functionOutline_eq ..)),
        mem_functionNames hName⟩
  | staticBlock body span =>
      refine ⟨_, region?_eq ⟨.staticBlock body span, place, flag⟩ part rfl rfl, ?_⟩
      rcases List.mem_append.mp hName with hHere | hHoisted
      · simp [Region.names, Syntax.mem_bindsAllAt_of_mem_declaredNames hHere]
      · simp [Region.names, Syntax.mem_bindsAllAt_of_mem_declaredNames hHoisted]
  | namespaceDecl path body span =>
      obtain ⟨hPath, hDeclared⟩ := List.mem_ite_nil_right.mp hName
      refine ⟨_, region?_eq ⟨.namespaceDecl path body span, place, flag⟩ part rfl rfl, ?_⟩
      rcases List.mem_append.mp hDeclared with hHere | hHoisted
      · simp [Region.names, hPath, Syntax.mem_bindsAllAt_of_mem_declaredNames hHere]
      · simp [Region.names, hPath, Syntax.mem_bindsAllAt_of_mem_declaredNames hHoisted]
  | block body span =>
      refine ⟨_, region?_eq ⟨.block body span, place, flag⟩ part rfl rfl, ?_⟩
      simp [Region.names, Syntax.mem_bindsAllAt_of_mem_declaredNames hName]
  | forLoop head test step body span =>
      refine ⟨_, region?_eq ⟨.forLoop head test step body span, place, flag⟩ part rfl rfl, ?_⟩
      simp [Region.names, Syntax.mem_bindsAllAt_of_mem_declaredNames hName]
  | forEach kind head collection body span =>
      refine ⟨_, region?_eq ⟨.forEach kind head collection body span, place, flag⟩ part rfl rfl, ?_⟩
      simp [Region.names, Syntax.mem_bindsAllAt_of_mem_declaredNames hName]
  | switch discriminant cases span =>
      obtain ⟨hPart, hDeclared⟩ := List.mem_ite_nil_left.mp hName
      refine ⟨_, region?_eq ⟨.switch discriminant cases span, place, flag⟩ part
        (decide_eq_true hPart) rfl, ?_⟩
      simp [Region.names, Syntax.mem_bindsAllAt_of_mem_declaredNames hDeclared]
  | handler param body span =>
      refine ⟨_, region?_eq ⟨.handler param body span, place, flag⟩ part rfl rfl, ?_⟩
      simp [Region.names, Syntax.mem_bindsAllAt_of_mem_boundNames (.inl rfl) hName]
  | _ => cases hName

end PropTrace
