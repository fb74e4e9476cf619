import PropTrace.Proofs.Leniency

/-!
Checking nodes one after another through one context. A check looks at nothing that an earlier one
has changed: it adds what it would report into a fresh context, and says whether that is anything.
So the reports of a run are those of its checks, and only their order depends on the order of the
nodes.
-/
namespace PropTrace

namespace RuleContext

/-- The same context before anything was reported. -/
def fresh (context : RuleContext) : RuleContext := { context with diagnostics := [] }

/-- Why the check of a node ends before the rule looks at an expression. -/
inductive Stops (context : RuleContext) (id : NodeId) : Prop where
  /-- The directive is asked for and missing. -/
  | gate (hClosed : context.gateOpen = false)
  /-- The node is no attribute, or its value is none or no container. -/
  | shape (hShape : ∀ name value expression,
      context.unit.tree.kind? id = some (.jsxAttribute name (some value)) →
        context.unit.tree.kind? value ≠ some (.jsxContainer expression))
  /-- The own element has a plain native tag that is on the allow list. -/
  | exemption {list : AllowList} {tag : String}
      (hList : context.options.nativeAllowList = some list)
      (hTag : context.unit.tree.tagName? id = some tag) (hNative : isNativeTag tag = true)
      (hExempts : list.exempts tag = true)

end RuleContext

theorem SyntaxTree.containedExpression?_eq_some_iff {tree : SyntaxTree} {id expression : NodeId} :
    tree.containedExpression? id = some expression ↔
      ∃ name value, tree.kind? id = some (.jsxAttribute name (some value)) ∧
        tree.kind? value = some (.jsxContainer expression) := by
  constructor
  · intro hContained
    unfold containedExpression? at hContained
    split at hContained
    next name value hKind =>
      split at hContained
      next hValue =>
        obtain rfl := Option.some.inj hContained
        exact ⟨name, value, hKind, hValue⟩
      next => simp at hContained
    next => simp at hContained
  · rintro ⟨name, value, hKind, hValue⟩
    simp [containedExpression?, hKind, hValue]

theorem RuleContext.exempts_eq_true_iff {context : RuleContext} {id : NodeId} :
    context.exempts id = true ↔
      ∃ list tag, context.options.nativeAllowList = some list ∧
        context.unit.tree.tagName? id = some tag ∧ isNativeTag tag = true ∧
        list.exempts tag = true := by
  unfold exempts
  cases context.options.nativeAllowList <;> cases context.unit.tree.tagName? id <;> simp

namespace Rule

variable (rule : Rule) {context : RuleContext} {id : NodeId}

/-- One check: what is added depends on nothing but the node, and the answer is whether it is
anything. -/
theorem check_eq (context : RuleContext) (id : NodeId) :
    rule.check context id =
      (!(rule.reportsAt context id).isEmpty, context.extend (rule.reportsAt context id)) := by
  rw [← check_snd, reportsAt, List.isEmpty_map]
  rfl

theorem diagnostics_check_fresh (context : RuleContext) (id : NodeId) :
    (rule.check context.fresh id).2.diagnostics = rule.reportsAt context id := by
  rw [check_snd]
  rfl

theorem reportsAt_of_stops (hStops : context.Stops id) : rule.reportsAt context id = [] := by
  have hNone : rule.violations context id = [] := by
    unfold violations
    cases hStops with
    | gate hClosed => simp [hClosed]
    | shape hShape =>
        have hContained : context.unit.tree.containedExpression? id = none := by
          refine Option.eq_none_iff_forall_ne_some.mpr fun expression hSome => ?_
          obtain ⟨name, value, hKind, hValue⟩ :=
            SyntaxTree.containedExpression?_eq_some_iff.mp hSome
          exact hShape name value expression hKind hValue
        simp [hContained]
    | @exemption list tag hList hTag hNative hExempts =>
        have hExempt : context.exempts id = true :=
          RuleContext.exempts_eq_true_iff.mpr ⟨list, tag, hList, hTag, hNative, hExempts⟩
        simp only [hExempt, if_true]
        split
        · rfl
        · split <;> rfl
  rw [reportsAt, hNone, List.map_nil]

/-- A check that does not stop reports every violation among the origins of the expression. -/
theorem reportsAt_of_not_stops (hRuns : ¬context.Stops id) :
    ∃ expression, context.unit.tree.containedExpression? id = some expression ∧
      rule.reportsAt context id =
        ((context.unit.origins expression).filter (rule.isViolation context.unit.tree)).map
          (context.reportOf rule.message) := by
  have hOpen : context.gateOpen = true := by
    by_contra hClosed
    exact hRuns (.gate (Bool.eq_false_iff.mpr hClosed))
  have hChecked : context.exempts id = false := by
    refine Bool.eq_false_iff.mpr fun hExempt => hRuns ?_
    obtain ⟨list, tag, hList, hTag, hNative, hExempts⟩ :=
      RuleContext.exempts_eq_true_iff.mp hExempt
    exact .exemption hList hTag hNative hExempts
  cases hContained : context.unit.tree.containedExpression? id with
  | none =>
      refine absurd (.shape fun name value expression hKind hValue => ?_) hRuns
      have hSome := SyntaxTree.containedExpression?_eq_some_iff.mpr ⟨name, value, hKind, hValue⟩
      simp [hContained] at hSome
  | some expression =>
      refine ⟨expression, rfl, ?_⟩
      simp [reportsAt, violations, hOpen, hContained, hChecked]

/-- Checks nodes one after another: the answers, and the context in the end. -/
def checkEach (rule : Rule) (context : RuleContext) : List NodeId → List Bool × RuleContext
  | [] => ([], context)
  | id :: rest =>
    let (found, next) := rule.check context id
    let (answers, last) := checkEach rule next rest
    (found :: answers, last)

theorem checkEach_eq (context : RuleContext) (ids : List NodeId) :
    rule.checkEach context ids =
      (ids.map fun id => !(rule.reportsAt context id).isEmpty,
        context.extend (ids.flatMap (rule.reportsAt context))) := by
  induction ids generalizing context with
  | nil => simp [checkEach]
  | cons id rest ih =>
      simp only [checkEach, check_eq, ih, reportsAt_extend, RuleContext.extend_extend,
        List.map_cons, List.flatMap_cons]

/-- A run of checks keeps what was reported before and adds, in the order of the nodes, what each
check would report into a fresh context; a check answers whether that is anything. One that stops at
the gate, at the shape of the value or at the exemption leaves the context as it is, and any other
one reports the violations among the origins. Nodes in another order give the same reports in
another order, so the attributes of a program may be checked as the arena lists them or as a walk
meets them. -/
theorem checks_only_append (rule : Rule) (context : RuleContext) (ids : List NodeId) :
    (rule.checkEach context ids).2 =
        context.extend (ids.flatMap fun id => (rule.check context.fresh id).2.diagnostics) ∧
      (rule.checkEach context ids).1 =
        (ids.map fun id => decide ((rule.check context.fresh id).2.diagnostics ≠ [])) ∧
      (∀ id, context.Stops id → rule.check context id = (false, context)) ∧
      (∀ id, ¬context.Stops id →
        ∃ expression, context.unit.tree.containedExpression? id = some expression ∧
          (rule.check context.fresh id).2.diagnostics =
            ((context.unit.origins expression).filter
              (rule.isViolation context.unit.tree)).map (context.reportOf rule.message)) ∧
      (∀ others : List NodeId, others.Perm ids →
        (rule.checkEach context others).2.diagnostics.Perm
          (rule.checkEach context ids).2.diagnostics) ∧
      ∀ (program : Program) (file source : String), context.unit = program.toUnit file source →
        (rule.checkEach context context.unit.tree.walkedAttributes).2.diagnostics.Perm
          (rule.checkEach context context.unit.tree.attributes).2.diagnostics := by
  have hOrder : ∀ {first second : List NodeId}, first.Perm second →
      (rule.checkEach context first).2.diagnostics.Perm
        (rule.checkEach context second).2.diagnostics := by
    intro first second hPerm
    rw [checkEach_eq, checkEach_eq]
    exact (hPerm.flatMap_right _).append_left context.diagnostics
  simp only [diagnostics_check_fresh]
  refine ⟨?_, ?_, ?_, fun id => rule.reportsAt_of_not_stops, fun others => hOrder, ?_⟩
  · rw [checkEach_eq]
  · rw [checkEach_eq]
    refine List.map_congr_left fun id _ => ?_
    cases rule.reportsAt context id <;> rfl
  · intro id hStops
    rw [check_eq, rule.reportsAt_of_stops hStops, RuleContext.extend_nil]
    rfl
  · rintro program file source hUnit
    obtain ⟨root, uses, hRenders⟩ := program.renders_toUnit file source
    rw [hUnit]
    exact hOrder hRenders.walkedAttributes_perm

/-- The two boxes of which one is a division, where divisions are not checked. -/
def divisionsAllowed : RuleContext where
  rule := "arrays"
  unit := boxInDivUnit
  options := { nativeAllowList := some (.tags ["DIV"]) }
  settings := { next := some false }

theorem divisionsAllowed_checks_append :
    Builtin.noNewArray.rule.check divisionsAllowed 3 = (false, divisionsAllowed) ∧
      Builtin.noNewArray.rule.check divisionsAllowed 0 = (false, divisionsAllowed) ∧
      (Builtin.noNewArray.rule.checkEach divisionsAllowed [8, 3, 0, 8]).1 =
        [true, false, false, true] ∧
      (Builtin.noNewArray.rule.checkEach divisionsAllowed [8, 3]).2.diagnostics.Perm
        (Builtin.noNewArray.rule.checkEach divisionsAllowed [3, 8]).2.diagnostics ∧
      (Builtin.noNewArray.rule.checkEach divisionsAllowed
        divisionsAllowed.unit.tree.walkedAttributes).2.diagnostics.Perm
          (Builtin.noNewArray.rule.checkEach divisionsAllowed
            divisionsAllowed.unit.tree.attributes).2.diagnostics := by
  have hExempt : divisionsAllowed.Stops 3 := by
    have hTag : divisionsAllowed.unit.tree.tagName? 3 = some "div" := by decide +kernel
    exact .exemption rfl hTag (by decide +kernel) (by decide +kernel)
  have hShape : divisionsAllowed.Stops 0 := by
    have hKind : divisionsAllowed.unit.tree.kind? 0 = some (.jsxIdentifier "div") := by
      decide +kernel
    exact .shape fun name value expression hAttribute => by simp [hKind] at hAttribute
  obtain ⟨-, hAnswers, hStops, -, -, hProgram⟩ :=
    checks_only_append Builtin.noNewArray.rule divisionsAllowed [8, 3, 0, 8]
  obtain ⟨-, -, -, -, hOrder, -⟩ :=
    checks_only_append Builtin.noNewArray.rule divisionsAllowed [3, 8]
  refine ⟨hStops 3 hExempt, hStops 0 hShape, hAnswers.trans ?_, hOrder _ (.swap ..), ?_⟩
  · decide +kernel
  · exact hProgram boxInDiv "test.jsx" _ rfl

end Rule

end PropTrace
