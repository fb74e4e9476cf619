import PropTrace.Linter
import PropTrace.Proofs.Origins
import PropTrace.Proofs.Walk

/-!
What a linter reports about the unit of a program: everything its rules owe to the attributes of the
arena, nothing else, and in the order of the source.

A run checks attribute by attribute and all rules at each. Since a rule only ever adds to its own
reports, the run of one rule is told apart from the others first; only then the walk is compared
with the arena.
-/
namespace PropTrace

namespace RegisteredRule

/-- Whether a rule looks at a unit: the directive is not asked for, or the first line has it. -/
def admits (registered : RegisteredRule) (settings : Settings) (unit : SourceUnit) : Bool :=
  !registered.options.nextEnabled settings ||
    Text.containsPhrase useClient.toList (Text.trim (Text.firstLine unit.source.toList))

/-- Whether an attribute is none of a rule's business: its element has a plain native tag that is on
the allow list. -/
def spares (registered : RegisteredRule) (tree : SyntaxTree) (attr : NodeId) : Bool :=
  registered.options.nativeAllowList.any fun list =>
    (tree.tagName? attr).any fun tag => isNativeTag tag && list.exempts tag

/-- One report for each way to reach a faulty origin from the expression that an attribute contains,
at the span of the origin. -/
def dueAt (registered : RegisteredRule) (unit : SourceUnit) (attr : NodeId) : List Diagnostic :=
  (unit.tree.containedExpression? attr).toList.flatMap fun expression =>
    ((unit.origins expression).filter (registered.rule.isViolation unit.tree)).filterMap
      fun origin => (unit.tree.node? origin).map fun node =>
        .about registered.name registered.rule.message unit.file unit.source node.span

/-- What a rule owes to the attributes of the arena. -/
def due (registered : RegisteredRule) (unit : SourceUnit) : List Diagnostic :=
  (unit.tree.attributes.filter fun attr => !registered.spares unit.tree attr).flatMap
    (registered.dueAt unit)

/-- What a rule works with before it checked anything. -/
def freshContext (registered : RegisteredRule) (settings : Settings) (unit : SourceUnit) :
    RuleContext where
  rule := registered.name
  unit := unit
  options := registered.options
  settings := settings

end RegisteredRule

/-- What all rules owe to the attributes of the arena. -/
def Linter.due (linter : Linter) (unit : SourceUnit) : List Diagnostic :=
  (linter.rules.filter fun registered => registered.admits linter.settings unit).flatMap
    fun registered => registered.due unit

namespace RuleContext

/-- The same context with more reports. -/
def extend (context : RuleContext) (more : List Diagnostic) : RuleContext :=
  { context with diagnostics := context.diagnostics ++ more }

@[simp]
theorem extend_nil (context : RuleContext) : context.extend [] = context := by simp [extend]

@[simp]
theorem extend_extend (context : RuleContext) (first second : List Diagnostic) :
    (context.extend first).extend second = context.extend (first ++ second) := by simp [extend]

/-- The report of a rule about a node. -/
def reportOf (context : RuleContext) (message : String) (id : NodeId) : Diagnostic :=
  .about context.rule message context.unit.file context.unit.source
    (((context.unit.tree.node? id).map Node.span).getD ⟨0, 0⟩)

theorem foldl_report (context : RuleContext) (message : String) (found : List NodeId) :
    found.foldl (fun context id => context.report message id) context =
      context.extend (found.map (context.reportOf message)) := by
  induction found generalizing context with
  | nil => simp
  | cons id found ih =>
      have hReport : context.report message id = context.extend [context.reportOf message id] := rfl
      rw [List.foldl_cons, ih, hReport, extend_extend]
      rfl

end RuleContext

namespace Rule

variable (rule : Rule) (context : RuleContext)

/-- What a check of an attribute reports. -/
def reportsAt (attr : NodeId) : List Diagnostic :=
  (rule.violations context attr).map (context.reportOf rule.message)

theorem check_snd (attr : NodeId) :
    (rule.check context attr).2 = context.extend (rule.reportsAt context attr) :=
  context.foldl_report rule.message (rule.violations context attr)

/-- What was reported before does not matter to a check. -/
theorem reportsAt_extend (more : List Diagnostic) :
    rule.reportsAt (context.extend more) = rule.reportsAt context := rfl

/-- A rule that checks attributes one after another reports what it reports at each. -/
theorem foldl_check (attrs : List NodeId) :
    attrs.foldl (fun context attr => (rule.check context attr).2) context =
      context.extend (attrs.flatMap (rule.reportsAt context)) := by
  induction attrs generalizing context with
  | nil => simp
  | cons attr attrs ih =>
      rw [List.foldl_cons, ih, check_snd, reportsAt_extend, RuleContext.extend_extend,
        List.flatMap_cons]

end Rule

/-- The origins of an expression are nodes. -/
theorem SourceUnit.node?_of_mem_origins {unit : SourceUnit} {expression origin : NodeId}
    (h : origin ∈ unit.origins expression) : ∃ node, unit.tree.node? origin = some node := by
  obtain ⟨⟨kind, hKind, -⟩, -⟩ := reaches_of_mem_originsWithin h
  obtain ⟨node, hNode, -⟩ := Option.map_eq_some_iff.mp hKind
  exact ⟨node, hNode⟩

namespace RegisteredRule

variable (registered : RegisteredRule) (settings : Settings) (unit : SourceUnit)

/-- From a fresh context a rule reports at an attribute what it owes to it. -/
theorem reportsAt_freshContext (attr : NodeId) :
    registered.rule.reportsAt (registered.freshContext settings unit) attr =
      if registered.admits settings unit && !registered.spares unit.tree attr
        then registered.dueAt unit attr else [] := by
  have hGate : (registered.freshContext settings unit).gateOpen =
      registered.admits settings unit := rfl
  have hExempt : (registered.freshContext settings unit).exempts attr =
      registered.spares unit.tree attr := by
    simp only [RuleContext.exempts, freshContext, spares]
    cases registered.options.nativeAllowList <;> cases unit.tree.tagName? attr <;> rfl
  rw [Rule.reportsAt, Rule.violations, hGate, hExempt]
  cases registered.admits settings unit with
  | false => rfl
  | true =>
      cases hContained : unit.tree.containedExpression? attr with
      | none => simp [freshContext, hContained, dueAt]
      | some expression =>
          cases registered.spares unit.tree attr with
          | true => simp [freshContext, hContained]
          | false =>
              simp only [freshContext, hContained, dueAt, Option.toList_some,
                List.flatMap_singleton]
              -- the span of an origin is never made up
              rw [← List.filterMap_eq_map]
              refine List.filterMap_congr fun origin hMem => ?_
              obtain ⟨node, hNode⟩ :=
                SourceUnit.node?_of_mem_origins (List.mem_filter.mp hMem).1
              simp [RuleContext.reportOf, hNode]

/-- Over the arena a rule reports what it owes, if it looks at the unit. -/
theorem flatMap_reportsAt :
    unit.tree.attributes.flatMap
        (registered.rule.reportsAt (registered.freshContext settings unit)) =
      if registered.admits settings unit then registered.due unit else [] := by
  rw [due, funext (registered.reportsAt_freshContext settings unit)]
  cases registered.admits settings unit with
  | false => simp
  | true =>
      simp only [Bool.true_and, if_true]
      induction unit.tree.attributes with
      | nil => rfl
      | cons attr attrs ih =>
          rw [List.flatMap_cons, ih]
          cases hSpares : registered.spares unit.tree attr <;> simp [hSpares]

end RegisteredRule

namespace Diagnostic

theorem precedes_iff (a b : Diagnostic) :
    a.precedes b ↔ a.span.start < b.span.start ∨ a.span.start = b.span.start ∧ a.rule ≤ b.rule := by
  simp [precedes]

theorem precedes_trans (a b c : Diagnostic) (hFirst : a.precedes b) (hSecond : b.precedes c) :
    a.precedes c := by
  rw [precedes_iff] at *
  rcases hFirst with hFirst | ⟨hFirst, hRule⟩
  · exact .inl (by omega)
  · rcases hSecond with hSecond | ⟨hSecond, hNext⟩
    · exact .inl (by omega)
    · exact .inr ⟨hFirst.trans hSecond, String.le_trans hRule hNext⟩

theorem precedes_total (a b : Diagnostic) : a.precedes b || b.precedes a := by
  rw [Bool.or_eq_true, precedes_iff, precedes_iff]
  rcases Nat.lt_trichotomy a.span.start b.span.start with hLt | hEq | hGt
  · exact .inl (.inl hLt)
  · rcases String.le_total a.rule b.rule with hLe | hLe
    · exact .inl (.inr ⟨hEq, hLe⟩)
    · exact .inr (.inr ⟨hEq.symm, hLe⟩)
  · exact .inr (.inl hGt)

end Diagnostic

namespace Linter

variable (linter : Linter)

/-- Each rule keeps to its own context: a run of all rules is a run of each. -/
theorem foldl_dispatch (attrs : List NodeId) (contexts : List (Rule × RuleContext)) :
    attrs.foldl dispatch contexts = contexts.map fun (rule, context) =>
      (rule, attrs.foldl (fun context attr => (rule.check context attr).2) context) := by
  induction attrs generalizing contexts with
  | nil => simp
  | cons attr attrs ih => simp [ih, dispatch]

/-- Before they are sorted, the reports are those of one rule after the other over the walk. -/
theorem reports_eq (unit : SourceUnit) :
    ((unit.tree.walkedAttributes.foldl dispatch (linter.contexts unit)).flatMap
      fun (_, context) => context.diagnostics) =
      linter.rules.flatMap fun registered => unit.tree.walkedAttributes.flatMap
        (registered.rule.reportsAt (registered.freshContext linter.settings unit)) := by
  rw [foldl_dispatch, contexts, List.map_map, List.flatMap_map]
  refine List.flatMap_congr fun registered _ => ?_
  simp only [Function.comp_apply, Rule.foldl_check]
  rfl

/-- A walk that meets every attribute once finds everything that is due. -/
theorem reports_perm {unit : SourceUnit}
    (h : unit.tree.walkedAttributes.Perm unit.tree.attributes) :
    ((unit.tree.walkedAttributes.foldl dispatch (linter.contexts unit)).flatMap
      fun (_, context) => context.diagnostics).Perm (linter.due unit) := by
  rw [reports_eq, due]
  have hRule : ∀ registered : RegisteredRule,
      (unit.tree.walkedAttributes.flatMap (registered.rule.reportsAt
        (registered.freshContext linter.settings unit))).Perm
        (if registered.admits linter.settings unit then registered.due unit else []) := by
    intro registered
    rw [← registered.flatMap_reportsAt linter.settings unit]
    exact h.flatMap_right _
  induction linter.rules with
  | nil => simp
  | cons registered rules ih =>
      rw [List.flatMap_cons]
      refine ((hRule registered).append ih).trans ?_
      cases hAdmits : registered.admits linter.settings unit <;> simp [hAdmits]

/-- The reports about the unit of a program are exactly what the rules owe to the attributes of its
arena, with their multiplicities, by start and rule name. -/
theorem lintUnit_sound_complete (program : Program) (file source : String) :
    (linter.lintUnit (program.toUnit file source)).Perm (linter.due (program.toUnit file source)) ∧
      (linter.lintUnit (program.toUnit file source)).Pairwise fun a b =>
        a.span.start < b.span.start ∨ a.span.start = b.span.start ∧ a.rule ≤ b.rule := by
  constructor
  · obtain ⟨root, uses, hRenders⟩ := program.renders_toUnit file source
    exact (List.mergeSort_perm _ _).trans (linter.reports_perm hRenders.walkedAttributes_perm)
  · refine (List.pairwise_mergeSort Diagnostic.precedes_trans Diagnostic.precedes_total _).imp ?_
    exact (Diagnostic.precedes_iff _ _).mp

end Linter

end PropTrace
