import Mathlib.Data.List.Perm.Basic
import PropTrace.Proofs.Reports

/-!
Rules do not see each other. The reports of a linter are those of its rules, sorted by a key that
names the rule, so two reports with equal keys come from one rule and stand in the order in which
that rule made them. Registering the rules in another order changes nothing, and leaving rules out
takes away their reports and nothing else.
-/
namespace PropTrace

section stableSort

variable {α : Type} {le : α → α → Bool}

/-- Whether an element comes neither before nor after `key`. -/
def tied (le : α → α → Bool) (key a : α) : Bool := le a key && le key a

/-- A stable sort leaves tied elements in the order they had. -/
theorem filter_tied_mergeSort (trans : ∀ a b c, le a b → le b c → le a c)
    (total : ∀ a b, le a b || le b a) (key : α) (l : List α) :
    (l.mergeSort le).filter (tied le key) = l.filter (tied le key) := by
  have hSorted : (l.filter (tied le key)).Pairwise fun a b => le a b := by
    refine List.pairwise_of_forall_mem_list ?_
    intro a hFirst b hSecond
    have hA := (List.mem_filter.mp hFirst).2
    have hB := (List.mem_filter.mp hSecond).2
    simp only [tied, Bool.and_eq_true] at hA hB
    exact trans a key b hA.1 hB.2
  have hSublist : (l.filter (tied le key)).Sublist ((l.mergeSort le).filter (tied le key)) := by
    have hInside := (List.sublist_mergeSort trans total hSorted List.filter_sublist).filter
      (tied le key)
    rwa [List.filter_filter, funext fun a => Bool.and_self _] at hInside
  have hLength := ((List.mergeSort_perm l le).filter (tied le key)).length_eq
  exact (hSublist.eq_of_length hLength.symm).symm

/-- Sorted lists are equal if they agree on every class of tied elements. -/
theorem eq_of_filter_tied_eq (total : ∀ a b, le a b || le b a) {first second : List α}
    (hFirst : first.Pairwise fun a b => le a b) (hSecond : second.Pairwise fun a b => le a b)
    (hTied : ∀ key, first.filter (tied le key) = second.filter (tied le key)) :
    first = second := by
  have hSelf : ∀ a, tied le a a := by
    intro a
    have hLe := total a a
    simpa [tied] using hLe
  have hMem : ∀ {left right : List α} {a : α},
      (∀ key, left.filter (tied le key) = right.filter (tied le key)) → a ∈ left → a ∈ right := by
    intro left right a hSame hLeft
    have hKept : a ∈ left.filter (tied le a) := List.mem_filter.mpr ⟨hLeft, hSelf a⟩
    rw [hSame a] at hKept
    exact (List.mem_filter.mp hKept).1
  induction first generalizing second with
  | nil =>
      refine (List.eq_nil_iff_forall_not_mem.mpr ?_).symm
      intro a hA
      exact absurd (hMem (fun key => (hTied key).symm) hA) List.not_mem_nil
  | cons a first ih =>
      cases second with
      | nil => exact absurd (hMem hTied List.mem_cons_self) List.not_mem_nil
      | cons b second =>
          -- each head comes before everything in the other list, so the heads are tied
          have hAB : le a b := by
            rcases List.mem_cons.mp (hMem (fun key => (hTied key).symm) List.mem_cons_self) with
              rfl | hB
            · simpa using total b b
            · exact List.rel_of_pairwise_cons hFirst hB
          have hBA : le b a := by
            rcases List.mem_cons.mp (hMem hTied List.mem_cons_self) with rfl | hA
            · simpa using total a a
            · exact List.rel_of_pairwise_cons hSecond hA
          have hHeads := hTied b
          have hTiedA : tied le b a := by simp [tied, hAB, hBA]
          rw [List.filter_cons_of_pos hTiedA, List.filter_cons_of_pos (hSelf b)] at hHeads
          obtain rfl := (List.cons.inj hHeads).1
          congr 1
          refine ih hFirst.of_cons hSecond.of_cons fun key => ?_
          have hKey := hTied key
          cases hHead : tied le key a <;> simpa [hHead] using hKey

/-- Lists that agree on every class of tied elements are sorted into the same list. -/
theorem mergeSort_eq_of_filter_tied_eq (trans : ∀ a b c, le a b → le b c → le a c)
    (total : ∀ a b, le a b || le b a) {first second : List α}
    (hTied : ∀ key, first.filter (tied le key) = second.filter (tied le key)) :
    first.mergeSort le = second.mergeSort le := by
  refine eq_of_filter_tied_eq total (List.pairwise_mergeSort trans total _)
    (List.pairwise_mergeSort trans total _) fun key => ?_
  rw [filter_tied_mergeSort trans total, filter_tied_mergeSort trans total, hTied key]

/-- Sorting what is kept is keeping from what is sorted. -/
theorem filter_mergeSort (trans : ∀ a b c, le a b → le b c → le a c)
    (total : ∀ a b, le a b || le b a) (keep : α → Bool) (l : List α) :
    (l.mergeSort le).filter keep = (l.filter keep).mergeSort le := by
  refine eq_of_filter_tied_eq total ((List.pairwise_mergeSort trans total _).filter keep)
    (List.pairwise_mergeSort trans total _) fun key => ?_
  rw [filter_tied_mergeSort trans total, List.filter_comm, filter_tied_mergeSort trans total,
    List.filter_comm]

end stableSort

/-- Reports are tied if they agree in start and rule. -/
theorem Diagnostic.tied_precedes (key d : Diagnostic) :
    tied precedes key d = (decide (d.span.start = key.span.start) && decide (d.rule = key.rule)) := by
  rw [Bool.eq_iff_iff, tied, Bool.and_eq_true, Bool.and_eq_true, precedes_iff, precedes_iff,
    decide_eq_true_iff, decide_eq_true_iff]
  constructor
  · rintro ⟨hBefore, hAfter⟩
    rcases hBefore with hLt | ⟨hStart, hRule⟩
    · omega
    · rcases hAfter with hGt | ⟨-, hOther⟩
      · omega
      · exact ⟨hStart, String.le_antisymm hRule hOther⟩
  · rintro ⟨hStart, hRule⟩
    exact ⟨.inr ⟨hStart, hRule ▸ String.le_refl _⟩, .inr ⟨hStart.symm, hRule ▸ String.le_refl _⟩⟩

namespace RegisteredRule

variable (registered : RegisteredRule) (settings : Settings) (unit : SourceUnit)

/-- What a rule reports in a walk over a unit, in the order it reports. -/
def reports : List Diagnostic :=
  unit.tree.walkedAttributes.flatMap
    (registered.rule.reportsAt (registered.freshContext settings unit))

/-- A rule reports in its own name. -/
theorem rule_of_mem_reports {d : Diagnostic} (h : d ∈ registered.reports settings unit) :
    d.rule = registered.name := by
  obtain ⟨attr, -, hReport⟩ := List.mem_flatMap.mp h
  obtain ⟨origin, -, rfl⟩ := List.mem_map.mp hReport
  rfl

variable {settings unit}

/-- Keeping reports by the name of the rule is keeping rules by name. -/
theorem filter_reports (keep : String → Bool) (rules : List RegisteredRule) :
    (rules.flatMap fun registered => registered.reports settings unit).filter
        (fun d => keep d.rule) =
      (rules.filter fun registered => keep registered.name).flatMap
        fun registered => registered.reports settings unit := by
  have hRule : ∀ registered : RegisteredRule,
      (registered.reports settings unit).filter (fun d => keep d.rule) =
        if keep registered.name then registered.reports settings unit else [] := by
    intro registered
    cases hKeep : keep registered.name with
    | true =>
        refine List.filter_eq_self.mpr fun d hMem => ?_
        rw [registered.rule_of_mem_reports settings unit hMem, hKeep]
    | false =>
        refine List.filter_eq_nil_iff.mpr fun d hMem => ?_
        rw [registered.rule_of_mem_reports settings unit hMem, hKeep]
        exact Bool.false_ne_true
  induction rules with
  | nil => rfl
  | cons registered rules ih =>
      rw [List.flatMap_cons, List.filter_append, hRule, ih]
      cases hKeep : keep registered.name <;> simp [hKeep]

/-- Among rules with different names a name picks out one rule. -/
theorem filter_name_eq_singleton {rules : List RegisteredRule}
    (hNames : (rules.map RegisteredRule.name).Nodup) {registered : RegisteredRule}
    (hMem : registered ∈ rules) :
    (rules.filter fun other => decide (other.name = registered.name)) = [registered] := by
  induction rules with
  | nil => exact absurd hMem List.not_mem_nil
  | cons first rules ih =>
      obtain ⟨hFresh, hRest⟩ := List.nodup_cons.mp hNames
      rcases List.mem_cons.mp hMem with rfl | hMem
      · have hNone : (rules.filter fun other => decide (other.name = registered.name)) = [] := by
          refine List.filter_eq_nil_iff.mpr fun other hOther => ?_
          intro hSame
          exact hFresh (of_decide_eq_true hSame ▸ List.mem_map_of_mem hOther)
        simp [hNone]
      · have hNe : first.name ≠ registered.name := fun hSame =>
          hFresh (hSame ▸ List.mem_map_of_mem hMem)
        simp [hNe, ih hRest hMem]

/-- The order of rules with different names does not matter to what a name picks out. -/
theorem filter_name_eq_of_perm {rules others : List RegisteredRule} (hPerm : others.Perm rules)
    (hNames : (rules.map RegisteredRule.name).Nodup) (name : String) :
    (others.filter fun registered => decide (registered.name = name)) =
      rules.filter fun registered => decide (registered.name = name) := by
  by_cases hFound : ∃ registered ∈ rules, registered.name = name
  · obtain ⟨registered, hMem, rfl⟩ := hFound
    have hOthers := (hPerm.map RegisteredRule.name).nodup_iff.mpr hNames
    rw [filter_name_eq_singleton hNames hMem,
      filter_name_eq_singleton hOthers (hPerm.mem_iff.mpr hMem)]
  · have hNone : (rules.filter fun registered => decide (registered.name = name)) = [] :=
      List.filter_eq_nil_iff.mpr fun registered hMem hName =>
        hFound ⟨registered, hMem, of_decide_eq_true hName⟩
    have hFilter := hPerm.filter fun registered => decide (registered.name = name)
    rw [hNone] at hFilter ⊢
    exact hFilter.eq_nil

end RegisteredRule

namespace Linter

variable (linter : Linter) (unit : SourceUnit)

theorem lintUnit_eq :
    linter.lintUnit unit = (linter.rules.flatMap fun registered =>
      registered.reports linter.settings unit).mergeSort Diagnostic.precedes :=
  congrArg (fun reports => List.mergeSort reports Diagnostic.precedes) (linter.reports_eq unit)

/-- The same linter with other rules. -/
def withRules (rules : List RegisteredRule) : Linter := { linter with rules }

/-- The same linter without the rules of this name. -/
def without (name : String) : Linter :=
  linter.withRules (linter.rules.filter fun registered => decide (registered.name ≠ name))

/-- Keeping rules by name keeps their reports, in the order these had. -/
theorem filter_lintUnit (keep : String → Bool) :
    ((linter.lintUnit unit).filter fun d => keep d.rule) =
      (linter.withRules (linter.rules.filter fun registered => keep registered.name)).lintUnit
        unit := by
  rw [lintUnit_eq, lintUnit_eq,
    filter_mergeSort Diagnostic.precedes_trans Diagnostic.precedes_total,
    RegisteredRule.filter_reports]
  rfl

/-- Rules with different names may be registered in any order. -/
theorem lintUnit_perm (hNames : linter.ruleNames.Nodup) {rules : List RegisteredRule}
    (hPerm : rules.Perm linter.rules) :
    (linter.withRules rules).lintUnit unit = linter.lintUnit unit := by
  rw [lintUnit_eq, lintUnit_eq]
  refine mergeSort_eq_of_filter_tied_eq Diagnostic.precedes_trans Diagnostic.precedes_total ?_
  intro key
  -- tied reports bear one name, and the name picks out the same rule from both lists
  have hSplit : ∀ l : List Diagnostic, l.filter (tied Diagnostic.precedes key) =
      (l.filter fun d => decide (d.rule = key.rule)).filter
        fun d => decide (d.span.start = key.span.start) := by
    intro l
    rw [List.filter_filter, funext (Diagnostic.tied_precedes key)]
  rw [hSplit, hSplit]
  congr 1
  have hReports : ∀ listed : List RegisteredRule,
      (listed.flatMap fun registered => registered.reports linter.settings unit).filter
          (fun d => decide (d.rule = key.rule)) =
        (listed.filter fun registered => decide (registered.name = key.rule)).flatMap
          fun registered => registered.reports linter.settings unit :=
    RegisteredRule.filter_reports fun name => decide (name = key.rule)
  calc ((linter.withRules rules).rules.flatMap fun registered =>
          registered.reports linter.settings unit).filter fun d => decide (d.rule = key.rule)
      _ = (rules.filter fun registered => decide (registered.name = key.rule)).flatMap
          fun registered => registered.reports linter.settings unit := hReports rules
      _ = (linter.rules.filter fun registered => decide (registered.name = key.rule)).flatMap
          fun registered => registered.reports linter.settings unit := by
        rw [RegisteredRule.filter_name_eq_of_perm hPerm hNames]
      _ = (linter.rules.flatMap fun registered =>
          registered.reports linter.settings unit).filter fun d => decide (d.rule = key.rule) :=
        (hReports linter.rules).symm

/-- What an entry of a configuration adds to a linter: rules of its name, and the same ones to every
linter. -/
theorem withEntry_adds {linter next : Linter} {name : String} {value : Json}
    (h : linter.withEntry name value = .ok next) :
    ∃ added, (∀ registered ∈ added, registered.name = name) ∧
      ∀ other : Linter, other.withEntry name value = .ok (other.withRules (other.rules ++ added)) := by
  unfold withEntry at h
  split at h
  · refine ⟨[], by simp, fun other => ?_⟩
    rw [List.append_nil]
    rfl
  · next hTrue =>
      cases hBuiltin : Builtin.ofName? name with
      | none => simp [hBuiltin] at h
      | some builtin =>
          cases hOptions : RuleOptions.ofJson value with
          | error fault => simp [hBuiltin, hOptions] at h
          | ok options =>
              refine ⟨[{ name, rule := builtin.rule, options }], by simp, fun other => ?_⟩
              unfold withEntry
              split
              · exact absurd rfl hTrue
              · simp [hBuiltin, hOptions, withRule, withRules]

/-- Leaving out a name leaves out all rules of that name. -/
theorem without_more_same {name : String} {added : List RegisteredRule}
    (hAdded : ∀ registered ∈ added, registered.name = name) :
    (linter.withRules (linter.rules ++ added)).without name = linter.without name := by
  have hNone : (added.filter fun registered => decide (registered.name ≠ name)) = [] := by
    refine List.filter_eq_nil_iff.mpr fun registered hMem => ?_
    simp [hAdded registered hMem]
  rw [without, without, withRules, withRules, withRules, List.filter_append, hNone,
    List.append_nil]

theorem without_more_other {name : String} {added : List RegisteredRule}
    (hAdded : ∀ registered ∈ added, registered.name ≠ name) :
    (linter.withRules (linter.rules ++ added)).without name =
      (linter.without name).withRules ((linter.without name).rules ++ added) := by
  have hAll : (added.filter fun registered => decide (registered.name ≠ name)) = added := by
    refine List.filter_eq_self.mpr fun registered hMem => ?_
    simp [hAdded registered hMem]
  rw [without, without, withRules, withRules, withRules, withRules, List.filter_append, hAll]

/-- Registers what the entries of a configuration say, one after another. -/
def withEntries (linter : Linter) (entries : List (String × Json)) : Except LintError Linter :=
  entries.foldlM (fun linter (name, value) => linter.withEntry name value) linter

theorem withEntries_cons (linter : Linter) (name : String) (value : Json)
    (entries : List (String × Json)) :
    linter.withEntries ((name, value) :: entries) =
      (linter.withEntry name value).bind fun next => next.withEntries entries := rfl

/-- If all entries are in order, so are those about other rules than `name`, and they add the same
rules but those of that name. -/
theorem withEntries_filter {linter next : Linter} {entries : List (String × Json)}
    (h : linter.withEntries entries = .ok next) (name : String) :
    (linter.without name).withEntries (entries.filter fun entry => decide (entry.1 ≠ name)) =
      .ok (next.without name) := by
  induction entries generalizing linter with
  | nil =>
      cases h
      rfl
  | cons entry entries ih =>
      obtain ⟨other, value⟩ := entry
      rw [withEntries_cons] at h
      cases hFirst : linter.withEntry other value with
      | error fault => simp [hFirst, Except.bind] at h
      | ok middle =>
          obtain ⟨added, hAdded, hSame⟩ := withEntry_adds hFirst
          obtain rfl := Except.ok.inj (hFirst.symm.trans (hSame linter))
          rw [hFirst] at h
          have hRest := ih h
          by_cases hName : other = name
          · rw [linter.without_more_same fun registered hMem => (hAdded registered hMem).trans hName]
              at hRest
            rw [List.filter_cons_of_neg (by simp [hName])]
            exact hRest
          · have hOther : ∀ registered ∈ added, registered.name ≠ name := by
              intro registered hMem
              rw [hAdded registered hMem]
              exact hName
            rw [List.filter_cons_of_pos (by simp [hName]), withEntries_cons, hSame,
              ← linter.without_more_other hOther]
            exact hRest

/-- Entries that are set to `false` are as good as none. -/
theorem withEntries_of_disabled (linter : Linter) {entries : List (String × Json)} {name : String}
    (hDisabled : ∀ value, (name, value) ∈ entries → value = .bool false) :
    linter.withEntries entries =
      linter.withEntries (entries.filter fun entry => decide (entry.1 ≠ name)) := by
  induction entries generalizing linter with
  | nil => rfl
  | cons entry entries ih =>
      obtain ⟨other, value⟩ := entry
      have hRest := fun linter : Linter => ih linter fun value hMem =>
        hDisabled value (List.mem_cons_of_mem _ hMem)
      by_cases hName : other = name
      · subst hName
        obtain rfl := hDisabled value List.mem_cons_self
        rw [List.filter_cons_of_neg (by simp), ← hRest]
        rfl
      · rw [List.filter_cons_of_pos (by simp [hName]), withEntries_cons, withEntries_cons]
        cases linter.withEntry other value with
        | error fault => rfl
        | ok next => exact hRest next

end Linter

/-- A configuration that agrees with another one on everything but the rule `name` and sets that
rule to `false`. -/
structure LintConfig.TurnsOff (off config : LintConfig) (name : String) : Prop where
  settings : off.settings = config.settings
  others : (off.rules.filter fun entry => decide (entry.1 ≠ name)) =
    config.rules.filter fun entry => decide (entry.1 ≠ name)
  disabled : ∀ value, (name, value) ∈ off.rules → value = .bool false

namespace Linter

theorem ofConfig_of_turnsOff {off config : LintConfig} {name : String} {linter : Linter}
    (hOff : off.TurnsOff config name) (h : ofConfig config = .ok linter) :
    ofConfig off = .ok (linter.without name) := by
  have hEntries : withEntries { settings := config.settings } config.rules = .ok linter := h
  calc ofConfig off
      _ = withEntries { settings := config.settings } off.rules := by rw [← hOff.settings]; rfl
      _ = withEntries { settings := config.settings }
          (config.rules.filter fun entry => decide (entry.1 ≠ name)) := by
        rw [withEntries_of_disabled _ hOff.disabled, hOff.others]
      _ = .ok (linter.without name) := withEntries_filter hEntries name

/-- A built-in rule as a configuration registers it for `true`. -/
def ofBuiltin (builtin : Builtin) : RegisteredRule :=
  { name := builtin.name, rule := builtin.rule, options := {} }

theorem withEntries_enabled (linter : Linter) (builtins : List Builtin) :
    linter.withEntries (builtins.map fun builtin => (builtin.name, .bool true)) =
      .ok (linter.withRules (linter.rules ++ builtins.map ofBuiltin)) := by
  induction builtins generalizing linter with
  | nil => rw [List.map_nil, List.map_nil, List.append_nil]; rfl
  | cons builtin builtins ih =>
      have hFirst : linter.withEntry builtin.name (.bool true) =
          .ok (linter.withRules (linter.rules ++ [ofBuiltin builtin])) := by
        cases builtin <;> rfl
      rw [List.map_cons, withEntries_cons, hFirst]
      refine (ih _).trans ?_
      simp [withRules]

/-- A configuration that enables the built-in rules, in whatever order it names them, reports what
the recommended linter reports. -/
theorem ofConfig_enabled {config : LintConfig} (hSettings : config.settings = {})
    (hRules : config.rules.Perm (Builtin.all.map fun builtin => (builtin.name, .bool true))) :
    ∃ linter, ofConfig config = .ok linter ∧
      ∀ file source, linter.lintSource file source = recommended.lintSource file source := by
  have hSplit : Relation.Comp (fun (rules : List (String × Json)) (builtins : List Builtin) =>
      rules = builtins.map fun builtin => (builtin.name, .bool true)) List.Perm
      config.rules Builtin.all := by
    rw [List.eq_map_comp_perm]
    exact hRules
  obtain ⟨builtins, hNamed, hPerm⟩ := hSplit
  have hLinter : ofConfig config = .ok (recommended.withRules (builtins.map ofBuiltin)) := by
    have hEntries := withEntries_enabled { settings := {} } builtins
    rw [← hNamed, ← hSettings] at hEntries
    refine Eq.trans hEntries ?_
    rw [hSettings]
    rfl
  have hNames : recommended.ruleNames.Nodup := by decide
  refine ⟨_, hLinter, fun file source => ?_⟩
  unfold lintSource
  cases SourceUnit.ofText? file source with
  | none => rfl
  | some unit =>
      have hReports := recommended.lintUnit_perm unit hNames (hPerm.map ofBuiltin)
      exact congrArg Except.ok hReports

/-- Rules with different names are independent. They may be registered in any order, and of all
reports those in the name of one rule are what that rule reports alone. So a configuration that
turns a rule off loses the reports of that rule and keeps the others in their order, and one that
enables all built-in rules reports what the recommended linter does, whatever the order in which it
names them. -/
theorem rules_independent (linter : Linter) (hNames : linter.ruleNames.Nodup) (unit : SourceUnit) :
    (∀ rules : List RegisteredRule, rules.Perm linter.rules →
      (linter.withRules rules).lintUnit unit = linter.lintUnit unit) ∧
    (∀ registered ∈ linter.rules,
      ((linter.lintUnit unit).filter fun d => decide (d.rule = registered.name)) =
        (linter.withRules [registered]).lintUnit unit) ∧
    (∀ (config off : LintConfig) (name : String) (configured : Linter),
      ofConfig config = .ok configured → off.TurnsOff config name →
        ∃ rest, ofConfig off = .ok rest ∧ rest.lintUnit unit =
          (configured.lintUnit unit).filter fun d => decide (d.rule ≠ name)) ∧
    ∀ config : LintConfig, config.settings = {} →
      config.rules.Perm (Builtin.all.map fun builtin => (builtin.name, .bool true)) →
        ∃ enabled, ofConfig config = .ok enabled ∧
          ∀ file source, enabled.lintSource file source = recommended.lintSource file source := by
  refine ⟨?_, ?_, ?_, ?_⟩
  · intro rules hPerm
    exact linter.lintUnit_perm unit hNames hPerm
  · intro registered hMem
    have hKept := linter.filter_lintUnit unit fun name => decide (name = registered.name)
    rwa [RegisteredRule.filter_name_eq_singleton hNames hMem] at hKept
  · intro config off name configured hConfig hOff
    refine ⟨configured.without name, ofConfig_of_turnsOff hOff hConfig, ?_⟩
    exact (configured.filter_lintUnit unit fun other => decide (other ≠ name)).symm
  · intro config hSettings hRules
    exact ofConfig_enabled hSettings hRules

/-- Two of the built-in rules. -/
def objectsAndArrays : Linter :=
  recommended.withRules [ofBuiltin .noNewObject, ofBuiltin .noNewArray]

/-- `<Box a={x ? {} : []} />;`, about which both rules have something to report. -/
def objectOrArray : SourceUnit :=
  Program.toUnit {
    body := .cons (.expression (.jsxExpr (.element (.plain "Box" ⟨1, 4⟩)
      (.cons (.namedAttribute "a" (.present (.container (.present
        (.conditional (.identifier ⟨"x", ⟨8, 9⟩⟩) (.object .nil ⟨12, 14⟩) (.array .nil ⟨17, 19⟩)
          ⟨8, 19⟩)) ⟨7, 20⟩)) ⟨5, 20⟩) .nil)
      ⟨0, 23⟩ .nil ⟨0, 23⟩)) ⟨0, 24⟩) .nil
    span := ⟨0, 24⟩ } "test.jsx" "<Box a=\x7bx ? \x7b\x7d : []\x7d />;"

theorem objectsAndArrays_independent :
    objectsAndArrays.ruleNames.Nodup ∧
      (objectsAndArrays.withRules objectsAndArrays.rules.reverse).lintUnit objectOrArray =
        objectsAndArrays.lintUnit objectOrArray ∧
      ((objectsAndArrays.lintUnit objectOrArray).filter fun d =>
        decide (d.rule = "jsx-no-new-array-as-prop")) =
          (objectsAndArrays.withRules [ofBuiltin .noNewArray]).lintUnit objectOrArray ∧
      ∃ rest, ofConfig { rules := [("jsx-no-new-array-as-prop", .bool false),
          ("jsx-no-new-object-as-prop", .bool true)] } = .ok rest ∧
        rest.lintUnit objectOrArray = ((objectsAndArrays.withRules
          objectsAndArrays.rules.reverse).lintUnit objectOrArray).filter
            fun d => decide (d.rule ≠ "jsx-no-new-array-as-prop") := by
  have hNames : objectsAndArrays.ruleNames.Nodup := by decide
  obtain ⟨hOrder, hAlone, hConfig, -⟩ := rules_independent objectsAndArrays hNames objectOrArray
  refine ⟨hNames, hOrder _ (List.reverse_perm _), ?_, ?_⟩
  · exact hAlone (ofBuiltin .noNewArray) (by simp [objectsAndArrays, withRules])
  · refine hConfig { rules := [("jsx-no-new-array-as-prop", .bool true),
      ("jsx-no-new-object-as-prop", .bool true)] } _ "jsx-no-new-array-as-prop" _ rfl ?_
    exact ⟨rfl, by simp, by simp⟩

end Linter

end PropTrace
