import Mathlib.Data.List.Sort
import PropTrace.Proofs.ConfigText
import PropTrace.Proofs.Independence

/-!
The linter of a configuration. Each entry that is not set to `false` either registers one rule or
is at fault, whatever the other entries are; so all entries together register their rules in the
order of the names, or the first fault in that order is the error.
-/
namespace PropTrace

open Text

/-! ## Entries -/

/-- Whether a rule is turned off by this value. -/
def Json.isFalse : Json → Bool
  | .bool false => true
  | _ => false

namespace LintConfig

/-- The entries of the rules that are not turned off. -/
def enabled (config : LintConfig) : List (String × Json) :=
  config.rules.filter fun entry => !entry.2.isFalse

end LintConfig

/-- An entry names a built-in rule and spells its options, and so they are registered. -/
structure Requests (entry : String × Json) (registered : RegisteredRule) : Prop where
  name : registered.name = entry.1
  rule : ∃ builtin : Builtin, builtin.name = entry.1 ∧ registered.rule = builtin.rule
  options : RuleOptions.ofJson entry.2 = .ok registered.options

/-- What is wrong about an entry. Options are not looked at unless there is a rule of the name. -/
inductive Faults : String × Json → LintError → Prop where
  | unknownRule {name : String} {value : Json} (hName : ∀ builtin : Builtin, builtin.name ≠ name) :
      Faults (name, value) (.unknownRule name)
  | invalidOptions {builtin : Builtin} {name : String} {value : Json} {fault : OptionsFault}
      (hName : builtin.name = name) (hOptions : RuleOptions.ofJson value = .error fault) :
      Faults (name, value) (.invalidOptions name fault)

namespace Builtin

variable {name : String}

theorem ofName?_eq_some_iff {builtin : Builtin} :
    ofName? name = some builtin ↔ builtin.name = name := by
  constructor
  · intro hFound
    simpa using List.find?_some hFound
  · rintro rfl
    cases builtin <;> rfl

theorem ofName?_eq_none_iff : ofName? name = none ↔ ∀ builtin : Builtin, builtin.name ≠ name := by
  rw [Option.eq_none_iff_forall_ne_some]
  exact forall_congr' fun builtin => not_congr ofName?_eq_some_iff

end Builtin

/-- An entry at fault registers nothing. -/
theorem Faults.not_requests {entry : String × Json} {error : LintError}
    {registered : RegisteredRule} (hFaults : Faults entry error) :
    ¬Requests entry registered := by
  intro hRequests
  cases hFaults with
  | unknownRule hName =>
      obtain ⟨builtin, hBuiltin, -⟩ := hRequests.rule
      exact hName builtin hBuiltin
  | invalidOptions _ hOptions => simp [hRequests.options] at hOptions

namespace Linter

variable {linter next : Linter} {error : LintError} {name : String} {value : Json}
  {entries : List (String × Json)}

theorem withEntry_of_isFalse (hFalse : value.isFalse = true) :
    linter.withEntry name value = .ok linter := by
  unfold Json.isFalse at hFalse
  split at hFalse
  · rfl
  · simp at hFalse

/-- What an entry does to a linter if it is not set to `false`. -/
theorem withEntry_of_not_isFalse (hValue : value.isFalse = false) :
    linter.withEntry name value =
      match Builtin.ofName? name with
      | none => .error (.unknownRule name)
      | some builtin =>
        match RuleOptions.ofJson value with
        | .ok options => .ok (linter.withRule name builtin.rule options)
        | .error fault => .error (.invalidOptions name fault) := by
  unfold withEntry
  split
  · simp [Json.isFalse] at hValue
  · rfl

theorem withEntry_eq_ok_iff (hValue : value.isFalse = false) :
    linter.withEntry name value = .ok next ↔
      ∃ registered, Requests (name, value) registered ∧
        next = linter.withRules (linter.rules ++ [registered]) := by
  rw [withEntry_of_not_isFalse hValue]
  constructor
  · intro hNext
    split at hNext
    next => simp at hNext
    next builtin hName =>
      split at hNext
      next options hOptions =>
        obtain rfl := Except.ok.inj hNext
        have hBuiltin := Builtin.ofName?_eq_some_iff.mp hName
        exact ⟨⟨name, builtin.rule, options⟩, ⟨rfl, ⟨builtin, hBuiltin, rfl⟩, hOptions⟩, rfl⟩
      next => simp at hNext
  · rintro ⟨⟨_, _, options⟩, ⟨rfl, ⟨builtin, hBuiltin, rfl⟩, hOptions⟩, rfl⟩
    rw [Builtin.ofName?_eq_some_iff.mpr hBuiltin, hOptions]
    rfl

theorem withEntry_eq_error_iff (hValue : value.isFalse = false) :
    linter.withEntry name value = .error error ↔ Faults (name, value) error := by
  rw [withEntry_of_not_isFalse hValue]
  constructor
  · intro hError
    split at hError
    next hName =>
      obtain rfl := Except.error.inj hError
      exact .unknownRule (Builtin.ofName?_eq_none_iff.mp hName)
    next builtin hName =>
      split at hError
      next => simp at hError
      next fault hOptions =>
        obtain rfl := Except.error.inj hError
        exact .invalidOptions (Builtin.ofName?_eq_some_iff.mp hName) hOptions
  · rintro (hName | ⟨hName, hOptions⟩)
    · rw [Builtin.ofName?_eq_none_iff.mpr hName]
    · rw [Builtin.ofName?_eq_some_iff.mpr hName, hOptions]

/-! ## All entries -/

/-- Entries that are set to `false` are as good as none. -/
theorem withEntries_filter_isFalse (linter : Linter) (entries : List (String × Json)) :
    linter.withEntries entries =
      linter.withEntries (entries.filter fun entry => !entry.2.isFalse) := by
  induction entries generalizing linter with
  | nil => rfl
  | cons entry entries ih =>
      obtain ⟨name, value⟩ := entry
      cases hValue : value.isFalse with
      | true =>
          rw [List.filter_cons_of_neg (by simp [hValue]), withEntries_cons,
            withEntry_of_isFalse hValue]
          exact ih linter
      | false =>
          rw [List.filter_cons_of_pos (by simp [hValue]), withEntries_cons, withEntries_cons]
          cases linter.withEntry name value with
          | error fault => rfl
          | ok next => exact ih next

theorem withEntries_eq_ok_iff (hEntries : ∀ entry ∈ entries, entry.2.isFalse = false) :
    linter.withEntries entries = .ok next ↔
      ∃ rules, List.Forall₂ Requests entries rules ∧
        next = linter.withRules (linter.rules ++ rules) := by
  induction entries generalizing linter with
  | nil =>
      have hNone : linter.withEntries [] = .ok linter := rfl
      simp [hNone, withRules, eq_comm]
  | cons entry entries ih =>
      obtain ⟨name, value⟩ := entry
      obtain ⟨hFirst, hRest⟩ := List.forall_mem_cons.mp hEntries
      rw [withEntries_cons, bind_eq_ok_iff]
      constructor
      · rintro ⟨middle, hMiddle, hNext⟩
        obtain ⟨registered, hRequests, rfl⟩ := (withEntry_eq_ok_iff hFirst).mp hMiddle
        obtain ⟨rules, hRules, rfl⟩ := (ih hRest).mp hNext
        exact ⟨registered :: rules, .cons hRequests hRules, by simp [withRules]⟩
      · rintro ⟨_, _ | @⟨_, registered, _, rules, hRequests, hRules⟩, rfl⟩
        refine ⟨_, (withEntry_eq_ok_iff hFirst).mpr ⟨registered, hRequests, rfl⟩, ?_⟩
        exact (ih hRest).mpr ⟨rules, hRules, by simp [withRules]⟩

/-- A run of entries fails with the fault of the first one that registers nothing. -/
theorem withEntries_eq_error_iff (hEntries : ∀ entry ∈ entries, entry.2.isFalse = false) :
    linter.withEntries entries = .error error ↔
      ∃ before entry after, entries = before ++ entry :: after ∧
        (∀ earlier ∈ before, ∃ registered, Requests earlier registered) ∧ Faults entry error := by
  induction entries generalizing linter with
  | nil =>
      have hNone : linter.withEntries [] = .ok linter := rfl
      simp [hNone]
  | cons entry entries ih =>
      obtain ⟨name, value⟩ := entry
      obtain ⟨hFirst, hRest⟩ := List.forall_mem_cons.mp hEntries
      rw [withEntries_cons, bind_eq_error_iff, withEntry_eq_error_iff hFirst]
      constructor
      · rintro (hFaults | ⟨middle, hMiddle, hError⟩)
        · exact ⟨[], _, entries, rfl, by simp, hFaults⟩
        · obtain ⟨registered, hRequests, -⟩ := (withEntry_eq_ok_iff hFirst).mp hMiddle
          obtain ⟨before, entry, after, rfl, hBefore, hFaults⟩ := (ih hRest).mp hError
          refine ⟨_ :: before, entry, after, rfl, ?_, hFaults⟩
          exact List.forall_mem_cons.mpr ⟨⟨registered, hRequests⟩, hBefore⟩
      · rintro ⟨before, entry, after, hSplit, hBefore, hFaults⟩
        rcases List.cons_eq_append_iff.mp hSplit with ⟨rfl, hHead⟩ | ⟨before, rfl, rfl⟩
        · obtain ⟨rfl, -⟩ := List.cons.inj hHead
          exact .inl hFaults
        · obtain ⟨⟨registered, hRequests⟩, hBefore⟩ := List.forall_mem_cons.mp hBefore
          refine .inr ⟨_, (withEntry_eq_ok_iff hFirst).mpr ⟨registered, hRequests, rfl⟩, ?_⟩
          exact (ih hRest).mpr ⟨before, entry, after, rfl, hBefore, hFaults⟩

end Linter

/-! ## Configurations -/

theorem map_name_of_requests {entries : List (String × Json)} {rules : List RegisteredRule}
    (hRules : List.Forall₂ Requests entries rules) :
    rules.map RegisteredRule.name = entries.map Prod.fst := by
  induction hRules with
  | nil => rfl
  | cons hRequests _ ih => rw [List.map_cons, List.map_cons, hRequests.name, ih]

namespace LintConfig

variable {config : LintConfig}

theorem isFalse_of_mem_enabled : ∀ entry ∈ config.enabled, entry.2.isFalse = false := by
  intro entry hMem
  simpa using (List.mem_filter.mp hMem).2

theorem Ordered.enabled (hOrdered : config.Ordered) :
    config.enabled.Pairwise fun a b => bytes a.1 < bytes b.1 :=
  hOrdered.filter _

/-- Ordered entries are determined by which they are. -/
theorem Ordered.enabled_eq {other : LintConfig} (hOther : other.Ordered) (hOrdered : config.Ordered)
    (hSame : ∀ entry, entry ∈ other.enabled ↔ entry ∈ config.enabled) :
    other.enabled = config.enabled := by
  let before (a b : String × Json) : Prop := bytes a.1 < bytes b.1
  have : Std.Irrefl before := ⟨fun entry => List.lt_irrefl (bytes entry.1)⟩
  have : Std.Antisymm before := ⟨fun _ _ hLt hGt => absurd hGt (List.lt_asymm hLt)⟩
  exact List.Pairwise.eq_of_mem_iff (r := before) hOther.enabled hOrdered.enabled hSame

end LintConfig

namespace Linter

variable {config : LintConfig} {linter : Linter} {error : LintError}

theorem ofConfig_eq :
    ofConfig config = withEntries { settings := config.settings } config.enabled :=
  withEntries_filter_isFalse _ config.rules

theorem ofConfig_eq_ok_iff :
    ofConfig config = .ok linter ↔
      List.Forall₂ Requests config.enabled linter.rules ∧ linter.settings = config.settings := by
  rw [ofConfig_eq, withEntries_eq_ok_iff LintConfig.isFalse_of_mem_enabled]
  constructor
  · rintro ⟨rules, hRules, rfl⟩
    exact ⟨hRules, rfl⟩
  · rintro ⟨hRules, hSettings⟩
    obtain ⟨rules, settings⟩ := linter
    obtain rfl := hSettings
    exact ⟨rules, hRules, rfl⟩

/-- The first entry at fault, in the order of the names, is the error. -/
theorem ofConfig_eq_error_iff (hOrdered : config.Ordered) :
    ofConfig config = .error error ↔
      ∃ entry ∈ config.enabled, Faults entry error ∧
        ∀ earlier ∈ config.enabled, bytes earlier.1 < bytes entry.1 →
          ∃ registered, Requests earlier registered := by
  have hEnabled := hOrdered.enabled
  rw [ofConfig_eq, withEntries_eq_error_iff LintConfig.isFalse_of_mem_enabled]
  constructor
  · rintro ⟨before, entry, after, hSplit, hBefore, hFaults⟩
    rw [hSplit] at hEnabled ⊢
    refine ⟨entry, by simp, hFaults, fun earlier hEarlier hLt => ?_⟩
    obtain ⟨-, hTail, -⟩ := List.pairwise_append.mp hEnabled
    rcases List.mem_append.mp hEarlier with hMem | hMem
    · exact hBefore earlier hMem
    · rcases List.mem_cons.mp hMem with rfl | hMem
      · exact absurd hLt (List.lt_irrefl _)
      · exact absurd (List.rel_of_pairwise_cons hTail hMem) (List.lt_asymm hLt)
  · rintro ⟨entry, hMem, hFaults, hBefore⟩
    obtain ⟨before, after, hSplit⟩ := List.append_of_mem hMem
    rw [hSplit] at hEnabled hBefore
    refine ⟨before, entry, after, hSplit, fun earlier hEarlier => ?_, hFaults⟩
    obtain ⟨-, -, hAcross⟩ := List.pairwise_append.mp hEnabled
    exact hBefore earlier (List.mem_append_left _ hEarlier)
      (hAcross earlier hEarlier entry List.mem_cons_self)

theorem ofConfig_isOk_iff :
    (∃ linter, ofConfig config = .ok linter) ↔
      ∀ entry ∈ config.enabled, (∃ builtin : Builtin, builtin.name = entry.1) ∧
        ∃ options, RuleOptions.ofJson entry.2 = .ok options := by
  constructor
  · rintro ⟨linter, hLinter⟩ entry hMem
    obtain ⟨registered, -, hRequests⟩ := exists_of_forall₂ (ofConfig_eq_ok_iff.mp hLinter).1 hMem
    obtain ⟨builtin, hName, -⟩ := hRequests.rule
    exact ⟨⟨builtin, hName⟩, registered.options, hRequests.options⟩
  · intro hEntries
    cases hConfig : ofConfig config with
    | ok linter => exact ⟨linter, rfl⟩
    | error error =>
        rw [ofConfig_eq, withEntries_eq_error_iff LintConfig.isFalse_of_mem_enabled] at hConfig
        obtain ⟨before, entry, after, hSplit, -, hFaults⟩ := hConfig
        obtain ⟨⟨builtin, hName⟩, options, hOptions⟩ := hEntries entry (by simp [hSplit])
        have hRequests : Requests entry ⟨entry.1, builtin.rule, options⟩ :=
          ⟨rfl, ⟨builtin, hName, rfl⟩, hOptions⟩
        exact absurd hRequests hFaults.not_requests

/-- A configuration makes a linter exactly if every entry that is not set to `false` names a
built-in rule and spells options of it. The linter then has these rules in the order of the bytes of
their names, each as it is built in and with the options of its entry, and the settings of the
configuration. Otherwise the first such entry at fault is the error, and a name that no rule has
counts before the options beside it. What is set to `false` plays no part in any of this. -/
theorem ofConfig_entry_by_entry (config : LintConfig) (hOrdered : config.Ordered) :
    ((∃ linter, ofConfig config = .ok linter) ↔
      ∀ entry ∈ config.enabled, (∃ builtin : Builtin, builtin.name = entry.1) ∧
        ∃ options, RuleOptions.ofJson entry.2 = .ok options) ∧
    (∀ linter, ofConfig config = .ok linter →
      linter.ruleNames = config.enabled.map Prod.fst ∧
        (linter.ruleNames.Pairwise fun a b => bytes a < bytes b) ∧
        List.Forall₂ Requests config.enabled linter.rules ∧
        linter.settings = config.settings) ∧
    (∀ error, ofConfig config = .error error ↔
      ∃ entry ∈ config.enabled, Faults entry error ∧
        ∀ earlier ∈ config.enabled, bytes earlier.1 < bytes entry.1 →
          ∃ registered, Requests earlier registered) ∧
    ∀ other : LintConfig, other.Ordered → other.settings = config.settings →
      (∀ entry, entry ∈ other.enabled ↔ entry ∈ config.enabled) →
        ofConfig other = ofConfig config := by
  refine ⟨ofConfig_isOk_iff, ?_, fun error => ofConfig_eq_error_iff hOrdered, ?_⟩
  · intro linter hLinter
    obtain ⟨hRules, hSettings⟩ := ofConfig_eq_ok_iff.mp hLinter
    have hNames : linter.ruleNames = config.enabled.map Prod.fst := map_name_of_requests hRules
    refine ⟨hNames, ?_, hRules, hSettings⟩
    rw [hNames, List.pairwise_map]
    exact hOrdered.enabled
  · intro other hOther hSettings hSame
    rw [ofConfig_eq, ofConfig_eq, hSettings, hOther.enabled_eq hOrdered hSame]

/-- The rules and the settings of a configuration in order: two rules, one of them with options, and
a name that no rule has. -/
def mixedText : String :=
  "[\x7b\"jsx-no-new-object-as-prop\": true, \"aria\": false, " ++
    "\"jsx-no-new-array-as-prop\": [\x7b\"next\": true\x7d, true]\x7d, [false]]"

def mixedConfig : LintConfig where
  rules := [("aria", .bool false),
    ("jsx-no-new-array-as-prop", .array [.object [("next", .bool true)], .bool true]),
    ("jsx-no-new-object-as-prop", .bool true)]
  settings := { next := some false }

theorem ofText_mixedText : LintConfig.ofText mixedText = .ok mixedConfig := by cbv

/-- Two entries at fault, the first of them for its name and its value alike. -/
def faultyConfig : LintConfig where
  rules := [("aria", .string "off"), ("jsx-no-jsx-as-prop", .object [("strict", .bool true)])]

theorem mixedConfig_entry_by_entry :
    mixedConfig.Ordered ∧ faultyConfig.Ordered ∧
      (∃ linter, ofConfig mixedConfig = .ok linter ∧
        linter.ruleNames = ["jsx-no-new-array-as-prop", "jsx-no-new-object-as-prop"] ∧
        linter.settings = { next := some false }) ∧
      ofConfig faultyConfig = .error (.unknownRule "aria") := by
  have hMixed := LintConfig.ordered_of_ofText ofText_mixedText
  have hFaulty : faultyConfig.Ordered := by
    simp only [LintConfig.Ordered, faultyConfig]
    decide
  obtain ⟨hOk, hLinter, -⟩ := ofConfig_entry_by_entry mixedConfig hMixed
  obtain ⟨-, -, hError, -⟩ := ofConfig_entry_by_entry faultyConfig hFaulty
  refine ⟨hMixed, hFaulty, ?_, ?_⟩
  · have hEnabled : ∀ entry ∈ mixedConfig.enabled, (∃ builtin : Builtin, builtin.name = entry.1) ∧
        ∃ options, RuleOptions.ofJson entry.2 = .ok options := by
      simp only [LintConfig.enabled, mixedConfig, List.filter, Json.isFalse, Bool.not_true,
        Bool.not_false, List.forall_mem_cons]
      exact ⟨⟨⟨.noNewArray, rfl⟩, _, rfl⟩, ⟨⟨.noNewObject, rfl⟩, _, rfl⟩, by simp⟩
    obtain ⟨linter, hMade⟩ := hOk.mpr hEnabled
    obtain ⟨hNames, -, -, hSettings⟩ := hLinter linter hMade
    exact ⟨linter, hMade, hNames, hSettings⟩
  · refine (hError _).mpr ⟨("aria", .string "off"), List.mem_cons_self, .unknownRule ?_, ?_⟩
    · intro builtin
      cases builtin <;> decide
    · intro earlier hMem hLt
      rcases List.mem_cons.mp hMem with rfl | hMem
      · exact absurd hLt (List.lt_irrefl _)
      · obtain rfl := List.mem_singleton.mp hMem
        exact absurd hLt (by decide)

end Linter

end PropTrace
