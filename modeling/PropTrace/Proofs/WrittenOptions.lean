import PropTrace.Proofs.Configured
import PropTrace.Proofs.OptionLanguage

/-!
Options that are written as a value and read again. What is written spells the options it was
written for, member by member, and a spelling stands for one value only; so nothing is lost, also
where the value is the first of an array beside the name of a rule.
-/
namespace PropTrace

theorem AllowList.spells_ofOption (list : Option AllowList) :
    Spells (Json.ofOption toJson list) list := by
  match list with
  | none => exact .null
  | some .all => exact .word
  | some (.tags names) => exact .tags names

theorem FlagSpells.ofOption (flag : Option Bool) :
    FlagSpells (Json.ofOption Json.bool flag) flag := by
  cases flag with
  | none => exact .null
  | some flag => exact .bool flag

theorem Json.namesOnce_ofOption {α : Type} {encode : α → Json} (hEncode : ∀ a, NamesOnce (encode a))
    (value : Option α) : NamesOnce (ofOption encode value) := by
  cases value with
  | none => exact .null
  | some a => exact hEncode a

theorem AllowList.namesOnce_toJson (list : AllowList) : list.toJson.NamesOnce := by
  cases list with
  | all => exact .string "all"
  | tags names =>
      refine .array fun item hItem => ?_
      obtain ⟨name, -, rfl⟩ := List.mem_map.mp hItem
      exact .string name

namespace RuleOptions

variable (options : RuleOptions)

theorem spells_toJson : Spells options.toJson options :=
  ⟨by simp, AllowList.spells_ofOption options.nativeAllowList, FlagSpells.ofOption options.next⟩

theorem namesOnce_toJson : options.toJson.NamesOnce := by
  refine .object (by simp) ?_
  simp only [List.forall_mem_cons, List.not_mem_nil, IsEmpty.forall_iff, implies_true, and_true]
  exact ⟨Json.namesOnce_ofOption AllowList.namesOnce_toJson options.nativeAllowList,
    Json.namesOnce_ofOption Json.NamesOnce.bool options.next⟩

theorem ofJson_toJson : ofJson options.toJson = .ok options :=
  (ofJson_eq_ok_iff options.namesOnce_toJson).mpr options.spells_toJson

/-- An object of options is read the same at the front of an array. -/
theorem ofJson_array_toJson (later : List Json) :
    ofJson (.array (options.toJson :: later)) = .ok options :=
  options.ofJson_toJson

theorem toJson_injective : Function.Injective toJson := by
  intro first second hSame
  have hRead := first.ofJson_toJson
  rw [hSame, second.ofJson_toJson] at hRead
  exact (Except.ok.inj hRead).symm

end RuleOptions

/-- An entry beside the name of a built-in rule registers the options it is read as. -/
theorem Linter.withEntry_of_ofJson (linter : Linter) (builtin : Builtin) {value : Json}
    {options : RuleOptions} (hValue : value.isFalse = false)
    (hOptions : RuleOptions.ofJson value = .ok options) :
    linter.withEntry builtin.name value =
      .ok (linter.withRule builtin.name builtin.rule options) :=
  (withEntry_eq_ok_iff hValue).mpr
    ⟨⟨builtin.name, builtin.rule, options⟩, ⟨rfl, ⟨builtin, rfl, rfl⟩, hOptions⟩, rfl⟩

namespace RuleOptions

/-- Options are read back from the value they are written as, beside whatever rule it stands and
whatever follows it in an array. No two options are written alike: no allow list, the one for every
native element, the one without tags and the one with the tag `all` stay apart. -/
theorem written_read_back :
    (∀ (options : RuleOptions) (later : List Json),
      ofJson options.toJson = .ok options ∧
        ofJson (.array (options.toJson :: later)) = .ok options) ∧
    (∀ (linter : Linter) (builtin : Builtin) (options : RuleOptions) (later : List Json),
      linter.withEntry builtin.name options.toJson =
          .ok (linter.withRule builtin.name builtin.rule options) ∧
        linter.withEntry builtin.name (.array (options.toJson :: later)) =
          .ok (linter.withRule builtin.name builtin.rule options)) ∧
    Function.Injective toJson ∧
    ∀ next : Option Bool,
      [none, some .all, some (.tags []), some (.tags ["all"])].Pairwise fun first second =>
        toJson { nativeAllowList := first, next } ≠ toJson { nativeAllowList := second, next } ∧
          ofJson (toJson { nativeAllowList := first, next }) ≠
            ofJson (toJson { nativeAllowList := second, next }) := by
  refine ⟨fun options later => ⟨options.ofJson_toJson, options.ofJson_array_toJson later⟩, ?_,
    toJson_injective, fun next => ?_⟩
  · intro linter builtin options later
    constructor
    · exact linter.withEntry_of_ofJson builtin rfl options.ofJson_toJson
    · exact linter.withEntry_of_ofJson builtin rfl (options.ofJson_array_toJson later)
  · have hLists : [none, some AllowList.all, some (.tags []), some (.tags ["all"])].Nodup := by
      decide
    refine hLists.imp fun hNe => ?_
    rw [ofJson_toJson, ofJson_toJson]
    exact ⟨fun hSame => hNe (congrArg nativeAllowList (toJson_injective hSame)),
      fun hSame => hNe (congrArg nativeAllowList (Except.ok.inj hSame))⟩

end RuleOptions

end PropTrace
