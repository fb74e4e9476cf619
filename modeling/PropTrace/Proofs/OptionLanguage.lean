import Mathlib.Data.List.Basic
import PropTrace.Rule.Options

/-!
The values that spell options. What an option may be spelled as is said once, and a list of the two
and an object of them are read through the same two spellings; which values are no options follows
from that. The schema hosts check against is read as the JSON Schema keywords in it say.
-/
namespace PropTrace

/-- Every object in the value has each of its member names once. -/
inductive Json.NamesOnce : Json → Prop where
  | null : NamesOnce .null
  | bool (value : Bool) : NamesOnce (.bool value)
  | number (value : JsonNumber) : NamesOnce (.number value)
  | string (value : String) : NamesOnce (.string value)
  | array {items : List Json} (each : ∀ item ∈ items, NamesOnce item) : NamesOnce (.array items)
  | object {members : List (String × Json)} (distinct : (members.map Prod.fst).Nodup)
      (each : ∀ member ∈ members, NamesOnce member.2) : NamesOnce (.object members)

/-! ## Spellings -/

/-- An allow list as a value; `null` spells its absence. -/
inductive AllowList.Spells : Json → Option AllowList → Prop where
  | null : Spells .null none
  | word : Spells (.string "all") (some .all)
  | variant : Spells (.object [("all", .null)]) (some .all)
  | tags (names : List String) : Spells (.array (names.map .string)) (some (.tags names))

/-- The directive flag as a value; `null` spells its absence. -/
inductive FlagSpells : Json → Option Bool → Prop where
  | null : FlagSpells .null none
  | bool (flag : Bool) : FlagSpells (.bool flag) (some flag)

/-- A value that may be missing; what was set before stays then. -/
def SpelledOver {α : Type} (spells : Json → Option α → Prop) (before : Option α) :
    Option Json → Option α → Prop
  | none, result => result = before
  | some value, result => spells value result

namespace RuleOptions

/-- Options with both names as members, or as the items of a list. -/
def RecordSpells : Json → RuleOptions → Prop
  | .object members, options =>
    (∀ member ∈ members, member.1 = "nativeAllowList" ∨ member.1 = "next") ∧
      SpelledOver AllowList.Spells none (members.lookup "nativeAllowList")
        options.nativeAllowList ∧
      SpelledOver FlagSpells none (members.lookup "next") options.next
  | .array items, options =>
    items.length ≤ 2 ∧ SpelledOver AllowList.Spells none items[0]? options.nativeAllowList ∧
      SpelledOver FlagSpells none items[1]? options.next
  | _, _ => False

/-- Options as they stand beside the name of a rule. -/
def Spells : Json → RuleOptions → Prop
  | .null, options => options = {}
  | .bool flag, options => flag = true ∧ options = {}
  | .array [], options => options = {}
  | .array (first :: _), options => RecordSpells first options
  | .object members, options => RecordSpells (.object members) options
  | _, _ => False

end RuleOptions

/-! ## What is read -/

theorem AllowList.texts?_eq_some_iff {items : List Json} {names : List String} :
    texts? items = some names ↔ items = names.map .string := by
  induction items generalizing names with
  | nil => cases names <;> simp [texts?]
  | cons item rest ih =>
      cases item with
      | string text =>
          rw [texts?, Option.map_eq_some_iff]
          constructor
          · rintro ⟨others, hOthers, rfl⟩
            rw [ih.mp hOthers, List.map_cons]
          · intro hNames
            obtain ⟨name, others, rfl, hName, hOthers⟩ := List.map_eq_cons_iff.mp hNames.symm
            exact ⟨others, ih.mpr hOthers.symm, by rw [Json.string.inj hName]⟩
      | _ => cases names <;> simp [texts?]

theorem AllowList.ofJson?_eq_some_iff {value : Json} {list : AllowList} :
    ofJson? value = some list ↔ Spells value (some list) := by
  constructor
  · intro hList
    unfold ofJson? at hList
    split at hList
    · obtain rfl := Option.some.inj hList
      exact .word
    · obtain rfl := Option.some.inj hList
      exact .variant
    · obtain ⟨names, hNames, rfl⟩ := Option.map_eq_some_iff.mp hList
      obtain rfl := texts?_eq_some_iff.mp hNames
      exact .tags names
    · simp at hList
  · rintro (_ | _ | _ | names)
    · rfl
    · rfl
    · simp [ofJson?, texts?_eq_some_iff.mpr rfl]

namespace RuleOptions

variable {options result : RuleOptions} {value : Json}

theorem withAllowList_eq_ok_iff :
    options.withAllowList value = .ok result ↔
      AllowList.Spells value result.nativeAllowList ∧ result.next = options.next := by
  obtain ⟨list, next⟩ := result
  unfold withAllowList
  split
  next =>
    have hSpells : AllowList.Spells .null list ↔ none = list :=
      ⟨fun h => by cases h; rfl, fun h => h ▸ .null⟩
    simp [hSpells, eq_comm]
  next hNull =>
    have hSpells : AllowList.Spells value list ↔ ∃ read, AllowList.ofJson? value = some read ∧ some read = list := by
      cases list with
      | none =>
          refine ⟨fun h => ?_, fun ⟨read, _, hRead⟩ => by simp at hRead⟩
          cases h
          exact (hNull rfl).elim
      | some read => simp [AllowList.ofJson?_eq_some_iff]
    rw [hSpells]
    cases AllowList.ofJson? value <;> simp [eq_comm]

theorem withNext_eq_ok_iff :
    options.withNext value = .ok result ↔
      FlagSpells value result.next ∧ result.nativeAllowList = options.nativeAllowList := by
  constructor
  · intro hNext
    unfold withNext at hNext
    split at hNext
    · obtain rfl := Except.ok.inj hNext
      exact ⟨.null, rfl⟩
    · obtain rfl := Except.ok.inj hNext
      exact ⟨.bool _, rfl⟩
    · simp at hNext
  · obtain ⟨list, next⟩ := result
    rintro ⟨hSpells, rfl⟩
    cases hSpells <;> rfl

/-- A member sets what its name says and nothing else. -/
theorem withMember_eq_ok_iff {name : String} :
    options.withMember name value = .ok result ↔
      name = "nativeAllowList" ∧ AllowList.Spells value result.nativeAllowList ∧
          result.next = options.next ∨
        name = "next" ∧ FlagSpells value result.next ∧
          result.nativeAllowList = options.nativeAllowList := by
  unfold withMember
  split
  next hName => simp [hName, withAllowList_eq_ok_iff]
  next hName =>
    split
    next hNext => simp [hNext, withNext_eq_ok_iff]
    next hNext => simp [hName, hNext]

theorem ofMembers_cons_eq_ok_iff {name : String} {rest : List (String × Json)} :
    ofMembers options ((name, value) :: rest) = .ok result ↔
      ∃ middle, options.withMember name value = .ok middle ∧
        ofMembers middle rest = .ok result := by
  rw [ofMembers]
  cases options.withMember name value <;> simp [bind, Except.bind]

/-- Members are read into the option of their name, whatever their order. -/
theorem ofMembers_eq_ok_iff {members : List (String × Json)}
    (hNames : (members.map Prod.fst).Nodup) :
    ofMembers options members = .ok result ↔
      (∀ member ∈ members, member.1 = "nativeAllowList" ∨ member.1 = "next") ∧
        SpelledOver AllowList.Spells options.nativeAllowList (members.lookup "nativeAllowList")
          result.nativeAllowList ∧
        SpelledOver FlagSpells options.next (members.lookup "next") result.next := by
  induction members generalizing options with
  | nil =>
      obtain ⟨list, next⟩ := result
      obtain ⟨listBefore, nextBefore⟩ := options
      simp [ofMembers, SpelledOver, eq_comm]
  | cons member rest ih =>
      obtain ⟨name, value⟩ := member
      obtain ⟨hFresh, hRest⟩ := List.nodup_cons.mp hNames
      have hMissing : rest.lookup name = none :=
        List.lookup_eq_none_iff.mpr fun other hOther => bne_iff_ne.mpr fun hSame =>
          hFresh (List.mem_map.mpr ⟨other, hOther, hSame.symm⟩)
      simp only [ofMembers_cons_eq_ok_iff, withMember_eq_ok_iff, ih hRest, List.forall_mem_cons]
      constructor
      · rintro ⟨middle, ⟨rfl, hSpells, hNext⟩ | ⟨rfl, hSpells, hList⟩, hKeys, hRestList, hRestNext⟩
        · rw [hMissing] at hRestList
          refine ⟨⟨.inl rfl, hKeys⟩, ?_, ?_⟩
          · rw [List.lookup_cons_self]
            exact hRestList ▸ hSpells
          · rw [← hNext]
            simpa [List.lookup_cons] using hRestNext
        · rw [hMissing] at hRestNext
          refine ⟨⟨.inr rfl, hKeys⟩, ?_, ?_⟩
          · rw [← hList]
            simpa [List.lookup_cons] using hRestList
          · rw [List.lookup_cons_self]
            exact hRestNext ▸ hSpells
      · rintro ⟨⟨rfl | rfl, hKeys⟩, hList, hNext⟩
        · rw [List.lookup_cons_self] at hList
          refine ⟨{ options with nativeAllowList := result.nativeAllowList },
            .inl ⟨rfl, hList, rfl⟩, hKeys, ?_, ?_⟩
          · rw [hMissing]
            rfl
          · simpa [List.lookup_cons] using hNext
        · rw [List.lookup_cons_self] at hNext
          refine ⟨{ options with next := result.next }, .inr ⟨rfl, hNext, rfl⟩, hKeys, ?_, ?_⟩
          · simpa [List.lookup_cons] using hList
          · rw [hMissing]
            rfl

/-- Two items are read as the two members are, faults included. -/
theorem ofItems_pair (list next : Json) :
    ofItems [list, next] = ofMembers {} [("nativeAllowList", list), ("next", next)] := by
  simp only [ofItems, ofMembers, withMember, if_true, List.isEmpty_nil]
  rfl

theorem ofItems_singleton (list : Json) :
    ofItems [list] = ofMembers {} [("nativeAllowList", list)] := by
  simp only [ofItems, ofMembers, withMember, if_true]

theorem ofItems_surplus (list next third : Json) (rest : List Json) :
    ofItems (list :: next :: third :: rest) ≠ .ok result := by
  rw [ofItems]
  cases withAllowList {} list with
  | error => simp [bind, Except.bind]
  | ok options => cases h : options.withNext next <;> simp [bind, Except.bind, h]

theorem ofItems_eq_ok_iff {items : List Json} :
    ofItems items = .ok result ↔
      items.length ≤ 2 ∧ SpelledOver AllowList.Spells none items[0]? result.nativeAllowList ∧
        SpelledOver FlagSpells none items[1]? result.next := by
  match items with
  | [] =>
      obtain ⟨list, next⟩ := result
      simp [ofItems, SpelledOver, eq_comm]
  | [list] =>
      rw [ofItems_singleton, ofMembers_eq_ok_iff (by simp)]
      simp [List.lookup_cons]
  | [list, next] =>
      rw [ofItems_pair, ofMembers_eq_ok_iff (by simp)]
      simp [List.lookup_cons]
  | list :: next :: third :: rest => simp [ofItems_surplus]

theorem ofRecord_eq_ok_iff (hNames : value.NamesOnce) :
    ofRecord value = .ok result ↔ RecordSpells value result := by
  cases hNames with
  | object distinct => exact ofMembers_eq_ok_iff distinct
  | array => exact ofItems_eq_ok_iff
  | _ => simp [ofRecord, RecordSpells]

theorem ofJson_eq_ok_iff (hNames : value.NamesOnce) :
    ofJson value = .ok result ↔ Spells value result := by
  cases hNames with
  | null => simp [ofJson, Spells, eq_comm]
  | bool flag => cases flag <;> simp [ofJson, ofRecord, Spells, eq_comm]
  | number => simp [ofJson, ofRecord, Spells]
  | string => simp [ofJson, ofRecord, Spells]
  | object distinct each => exact ofRecord_eq_ok_iff (.object distinct each)
  | @array items each =>
      cases items with
      | nil => simp [ofJson, Spells, eq_comm]
      | cons first rest => exact ofRecord_eq_ok_iff (each first List.mem_cons_self)

end RuleOptions

/-! ## Schemas -/

namespace Json

/-- The type of a value as schemas name it. -/
def HasType : Json → String → Prop
  | .null, name => name = "null"
  | .bool _, name => name = "boolean"
  | .number value, name => name = "number" ∨ name = "integer" ∧ ∃ n, value = .int n
  | .string _, name => name = "string"
  | .array _, name => name = "array"
  | .object _, name => name = "object"

/-- The names a schema has properties for. -/
def propertyNames (keywords : List (String × Json)) : List String :=
  match keywords.lookup "properties" with
  | some (.object properties) => properties.map Prod.fst
  | _ => []

mutual

/-- Whether a schema admits a value. -/
def Admits : Json → Json → Prop
  | .bool flag, _ => flag = true
  | .object keywords, value => AdmitsEach (propertyNames keywords) keywords value
  | _, _ => False

/-- Every keyword has to admit the value; one that is not known admits anything. -/
def AdmitsEach (known : List String) : List (String × Json) → Json → Prop
  | [], _ => True
  | ("type", .string name) :: rest, value => HasType value name ∧ AdmitsEach known rest value
  | ("enum", .array values) :: rest, value => value ∈ values ∧ AdmitsEach known rest value
  | ("oneOf", .array schemas) :: rest, value =>
    AdmitsOne schemas value ∧ AdmitsEach known rest value
  | ("items", schema) :: rest, value =>
    (∀ items, value = .array items → ∀ item ∈ items, Admits schema item) ∧
      AdmitsEach known rest value
  | ("properties", .object properties) :: rest, value =>
    (∀ members, value = .object members → AdmitsMembers properties members) ∧
      AdmitsEach known rest value
  | ("additionalProperties", schema) :: rest, value =>
    (∀ members, value = .object members →
      ∀ member ∈ members, member.1 ∉ known → Admits schema member.2) ∧
      AdmitsEach known rest value
  | _ :: rest, value => AdmitsEach known rest value

/-- Every member with a schema for its name has to be admitted by that. -/
def AdmitsMembers : List (String × Json) → List (String × Json) → Prop
  | [], _ => True
  | (name, schema) :: rest, members =>
    (∀ member ∈ members, member.1 = name → Admits schema member.2) ∧ AdmitsMembers rest members

/-- Exactly one of the schemas admits the value. -/
def AdmitsOne : List Json → Json → Prop
  | [], _ => False
  | schema :: rest, value =>
    Admits schema value ∧ AdmitsNone rest value ∨ ¬Admits schema value ∧ AdmitsOne rest value

def AdmitsNone : List Json → Json → Prop
  | [], _ => True
  | schema :: rest, value => ¬Admits schema value ∧ AdmitsNone rest value

end

end Json

namespace RuleOptions

open Json

/-- The schema of an allow list. -/
def allowListSchema : Json :=
  .object [("oneOf", .array [
    .object [("enum", .array [.string "all"])],
    .object [("items", .object [("type", .string "string")]), ("type", .string "array")]])]

theorem exists_names {items : List Json} (hItems : ∀ item ∈ items, HasType item "string") :
    ∃ names : List String, items = names.map .string := by
  induction items with
  | nil => exact ⟨[], rfl⟩
  | cons item rest ih =>
      obtain ⟨hItem, hRest⟩ := List.forall_mem_cons.mp hItems
      obtain ⟨names, rfl⟩ := ih hRest
      cases item with
      | string name => exact ⟨name :: names, rfl⟩
      | _ => simp [HasType] at hItem

theorem exists_list_of_admits {value : Json} (hAdmits : Admits allowListSchema value) :
    ∃ list, AllowList.Spells value list := by
  have hEither : value = .string "all" ∨ HasType value "array" ∧
      ∀ items, value = .array items → ∀ item ∈ items, HasType item "string" := by
    simp only [allowListSchema, Admits, AdmitsEach, AdmitsOne, AdmitsNone, List.mem_singleton,
      and_true, and_false, or_false] at hAdmits
    rcases hAdmits with ⟨hWord, -⟩ | ⟨-, hItems, hArray⟩
    · exact .inl hWord
    · exact .inr ⟨hArray, hItems⟩
  rcases hEither with rfl | ⟨hArray, hItems⟩
  · exact ⟨_, .word⟩
  · cases value with
    | array items =>
        obtain ⟨names, rfl⟩ := exists_names (hItems items rfl)
        exact ⟨_, .tags names⟩
    | _ => simp [HasType] at hArray

theorem exists_flag_of_hasType {value : Json} (hFlag : HasType value "boolean") :
    ∃ flag, FlagSpells value flag := by
  cases value with
  | bool flag => exact ⟨_, .bool flag⟩
  | _ => simp [HasType] at hFlag

theorem schema_eq : schema = .array [.object [
    ("additionalProperties", .bool false),
    ("properties", .object [
      ("nativeAllowList", allowListSchema), ("next", .object [("type", .string "boolean")])]),
    ("type", .string "object")]] := rfl

/-- Members that spell the option of their name are options. -/
theorem exists_ofMembers {members : List (String × Json)} (options : RuleOptions)
    (hMembers : ∀ member ∈ members,
      (member.1 = "nativeAllowList" ∧ ∃ list, AllowList.Spells member.2 list) ∨
        member.1 = "next" ∧ ∃ flag, FlagSpells member.2 flag) :
    ∃ result, ofMembers options members = .ok result := by
  induction members generalizing options with
  | nil => exact ⟨options, rfl⟩
  | cons member rest ih =>
      obtain ⟨name, value⟩ := member
      obtain ⟨hMember, hRest⟩ := List.forall_mem_cons.mp hMembers
      have hMiddle : ∃ middle, options.withMember name value = .ok middle := by
        rcases hMember with ⟨hName, list, hList⟩ | ⟨hName, flag, hFlag⟩
        · exact ⟨{ options with nativeAllowList := list },
            withMember_eq_ok_iff.mpr (.inl ⟨hName, hList, rfl⟩)⟩
        · exact ⟨{ options with next := flag },
            withMember_eq_ok_iff.mpr (.inr ⟨hName, hFlag, rfl⟩)⟩
      obtain ⟨middle, hMiddle⟩ := hMiddle
      obtain ⟨result, hResult⟩ := ih middle hRest
      exact ⟨result, ofMembers_cons_eq_ok_iff.mpr ⟨middle, hMiddle, hResult⟩⟩

/-- Hosts that check against the schema pass on nothing that is refused. -/
theorem exists_ofJson_of_admits :
    ∃ entry rest, schema = .array (entry :: rest) ∧
      ∀ value, Admits entry value → ∃ options, ofJson value = .ok options := by
  refine ⟨_, _, schema_eq, fun value hAdmits => ?_⟩
  simp only [Admits, AdmitsEach, AdmitsMembers, and_true] at hAdmits
  obtain ⟨hKnown, hMembers, hObject⟩ := hAdmits
  cases value with
  | object members =>
      refine exists_ofMembers {} fun member hMember => ?_
      obtain ⟨hLists, hFlags⟩ := hMembers members rfl
      have hName : member.1 = "nativeAllowList" ∨ member.1 = "next" := by
        by_contra hNeither
        refine absurd (hKnown members rfl member hMember fun hKey => hNeither ?_) Bool.false_ne_true
        simpa [propertyNames, List.lookup_cons] using hKey
      rcases hName with hName | hName
      · exact .inl ⟨hName, exists_list_of_admits (hLists member hMember hName)⟩
      · exact .inr ⟨hName, exists_flag_of_hasType (hFlags member hMember hName)⟩
  | _ => simp [HasType] at hObject

/-- A value is read as options exactly if it spells them, and as those it spells. What follows the
first item of an array is not looked at, the object of both options and the list of them are read
alike, faults included, and what the schema admits is never refused. -/
theorem read_iff_spelled :
    (∀ value : Json, value.NamesOnce →
      ∀ options, ofJson value = .ok options ↔ Spells value options) ∧
    (∀ first later later',
      ofJson (.array (first :: later)) = ofJson (.array (first :: later'))) ∧
    (∀ list next,
      ofJson (.object [("nativeAllowList", list), ("next", next)]) =
        ofJson (.array [.array [list, next]])) ∧
    ∃ entry rest, schema = .array (entry :: rest) ∧
      ∀ value, Admits entry value → ∃ options, ofJson value = .ok options := by
  refine ⟨fun value hNames options => ofJson_eq_ok_iff hNames, fun first later later' => rfl,
    fun list next => ?_, exists_ofJson_of_admits⟩
  exact (ofItems_pair list next).symm

theorem allVariant_read :
    ofJson (.array [.object [("nativeAllowList", .object [("all", .null)]), ("next", .null)],
      .string "later"]) = .ok { nativeAllowList := some .all } := by
  refine (read_iff_spelled.1 _ (.array ?_) _).mpr ⟨by simp, .variant, .null⟩
  simp only [List.forall_mem_cons, List.not_mem_nil, IsEmpty.forall_iff, implies_true, and_true]
  refine ⟨.object (by decide) ?_, .string _⟩
  simp only [List.forall_mem_cons, List.not_mem_nil, IsEmpty.forall_iff, implies_true, and_true]
  exact ⟨.object (by decide) (by simp [NamesOnce.null]), .null⟩

end RuleOptions

end PropTrace
