import Mathlib.Data.List.Basic
import PropTrace.Config
import PropTrace.Proofs.ByteOrder

/-!
Configurations as they are read. A record keeps what each of its fields keeps, so an invariant of a
record is a fact about its fields. The rules of a configuration are one field, and an object that is
kept has its members in the order of their names.
-/
namespace PropTrace

section steps

variable {ε α β : Type} {step first second : Except ε α} {next : α → Except ε β} {b : β} {fault : ε}

theorem bind_eq_ok_iff : step.bind next = .ok b ↔ ∃ a, step = .ok a ∧ next a = .ok b := by
  cases step <;> simp [Except.bind]

theorem bind_eq_error_iff :
    step.bind next = .error fault ↔
      step = .error fault ∨ ∃ a, step = .ok a ∧ next a = .error fault := by
  cases step <;> simp [Except.bind]

theorem map_eq_ok_iff {change : α → β} :
    step.map change = .ok b ↔ ∃ a, step = .ok a ∧ change a = b := by
  cases step <;> simp [Except.map]

/-- Whichever of two steps came first, the next one succeeded. -/
theorem exists_of_ite_bind_eq_ok {c : Prop} [Decidable c]
    (h : (if c then first.bind next else second.bind next) = .ok b) : ∃ a, next a = .ok b := by
  split at h
  all_goals
    obtain ⟨a, -, h⟩ := bind_eq_ok_iff.mp h
    exact ⟨a, h⟩

end steps

namespace Json

theorem mem_insertMember {α : Type} {name : String} {value : α} {members : List (String × α)}
    {member : String × α} (hMem : member ∈ insertMember name value members) :
    member = (name, value) ∨ member ∈ members := by
  induction members with
  | nil => simpa [insertMember] using hMem
  | cons first rest ih =>
      obtain ⟨other, held⟩ := first
      unfold insertMember at hMem
      split at hMem
      · exact List.mem_cons.mp hMem
      · split at hMem
        · exact (List.mem_cons.mp hMem).imp_right (List.mem_cons_of_mem _)
        · rcases List.mem_cons.mp hMem with rfl | hMem
          · exact .inr List.mem_cons_self
          · exact (ih hMem).imp_right (List.mem_cons_of_mem _)

/-- Members stay in the order of their names, each name once. -/
theorem pairwise_insertMember {α : Type} (name : String) (value : α)
    {members : List (String × α)} (hMembers : members.Pairwise fun a b => a.1 < b.1) :
    (insertMember name value members).Pairwise fun a b => a.1 < b.1 := by
  induction members with
  | nil => exact List.pairwise_singleton _ _
  | cons first rest ih =>
      obtain ⟨other, held⟩ := first
      obtain ⟨hAfter, hRest⟩ := List.pairwise_cons.mp hMembers
      unfold insertMember
      split
      next hLt =>
        refine List.pairwise_cons.mpr ⟨?_, hMembers⟩
        exact List.forall_mem_cons.mpr ⟨hLt, fun later hMem =>
          String.lt_trans hLt (hAfter later hMem)⟩
      next hNotLt =>
        split
        next hSame =>
          exact List.pairwise_cons.mpr ⟨fun later hMem => hSame ▸ hAfter later hMem, hRest⟩
        next hNe =>
          refine List.pairwise_cons.mpr ⟨fun later hMem => ?_, ih hRest⟩
          rcases mem_insertMember hMem with rfl | hMem
          · refine (List.le_iff_lt_or_eq.mp (String.not_lt.mp hNotLt)).resolve_right fun hSame => ?_
            exact hNe (String.toList_inj.mp hSame.symm)
          · exact hAfter later hMem

section records

variable {ρ : Type} {Keeps : ρ → Prop} {fields : Fields ρ}

/-- What each field keeps is kept by a record with any of the fields in any order. -/
theorem takeFields_keeps {seen : List String} {record : ρ} {cs : List Char}
    {result : ρ × List Char} {fuel : Nat}
    (hFields : ∀ field ∈ fields, ∀ {record cs result}, Keeps record →
      field.2 record cs = .ok result → Keeps result.1)
    (hRecord : Keeps record) (h : takeFields fields fuel seen record cs = .ok result) :
    Keeps result.1 := by
  induction fuel generalizing seen record cs with
  | zero => simp [takeFields] at h
  | succ fuel ih =>
      unfold takeFields at h
      split at h
      · obtain rfl := Except.ok.inj h
        exact hRecord
      · obtain ⟨⟨⟨⟩, start⟩, h⟩ := exists_of_ite_bind_eq_ok h
        obtain ⟨⟨name, rest⟩, -, h⟩ := bind_eq_ok_iff.mp h
        simp only at h
        split at h
        next take hTake =>
          split at h
          · simp at h
          · obtain ⟨⟨⟨⟩, rest⟩, -, h⟩ := bind_eq_ok_iff.mp h
            obtain ⟨⟨next, rest⟩, hNext, h⟩ := bind_eq_ok_iff.mp h
            obtain ⟨before, after, hSplit, -⟩ := List.lookup_eq_some_iff.mp hTake
            exact ih (hFields (name, take) (by simp [hSplit]) hRecord hNext) h
        next =>
          obtain ⟨⟨⟨⟩, rest⟩, -, h⟩ := bind_eq_ok_iff.mp h
          obtain ⟨⟨⟨⟩, rest⟩, -, h⟩ := bind_eq_ok_iff.mp h
          exact ih hRecord h

theorem takeSequence_keeps {first : Bool} {record : ρ} {cs : List Char} {result : ρ × List Char}
    (hFields : ∀ field ∈ fields, ∀ {record cs result}, Keeps record →
      field.2 record cs = .ok result → Keeps result.1)
    (hRecord : Keeps record) (h : takeSequence fields first record cs = .ok result) :
    Keeps result.1 := by
  induction fields generalizing first record cs with
  | nil =>
      obtain ⟨⟨⟨⟩, rest⟩, -, h⟩ := bind_eq_ok_iff.mp h
      obtain rfl := Except.ok.inj h
      exact hRecord
  | cons field fields ih =>
      obtain ⟨hField, hRest⟩ := List.forall_mem_cons.mp hFields
      unfold takeSequence at h
      split at h
      · obtain rfl := Except.ok.inj h
        exact hRecord
      · obtain ⟨⟨⟨⟩, start⟩, h⟩ := exists_of_ite_bind_eq_ok h
        obtain ⟨⟨next, rest⟩, hNext, h⟩ := bind_eq_ok_iff.mp h
        exact ih hRest (hField hRecord hNext) h

theorem takeRecord_keeps (Keeps : ρ → Prop) {record : ρ} {cs : List Char} {result : ρ × List Char}
    (hFields : ∀ field ∈ fields, ∀ {record cs result}, Keeps record →
      field.2 record cs = .ok result → Keeps result.1)
    (hRecord : Keeps record) (h : takeRecord fields record cs = .ok result) : Keeps result.1 := by
  unfold takeRecord at h
  split at h
  · exact takeFields_keeps hFields hRecord h
  · exact takeSequence_keeps hFields hRecord h
  · simp at h

end records

theorem pairwise_of_takeObject {depth : Nat} {cs : List Char}
    {result : List (String × Json) × List Char} (h : takeObject depth cs = .ok result) :
    result.1.Pairwise fun a b => a.1 < b.1 := by
  have hFold : ∀ (members : List (String × Json)) {sorted : List (String × Json)},
      (sorted.Pairwise fun a b => a.1 < b.1) →
        (members.foldl (fun sorted member => insertMember member.1 member.2 sorted)
          sorted).Pairwise fun a b => a.1 < b.1 := by
    intro members
    induction members with
    | nil => exact fun hSorted => hSorted
    | cons member members ih =>
        exact fun hSorted => ih (pairwise_insertMember member.1 member.2 hSorted)
  unfold takeObject at h
  split at h
  · obtain ⟨⟨members, rest⟩, -, rfl⟩ := map_eq_ok_iff.mp h
    exact hFold members .nil
  · simp at h

end Json

/-- Names stand in the order of their bytes, each once. -/
def LintConfig.Ordered (config : LintConfig) : Prop :=
  config.rules.Pairwise fun a b => Text.bytes a.1 < Text.bytes b.1

/-- A configuration that is read has its names in order. -/
theorem LintConfig.ordered_of_ofText {text : String} {config : LintConfig}
    (h : ofText text = .ok config) : config.Ordered := by
  obtain ⟨⟨config, rest⟩, hRecord, h⟩ := bind_eq_ok_iff.mp h
  obtain ⟨⟨⟩, -, h⟩ := bind_eq_ok_iff.mp h
  obtain rfl := Except.ok.inj h
  have hOrdered : config.rules.Pairwise fun a b => a.1 < b.1 := by
    refine Json.takeRecord_keeps (fun config => config.rules.Pairwise fun a b => a.1 < b.1) ?_ .nil
      hRecord
    simp only [fields, List.forall_mem_cons, List.not_mem_nil, IsEmpty.forall_iff, implies_true,
      and_true]
    constructor
    · intro config cs result hConfig hField
      obtain ⟨⟨rules, rest⟩, hRules, rfl⟩ := map_eq_ok_iff.mp hField
      exact Json.pairwise_of_takeObject hRules
    · intro config cs result hConfig hField
      obtain ⟨⟨settings, rest⟩, -, rfl⟩ := map_eq_ok_iff.mp hField
      exact hConfig
  exact hOrdered.imp fun hLt => Text.bytes_lt_iff.mpr hLt

end PropTrace
