import Mathlib.Data.List.Basic

/-!
The order of texts is the order of their bytes. UTF-8 keeps the order of code points: a longer
encoding starts with a greater byte, and encodings of one length hold the digits of the code point
from the highest on.
-/
namespace PropTrace.Text

/-- The bytes of a text in UTF-8. -/
def bytes (text : String) : List UInt8 := text.toUTF8.data.toList

theorem bytes_eq (text : String) : bytes text = text.toList.flatMap String.utf8EncodeChar := by
  have hText : text.toByteArray = text.toList.utf8Encode := by
    rw [← String.toByteArray_ofList, String.ofList_toList]
  rw [bytes, String.toUTF8_eq_toByteArray, hText, List.utf8Encode, List.data_toByteArray]

/-- Numbers compare as their digits to the base 64 do. -/
theorem div_lt_or_mod_lt {m n : Nat} (h : m < n) :
    m / 64 < n / 64 ∨ m / 64 = n / 64 ∧ m % 64 < n % 64 := by
  omega

theorem utf8EncodeChar_append_lt {c d : Char} (h : c < d) (x y : List UInt8) :
    String.utf8EncodeChar c ++ x < String.utf8EncodeChar d ++ y := by
  have hLt : c.val.toNat < d.val.toNat := h
  have hBound : d.val.toNat < 1114112 := by
    have hValid := d.valid
    simp only [UInt32.isValidChar, Nat.isValidChar] at hValid
    omega
  unfold String.utf8EncodeChar
  simp only
  generalize c.val.toNat = m at *
  generalize d.val.toNat = n at *
  have hLow := div_lt_or_mod_lt hLt
  have hMiddle := fun h => @div_lt_or_mod_lt (m / 64) (n / 64) h
  have hHigh := fun h => @div_lt_or_mod_lt (m / 64 / 64) (n / 64 / 64) h
  simp only [Nat.div_div_eq_div_mul, Nat.reduceMul] at hMiddle hHigh
  -- one case for each two lengths, decided by the first bytes unless the lengths are equal
  split <;> [skip; split <;> [skip; split]] <;> (split <;> [skip; split <;> [skip; split]])
  all_goals
    simp (disch := omega) only [List.cons_append, List.nil_append, List.cons_lt_cons_iff,
      UInt8.lt_iff_toNat_lt, ← UInt8.toNat_inj, UInt8.toNat_ofNat', Nat.mod_eq_of_lt]
  all_goals omega

theorem flatMap_utf8EncodeChar_lt {cs ds : List Char} (h : cs < ds) :
    cs.flatMap String.utf8EncodeChar < ds.flatMap String.utf8EncodeChar := by
  induction h with
  | @nil d ds =>
      obtain ⟨byte, bytes, hBytes⟩ :=
        List.exists_cons_of_ne_nil (String.utf8EncodeChar_ne_nil (c := d))
      rw [List.flatMap_nil, List.flatMap_cons, hBytes, List.cons_append]
      exact List.nil_lt_cons _ _
  | rel hLt =>
      rw [List.flatMap_cons, List.flatMap_cons]
      exact utf8EncodeChar_append_lt hLt _ _
  | cons _ ih =>
      rw [List.flatMap_cons, List.flatMap_cons]
      exact List.append_left_lt ih

theorem bytes_lt_iff {a b : String} : bytes a < bytes b ↔ a < b := by
  have hBytes : ∀ {a b : String}, a < b → bytes a < bytes b := by
    intro a b hLt
    rw [bytes_eq, bytes_eq]
    exact flatMap_utf8EncodeChar_lt (String.lt_iff.mp hLt)
  refine ⟨fun hLt => ?_, hBytes⟩
  by_contra hNot
  rcases List.le_iff_lt_or_eq.mp (String.not_lt.mp hNot) with hGreater | hEq
  · exact List.lt_asymm hLt (hBytes hGreater)
  · obtain rfl := String.toList_inj.mp hEq
    exact List.lt_irrefl _ hLt

end PropTrace.Text
