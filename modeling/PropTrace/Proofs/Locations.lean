import Mathlib.Data.List.Induction
import Mathlib.Data.List.TakeWhile
import PropTrace.Diagnostic

/-!
Offsets, lines and columns. Between characters the place of an offset grows with the offset, first in
its line and then, with each line feed, from line to line. So a place has one offset, and going over
as many line feeds and characters as it counts leads back there. An offset past the end stands for
the end.
-/
namespace PropTrace

namespace Text

/-- The offset of the last line feed of a text. -/
def lastBreak? : List Char → Option Nat
  | [] => none
  | c :: rest =>
    match lastBreak? rest with
    | some offset => some (c.utf8Size + offset)
    | none => if c = '\n' then some 0 else none

/-- What comes after the first `breaks` line feeds, if there are as many. -/
def dropLines? : Nat → List Char → Option (List Char)
  | 0, cs => some cs
  | _ + 1, [] => none
  | breaks + 1, c :: rest => dropLines? (if c = '\n' then breaks else breaks + 1) rest

/-- What comes after the first `count` characters, if there are as many. -/
def dropChars? (count : Nat) (cs : List Char) : Option (List Char) :=
  if count ≤ cs.length then some (cs.drop count) else none

variable {cs before rest lines last : List Char} {count : Nat}

theorem byteLength_append (cs ds : List Char) :
    byteLength (cs ++ ds) = byteLength cs + byteLength ds := by
  induction cs with
  | nil => simp [byteLength]
  | cons c cs ih => simp only [List.cons_append, byteLength, ih, Nat.add_assoc]

theorem length_le_byteLength (cs : List Char) : cs.length ≤ byteLength cs := by
  induction cs with
  | nil => exact Nat.le_refl 0
  | cons c cs ih =>
      have hPos := c.utf8Size_pos
      simp only [List.length_cons, byteLength]
      omega

theorem utf8ByteSize_ofList (cs : List Char) :
    (String.ofList cs).utf8ByteSize = byteLength cs := by
  induction cs with
  | nil => rfl
  | cons c cs ih =>
      have hSplit : String.ofList (c :: cs) = String.singleton c ++ String.ofList cs := by
        rw [← String.toList_inj]
        simp
      rw [hSplit, String.utf8ByteSize_append, String.utf8ByteSize_singleton, ih, byteLength]

theorem byteLength_toList (text : String) : byteLength text.toList = text.utf8ByteSize := by
  rw [← utf8ByteSize_ofList, String.ofList_toList]

theorem takeBytes?_append (before rest : List Char) :
    takeBytes? (byteLength before) (before ++ rest) = some before := by
  induction before with
  | nil => simp [byteLength, takeBytes?]
  | cons c before ih =>
      obtain ⟨size, hSize⟩ := Nat.exists_eq_add_one_of_ne_zero (Nat.ne_zero_of_lt c.utf8Size_pos)
      have hCount : c.utf8Size + byteLength before = size + byteLength before + 1 := by omega
      rw [byteLength, List.cons_append, hCount, takeBytes?, if_pos (by omega)]
      rw [← hCount, Nat.add_sub_cancel_left, ih, Option.map_some]

theorem dropBytes?_append (before rest : List Char) :
    dropBytes? (byteLength before) (before ++ rest) = some rest := by
  induction before with
  | nil => simp [byteLength, dropBytes?]
  | cons c before ih =>
      obtain ⟨size, hSize⟩ := Nat.exists_eq_add_one_of_ne_zero (Nat.ne_zero_of_lt c.utf8Size_pos)
      have hCount : c.utf8Size + byteLength before = size + byteLength before + 1 := by omega
      rw [byteLength, List.cons_append, hCount, dropBytes?, if_pos (by omega)]
      rw [← hCount, Nat.add_sub_cancel_left, ih]

/-- Bytes of a text that are a text of their own are its first characters. -/
theorem prefix_of_takeBytes? (h : takeBytes? count cs = some before) : before <+: cs := by
  induction cs generalizing count before with
  | nil =>
      cases count with
      | zero => simp_all [takeBytes?]
      | succ count => cases h
  | cons c cs ih =>
      cases count with
      | zero =>
          cases h
          exact List.nil_prefix
      | succ count =>
          rw [takeBytes?] at h
          split at h
          · obtain ⟨inner, hInner, rfl⟩ := Option.map_eq_some_iff.mp h
            exact List.cons_prefix_cons.mpr ⟨rfl, ih hInner⟩
          · cases h

/-- An offset stands between characters if it counts the bytes of the first ones. -/
theorem isValid_iff {text : String} {offset : Nat} :
    (⟨offset⟩ : String.Pos.Raw).IsValid text ↔
      ∃ before rest, text.toList = before ++ rest ∧ offset = byteLength before := by
  rw [String.Pos.Raw.isValid_iff_exists_append]
  constructor
  · rintro ⟨before, rest, rfl, hOffset⟩
    refine ⟨before.toList, rest.toList, String.toList_append, ?_⟩
    rw [byteLength_toList]
    exact congrArg String.Pos.Raw.byteIdx hOffset
  · rintro ⟨before, rest, hText, rfl⟩
    refine ⟨String.ofList before, String.ofList rest, ?_, ?_⟩
    · rw [← String.ofList_append, ← hText, String.ofList_toList]
    · rw [← utf8ByteSize_ofList]
      rfl

/-- A text is one line, or lines with a last one after them. -/
theorem lastLine_cases (cs : List Char) :
    '\n' ∉ cs ∨ ∃ lines last, cs = lines ++ '\n' :: last ∧ '\n' ∉ last := by
  induction cs using List.reverseRecOn with
  | nil => exact .inl List.not_mem_nil
  | append_singleton cs c ih =>
      by_cases hBreak : c = '\n'
      · exact .inr ⟨cs, [], by rw [hBreak], List.not_mem_nil⟩
      · rcases ih with hNone | ⟨lines, last, rfl, hLast⟩
        · left
          simpa [hNone] using Ne.symm hBreak
        · right
          refine ⟨lines, last ++ [c], by simp, ?_⟩
          simpa [hLast] using Ne.symm hBreak

theorem lastBreak?_of_not_mem (h : '\n' ∉ cs) : lastBreak? cs = none := by
  induction cs with
  | nil => rfl
  | cons c cs ih =>
      rw [List.mem_cons, not_or] at h
      rw [lastBreak?, ih h.2]
      exact if_neg (Ne.symm h.1)

theorem lastBreak?_append (lines : List Char) (hLast : '\n' ∉ last) :
    lastBreak? (lines ++ '\n' :: last) = some (byteLength lines) := by
  induction lines with
  | nil => simp [lastBreak?, lastBreak?_of_not_mem hLast, byteLength]
  | cons c lines ih => rw [List.cons_append, lastBreak?, ih, byteLength]

theorem dropLines?_zero (cs : List Char) : dropLines? 0 cs = some cs := by
  cases cs <;> rfl

/-- Going over the line feeds of a text and one more goes over the text and the line feed. -/
theorem dropLines?_append (lines rest : List Char) :
    dropLines? (lines.count '\n' + 1) (lines ++ '\n' :: rest) = some rest := by
  induction lines with
  | nil => exact dropLines?_zero rest
  | cons c lines ih =>
      rw [← ih, List.cons_append, dropLines?, List.count_cons]
      by_cases hBreak : c = '\n' <;> simp [hBreak]

theorem dropChars?_append (before rest : List Char) :
    dropChars? before.length (before ++ rest) = some rest := by
  simp [dropChars?]

end Text

namespace Location

/-- The place comes earlier in the text: on an earlier line, or on the same line further left. -/
def Before (a b : Location) : Prop :=
  a.line < b.line ∨ a.line = b.line ∧ a.column < b.column

/-- The place one character further on. -/
def advance (location : Location) (c : Char) : Location :=
  if c = '\n' then ⟨location.line + 1, 1⟩ else ⟨location.line, location.column + 1⟩

/-- The offset of a place: over the line feeds before its line, then over the characters before its
column. -/
def toOffset? (location : Location) (text : String) : Option Nat :=
  let cs := text.toList
  ((Text.dropLines? (location.line - 1) cs).bind (Text.dropChars? (location.column - 1))).map
    fun rest => Text.byteLength cs - Text.byteLength rest

/-- A count that fits a word of 32 bits. -/
def word? (count : Nat) : Option Nat := if count < UInt32.size then some count else none

/-- The place of an offset, with its line read off as a piece of the text. Fails where a piece would
lie outside the text or end inside a character, and where a count does not fit a word. -/
def ofPieces? (text : String) (offset : Nat) : Option Location := do
  let cs := text.toList
  let before := (Text.takeBytes? (min offset (Text.byteLength cs)) cs).getD cs
  let line ← word? (before.count '\n' + 1)
  let start := ((Text.lastBreak? before).map (· + 1)).getD 0
  let inLine ← Text.dropBytes? start before
  let column ← word? (inLine.length + 1)
  return ⟨line, column⟩

variable {text : String} {before rest lines last : List Char} {first second offset : Nat}
  {a b c : Location}

theorem Before.trans (hFirst : a.Before b) (hSecond : b.Before c) : a.Before c := by
  unfold Before at *
  omega

theorem Before.ne (h : a.Before b) : a ≠ b := by
  rintro rfl
  unfold Before at h
  omega

theorem before_advance (location : Location) (c : Char) : location.Before (location.advance c) := by
  rw [advance]
  split
  · exact .inl (Nat.lt_succ_self _)
  · exact .inr ⟨rfl, Nat.lt_succ_self _⟩

theorem after_concat (before : List Char) (c : Char) :
    after (before ++ [c]) = (after before).advance c := by
  by_cases hBreak : c = '\n' <;> simp [after, advance, hBreak]

theorem after_append (before added : List Char) :
    after (before ++ added) = added.foldl advance (after before) := by
  induction added using List.reverseRecOn with
  | nil => simp
  | append_singleton added c ih =>
      rw [← List.append_assoc, after_concat, ih, List.foldl_append]
      rfl

/-- The place after more characters is later. -/
theorem before_foldl_advance (location : Location) (c : Char) (more : List Char) :
    location.Before ((c :: more).foldl advance location) := by
  induction more generalizing location c with
  | nil => exact before_advance location c
  | cons d more ih => exact (before_advance location c).trans (ih (location.advance c) d)

theorem after_of_not_mem (h : '\n' ∉ before) : after before = ⟨1, before.length + 1⟩ := by
  have hLine : before.reverse.takeWhile (· ≠ '\n') = before.reverse := by
    rw [List.takeWhile_eq_self_iff]
    intro c hMem
    rw [decide_eq_true_iff]
    rintro rfl
    exact h (List.mem_reverse.mp hMem)
  rw [after, hLine, List.count_eq_zero_of_not_mem h, List.length_reverse]

theorem after_lines (lines : List Char) (hLast : '\n' ∉ last) :
    after (lines ++ '\n' :: last) = ⟨lines.count '\n' + 2, last.length + 1⟩ := by
  have hLine : (lines ++ '\n' :: last).reverse.takeWhile (· ≠ '\n') = last.reverse := by
    rw [List.reverse_append, List.reverse_cons, List.append_assoc, List.takeWhile_append_of_pos]
    · simp
    · intro c hMem
      rw [decide_eq_true_iff]
      rintro rfl
      exact hLast (List.mem_reverse.mp hMem)
  rw [after, hLine, List.length_reverse, List.count_append, List.count_cons_self,
    List.count_eq_zero_of_not_mem hLast]

/-- Between characters the place is the one right after the characters before. -/
theorem ofOffset_append (hText : text.toList = before ++ rest) :
    ofOffset text (Text.byteLength before) = after before := by
  have hLe : Text.byteLength before ≤ Text.byteLength text.toList := by
    rw [hText, Text.byteLength_append]
    omega
  simp only [ofOffset]
  rw [Nat.min_eq_left hLe, hText, Text.takeBytes?_append, Option.getD_some]

theorem ofOffset_of_le (hEnd : text.utf8ByteSize ≤ offset) :
    ofOffset text offset = ofOffset text text.utf8ByteSize := by
  simp only [ofOffset, Text.byteLength_toList]
  rw [Nat.min_eq_right hEnd, Nat.min_self]

/-- Between characters a later offset has a later place. -/
theorem ofOffset_before (hLt : first < second) (hFirst : (⟨first⟩ : String.Pos.Raw).IsValid text)
    (hSecond : (⟨second⟩ : String.Pos.Raw).IsValid text) :
    (ofOffset text first).Before (ofOffset text second) := by
  obtain ⟨before, rest, hText, rfl⟩ := Text.isValid_iff.mp hFirst
  obtain ⟨longer, others, hSame, rfl⟩ := Text.isValid_iff.mp hSecond
  rw [ofOffset_append hText, ofOffset_append hSame]
  rcases List.append_eq_append_iff.mp (hText.symm.trans hSame) with
    ⟨added, rfl, -⟩ | ⟨removed, rfl, -⟩
  · cases added with
    | nil =>
        rw [List.append_nil] at hLt
        exact absurd hLt (Nat.lt_irrefl _)
    | cons c more =>
        rw [after_append]
        exact before_foldl_advance _ c more
  · rw [Text.byteLength_append] at hLt
    omega

/-- Going over the lines and characters that a place counts leads back to its offset. -/
theorem toOffset?_ofOffset (hOffset : (⟨offset⟩ : String.Pos.Raw).IsValid text) :
    (ofOffset text offset).toOffset? text = some offset := by
  obtain ⟨before, rest, hText, rfl⟩ := Text.isValid_iff.mp hOffset
  have hBack : (Text.dropLines? ((after before).line - 1) (before ++ rest)).bind
      (Text.dropChars? ((after before).column - 1)) = some rest := by
    rcases Text.lastLine_cases before with hNone | ⟨lines, last, rfl, hLast⟩
    · rw [after_of_not_mem hNone]
      show (Text.dropLines? 0 (before ++ rest)).bind (Text.dropChars? before.length) = some rest
      rw [Text.dropLines?_zero]
      exact Text.dropChars?_append before rest
    · rw [after_lines lines hLast, List.append_assoc, List.cons_append]
      show (Text.dropLines? (lines.count '\n' + 1) (lines ++ '\n' :: (last ++ rest))).bind
        (Text.dropChars? last.length) = some rest
      rw [Text.dropLines?_append]
      exact Text.dropChars?_append last rest
  rw [ofOffset_append hText, toOffset?]
  simp only [hText]
  rw [hBack, Option.map_some, Text.byteLength_append, Nat.add_sub_cancel]

/-- The last line of a text is a piece of it, and the column counts its characters. -/
theorem exists_lastLine (before : List Char) :
    ∃ last, Text.dropBytes? (((Text.lastBreak? before).map (· + 1)).getD 0) before = some last ∧
      (after before).column = last.length + 1 ∧ last.length ≤ before.length := by
  rcases Text.lastLine_cases before with hNone | ⟨lines, last, rfl, hLast⟩
  · rw [Text.lastBreak?_of_not_mem hNone, after_of_not_mem hNone]
    exact ⟨before, Text.dropBytes?_append [] before, rfl, Nat.le_refl _⟩
  · have hSplit := Text.dropBytes?_append (lines ++ ['\n']) last
    rw [Text.byteLength_append, List.append_assoc] at hSplit
    rw [Text.lastBreak?_append lines hLast, after_lines lines hLast]
    refine ⟨last, hSplit, rfl, ?_⟩
    simp only [List.length_append, List.length_cons]
    omega

theorem word?_of_lt {count : Nat} (h : count < UInt32.size) : word? count = some count := if_pos h

/-- In a text that is not too long every piece exists and every count fits. -/
theorem ofPieces?_eq (hShort : text.utf8ByteSize < UInt32.size - 1) (offset : Nat) :
    ofPieces? text offset = some (ofOffset text offset) := by
  simp only [ofPieces?, ofOffset]
  generalize hBefore : (Text.takeBytes? (min offset (Text.byteLength text.toList))
    text.toList).getD text.toList = before
  have hPrefix : before <+: text.toList := by
    rw [← hBefore]
    cases hTake : Text.takeBytes? (min offset (Text.byteLength text.toList)) text.toList with
    | none => exact List.prefix_rfl
    | some taken => exact Text.prefix_of_takeBytes? hTake
  have hBytes := Text.length_le_byteLength text.toList
  rw [Text.byteLength_toList] at hBytes
  have hLength := hPrefix.length_le
  have hCount : before.count '\n' ≤ before.length := List.count_le_length
  obtain ⟨last, hLast, hColumn, hLess⟩ := exists_lastLine before
  rw [word?_of_lt (by omega), hLast]
  show (word? (last.length + 1)).bind (fun column => some (mk (before.count '\n' + 1) column)) =
    some (after before)
  rw [word?_of_lt (by omega), ← hColumn]
  rfl

/-- Places are faithful to offsets. In a text of fewer than `UInt32.size - 1` bytes, offsets between
characters have places in their own order, no two of them the same place, and going over the lines
and characters that the place of an offset counts leads back to the offset. An offset past the end
has the place of the end. For every offset the pieces that the place is read off exist, and its
counts fit words of 32 bits. -/
theorem ofOffset_faithful (text : String) (hShort : text.utf8ByteSize < UInt32.size - 1) :
    (∀ first second, first < second → (⟨first⟩ : String.Pos.Raw).IsValid text →
      (⟨second⟩ : String.Pos.Raw).IsValid text →
      (ofOffset text first).Before (ofOffset text second)) ∧
    (∀ first second, (⟨first⟩ : String.Pos.Raw).IsValid text →
      (⟨second⟩ : String.Pos.Raw).IsValid text →
      ofOffset text first = ofOffset text second → first = second) ∧
    (∀ offset, (⟨offset⟩ : String.Pos.Raw).IsValid text →
      (ofOffset text offset).toOffset? text = some offset) ∧
    (∀ offset, text.utf8ByteSize ≤ offset →
      ofOffset text offset = ofOffset text text.utf8ByteSize) ∧
    ∀ offset, ofPieces? text offset = some (ofOffset text offset) := by
  refine ⟨fun first second => ofOffset_before, ?_, fun offset => toOffset?_ofOffset,
    fun offset => ofOffset_of_le, ofPieces?_eq hShort⟩
  intro first second hFirst hSecond hSame
  have hBack := toOffset?_ofOffset hFirst
  rw [hSame, toOffset?_ofOffset hSecond] at hBack
  exact (Option.some.inj hBack).symm

/-- A letter of two bytes, an empty line and a letter on the third line. -/
def accentedLines : String := "aé\n\nb"

/-- The third line is later than the end of the first one, and offset 2, inside the letter of two
bytes, stands for the end. -/
theorem accentedLines_faithful :
    accentedLines.utf8ByteSize < UInt32.size - 1 ∧ (⟨3⟩ : String.Pos.Raw).IsValid accentedLines ∧
      (⟨5⟩ : String.Pos.Raw).IsValid accentedLines ∧
      (ofOffset accentedLines 3).Before (ofOffset accentedLines 5) ∧
      (⟨3, 1⟩ : Location).toOffset? accentedLines = some 5 ∧
      ofOffset accentedLines 9 = ⟨3, 2⟩ ∧ ofPieces? accentedLines 2 = some ⟨3, 2⟩ := by
  have hShort : accentedLines.utf8ByteSize < UInt32.size - 1 := by decide
  have hThird : (⟨3⟩ : String.Pos.Raw).IsValid accentedLines :=
    Text.isValid_iff.mpr ⟨['a', 'é'], ['\n', '\n', 'b'], rfl, rfl⟩
  have hFifth : (⟨5⟩ : String.Pos.Raw).IsValid accentedLines :=
    Text.isValid_iff.mpr ⟨['a', 'é', '\n', '\n'], ['b'], rfl, rfl⟩
  obtain ⟨hOrder, -, hBack, hEnd, hPieces⟩ := ofOffset_faithful accentedLines hShort
  exact ⟨hShort, hThird, hFifth, hOrder 3 5 (by decide) hThird hFifth, hBack 5 hFifth,
    hEnd 9 (by decide), hPieces 2⟩

end Location

end PropTrace
