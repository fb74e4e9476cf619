import Mathlib.Data.List.DropRight
import Mathlib.Data.List.TakeWhile
import PropTrace.Rule.Check

/-!
What the directive gate depends on. Looking for a phrase in the trimmed first line is looking for it
in the source before the first line end: trimming takes away nothing that could be part of the
phrase, and nothing behind the line end is looked at.
-/
namespace PropTrace

namespace Text

variable {phrase cs : List Char}

theorem containsPhrase_iff : containsPhrase phrase cs = true ↔ phrase <:+: cs := by
  induction cs with
  | nil => simp [containsPhrase]
  | cons c rest ih =>
      rw [containsPhrase, Bool.or_eq_true, List.isPrefixOf_iff_prefix, ih, List.infix_cons_iff]

/-! ## Trimming -/

/-- A phrase that starts with no dropped character is not lost with them. -/
theorem infix_dropWhile_iff {drops : Char → Bool} (hHead : ∀ c ∈ phrase.head?, drops c = false) :
    phrase <:+: cs.dropWhile drops ↔ phrase <:+: cs := by
  induction cs with
  | nil => simp
  | cons c rest ih =>
      cases hDrops : drops c with
      | false => rw [List.dropWhile_cons_of_neg (by simp [hDrops])]
      | true =>
          rw [List.dropWhile_cons_of_pos hDrops, ih, List.infix_cons_iff]
          refine ⟨.inr, fun hEither => hEither.elim (fun hPrefix => ?_) id⟩
          cases phrase with
          | nil => exact List.nil_infix
          | cons first more =>
              obtain ⟨rfl, -⟩ := List.cons_prefix_cons.mp hPrefix
              simp [hHead first rfl] at hDrops

/-- Trimming neither breaks a phrase nor makes one, if the phrase has no white space at its ends. -/
theorem infix_trim_iff (hHead : ∀ c ∈ phrase.head?, isBlank c = false)
    (hLast : ∀ c ∈ phrase.getLast?, isBlank c = false) :
    phrase <:+: trim cs ↔ phrase <:+: cs := by
  calc phrase <:+: trim cs
      _ ↔ phrase.reverse <:+: (cs.dropWhile isBlank).reverse.dropWhile isBlank := by
        rw [trim, ← List.reverse_infix, List.reverse_reverse]
      _ ↔ phrase.reverse <:+: (cs.dropWhile isBlank).reverse :=
        infix_dropWhile_iff (by simpa using hLast)
      _ ↔ phrase <:+: cs.dropWhile isBlank := List.reverse_infix
      _ ↔ phrase <:+: cs := infix_dropWhile_iff hHead

/-- `core` is a text without the white space around it. -/
structure IsCore (cs core : List Char) : Prop where
  around : ∃ front back, cs = front ++ core ++ back ∧ ∀ c ∈ front ++ back, isBlank c = true
  head : ∀ c ∈ core.head?, isBlank c = false
  last : ∀ c ∈ core.getLast?, isBlank c = false

theorem IsCore.subset {core : List Char} (hCore : IsCore cs core) : core ⊆ cs := by
  obtain ⟨front, back, rfl, -⟩ := hCore.around
  exact (List.infix_append front core back).subset

theorem isCore_trim (cs : List Char) : IsCore cs (trim cs) := by
  have hNotBlank : ∀ cs : List Char, ∀ c ∈ (cs.dropWhile isBlank).head?, isBlank c = false := by
    intro cs c hMem
    have hHead := List.head?_dropWhile_not isBlank cs
    rwa [Option.mem_def.mp hMem] at hHead
  constructor
  · let back := (cs.dropWhile isBlank).reverse.takeWhile isBlank
    refine ⟨cs.takeWhile isBlank, back.reverse, ?_, ?_⟩
    · rw [trim, List.append_assoc, ← List.reverse_append, List.takeWhile_append_dropWhile,
        List.reverse_reverse, List.takeWhile_append_dropWhile]
    · intro c hMem
      rcases List.mem_append.mp hMem with hFront | hBack
      · exact List.mem_takeWhile_imp hFront
      · exact List.mem_takeWhile_imp (List.mem_reverse.mp hBack)
  · intro c hMem
    obtain ⟨back, hBack⟩ := List.rdropWhile_prefix isBlank (cs.dropWhile isBlank)
    have hHead : (trim cs ++ back).head? = some c := by
      rw [List.head?_append, Option.mem_def.mp hMem, Option.some_or]
    exact hNotBlank cs c (hBack ▸ hHead)
  · intro c hMem
    rw [trim, List.getLast?_reverse] at hMem
    exact hNotBlank _ c hMem

/-! ## The first line -/

/-- What stands in the first line stands before everything that ends a line. -/
theorem infix_firstLine_iff :
    phrase <:+: firstLine cs ↔
      ∃ before after, cs = before ++ phrase ++ after ∧
        ∀ c ∈ before ++ phrase, isLineEnd c = false := by
  constructor
  · rintro ⟨before, after, hLine⟩
    refine ⟨before, after ++ cs.dropWhile fun c => !isLineEnd c, ?_, fun c hMem => ?_⟩
    · rw [← List.append_assoc, hLine]
      exact List.takeWhile_append_dropWhile.symm
    · have hLineMem : c ∈ firstLine cs := hLine ▸ List.mem_append_left after hMem
      simpa using List.mem_takeWhile_imp hLineMem
  · rintro ⟨before, after, rfl, hLine⟩
    rw [firstLine, List.takeWhile_append_of_pos (by simpa using hLine)]
    exact List.infix_append before phrase _

/-- The same of a phrase in a source. -/
theorem infix_firstLine_toList_iff {phrase source : String} :
    phrase.toList <:+: firstLine source.toList ↔
      ∃ before after, source = before ++ phrase ++ after ∧
        ∀ c ∈ (before ++ phrase).toList, isLineEnd c = false := by
  rw [infix_firstLine_iff]
  constructor
  · rintro ⟨before, after, hSource, hLine⟩
    refine ⟨String.ofList before, String.ofList after, String.toList_inj.mp ?_, ?_⟩
    · simpa [String.toList_append] using hSource
    · simpa [String.toList_append] using hLine
  · rintro ⟨before, after, rfl, hLine⟩
    rw [String.toList_append] at hLine
    exact ⟨before.toList, after.toList, by simp [String.toList_append], hLine⟩

theorem firstLine_append {line rest : List Char} (hLine : ∀ c ∈ line, isLineEnd c = false)
    (hRest : ∀ c ∈ rest.head?, isLineEnd c = true) : firstLine (line ++ rest) = line := by
  rw [firstLine, List.takeWhile_append_of_pos (by simpa using hLine)]
  cases rest with
  | nil => simp
  | cons stop rest => simp [hRest stop rfl]

theorem isLineEnd_eq_false_iff {c : Char} :
    isLineEnd c = false ↔ c ≠ '\n' ∧ c ≠ '\r' ∧ c ≠ '\u2028' ∧ c ≠ '\u2029' := by
  simp [isLineEnd, and_assoc]

end Text

open Text

/-- The directive has no white space at its ends. -/
theorem infix_trim_useClient_iff {cs : List Char} :
    useClient.toList <:+: trim cs ↔ useClient.toList <:+: cs := by
  have hChars : useClient.toList = ['u', 's', 'e', ' ', 'c', 'l', 'i', 'e', 'n', 't'] := rfl
  rw [hChars]
  exact infix_trim_iff (by simp [isBlank]) (by simp [isBlank])

/-- The option counts before the setting, and without either nothing is asked for. -/
theorem RuleOptions.nextEnabled_iff {options : RuleOptions} {settings : Settings} :
    options.nextEnabled settings = true ↔
      options.next = some true ∨ options.next = none ∧ settings.next = some true := by
  rw [nextEnabled]
  cases options.next <;> cases settings.next <;> simp

namespace RuleContext

variable {context : RuleContext}

/-- The same context over another source. -/
def withSource (context : RuleContext) (source : String) : RuleContext :=
  { context with unit := { context.unit with source } }

theorem gateOpen_iff :
    context.gateOpen = true ↔
      context.options.nextEnabled context.settings = false ∨
        useClient.toList <:+: Text.firstLine context.unit.source.toList := by
  rw [gateOpen, Bool.or_eq_true, Bool.not_eq_true', containsPhrase_iff, infix_trim_useClient_iff]

/-- Sources with the same first line are the same to the gate. -/
theorem gateOpen_congr {other : RuleContext} (hOptions : other.options = context.options)
    (hSettings : other.settings = context.settings)
    (hLine : other.unit.firstLine = context.unit.firstLine) :
    other.gateOpen = context.gateOpen := by
  have hChars : Text.firstLine other.unit.source.toList =
      Text.firstLine context.unit.source.toList := String.ofList_injective hLine
  rw [Bool.eq_iff_iff, gateOpen_iff, gateOpen_iff, hOptions, hSettings, hChars]

/-- The gate is open exactly if the directive is not asked for or stands in the source with nothing
before its end that ends a line. It makes no difference what else there is: the trimmed first line,
which is all of the line but the white space at its ends, answers as the line does, and so does
whatever text follows the line end. -/
theorem gate_reads_firstLine (context : RuleContext) :
    (context.gateOpen = true ↔
      ¬(context.options.next = some true ∨
          context.options.next = none ∧ context.settings.next = some true) ∨
        ∃ before after, context.unit.source = before ++ useClient ++ after ∧
          ∀ c ∈ (before ++ useClient).toList,
            c ≠ '\n' ∧ c ≠ '\r' ∧ c ≠ '\u2028' ∧ c ≠ '\u2029') ∧
    (∀ other : RuleContext, other.options = context.options → other.settings = context.settings →
      other.unit.firstLine = context.unit.firstLine → other.gateOpen = context.gateOpen) ∧
    (∀ line rest : String, (∀ c ∈ line.toList, isLineEnd c = false) →
      (∀ c ∈ rest.toList.head?, isLineEnd c = true) →
        IsCore line.toList (trim line.toList) ∧
          (context.withSource (String.ofList (trim line.toList) ++ rest)).gateOpen =
            (context.withSource (line ++ rest)).gateOpen) ∧
    ∀ (line : String) (stop : Char) (rest rest' : String),
      (∀ c ∈ line.toList, isLineEnd c = false) → isLineEnd stop = true →
        (context.withSource (line ++ stop.toString ++ rest')).gateOpen =
          (context.withSource (line ++ stop.toString ++ rest)).gateOpen := by
  refine ⟨?_, fun other => gateOpen_congr, ?_, ?_⟩
  · rw [gateOpen_iff, ← RuleOptions.nextEnabled_iff, Bool.not_eq_true, infix_firstLine_toList_iff]
    simp only [isLineEnd_eq_false_iff]
  · intro line rest hLine hRest
    have hCore := isCore_trim line.toList
    refine ⟨hCore, ?_⟩
    have hTrimmed : ∀ c ∈ trim line.toList, isLineEnd c = false := fun c hMem =>
      hLine c (hCore.subset hMem)
    rw [Bool.eq_iff_iff, gateOpen_iff, gateOpen_iff]
    simp only [withSource, String.toList_append, String.toList_ofList,
      firstLine_append hTrimmed hRest, firstLine_append hLine hRest]
    rw [infix_trim_useClient_iff]
  · intro line stop rest rest' hLine hStop
    have hFirst : ∀ rest : String,
        (context.withSource (line ++ stop.toString ++ rest)).unit.firstLine = line := by
      intro rest
      have hChars : Text.firstLine (line.toList ++ stop :: rest.toList) = line.toList :=
        firstLine_append hLine (by simpa using hStop)
      simp [SourceUnit.firstLine, withSource, String.toList_append, hChars]
    exact gateOpen_congr rfl rfl ((hFirst rest').trans (hFirst rest).symm)

/-- A page for the client in a project that asks for the directive; there is white space of other
kinds than the blank around it. -/
def clientPage : RuleContext where
  rule := "jsx-no-jsx-as-prop"
  unit := .empty "page.jsx" "\u3000'use client'\u0085\u000b\r\nimport x from 'x';"
  options := {}
  settings := { next := some true }

theorem clientPage_reads_firstLine :
    clientPage.gateOpen = true ∧
      (clientPage.withSource (String.ofList (trim "\u3000'use client'\u000b".toList) ++
        "\u2029'use server'")).gateOpen =
          (clientPage.withSource ("\u3000'use client'\u000b" ++ "\u2029'use server'")).gateOpen ∧
      (clientPage.withSource ("'use'" ++ '\u2028'.toString ++ "use client")).gateOpen = false := by
  obtain ⟨hOpen, -, hTrimmed, hBehind⟩ := gate_reads_firstLine clientPage
  refine ⟨hOpen.mpr (.inr ⟨"\u3000'", "'\u0085\u000b\r\nimport x from 'x';", ?_, ?_⟩), ?_, ?_⟩
  · decide
  · simp [useClient]
  · exact (hTrimmed _ _ (by simp [isLineEnd]) (by simp [isLineEnd])).2
  · have hClosed : (clientPage.withSource ("'use'" ++ '\u2028'.toString ++ "")).gateOpen = false := by
      decide
    exact (hBehind "'use'" '\u2028' "" "use client" (by simp [isLineEnd]) rfl).trans hClosed

end RuleContext

end PropTrace
