import Mathlib.Data.List.Basic
import PropTrace.Discovery

/-!
What a path leads to. A path is read one segment at a time, and a segment that stays where it is
only asks for a directory; so the spelling of a root in front of a place decides where a reading
starts, and nothing else about it.
-/
namespace PropTrace

namespace FileTree

/-- A tree that stands at a place of another. -/
inductive Holds : FileTree → List String → FileTree → Prop where
  | here (tree : FileTree) : Holds tree [] tree
  | inside {entries : List (String × FileTree)} {name : String} {child : FileTree}
      {place : List String} {leaf : FileTree} (entry : (name, child) ∈ entries)
      (rest : Holds child place leaf) : Holds (.directory entries) (name :: place) leaf

/-- What an entry of a directory can be called. -/
structure IsEntryName (name : String) : Prop where
  moves : staysHere name = false
  descends : name ≠ ".."
  single : '/' ∉ name.toList

instance : DecidablePred IsEntryName := fun name =>
  decidable_of_iff (staysHere name = false ∧ name ≠ ".." ∧ '/' ∉ name.toList)
    ⟨fun ⟨hMoves, hDescends, hSingle⟩ => ⟨hMoves, hDescends, hSingle⟩,
      fun ⟨hMoves, hDescends, hSingle⟩ => ⟨hMoves, hDescends, hSingle⟩⟩

/-- Every name in the tree can be one, and no directory has two entries of one name. -/
inductive Proper : FileTree → Prop where
  | file (text : Option String) : Proper (.file text)
  | directory {entries : List (String × FileTree)} (distinct : (entries.map Prod.fst).Nodup)
      (names : ∀ entry ∈ entries, IsEntryName entry.1)
      (children : ∀ entry ∈ entries, Proper entry.2) : Proper (.directory entries)

theorem entries_induction {motive : FileTree → Prop} (file : ∀ text, motive (.file text))
    (directory : ∀ entries, (∀ entry ∈ entries, motive entry.2) → motive (.directory entries)) :
    ∀ tree, motive tree
  | .file text => file text
  | .directory entries =>
      directory entries fun entry _ => entries_induction file directory entry.2
termination_by tree => tree
decreasing_by
  have hSize := List.sizeOf_lt_of_mem ‹entry ∈ entries›
  obtain ⟨name, child⟩ := entry
  simp only [Prod.mk.sizeOf_spec, FileTree.directory.sizeOf_spec] at hSize ⊢
  omega

theorem Proper.lookup {entries : List (String × FileTree)} (hProper : Proper (.directory entries))
    {name : String} {child : FileTree} (hEntry : (name, child) ∈ entries) :
    entries.lookup name = some child := by
  cases hProper with
  | directory distinct =>
      obtain ⟨before, after, rfl⟩ := List.append_of_mem hEntry
      refine List.lookup_eq_some_iff.mpr ⟨before, after, rfl, fun other hOther => ?_⟩
      have hBefore : name ∉ before.map Prod.fst := by
        simp only [List.map_append, List.map_cons, List.nodup_append] at distinct
        exact fun hMem => distinct.2.2 name hMem name List.mem_cons_self rfl
      exact bne_iff_ne.mpr fun hSame => hBefore (hSame ▸ List.mem_map_of_mem hOther)

theorem Holds.isEntryName {tree leaf : FileTree} {place : List String}
    (hHolds : tree.Holds place leaf) (hProper : tree.Proper) :
    ∀ name ∈ place, IsEntryName name := by
  induction hHolds with
  | here => simp
  | inside entry _ ih =>
      cases hProper with
      | directory _ names children =>
          exact List.forall_mem_cons.mpr ⟨names _ entry, ih (children _ entry)⟩

/-! ## Segments -/

theorem segments_ne_nil (path : String) : segments path ≠ [] := by
  simp [segments]

theorem segments_intercalate {names : List String} (hNames : names ≠ [])
    (hSingle : ∀ name ∈ names, '/' ∉ name.toList) : segments ("/".intercalate names) = names := by
  have hSplit : (['/'].intercalate (names.map String.toList)).splitOn '/' =
      names.map String.toList :=
    List.splitOn_intercalate '/' (by simpa using hSingle) (by simpa using hNames)
  simp [segments, String.toList_intercalate, hSplit, Function.comp_def]

theorem not_mem_of_mem_splitOn {separator : Char} {text part : List Char}
    (hPart : part ∈ text.splitOn separator) : separator ∉ part := by
  induction text generalizing part with
  | nil => simp_all
  | cons first rest ih =>
      obtain ⟨head, tail, hRest⟩ := List.exists_cons_of_ne_nil (List.splitOn_ne_nil separator rest)
      rw [List.splitOn_cons_eq_if_modifyHead, hRest] at hPart
      rw [hRest] at ih
      split at hPart
      next =>
        rcases List.mem_cons.mp hPart with rfl | hLater
        · exact List.not_mem_nil
        · exact ih hLater
      next hFirst =>
        rcases List.mem_cons.mp hPart with rfl | hTail
        · have hHead := ih List.mem_cons_self
          exact List.not_mem_cons_of_ne_of_not_mem (fun hSame => hFirst (by simp [hSame])) hHead
        · exact ih (List.mem_cons_of_mem _ hTail)

/-- No segment has a slash in it. -/
theorem single_of_mem_segments {path segment : String} (hSegment : segment ∈ segments path) :
    '/' ∉ segment.toList := by
  obtain ⟨part, hPart, rfl⟩ := List.mem_map.mp hSegment
  rw [String.toList_ofList]
  exact not_mem_of_mem_splitOn hPart

/-- A path with a slash in front has an empty first segment, and others behind it. -/
theorem segments_of_startsWith {path : String} (hSlash : path.startsWith "/" = true) :
    ∃ rest, rest ≠ [] ∧ segments path = "" :: rest := by
  obtain ⟨rest, hRest⟩ := String.startsWith_string_iff.mp hSlash
  refine ⟨(rest.splitOn '/').map String.ofList, by simp, ?_⟩
  rw [segments, ← hRest]
  simp [List.splitOn_cons_eq_if_modifyHead]

/-! ## Readings -/

/-- Where one segment leads, with the directories above it. -/
def step : List FileTree × FileTree → String → Option (List FileTree × FileTree)
  | (_, .file _), _ => none
  | (above, .directory entries), segment =>
    if staysHere segment then some (above, .directory entries)
    else if segment == ".." then above.head?.map fun parent => (above.tail, parent)
    else (entries.lookup segment).map fun child => (.directory entries :: above, child)

/-- Following a path is taking its segments one after the other. -/
theorem follow_eq (above : List FileTree) (tree : FileTree) (path : List String) :
    follow above tree path = (path.foldlM step (above, tree)).map Prod.snd := by
  induction path generalizing above tree with
  | nil => simp [follow]
  | cons segment rest ih =>
      cases tree with
      | file => simp [follow, step]
      | directory entries =>
          simp only [follow, List.foldlM_cons, step]
          by_cases hStays : staysHere segment
          · simp [hStays, ih]
          by_cases hUp : segment = ".."
          · cases above <;> simp [hUp, staysHere, ih]
          · cases hChild : entries.lookup segment <;> simp [hStays, hUp, ih]

theorem step_stays {segment : String} (hStays : staysHere segment = true)
    (above : List FileTree) (entries : List (String × FileTree)) :
    step (above, .directory entries) segment = some (above, .directory entries) := by
  simp [step, hStays]

theorem step_entry {name : String} (hName : IsEntryName name) (above : List FileTree)
    (entries : List (String × FileTree)) :
    step (above, .directory entries) name =
      (entries.lookup name).map fun child => (.directory entries :: above, child) := by
  simp [step, hName.moves, hName.descends]

/-- A reading goes on where it stands. -/
theorem follow_append {above : List FileTree} {tree found : FileTree} {first rest : List String}
    {result : Option FileTree} (hFirst : follow above tree first = some found)
    (hRest : ∀ above, follow above found rest = result) :
    follow above tree (first ++ rest) = result := by
  rw [follow_eq, Option.map_eq_some_iff] at hFirst
  obtain ⟨⟨above', found⟩, hFirst, rfl⟩ := hFirst
  rw [follow_eq, List.foldlM_append, hFirst, ← hRest above', follow_eq]
  rfl

/-- The names on the way to a place lead there, from wherever the tree stands. -/
theorem follow_of_holds {tree leaf : FileTree} {place : List String}
    (hHolds : tree.Holds place leaf) (hProper : tree.Proper) (above : List FileTree) :
    follow above tree place = some leaf := by
  induction hHolds generalizing above with
  | here => simp [follow_eq]
  | @inside entries name child place leaf entry _ ih =>
      have hName : IsEntryName name :=
        (Holds.inside entry (.here _)).isEntryName hProper _ List.mem_cons_self
      have hLookup : entries.lookup name = some child := hProper.lookup entry
      cases hProper with
      | directory _ _ children =>
          have hChild := ih (children _ entry) (.directory entries :: above)
          rw [follow_eq] at hChild ⊢
          rw [List.foldlM_cons, step_entry hName, hLookup]
          exact hChild

theorem follow_dropWhile (above : List FileTree) (entries : List (String × FileTree))
    (path : List String) :
    follow above (.directory entries) (path.dropWhile staysHere) =
      follow above (.directory entries) path := by
  induction path with
  | nil => rfl
  | cons segment rest ih =>
      rw [List.dropWhile_cons]
      split
      next hStays =>
        rw [ih, follow_eq, follow_eq, List.foldlM_cons, step_stays hStays]
        rfl
      next => rfl

/-- A last segment that stays where it is asks for a directory. -/
theorem follow_concat_stays {above : List FileTree} {tree found : FileTree} {path : List String}
    {segment : String} (hStays : staysHere segment = true)
    (hFound : follow above tree (path ++ [segment]) = some found) :
    follow above tree path = some found ∧ found.isDirectory = true := by
  rw [follow_eq, List.foldlM_append, Option.map_eq_some_iff] at hFound
  obtain ⟨⟨above', _⟩, hFound, rfl⟩ := hFound
  obtain ⟨⟨above'', before⟩, hPath, hLast⟩ := Option.bind_eq_some_iff.mp hFound
  cases before with
  | file => simp [step] at hLast
  | directory entries =>
      rw [List.foldlM_cons, step_stays hStays] at hLast
      obtain ⟨rfl, rfl⟩ := by simpa using hLast
      exact ⟨by simp [follow_eq, hPath], rfl⟩

/-- Only a directory can be read at a path. -/
theorem exists_entries_of_at? {tree found : FileTree} {path : String}
    (hFound : tree.at? path = some found) : ∃ entries, tree = .directory entries := by
  cases tree with
  | directory entries => exact ⟨entries, rfl⟩
  | file =>
      obtain ⟨first, rest, hPath⟩ := List.exists_cons_of_ne_nil (segments_ne_nil path)
      simp [at?, hPath, follow] at hFound

end FileTree

open FileTree

/-! ## Paths as they are written -/

/-- What is written of a path is what it has after the segments that lead nowhere, but for an empty
one at its end. -/
theorem dropWhile_segments (path : String) :
    (segments path).dropWhile staysHere = writtenSegments path ∨
      (segments path).dropWhile staysHere = writtenSegments path ++ [""] := by
  unfold writtenSegments
  extract_lets shown
  split
  next hLast => exact .inr (List.dropLast_append_getLast? _ hLast).symm
  next => exact .inl rfl

theorem single_of_mem_writtenSegments {path segment : String}
    (hSegment : segment ∈ writtenSegments path) : '/' ∉ segment.toList := by
  refine single_of_mem_segments (List.dropWhile_subset staysHere (l := segments path) ?_)
  rcases dropWhile_segments path with hShown | hShown <;> simp [hShown, hSegment]

theorem moves_of_writtenSegments {path first : String} {rest : List String}
    (hWritten : writtenSegments path = first :: rest) : staysHere first = false := by
  have hShown : ∃ rest, (segments path).dropWhile staysHere = first :: rest := by
    rcases dropWhile_segments path with hShown | hShown
    · exact ⟨rest, by rw [hShown, hWritten]⟩
    · exact ⟨rest ++ [""], by rw [hShown, hWritten, List.cons_append]⟩
  obtain ⟨rest, hShown⟩ := hShown
  simpa [hShown] using List.head_dropWhile_not staysHere (l := segments path) (by simp [hShown])

theorem filter_writtenSegments (path : String) :
    (writtenSegments path).filter (!staysHere ·) = placeOf path := by
  have hShown : ((segments path).dropWhile staysHere).filter (!staysHere ·) = placeOf path := by
    have hTaken : ((segments path).takeWhile staysHere).filter (!staysHere ·) = [] :=
      List.filter_eq_nil_iff.mpr fun segment hSegment => by
        simpa using List.all_eq_true.mp List.all_takeWhile segment hSegment
    have hAll := congrArg (List.filter (!staysHere ·))
      (List.takeWhile_append_dropWhile (p := staysHere) (l := segments path))
    rwa [List.filter_append, hTaken, List.nil_append] at hAll
  rcases dropWhile_segments path with h | h <;> rw [h] at hShown
  · exact hShown
  · simpa [staysHere] using hShown

/-- What is written of a path leads where the path leads. -/
theorem follow_writtenSegments {tree found : FileTree} {path : String}
    (hFound : tree.at? path = some found) : tree.follow [] (writtenSegments path) = some found := by
  obtain ⟨entries, rfl⟩ := exists_entries_of_at? hFound
  have hShown :
      follow [] (.directory entries) ((segments path).dropWhile staysHere) = some found := by
    rw [follow_dropWhile]
    unfold at? at hFound
    split at hFound
    · simp at hFound
    · exact hFound
  rcases dropWhile_segments path with h | h <;> rw [h] at hShown
  · exact hShown
  · exact (follow_concat_stays rfl hShown).1

section Below

variable {tree found leaf : FileTree} {root : String} {place : List String}

theorem segments_pathBelow (hPlace : ∀ name ∈ place, IsEntryName name)
    (hSome : writtenSegments root ++ place ≠ []) :
    segments (pathBelow root place) = writtenSegments root ++ place := by
  refine segments_intercalate hSome fun name hName => ?_
  rcases List.mem_append.mp hName with hName | hName
  · exact single_of_mem_writtenSegments hName
  · exact (hPlace name hName).single

theorem moves_of_writtenSegments_append (hPlace : ∀ name ∈ place, IsEntryName name) {first : String}
    {rest : List String} (hFirst : writtenSegments root ++ place = first :: rest) :
    staysHere first = false := by
  cases hWritten : writtenSegments root with
  | cons head tail =>
      rw [hWritten, List.cons_append, List.cons.injEq] at hFirst
      exact hFirst.1 ▸ moves_of_writtenSegments hWritten
  | nil =>
      rw [hWritten, List.nil_append] at hFirst
      exact (hPlace first (hFirst ▸ List.mem_cons_self)).moves

/-- The path of a place below a root leads to what stands there. -/
theorem at?_pathBelow (hFound : tree.at? root = some found) (hProper : found.Proper)
    (hHolds : found.Holds place leaf) : tree.at? (pathBelow root place) = some leaf := by
  have hPlace := hHolds.isEntryName hProper
  have hLeaf : tree.follow [] (writtenSegments root ++ place) = some leaf :=
    follow_append (follow_writtenSegments hFound) (follow_of_holds hHolds hProper)
  by_cases hSome : writtenSegments root ++ place = []
  · obtain ⟨entries, rfl⟩ := exists_entries_of_at? hFound
    rw [hSome] at hLeaf
    rw [pathBelow, hSome]
    exact (follow_dropWhile [] entries [""]).symm.trans hLeaf
  · have hSegments := segments_pathBelow hPlace hSome
    have hRelative : (pathBelow root place).startsWith "/" = false := by
      by_contra hSlash
      obtain ⟨rest, -, hRest⟩ := segments_of_startsWith (Bool.not_eq_false _ ▸ hSlash)
      have hMoves := moves_of_writtenSegments_append hPlace (hSegments.symm.trans hRest)
      simp [staysHere] at hMoves
    rw [at?, hRelative, hSegments]
    exact hLeaf

/-- Components of a path below a root are those of the root and then the place. -/
theorem placeOf_pathBelow (hPlace : ∀ name ∈ place, IsEntryName name) :
    placeOf (pathBelow root place) = placeOf root ++ place := by
  have hFilter : (writtenSegments root ++ place).filter (!staysHere ·) = placeOf root ++ place := by
    rw [List.filter_append, filter_writtenSegments, List.filter_eq_self.mpr]
    exact fun name hName => by simp [(hPlace name hName).moves]
  by_cases hSome : writtenSegments root ++ place = []
  · rw [← hFilter, pathBelow, hSome]
    rfl
  · rw [placeOf, segments_pathBelow hPlace hSome, hFilter]

/-- What is written of the path of a file ends in a name. -/
theorem exists_concat_of_file {text : Option String} (hFound : tree.at? root = some found)
    (hProper : found.Proper) (hHolds : found.Holds place (.file text)) :
    ∃ front, writtenSegments root ++ place = front ++ [fileName root place] ∧
      staysHere (fileName root place) = false := by
  have hLeaf : tree.follow [] (writtenSegments root ++ place) = some (.file text) :=
    follow_append (follow_writtenSegments hFound) (follow_of_holds hHolds hProper)
  rcases List.eq_nil_or_concat' (writtenSegments root ++ place) with hNil | ⟨front, last, hLast⟩
  · obtain ⟨entries, rfl⟩ := exists_entries_of_at? hFound
    simp [hNil, follow_eq] at hLeaf
  · have hName : fileName root place = last := by simp [fileName, hLast]
    refine ⟨front, by rw [hName, hLast], ?_⟩
    by_contra hStays
    rw [hName, Bool.not_eq_false] at hStays
    have hDirectory := (follow_concat_stays hStays (hLast ▸ hLeaf)).2
    simp [isDirectory] at hDirectory

/-- A file is reported under the path it was found at. -/
theorem pathBelow_pathBelow {text : Option String} (hFound : tree.at? root = some found)
    (hProper : found.Proper) (hHolds : found.Holds place (.file text)) :
    pathBelow (pathBelow root place) [] = pathBelow root place := by
  have hPlace := hHolds.isEntryName hProper
  obtain ⟨front, hLast, hMoves⟩ := exists_concat_of_file hFound hProper hHolds
  have hSome : writtenSegments root ++ place ≠ [] := by simp [hLast]
  have hWritten : writtenSegments (pathBelow root place) = writtenSegments root ++ place := by
    obtain ⟨first, rest, hFirst⟩ := List.exists_cons_of_ne_nil hSome
    have hShown : (segments (pathBelow root place)).dropWhile staysHere =
        writtenSegments root ++ place := by
      rw [segments_pathBelow hPlace hSome, hFirst, List.dropWhile_cons,
        moves_of_writtenSegments_append hPlace hFirst]
      rfl
    rw [writtenSegments, hShown, if_neg]
    rw [hLast, List.getLast?_concat, Option.some.injEq]
    intro hEmpty
    simp [hEmpty, staysHere] at hMoves
  rw [pathBelow, hWritten, List.append_nil, pathBelow]

end Below

end PropTrace
