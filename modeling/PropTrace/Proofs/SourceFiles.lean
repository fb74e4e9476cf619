import Mathlib.Data.List.Nodup
import Mathlib.Data.List.TakeDrop
import PropTrace.Proofs.FilePaths

/-!
Which files a directory is linted for. A walk reaches exactly the files with no directory that is
left out above them, a root counting as no such directory; sorting them by their components and
spelling them out behind the root neither merges two files nor moves one.
-/
namespace PropTrace

namespace FileTree

/-- Names of directories that are left out of a walk. -/
def IsLeftOut (name : String) : Prop := name = "node_modules" ∨ ∃ rest, name.toList = '.' :: rest

theorem isSkipped_iff {name : String} {tree : FileTree} :
    isSkipped name tree = true ↔ tree.isDirectory = true ∧ IsLeftOut name := by
  have hDot : name.startsWith "." = true ↔ ∃ rest, name.toList = '.' :: rest := by
    rw [String.startsWith_string_iff]
    exact ⟨fun ⟨rest, hRest⟩ => ⟨rest, hRest.symm⟩, fun ⟨rest, hRest⟩ => ⟨rest, hRest.symm⟩⟩
  simp only [isSkipped, Bool.and_eq_true, Bool.or_eq_true, beq_iff_eq, hDot, IsLeftOut]

theorem entryFiles_eq (entries : List (String × FileTree)) :
    entryFiles entries = entries.flatMap fun entry =>
      if isSkipped entry.1 entry.2 then [] else entry.2.files.map (entry.1 :: ·) := by
  induction entries with
  | nil => rfl
  | cons entry rest ih =>
      obtain ⟨name, tree⟩ := entry
      rw [entryFiles, ih, List.flatMap_cons]

theorem mem_files_directory {entries : List (String × FileTree)} {place : List String} :
    place ∈ (directory entries).files ↔
      ∃ name child rest, (name, child) ∈ entries ∧ isSkipped name child = false ∧
        rest ∈ child.files ∧ name :: rest = place := by
  rw [files, entryFiles_eq, List.mem_flatMap]
  constructor
  · rintro ⟨⟨name, child⟩, hEntry, hPlace⟩
    split at hPlace
    · simp at hPlace
    next hKept =>
      obtain ⟨rest, hRest, rfl⟩ := List.mem_map.mp hPlace
      exact ⟨name, child, rest, hEntry, Bool.eq_false_iff.mpr hKept, hRest, rfl⟩
  · rintro ⟨name, child, rest, hEntry, hKept, hRest, rfl⟩
    exact ⟨(name, child), hEntry, by simp [hKept, hRest]⟩

/-- On the way to a file, the names above it are those of directories. -/
theorem kept_iff {name : String} {child : FileTree} {rest : List String} {text : Option String}
    (hFile : child.Holds rest (.file text)) :
    (∀ above ∈ (name :: rest).dropLast, ¬IsLeftOut above) ↔
      isSkipped name child = false ∧ ∀ above ∈ rest.dropLast, ¬IsLeftOut above := by
  cases hFile with
  | here => simp [isSkipped, isDirectory]
  | inside =>
      rw [List.dropLast_cons_cons, List.forall_mem_cons, ← Bool.not_eq_true, isSkipped_iff]
      simp [isDirectory]

/-- A walk reaches the files with no directory that is left out on the way. -/
theorem mem_files_iff {tree : FileTree} {place : List String} :
    place ∈ tree.files ↔
      (∃ text, tree.Holds place (.file text)) ∧ ∀ name ∈ place.dropLast, ¬IsLeftOut name := by
  induction tree using entries_induction generalizing place with
  | file text =>
      rw [files, List.mem_singleton]
      constructor
      · rintro rfl
        exact ⟨⟨text, .here _⟩, by simp⟩
      · rintro ⟨⟨text', hHolds⟩, -⟩
        cases hHolds
        rfl
  | directory entries ih =>
      rw [mem_files_directory]
      constructor
      · rintro ⟨name, child, rest, hEntry, hKept, hRest, rfl⟩
        obtain ⟨⟨text, hFile⟩, hNames⟩ := (ih _ hEntry).mp hRest
        exact ⟨⟨text, .inside hEntry hFile⟩, (kept_iff hFile).mpr ⟨hKept, hNames⟩⟩
      · rintro ⟨⟨text, hHolds⟩, hNames⟩
        cases hHolds with
        | @inside _ name child rest _ hEntry hFile =>
            obtain ⟨hKept, hRest⟩ := (kept_iff hFile).mp hNames
            exact ⟨name, child, rest, hEntry, hKept, (ih _ hEntry).mpr ⟨⟨text, hFile⟩, hRest⟩, rfl⟩

theorem Proper.nodup_files {tree : FileTree} (hProper : tree.Proper) : tree.files.Nodup := by
  induction hProper with
  | file => simp [files]
  | @directory entries distinct _ _ ih =>
      have hName : ∀ {entry : String × FileTree} {place : List String},
          place ∈ (if isSkipped entry.1 entry.2 then [] else entry.2.files.map (entry.1 :: ·)) →
            place.head? = some entry.1 := by
        intro entry place hPlace
        split at hPlace
        · simp at hPlace
        · obtain ⟨rest, -, rfl⟩ := List.mem_map.mp hPlace
          rfl
      rw [files, entryFiles_eq, List.nodup_flatMap]
      constructor
      · intro entry hEntry
        split
        · exact List.nodup_nil
        · exact (ih entry hEntry).map List.cons_injective
      · exact (List.pairwise_map.mp distinct).imp fun hNames place hLeft hRight =>
          hNames (Option.some.inj ((hName hLeft).symm.trans (hName hRight)))

end FileTree

open FileTree

/-! ## Names -/

theorem span_dot {after before : List Char} (hAfter : '.' ∉ after) :
    (after ++ '.' :: before).span (· ≠ '.') = (after, '.' :: before) := by
  have hMoves : ∀ c ∈ after, decide (c ≠ '.') = true := fun c hc =>
    decide_eq_true fun hDot => hAfter (hDot ▸ hc)
  rw [List.span_eq_takeWhile_dropWhile, List.takeWhile_append_of_pos hMoves,
    List.dropWhile_append_of_pos hMoves]
  simp

/-- An extension is what a name has behind its last dot, if there is something before that. -/
theorem extension?_eq_some_iff {name extension : String} :
    extension? name = some extension ↔
      ∃ stem, stem ≠ "" ∧ name = stem ++ "." ++ extension ∧ '.' ∉ extension.toList := by
  constructor
  · intro hExtension
    simp only [extension?, List.span_eq_takeWhile_dropWhile] at hExtension
    have hName := List.takeWhile_append_dropWhile (p := (· ≠ '.')) (l := name.toList.reverse)
    have hAfter : '.' ∉ name.toList.reverse.takeWhile (· ≠ '.') := fun hDot => by
      simpa using List.all_eq_true.mp List.all_takeWhile '.' hDot
    split at hExtension
    next last front hBefore =>
      obtain rfl := Option.some.inj hExtension
      rw [hBefore] at hName
      generalize name.toList.reverse.takeWhile (· ≠ '.') = after at hName hAfter
      have hText : name.toList = (after ++ '.' :: last :: front).reverse := by
        rw [hName, List.reverse_reverse]
      exact ⟨String.ofList (last :: front).reverse, by simp,
        String.toList_inj.mp (by simp [hText]), by simpa using hAfter⟩
    next => simp at hExtension
  · rintro ⟨stem, hStem, rfl, hDot⟩
    obtain ⟨last, front, hReverse⟩ := List.exists_cons_of_ne_nil (l := stem.toList.reverse)
      (by simpa using hStem)
    have hName : (stem ++ "." ++ extension).toList.reverse =
        extension.toList.reverse ++ '.' :: (last :: front) := by
      simp [String.toList_append, ← hReverse]
    rw [extension?, hName, span_dot (by simpa using hDot)]
    simp

/-- Files that are linted have one of the known extensions behind a stem. -/
theorem isLintable_iff {name : String} :
    isLintable name = true ↔
      ∃ stem extension, stem ≠ "" ∧ extension ∈ lintableExtensions ∧
        name = stem ++ "." ++ extension := by
  have hDot : ∀ extension ∈ lintableExtensions, '.' ∉ extension.toList := by
    simp [lintableExtensions]
  have hSome : isLintable name = true ↔
      ∃ extension, extension? name = some extension ∧ extension ∈ lintableExtensions := by
    cases h : extension? name <;> simp [isLintable, h]
  rw [hSome]
  constructor
  · rintro ⟨extension, hExtension, hKnown⟩
    obtain ⟨stem, hStem, hName, -⟩ := extension?_eq_some_iff.mp hExtension
    exact ⟨stem, extension, hStem, hKnown, hName⟩
  · rintro ⟨stem, extension, hStem, hKnown, hName⟩
    exact ⟨extension, extension?_eq_some_iff.mpr ⟨stem, hStem, hName, hDot _ hKnown⟩, hKnown⟩

/-- Whether the last component of a path has one of the extensions of files that are linted. -/
def HasLintableName (path : String) : Prop :=
  ∃ front stem extension, placeOf path = front ++ [stem ++ "." ++ extension] ∧ stem ≠ "" ∧
    extension ∈ lintableExtensions

section Below

variable {tree found : FileTree} {root : String} {place : List String} {text : Option String}

theorem hasLintableName_pathBelow (hFound : tree.at? root = some found) (hProper : found.Proper)
    (hFile : found.Holds place (.file text)) :
    HasLintableName (pathBelow root place) ↔ isLintable (fileName root place) = true := by
  obtain ⟨front, hLast, hMoves⟩ := exists_concat_of_file hFound hProper hFile
  have hPlace : placeOf (pathBelow root place) =
      front.filter (!staysHere ·) ++ [fileName root place] := by
    rw [placeOf, segments_pathBelow (hFile.isEntryName hProper) (by simp [hLast]), hLast]
    simp [hMoves]
  rw [isLintable_iff, HasLintableName, hPlace]
  constructor
  · rintro ⟨_, stem, extension, hSame, hStem, hKnown⟩
    obtain ⟨-, hName⟩ := List.append_inj' hSame rfl
    exact ⟨stem, extension, hStem, hKnown, (List.cons.inj hName).1⟩
  · rintro ⟨stem, extension, hStem, hKnown, hName⟩
    exact ⟨_, stem, extension, by rw [hName], hStem, hKnown⟩

end Below

/-! ## Order -/

theorem pairwise_lt_mergeSort {places : List (List String)} (hNodup : places.Nodup) :
    (places.mergeSort fun a b => @decide _ (List.decidableLE a b)).Pairwise (· < ·) := by
  let le (a b : List String) : Bool := @decide _ (List.decidableLE a b)
  have hTrans : ∀ a b c, le a b = true → le b c = true → le a c = true := fun a b c hab hbc =>
    decide_eq_true (List.le_trans (of_decide_eq_true hab) (of_decide_eq_true hbc))
  have hTotal : ∀ a b, (le a b || le b a) = true := fun a b => by
    simpa [le] using List.le_total a b
  refine (List.pairwise_mergeSort hTrans hTotal places).imp₂ (fun a b hLe hNe => ?_)
    ((List.mergeSort_perm places le).nodup_iff.mpr hNodup)
  exact (List.le_iff_lt_or_eq.mp (of_decide_eq_true hLe)).resolve_right hNe

namespace FileTree

/-- The places of the files that are linted in a tree that stands at a root. -/
def sourcePlaces (root : String) (found : FileTree) : List (List String) :=
  (found.files.filter fun place => isLintable (fileName root place)).mergeSort
    fun a b => @decide _ (List.decidableLE a b)

section Found

variable {tree found : FileTree} {root : String}

theorem sourceFiles_eq (hFound : tree.at? root = some found) :
    tree.sourceFiles root = .ok ((found.sourcePlaces root).map (pathBelow root)) := by
  simp only [sourceFiles, hFound, sourcePlaces]

theorem mem_sourcePlaces {place : List String} :
    place ∈ found.sourcePlaces root ↔
      (∃ text, found.Holds place (.file text)) ∧ (∀ name ∈ place.dropLast, ¬IsLeftOut name) ∧
        isLintable (fileName root place) = true := by
  rw [sourcePlaces, (List.mergeSort_perm _ _).mem_iff, List.mem_filter, mem_files_iff, and_assoc]

theorem Proper.pairwise_sourcePlaces (hProper : found.Proper) :
    (found.sourcePlaces root).Pairwise (· < ·) :=
  pairwise_lt_mergeSort (hProper.nodup_files.filter _)

theorem mem_map_sourcePlaces (hFound : tree.at? root = some found) (hProper : found.Proper)
    {path : String} :
    path ∈ (found.sourcePlaces root).map (pathBelow root) ↔
      ∃ place text, found.Holds place (.file text) ∧ (∀ name ∈ place.dropLast, ¬IsLeftOut name) ∧
        path = pathBelow root place ∧ HasLintableName path := by
  rw [List.mem_map]
  constructor
  · rintro ⟨place, hPlace, rfl⟩
    obtain ⟨⟨text, hFile⟩, hNames, hLintable⟩ := mem_sourcePlaces.mp hPlace
    exact ⟨place, text, hFile, hNames, rfl,
      (hasLintableName_pathBelow hFound hProper hFile).mpr hLintable⟩
  · rintro ⟨place, text, hFile, hNames, rfl, hLintable⟩
    exact ⟨place, mem_sourcePlaces.mpr ⟨⟨text, hFile⟩, hNames,
      (hasLintableName_pathBelow hFound hProper hFile).mp hLintable⟩, rfl⟩

/-- Spelling places out behind a root keeps their order. -/
theorem pairwise_placeOf_sourcePlaces (hProper : found.Proper) :
    ((found.sourcePlaces root).map (pathBelow root)).Pairwise
      fun first second => placeOf first < placeOf second := by
  have hPlaceOf : ∀ place ∈ found.sourcePlaces root,
      placeOf (pathBelow root place) = placeOf root ++ place := by
    intro place hPlace
    obtain ⟨⟨text, hFile⟩, -⟩ := mem_sourcePlaces.mp hPlace
    exact placeOf_pathBelow (hFile.isEntryName hProper)
  refine List.pairwise_map.mpr (hProper.pairwise_sourcePlaces.imp_of_mem ?_)
  intro first second hFirst hSecond hLt
  rw [hPlaceOf first hFirst, hPlaceOf second hSecond]
  exact List.append_left_lt hLt

example : placeOf "a/b.js" < placeOf "a.js" := by decide

/-- The files that are linted are those at or below the root with a known extension and no directory
that is left out on the way from the root. Each is listed once, in the order of the components, and
its path leads to it. -/
theorem lintable_files_in_order (hFound : tree.at? root = some found) (hProper : found.Proper) :
    ∃ paths, tree.sourceFiles root = .ok paths ∧
      (∀ path, path ∈ paths ↔
        ∃ place text, found.Holds place (.file text) ∧ (∀ name ∈ place.dropLast, ¬IsLeftOut name) ∧
          path = pathBelow root place ∧ HasLintableName path) ∧
      (∀ place text, found.Holds place (.file text) →
        tree.at? (pathBelow root place) = some (.file text) ∧
          placeOf (pathBelow root place) = placeOf root ++ place) ∧
      paths.Pairwise fun first second => placeOf first < placeOf second := by
  refine ⟨_, sourceFiles_eq hFound, fun path => mem_map_sourcePlaces hFound hProper, ?_,
    pairwise_placeOf_sourcePlaces hProper⟩
  intro place text hFile
  exact ⟨at?_pathBelow hFound hProper hFile, placeOf_pathBelow (hFile.isEntryName hProper)⟩

end Found

end FileTree

/-- A package folder with one more inside, a hidden folder and a hidden file. -/
def FileTree.packages : FileTree :=
  .directory [("a.js", .file (some "")), ("a", .directory [("b.js", .file (some ""))]),
    (".x.jsx", .file none), (".h", .directory [("c.js", .file (some ""))]),
    ("node_modules", .directory [("d.js", .file (some ""))])]

theorem FileTree.proper_packages : packages.Proper := by
  refine .directory (by decide) (by decide) ?_
  simp only [List.forall_mem_cons, List.not_mem_nil, IsEmpty.forall_iff, implies_true, and_true]
  refine ⟨.file _, .directory (by decide) (by decide) ?_, .file _,
    .directory (by decide) (by decide) ?_, .directory (by decide) (by decide) ?_⟩
  all_goals simp [Proper.file]

theorem FileTree.packages_lintable_in_order :
    ∃ paths, (directory [("node_modules", packages)]).sourceFiles "node_modules" = .ok paths ∧
      "node_modules/a/b.js" ∈ paths ∧ "node_modules/.x.jsx" ∈ paths ∧
        "node_modules/.h/c.js" ∉ paths ∧ "node_modules/node_modules/d.js" ∉ paths := by
  have hTree : (directory [("node_modules", packages)]).Proper :=
    .directory (by decide) (by decide) (by simp [proper_packages])
  have hTop : (directory [("node_modules", packages)]).at? "" = some _ := rfl
  have hFound := at?_pathBelow hTop hTree (.inside (.head _) (.here packages))
  rw [show pathBelow "" ["node_modules"] = "node_modules" by decide] at hFound
  obtain ⟨paths, hPaths, hMem, hNames, -⟩ := lintable_files_in_order hFound proper_packages
  have hRoot : placeOf "node_modules" = ["node_modules"] := by decide
  have hNot : ∀ path name file, IsLeftOut name → placeOf path = ["node_modules", name, file] →
      path ∉ paths := by
    intro path name file hName hPlace hPath
    obtain ⟨place, text, hHolds, hKept, rfl, -⟩ := (hMem path).mp hPath
    have hTail : place = [name, file] := by
      simpa [hRoot, hPlace, eq_comm] using (hNames place text hHolds).2
    exact hKept name (by simp [hTail]) hName
  refine ⟨paths, hPaths, (hMem _).mpr ?_, (hMem _).mpr ?_,
    hNot _ ".h" "c.js" (.inr ⟨['h'], by decide⟩) (by decide),
    hNot _ "node_modules" "d.js" (.inl rfl) (by decide)⟩
  · exact ⟨["a", "b.js"], some "", .inside (.tail _ (.head _)) (.inside (.head _) (.here _)),
      by simp [IsLeftOut], by decide, ["node_modules", "a"], "b", "js", by decide, by decide,
      by decide⟩
  · exact ⟨[".x.jsx"], none, .inside (.tail _ (.tail _ (.head _))) (.here _), by simp, by decide,
      ["node_modules"], ".x", "jsx", by decide, by decide, by decide⟩

end PropTrace
