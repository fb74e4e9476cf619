import Mathlib.Data.List.Perm.Basic
import PropTrace.Proofs.SourceFiles

/-!
Linting a directory as a batch. Workers share the files out among each other, lint them in any order
and put their reports together again; what is kept throughout is the list of reports a single worker
would end with. As a report depends on its own file alone, a file that cannot be linted is missed in
the result and nowhere else.
-/
namespace PropTrace

/-! ## Workers -/

/-- A stretch of files in the hands of one worker: those it has not linted, and the reports about
those it has. -/
structure Piece where
  waiting : List String
  reports : List FileReport

/-- The files no worker has linted. -/
def waitingFiles (pieces : List Piece) : List String := pieces.flatMap Piece.waiting

section Workers

variable (report? : String → Option FileReport)

/-- One step of a batch, with the file that is linted in it. -/
inductive BatchStep : List Piece → List String → List Piece → Prop where
  /-- The end of a stretch goes to another worker. -/
  | split (before after : List Piece) (first second : List String) (reports : List FileReport) :
      BatchStep (before ++ ⟨first ++ second, reports⟩ :: after) []
        (before ++ ⟨first, reports⟩ :: ⟨second, []⟩ :: after)
  /-- A worker lints its next file. -/
  | lint (before after : List Piece) (file : String) (rest : List String)
      (reports : List FileReport) :
      BatchStep (before ++ ⟨file :: rest, reports⟩ :: after) [file]
        (before ++ ⟨rest, reports ++ (report? file).toList⟩ :: after)
  /-- Two neighbours that are done put their reports together. -/
  | join (before after : List Piece) (first second : List FileReport) :
      BatchStep (before ++ ⟨[], first⟩ :: ⟨[], second⟩ :: after) []
        (before ++ ⟨[], first ++ second⟩ :: after)

/-- Any number of steps, with the linted files in the order of the steps. -/
inductive BatchRun : List Piece → List String → List Piece → Prop where
  | refl (pieces : List Piece) : BatchRun pieces [] pieces
  | head {start middle finish : List Piece} {first rest : List String}
      (step : BatchStep report? start first middle) (run : BatchRun middle rest finish) :
      BatchRun start (first ++ rest) finish

/-- The reports if every worker went on alone. -/
def outcome (pieces : List Piece) : List FileReport :=
  pieces.flatMap fun piece => piece.reports ++ piece.waiting.filterMap report?

variable {report?} {start middle finish pieces : List Piece} {first second order : List String}

theorem BatchStep.outcome_eq (hStep : BatchStep report? start first finish) :
    outcome report? finish = outcome report? start := by
  cases hStep with
  | split => simp [outcome, List.filterMap_append]
  | lint before after file rest reports =>
      cases h : report? file <;> simp [outcome, h]
  | join => simp [outcome]

theorem BatchStep.waitingFiles_perm (hStep : BatchStep report? start first finish) :
    (first ++ waitingFiles finish).Perm (waitingFiles start) := by
  cases hStep with
  | split => simp [waitingFiles]
  | join => simp [waitingFiles]
  | lint before after file rest reports =>
      simpa [waitingFiles] using List.perm_middle.symm

theorem BatchRun.outcome_eq (hRun : BatchRun report? start order finish) :
    outcome report? finish = outcome report? start := by
  induction hRun with
  | refl => rfl
  | head step _ ih => exact ih.trans step.outcome_eq

/-- A run lints what is no longer waiting, each file once. -/
theorem BatchRun.waitingFiles_perm (hRun : BatchRun report? start order finish) :
    (order ++ waitingFiles finish).Perm (waitingFiles start) := by
  induction hRun with
  | refl => simp
  | head step _ ih =>
      rw [List.append_assoc]
      exact (ih.append_left _).trans step.waitingFiles_perm

theorem BatchRun.trans (hFirst : BatchRun report? start first middle)
    (hSecond : BatchRun report? middle second finish) :
    BatchRun report? start (first ++ second) finish := by
  induction hFirst with
  | refl => exact hSecond
  | head step _ ih => simpa using BatchRun.head step (ih hSecond)

theorem BatchStep.run (hStep : BatchStep report? start first finish) :
    BatchRun report? start first finish := by
  simpa using BatchRun.head hStep (.refl finish)

theorem BatchStep.ne_nil (hStep : BatchStep report? start first finish) : finish ≠ [] := by
  cases hStep <;> simp

theorem BatchRun.ne_nil (hRun : BatchRun report? start order finish) (hStart : start ≠ []) :
    finish ≠ [] := by
  induction hRun with
  | refl => exact hStart
  | head step _ ih => exact ih step.ne_nil

variable (report?)

/-- Any file that is waiting can be linted next. -/
theorem exists_run_next {file : String} (hFile : file ∈ waitingFiles start) :
    ∃ finish, BatchRun report? start [file] finish := by
  obtain ⟨⟨waiting, reports⟩, hPiece, hWaiting⟩ := List.mem_flatMap.mp hFile
  obtain ⟨before, after, rfl⟩ := List.append_of_mem hPiece
  obtain ⟨done, rest, rfl⟩ := List.append_of_mem hWaiting
  have hSplit : BatchStep report? (before ++ ⟨done ++ file :: rest, reports⟩ :: after) []
      (before ++ ⟨done, reports⟩ :: ⟨file :: rest, []⟩ :: after) := .split ..
  have hLint : BatchStep report?
      ((before ++ [⟨done, reports⟩]) ++ ⟨file :: rest, []⟩ :: after) [file]
      ((before ++ [⟨done, reports⟩]) ++ ⟨rest, [] ++ (report? file).toList⟩ :: after) := .lint ..
  rw [List.append_assoc] at hLint
  exact ⟨_, hSplit.run.trans hLint.run⟩

/-- The waiting files can be linted in any order. -/
theorem exists_run_of_perm (hOrder : order.Perm (waitingFiles start)) :
    ∃ finish, BatchRun report? start order finish ∧ waitingFiles finish = [] := by
  induction order generalizing start with
  | nil => exact ⟨start, .refl _, List.nil_perm.mp hOrder⟩
  | cons file rest ih =>
      obtain ⟨middle, hNext⟩ := exists_run_next report? (hOrder.subset List.mem_cons_self)
      have hRest : rest.Perm (waitingFiles middle) :=
        (hOrder.trans hNext.waitingFiles_perm.symm).cons_inv
      obtain ⟨finish, hRun, hDone⟩ := ih hRest
      exact ⟨finish, hNext.trans hRun, hDone⟩

/-- Workers that are done can put all reports together. -/
theorem exists_run_join (hDone : waitingFiles start = []) (hSome : start ≠ []) :
    ∃ reports, BatchRun report? start [] [⟨[], reports⟩] := by
  obtain ⟨⟨waiting, reports⟩, rest, rfl⟩ := List.exists_cons_of_ne_nil hSome
  obtain ⟨rfl, hRest⟩ := by simpa [waitingFiles] using hDone
  clear hDone hSome
  induction rest generalizing reports with
  | nil => exact ⟨reports, .refl _⟩
  | cons next rest ih =>
      obtain ⟨waiting, more⟩ := next
      obtain ⟨rfl, hTail⟩ := List.forall_mem_cons.mp hRest
      obtain ⟨joined, hRun⟩ := ih (reports ++ more) hTail
      exact ⟨joined, .head (.join [] rest reports more) hRun⟩

variable {report?}

/-- A batch over some files can lint them in any order and in no other way than each once, and it
ends with the reports of a single worker who takes them in their own order. -/
theorem batchRun_iff {files : List String} {reports : List FileReport} :
    BatchRun report? [⟨files, []⟩] order [⟨[], reports⟩] ↔
      order.Perm files ∧ reports = files.filterMap report? := by
  have hOutcome : ∀ {order reports}, BatchRun report? [⟨files, []⟩] order [⟨[], reports⟩] →
      reports = files.filterMap report? := fun hRun => by simpa [outcome] using hRun.outcome_eq
  constructor
  · intro hRun
    exact ⟨by simpa [waitingFiles] using hRun.waitingFiles_perm, hOutcome hRun⟩
  · rintro ⟨hOrder, rfl⟩
    have hWaiting : order.Perm (waitingFiles [⟨files, []⟩]) := by simpa [waitingFiles]
    obtain ⟨middle, hLint, hDone⟩ := exists_run_of_perm report? hWaiting
    obtain ⟨joined, hJoin⟩ := exists_run_join report? hDone (hLint.ne_nil (List.cons_ne_nil _ _))
    have hRun := hLint.trans hJoin
    rw [List.append_nil] at hRun
    rwa [← hOutcome hRun]

end Workers

/-! ## Files and their reports -/

namespace FileTree

/-- Two trees with the same files, but for what one of them holds. -/
structure SameBut (place : List String) (first second : FileTree) : Prop where
  there : (∃ text, first.Holds place (.file text)) ↔ ∃ text, second.Holds place (.file text)
  elsewhere : ∀ other text, other ≠ place →
    (first.Holds other (.file text) ↔ second.Holds other (.file text))

variable {tree changed found after : FileTree} {root : String} {place : List String}

theorem SameBut.exists_file_iff (hSame : SameBut place found after) (other : List String) :
    (∃ text, found.Holds other (.file text)) ↔ ∃ text, after.Holds other (.file text) := by
  by_cases hOther : other = place
  · rw [hOther]
    exact hSame.there
  · exact exists_congr fun text => hSame.elsewhere other text hOther

/-- Which files are linted does not depend on what they hold. -/
theorem SameBut.sourcePlaces_eq (hSame : SameBut place found after) (hFound : found.Proper)
    (hAfter : after.Proper) : after.sourcePlaces root = found.sourcePlaces root := by
  have hSorted : (found.sourcePlaces root).Pairwise (· < ·) := hFound.pairwise_sourcePlaces
  have hSorted' : (after.sourcePlaces root).Pairwise (· < ·) := hAfter.pairwise_sourcePlaces
  have hPerm : (after.sourcePlaces root).Perm (found.sourcePlaces root) := by
    refine (List.perm_ext_iff_of_nodup (hSorted'.imp fun hLt => ?_) (hSorted.imp fun hLt => ?_)).mpr
      fun other => ?_
    · exact Std.ne_of_lt hLt
    · exact Std.ne_of_lt hLt
    · rw [mem_sourcePlaces, mem_sourcePlaces, hSame.exists_file_iff]
  exact hPerm.eq_of_pairwise (fun _ _ _ _ hLt hGt => (Std.not_gt_of_lt hLt hGt).elim)
    hSorted' hSorted

/-- Other files are read as before. -/
theorem SameBut.at?_eq (hSame : SameBut place found after) (hFound : tree.at? root = some found)
    (hAfter : changed.at? root = some after) (hProper : found.Proper) (hProper' : after.Proper)
    {path : String} (hPath : path ∈ (found.sourcePlaces root).map (pathBelow root))
    (hOther : path ≠ pathBelow root place) : changed.at? path = tree.at? path := by
  obtain ⟨other, hPlace, rfl⟩ := List.mem_map.mp hPath
  obtain ⟨⟨text, hFile⟩, -⟩ := mem_sourcePlaces.mp hPlace
  have hFile' : after.Holds other (.file text) :=
    (hSame.elsewhere other text fun hPlaces => hOther (hPlaces ▸ rfl)).mp hFile
  rw [at?_pathBelow hAfter hProper' hFile', at?_pathBelow hFound hProper hFile]

end FileTree

namespace Linter

variable (linter : Linter) {tree changed found after : FileTree} {root path : String}
  {place files : List String}

/-- The report about a file, unless linting it fails. -/
def report? (tree : FileTree) (file : String) : Option FileReport :=
  (linter.lintFile tree file).toOption.map fun diagnostics => { file, diagnostics }

theorem report?_eq_some_iff {report : FileReport} :
    linter.report? tree path = some report ↔
      report.file = path ∧ linter.lintFile tree path = .ok report.diagnostics := by
  obtain ⟨file, diagnostics⟩ := report
  cases h : linter.lintFile tree path <;> simp [report?, h, Except.toOption, eq_comm]

theorem lintFile_of_mem_reports {report : FileReport}
    (hReport : report ∈ files.filterMap (linter.report? tree)) :
    linter.lintFile tree report.file = .ok report.diagnostics := by
  obtain ⟨path, -, hPath⟩ := List.mem_filterMap.mp hReport
  obtain ⟨rfl, hLint⟩ := linter.report?_eq_some_iff.mp hPath
  exact hLint

theorem isSome_report? : (linter.report? tree path).isSome = (linter.lintFile tree path).isOk := by
  cases h : linter.lintFile tree path <;>
    simp [report?, h, Except.toOption, Except.isOk, Except.toBool]

/-- A file can be linted if there is one, its bytes are a text and the text parses. -/
theorem isOk_lintFile_iff :
    (linter.lintFile tree path).isOk = true ↔
      ∃ text, tree.at? path = some (.file (some text)) ∧ (Program.ofText? text).isSome = true := by
  unfold lintFile
  split
  next text hText =>
    have hParse : (linter.lintSource (pathBelow path []) text).isOk =
        (Program.ofText? text).isSome := by
      cases h : Program.ofText? text <;>
        simp [lintSource, SourceUnit.ofText?, h, Except.isOk, Except.toBool]
    simp [hText, hParse]
  next hNone =>
    simp only [Except.isOk, Except.toBool, Bool.false_eq_true, false_iff]
    rintro ⟨text, hText, -⟩
    exact hNone text hText

/-- A file that is found for linting is linted under the path it was found at. -/
theorem lintFile_eq (hFound : tree.at? root = some found) (hProper : found.Proper)
    (hPath : path ∈ (found.sourcePlaces root).map (pathBelow root)) :
    ∃ text, tree.at? path = some (.file text) ∧ linter.lintFile tree path =
      text.elim (.error (.unreadable path)) (linter.lintSource path) := by
  obtain ⟨place, hPlace, rfl⟩ := List.mem_map.mp hPath
  obtain ⟨⟨text, hFile⟩, -⟩ := FileTree.mem_sourcePlaces.mp hPlace
  have hRead := at?_pathBelow hFound hProper hFile
  refine ⟨text, hRead, ?_⟩
  rw [lintFile, hRead, pathBelow_pathBelow hFound hProper hFile]
  cases text <;> rfl

theorem lintDirectory_eq (hFiles : tree.sourceFiles root = .ok files) :
    linter.lintDirectory tree root = .ok (files.filterMap (linter.report? tree)) := by
  rw [lintDirectory, hFiles]
  refine congrArg Except.ok (congrArg (List.filterMap · files) (funext fun file => ?_))
  cases h : linter.lintFile tree file <;> simp [report?, h, Except.toOption]

theorem map_file_filterMap (files : List String) :
    (files.filterMap (linter.report? tree)).map FileReport.file =
      files.filter fun file => (linter.lintFile tree file).isOk := by
  rw [List.map_filterMap, ← List.filterMap_eq_filter]
  refine congrArg (List.filterMap · files) (funext fun file => ?_)
  cases h : linter.report? tree file with
  | none => simp [← isSome_report?, h, Option.guard]
  | some report => simp [← isSome_report?, h, Option.guard, (linter.report?_eq_some_iff.mp h).1]

/-- Reports about other files are what the other files give. -/
theorem filter_ne_filterMap (files : List String) :
    (files.filterMap (linter.report? tree)).filter (·.file ≠ path) =
      (files.filter (· ≠ path)).filterMap (linter.report? tree) := by
  rw [List.filter_filterMap, List.filterMap_filter]
  refine congrArg (List.filterMap · files) (funext fun file => ?_)
  cases h : linter.report? tree file with
  | none => simp
  | some report => simp [Option.filter, (linter.report?_eq_some_iff.mp h).1]

/-- What a file holds has no say in the reports about others. -/
theorem filter_reports_eq (hSame : FileTree.SameBut place found after)
    (hFound : tree.at? root = some found) (hAfter : changed.at? root = some after)
    (hProper : found.Proper) (hProper' : after.Proper) :
    ∃ files, tree.sourceFiles root = .ok files ∧ changed.sourceFiles root = .ok files ∧
      (files.filterMap (linter.report? changed)).filter (·.file ≠ pathBelow root place) =
        (files.filterMap (linter.report? tree)).filter (·.file ≠ pathBelow root place) := by
  refine ⟨_, FileTree.sourceFiles_eq hFound, ?_, ?_⟩
  · rw [FileTree.sourceFiles_eq hAfter, hSame.sourcePlaces_eq hProper hProper']
  · rw [filter_ne_filterMap, filter_ne_filterMap]
    refine List.filterMap_congr fun path hPath => ?_
    obtain ⟨hPath, hOther⟩ := List.mem_filter.mp hPath
    rw [report?, report?, lintFile, lintFile,
      hSame.at?_eq hFound hAfter hProper hProper' hPath (of_decide_eq_true hOther)]

/-- Linting a directory fails only where finding its files does. Its reports are those of the files
that can be linted, each under its own path and in the order of the files, whichever order the
workers of a batch take. What one file holds changes no report about another, and if it cannot be
linted, its own is all that is missing. -/
theorem files_lint_alone (tree : FileTree) (root : String) :
    (∀ error, linter.lintDirectory tree root = .error error ↔
      tree.sourceFiles root = .error error) ∧
    (∀ path, (linter.lintFile tree path).isOk = true ↔
      ∃ text, tree.at? path = some (.file (some text)) ∧ (Program.ofText? text).isSome = true) ∧
    ∀ files, tree.sourceFiles root = .ok files →
      ∃ reports, linter.lintDirectory tree root = .ok reports ∧
        reports.map FileReport.file = files.filter (fun path => (linter.lintFile tree path).isOk) ∧
        (∀ report ∈ reports, linter.lintFile tree report.file = .ok report.diagnostics) ∧
        (∀ found, tree.at? root = some found → found.Proper → ∀ path ∈ files,
          ∃ text, tree.at? path = some (.file text) ∧ linter.lintFile tree path =
            text.elim (.error (.unreadable path)) (linter.lintSource path)) ∧
        (∀ order finished,
          BatchRun (linter.report? tree) [⟨files, []⟩] order [⟨[], finished⟩] ↔
            order.Perm files ∧ finished = reports) ∧
        ∀ found changed after place, tree.at? root = some found → changed.at? root = some after →
          found.Proper → after.Proper → FileTree.SameBut place found after →
            ∃ others, linter.lintDirectory changed root = .ok others ∧
              others.filter (·.file ≠ pathBelow root place) =
                reports.filter (·.file ≠ pathBelow root place) ∧
              ((linter.lintFile changed (pathBelow root place)).isOk = false →
                others = reports.filter (·.file ≠ pathBelow root place)) := by
  refine ⟨fun error => ?_, fun path => linter.isOk_lintFile_iff, fun files hFiles => ?_⟩
  · unfold lintDirectory
    cases tree.sourceFiles root <;> simp [Except.map]
  refine ⟨_, linter.lintDirectory_eq hFiles, linter.map_file_filterMap files,
    fun report hReport => linter.lintFile_of_mem_reports hReport, ?_,
    fun order finished => batchRun_iff, ?_⟩
  · intro found hFound hProper path hPath
    obtain rfl := Except.ok.inj (hFiles.symm.trans (FileTree.sourceFiles_eq hFound))
    exact linter.lintFile_eq hFound hProper hPath
  · intro found changed after place hFound hAfter hProper hProper' hSame
    obtain ⟨files', hFiles', hChanged, hOthers⟩ :=
      linter.filter_reports_eq hSame hFound hAfter hProper hProper'
    obtain rfl := Except.ok.inj (hFiles'.symm.trans hFiles)
    refine ⟨_, linter.lintDirectory_eq hChanged, hOthers, fun hFails => ?_⟩
    rw [← hOthers, eq_comm, List.filter_eq_self]
    intro report hReport
    refine decide_eq_true fun hSamePath => ?_
    rw [← hSamePath, linter.lintFile_of_mem_reports hReport] at hFails
    simp [Except.isOk, Except.toBool] at hFails

end Linter

/-- A directory with an empty file and another one. -/
def FileTree.besides (text : Option String) : FileTree :=
  .directory [("a.jsx", .file (some "")), ("b.jsx", .file text)]

namespace FileTree

variable {text : Option String}

theorem proper_besides : (besides text).Proper := by
  refine .directory ?_ ?_ ?_
  · change ["a.jsx", "b.jsx"].Nodup
    decide
  · simp only [List.forall_mem_cons, List.not_mem_nil, IsEmpty.forall_iff, implies_true, and_true]
    decide
  · simp [Proper.file]

theorem holds_besides_iff {other : Option String} {place : List String} :
    (besides text).Holds place (.file other) ↔
      place = ["a.jsx"] ∧ other = some "" ∨ place = ["b.jsx"] ∧ other = text := by
  constructor
  · intro hHolds
    cases hHolds with
    | @inside _ name child rest _ entry hRest =>
        simp only [List.mem_cons, Prod.mk.injEq, List.not_mem_nil, or_false] at entry
        rcases entry with ⟨rfl, rfl⟩ | ⟨rfl, rfl⟩
        all_goals cases hRest; simp
  · rintro (⟨rfl, rfl⟩ | ⟨rfl, rfl⟩)
    · exact .inside (.head _) (.here _)
    · exact .inside (.tail _ (.head _)) (.here _)

theorem at?_besides : (besides text).at? "a.jsx" = some (.file (some "")) ∧
    (besides text).at? "b.jsx" = some (.file text) := by
  have hTop : (besides text).at? "" = some (besides text) := rfl
  have hFirst := at?_pathBelow hTop proper_besides (holds_besides_iff.mpr (.inl ⟨rfl, rfl⟩))
  have hSecond := at?_pathBelow hTop proper_besides (holds_besides_iff.mpr (.inr ⟨rfl, rfl⟩))
  rw [show pathBelow "" ["a.jsx"] = "a.jsx" by decide] at hFirst
  rw [show pathBelow "" ["b.jsx"] = "b.jsx" by decide] at hSecond
  exact ⟨hFirst, hSecond⟩

theorem sourceFiles_besides : (besides text).sourceFiles "" = .ok ["a.jsx", "b.jsx"] := by
  have hFiles : (besides text).files = [["a.jsx"], ["b.jsx"]] := rfl
  have hKept : [["a.jsx"], ["b.jsx"]].filter (fun place => isLintable (fileName "" place)) =
      [["a.jsx"], ["b.jsx"]] := by
    decide
  have hPaths : [["a.jsx"], ["b.jsx"]].map (pathBelow "") = ["a.jsx", "b.jsx"] := by decide
  have hFound : (besides text).at? "" = some (besides text) := rfl
  rw [sourceFiles_eq hFound, sourcePlaces, hFiles, hKept, List.mergeSort_of_pairwise (by decide),
    hPaths]

theorem sameBut_besides (other : Option String) :
    SameBut ["b.jsx"] (besides text) (besides other) where
  there := by simp [holds_besides_iff]
  elsewhere place found hPlace := by simp [holds_besides_iff, hPlace]

end FileTree

theorem Linter.besides_lint_alone :
    ∃ reports, recommended.lintDirectory (.besides (some "")) "" = .ok reports ∧
      reports.map FileReport.file = ["a.jsx", "b.jsx"] ∧
      recommended.lintDirectory (.besides none) "" =
        .ok (reports.filter (·.file ≠ "b.jsx")) := by
  obtain ⟨-, hLints, hFiles⟩ := recommended.files_lint_alone (.besides (some "")) ""
  obtain ⟨reports, hReports, hOrder, -, -, -, hOthers⟩ := hFiles _ FileTree.sourceFiles_besides
  have hParses : (Program.ofText? "").isSome = true := by decide
  have hFirst := (hLints "a.jsx").mpr ⟨"", FileTree.at?_besides.1, hParses⟩
  have hSecond := (hLints "b.jsx").mpr ⟨"", FileTree.at?_besides.2, hParses⟩
  have hFails : (recommended.lintFile (.besides none) "b.jsx").isOk = false := by
    rw [lintFile, FileTree.at?_besides.2]
    rfl
  obtain ⟨others, hChanged, -, hMissing⟩ := hOthers _ (.besides none) _ ["b.jsx"] rfl rfl
    FileTree.proper_besides FileTree.proper_besides (FileTree.sameBut_besides none)
  refine ⟨reports, hReports, by simpa [hFirst, hSecond] using hOrder, ?_⟩
  have hPath : pathBelow "" ["b.jsx"] = "b.jsx" := by decide
  rw [hPath] at hMissing
  rw [hChanged, hMissing hFails]

end PropTrace
