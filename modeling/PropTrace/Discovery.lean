import PropTrace.FileTree
import PropTrace.Linter

/-!
Finding the files of a directory that are linted, and linting them. A file that cannot be linted
only loses its own report.
-/
namespace PropTrace

/-- The extensions of the files that are linted. -/
def lintableExtensions : List String := ["js", "jsx", "mjs", "tsx"]

/-- The part of a file name after its last dot, unless that is its first character. -/
def extension? (name : String) : Option String :=
  let (after, before) := name.toList.reverse.span (· ≠ '.')
  match before with
  | '.' :: _ :: _ => some (String.ofList after.reverse)
  | _ => none

def isLintable (name : String) : Bool :=
  ((extension? name).map lintableExtensions.contains).getD false

/-- The segments of a path as it is written in reports: without the ones at its start that lead
nowhere, and without a slash at its end. -/
def writtenSegments (path : String) : List String :=
  let shown := (FileTree.segments path).dropWhile FileTree.staysHere
  if shown.getLast? = some "" then shown.dropLast else shown

/-- The path of a place below a root. -/
def pathBelow (root : String) (place : List String) : String :=
  "/".intercalate (writtenSegments root ++ place)

/-- The name of the file at a place below a root. -/
def fileName (root : String) (place : List String) : String :=
  ((writtenSegments root ++ place).getLast?).getD ""

/-- The paths of the files at or below a root that are linted, in the order of their segments. -/
def FileTree.sourceFiles (tree : FileTree) (root : String) : Except LintError (List String) :=
  match tree.at? root with
  | none => .error (.walk root)
  | some found =>
    let places := (found.files.filter fun place => isLintable (fileName root place)).mergeSort
      fun a b => @decide _ (List.decidableLE a b)
    .ok (places.map (pathBelow root))

/-- The reports about one file. -/
structure FileReport where
  file : String
  diagnostics : List Diagnostic

namespace Linter

def lintFile (linter : Linter) (tree : FileTree) (path : String) :
    Except LintError (List Diagnostic) :=
  match tree.at? path with
  | some (.file (some text)) => linter.lintSource (pathBelow path []) text
  | _ => .error (.unreadable path)

/-- Lints every source file at or below a root. Files that cannot be read or have syntax errors have
no report. -/
def lintDirectory (linter : Linter) (tree : FileTree) (root : String) :
    Except LintError (List FileReport) :=
  (tree.sourceFiles root).map fun files => files.filterMap fun file =>
    match linter.lintFile tree file with
    | .ok diagnostics => some { file, diagnostics }
    | .error _ => none

end Linter

end PropTrace
