/-!
Directories and files. A path is a text with slashes; a place is the list of names on the way from
the top of a tree.
-/
namespace PropTrace

inductive FileTree where
  /-- A file with its text; none if its bytes are no text. -/
  | file (text : Option String)
  /-- A directory with its entries, each name once. -/
  | directory (entries : List (String × FileTree))

namespace FileTree

/-- A directory without entries. -/
def empty : FileTree := .directory []

def isDirectory : FileTree → Bool
  | directory _ => true
  | file _ => false

/-- Whether a segment of a path leads back to where it stands. -/
def staysHere (segment : String) : Bool := segment == "" || segment == "."

/-- The names a path consists of. -/
def segments (path : String) : List String := (path.toList.splitOn '/').map String.ofList

/-- Follows segments through a tree. `above` are the directories on the way from the top, the
nearest one first; there is no way out of the top, and none through a file. -/
def follow (above : List FileTree) : FileTree → List String → Option FileTree
  | tree, [] => some tree
  | .file _, _ :: _ => none
  | .directory entries, segment :: rest =>
    if staysHere segment then follow above (.directory entries) rest
    else if segment == ".." then
      match above with
      | [] => none
      | parent :: above => follow above parent rest
    else
      match entries.lookup segment with
      | none => none
      | some tree => follow (.directory entries :: above) tree rest

/-- What stands at a path; an absolute path leads out of the tree. -/
def at? (tree : FileTree) (path : String) : Option FileTree :=
  if path.startsWith "/" then none else tree.follow [] (segments path)

/-- Changes what stands at a place, with new directories on the way. None if a file is in the way
or the change is refused. -/
def alter (change : Option FileTree → Option FileTree) :
    List String → Option FileTree → Option FileTree
  | [], tree => change tree
  | name :: rest, tree =>
    match tree.getD empty with
    | .file _ => none
    | .directory entries =>
      (alter change rest (entries.lookup name)).map fun child =>
        .directory (entries.filter (·.1 != name) ++ [(name, child)])

/-- The place a path leads to if it never goes up. -/
def placeOf (path : String) : List String := (segments path).filter (!staysHere ·)

/-- Writes a file unless a directory or a file is in the way. -/
def write (tree : FileTree) (path : String) (text : Option String) : Option FileTree :=
  alter (fun old => if (old.map isDirectory).getD false then none else some (.file text))
    (placeOf path) (some tree)

/-- Makes a directory unless a file is in the way. -/
def makeDirectory (tree : FileTree) (path : String) : Option FileTree :=
  alter (fun old => if (old.getD empty).isDirectory then some (old.getD empty) else none)
    (placeOf path) (some tree)

/-- Whether a directory below the root is left out of a walk. -/
def isSkipped (name : String) (tree : FileTree) : Bool :=
  tree.isDirectory && (name == "node_modules" || name.startsWith ".")

mutual

/-- The places of all files of a tree. Skipped directories are passed over. -/
def files : FileTree → List (List String)
  | .file _ => [[]]
  | .directory entries => entryFiles entries

def entryFiles : List (String × FileTree) → List (List String)
  | [] => []
  | (name, tree) :: rest =>
    (if isSkipped name tree then [] else (files tree).map (name :: ·)) ++ entryFiles rest

end

end FileTree

end PropTrace
