import FluxCorpus.Text.Pieces

/-!
# Files

A tree of folders and files, as far as saving a text needs one.  `Files.locate` goes the way that a
path describes, folder by folder, and ends at the place of a file; `Files.save` puts a text there.
What can go wrong on the way is a `FileProblem`.
-/

namespace FluxCorpus

/-- Why a file cannot be opened for writing. -/
inductive FileProblem
  | missingFolder
  | isFolder
  | notInFolder
  | denied
  | nameTooLong
  | other (text : String)
deriving DecidableEq, Repr

/-- The message for a file that cannot be opened. -/
def FileProblem.message : FileProblem → String
  | missingFolder => "No such file or directory (os error 2)"
  | isFolder => "Is a directory (os error 21)"
  | notInFolder => "Not a directory (os error 20)"
  | denied => "Permission denied (os error 13)"
  | nameTooLong => "File name too long (os error 36)"
  | other text => text

/-- A place in the tree: the names on the way to it from the root. -/
abbrev Place := List String

/-- A tree of files. -/
structure Files where
  /-- The folder where a path begins that does not begin with a slash. -/
  here : Place
  /-- Folders that may be empty.  All those on the way to a file are folders as well. -/
  folders : List Place := []
  texts : List (Place × String) := []
deriving DecidableEq, Repr

namespace Files

open Text

/-- A name has at most this many bytes. -/
def longestName : Nat := 255

/-- A path has at most this many bytes. -/
def longestPath : Nat := 4095

/-- There is a file at a place. -/
def hasFile (fs : Files) (p : Place) : Bool := fs.texts.any fun f => f.1 = p

/-- There is a folder at a place. -/
def hasFolder (fs : Files) (p : Place) : Bool :=
  p.isPrefixOf fs.here || fs.folders.any (p.isPrefixOf ·)
    || fs.texts.any fun f => p.isPrefixOf f.1.dropLast

/-- A name that stands for a folder on its own, and for no file. -/
def isRelative (name : String) : Bool := name = "." || name = ".."

/-- Goes from a folder to the one of a name. -/
def enter (fs : Files) (p : Place) (name : String) : Except FileProblem Place :=
  if name = "." then return p
  else if name = ".." then return p.dropLast
  else if longestName < name.utf8ByteSize then throw .nameTooLong
  else if fs.hasFolder (p ++ [name]) then return p ++ [name]
  else if fs.hasFile (p ++ [name]) then throw .notInFolder
  else throw .missingFolder

/-- The place of the file that a path means, whether the file is there yet or not. -/
def locate (fs : Files) (path : String) : Except FileProblem Place := do
  if path.isEmpty then throw .missingFolder
  if longestPath < path.utf8ByteSize then throw .nameTooLong
  let all := pieces (· = '/') path.toList
  let names := (all.filter fun name => !name.isEmpty).map String.ofList
  match names.reverse with
  | [] => throw .isFolder
  | name :: above =>
    let folder ← above.reverse.foldlM fs.enter (if all.head? = some [] then [] else fs.here)
    if isRelative name || all.getLast? = some [] then throw .isFolder
    if longestName < name.utf8ByteSize then throw .nameTooLong
    if fs.hasFolder (folder ++ [name]) then throw .isFolder
    return folder ++ [name]

/-- Puts a text in the place of a file; what was there is lost. -/
def save (fs : Files) (path text : String) : Except FileProblem Files := do
  let p ← fs.locate path
  return { fs with texts := fs.texts.filter (fun f => f.1 ≠ p) ++ [(p, text)] }

end Files

end FluxCorpus
