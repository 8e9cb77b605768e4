import FormulaGrid.Fault

/-!
Contract: the files that a command can open.

Owns:
- why a path cannot be opened (`PathFault`) with its message;
- a working folder, known by the files in it (`Folder`), and the opening of a
  path there.

Names with a dot stay in a folder or lead to the one above; a file has nothing
below it.
-/

namespace FormulaGrid.Console

/-- Why a path cannot be opened. -/
inductive PathFault where
  | missing (path : String)
  | folderInTheWay (path : String)
  | fileInTheWay (path : String)
  | overlongName (path : String)
deriving DecidableEq, Repr

def PathFault.message : PathFault → String
  | missing path => "[Errno 2] No such file or directory: " ++ Text.quoted path
  | fileInTheWay path => "[Errno 20] Not a directory: " ++ Text.quoted path
  | folderInTheWay path => "[Errno 21] Is a directory: " ++ Text.quoted path
  | overlongName path => "[Errno 36] File name too long: " ++ Text.quoted path

def longestName : Nat := 255

def longestPath : Nat := 4095

/-- The files of the working folder, each with its contents. -/
structure Folder where
  files : List (String × String)

/-- Where a path leads: to the working folder, to a folder around it, or to one of
its files. -/
inductive Place where
  | working
  | around
  | file (contents : String)

/-- The names in a path, between the slashes. -/
def pathNames : List Char → List (List Char)
  | [] => [[]]
  | character :: rest =>
      if character == '/' then
        [] :: pathNames rest
      else
        match pathNames rest with
        | [] => [[character]]
        | first :: others => (character :: first) :: others

namespace Folder

/-- Where a name leads from a place. -/
def step (folder : Folder) (path name : String) : Place → Except PathFault Place
  | .file _ => .error (.fileInTheWay path)
  | .working =>
      if longestName < name.utf8ByteSize then
        .error (.overlongName path)
      else if name == "" || name == "." then
        .ok .working
      else if name == ".." then
        .ok .around
      else
        match folder.files.lookup name with
        | some contents => .ok (.file contents)
        | none => .error (.missing path)
  | .around =>
      if longestName < name.utf8ByteSize then
        .error (.overlongName path)
      else if name == "" || name == "." || name == ".." then
        .ok .around
      else
        .error (.missing path)

/-- Where names lead from a place, one after the other. -/
def follow (folder : Folder) (path : String) : Place → List String → Except PathFault Place
  | place, [] => .ok place
  | place, name :: others => do
      let next ← folder.step path name place
      folder.follow path next others

/-- The contents of the file at a path. -/
def openPath (folder : Folder) (path : String) : Except PathFault String :=
  if path == "" then
    .error (.missing path)
  else if longestPath < path.utf8ByteSize then
    .error (.overlongName path)
  else do
    let names := (pathNames path.toList).map String.ofList
    let start := if path.toList.head? == some '/' then Place.around else Place.working
    match ← folder.follow path start names with
    | .file contents => return contents
    | _ => throw (.folderInTheWay path)

end Folder

end FormulaGrid.Console
