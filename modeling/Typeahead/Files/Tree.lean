import Typeahead.Files.Path
import Typeahead.Text.Quoted

/-!
# Trees of files

A tree holds the files with their bytes by their absolute paths; what stands on
the way to a file is a directory, and there may be further directories.  A path
without a slash in front is seen from the working directory.
-/

namespace Typeahead.Files

open Typeahead.Text

set_option autoImplicit false

/-- A tree of files. -/
structure Tree where
  files : List (List String × List UInt8) := []
  directories : List (List String) := []
  /-- the working directory -/
  workplace : List String := []
  deriving Repr, Inhabited

/-- Why a file cannot be opened. -/
inductive OpenFault where
  | missing (path : String)
  | notADirectory (path : String)
  | isADirectory (path : String)
  | nameTooLong (path : String)
  /-- a NUL character in a path, which no file can have -/
  | nulInPath
  deriving DecidableEq, Repr, Inhabited

/-- What is said about a file that cannot be opened. -/
def OpenFault.message : OpenFault → String
  | .missing path => "[Errno 2] No such file or directory: " ++ quoted path
  | .notADirectory path => "[Errno 20] Not a directory: " ++ quoted path
  | .isADirectory path => "[Errno 21] Is a directory: " ++ quoted path
  | .nameTooLong path => "[Errno 36] File name too long: " ++ quoted path
  | .nulInPath => "embedded null byte"

/-- What stands at a place in a tree. -/
inductive Entry where
  | file (bytes : List UInt8)
  | directory
  deriving Repr, Inhabited

/-- What stands at an absolute path without `.` and `..`. -/
def Tree.entry? (tree : Tree) (place : List String) : Option Entry :=
  match tree.files.find? fun file => file.1 == place with
  | some file => some (.file file.2)
  | none =>
      if place.isEmpty || tree.files.any (fun file => place.isPrefixOf file.1) ||
          tree.directories.any (fun directory => place.isPrefixOf directory) then
        some .directory
      else none

/-- Walks from a directory along names. -/
def Tree.walk (tree : Tree) (path : String) (place : List String) :
    List String → Except OpenFault Entry
  | [] => .ok .directory
  | name :: names =>
      if name = ".." then tree.walk path place.dropLast names
      else if 255 < name.utf8ByteSize then .error (.nameTooLong path)
      else
        match tree.entry? (place ++ [name]) with
        | none => .error (.missing path)
        | some .directory => tree.walk path (place ++ [name]) names
        | some (.file bytes) =>
            if names.isEmpty then .ok (.file bytes) else .error (.notADirectory path)

/-- Looks up a path. -/
def Tree.find (tree : Tree) (path : Path) : Except OpenFault Entry :=
  let text := path.text
  if text.toList.contains '\x00' then .error .nulInPath
  else if 4095 < text.utf8ByteSize then .error (.nameTooLong text)
  else tree.walk text (if path.slashes = 0 then tree.workplace else []) path.names

/-- The bytes of a file. -/
def Tree.open (tree : Tree) (path : Path) : Except OpenFault (List UInt8) :=
  match tree.find path with
  | .error fault => .error fault
  | .ok .directory => .error (.isADirectory path.text)
  | .ok (.file bytes) => .ok bytes

/-- A file stands at a path. -/
def Tree.isFile (tree : Tree) (path : Path) : Bool :=
  match tree.find path with
  | .ok (.file _) => true
  | _ => false

end Typeahead.Files
