/-!
# Paths of files

A path is a list of names behind a root.  Repeated slashes and the name `.`
count for nothing, and exactly two slashes in front are kept as they are.  A
tilde at the beginning stands for the home of the user.
-/

namespace Typeahead.Files

set_option autoImplicit false

/-- A path: none, one or two slashes in front, and the names. -/
structure Path where
  slashes : Nat
  names : List String
  deriving DecidableEq, Repr, Inhabited

/-- The path that a text spells. -/
def Path.ofText (text : String) : Path :=
  let slashes := (text.toList.takeWhile (· == '/')).length
  let parts := (text.toList.splitOn '/').map String.ofList
  ⟨if slashes = 0 then 0 else if slashes = 2 then 2 else 1,
    parts.filter fun part => part != "" && part != "."⟩

/-- A path as it is written; the empty path is a point. -/
def Path.text (path : Path) : String :=
  if path.slashes = 0 && path.names.isEmpty then "."
  else String.ofList (List.replicate path.slashes '/') ++ "/".intercalate path.names

/-- The homes of the users: one's own, and those of others by name. -/
structure Homes where
  own : String
  others : List (String × String) := []
  deriving Repr, Inhabited

/-- A tilde that names no user. -/
inductive HomeFault where
  | unknown
  deriving DecidableEq, Repr, Inhabited

/-- What is said about a tilde that names no user. -/
def HomeFault.message : HomeFault → String
  | .unknown => "Could not determine home directory."

/-- The home that a name with a tilde in front stands for. -/
def Homes.find? (homes : Homes) (name : String) : Option String :=
  if name = "~" then some homes.own
  else (homes.others.find? fun home => "~" ++ home.1 == name).map Prod.snd

/-- Replaces a tilde at the beginning of a path. -/
def Path.expand (homes : Homes) (path : Path) : Except HomeFault Path :=
  match path.slashes, path.names with
  | 0, name :: names =>
      if name.toList.head? = some '~' then
        match homes.find? name with
        | some home =>
            let root := Path.ofText home
            .ok ⟨root.slashes, root.names ++ names⟩
        | none => .error .unknown
      else .ok path
  | _, _ => .ok path

end Typeahead.Files
