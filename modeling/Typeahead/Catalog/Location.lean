import Typeahead.Catalog.Feed

/-!
# Where a catalog lies

A location that begins with the scheme of the web is an address; every other
one is the path of a file, with or without the scheme of files in front.
-/

namespace Typeahead.Catalog

open Typeahead.Files Typeahead.Web

set_option autoImplicit false

/-- Where a catalog lies. -/
inductive Location where
  | web (address : String)
  | file (path : Path)
  deriving DecidableEq, Repr, Inhabited

/-- A text begins with another. -/
def beginsWith (start text : String) : Bool :=
  start.toList.isPrefixOf text.toList

/-- Reads a location. -/
def Location.ofText (homes : Homes) (text : String) : Except HomeFault Location :=
  if beginsWith "http://" text || beginsWith "https://" text then .ok (.web text)
  else
    let path := if beginsWith "file://" text then String.ofList (text.toList.drop 7) else text
    ((Path.ofText path).expand homes).map .file

/-- What the program can reach: its files, the homes of the users and the network. -/
structure World where
  files : Tree := {}
  homes : Homes
  network : Network := {}
  deriving Repr, Inhabited

/-- A pass over the catalog at a location. -/
def Location.feed (world : World) : Location → Feed
  | .web address => webFeed world.network address
  | .file path => fileFeed world.files path

end Typeahead.Catalog
