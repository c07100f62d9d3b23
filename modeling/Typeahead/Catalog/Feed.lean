import Typeahead.Files.Tree
import Typeahead.Notice
import Typeahead.Web.Body

/-!
# Feeds

A feed is what one pass over a catalog brings, in the order in which it comes:
lines, and pauses in which nothing comes.  It ends with the catalog or with a
failure.  The lines of a file are cut at line feeds and carriage returns and
must be UTF-8; the lines of a reply are those of its body.
-/

namespace Typeahead.Catalog

open Typeahead.Files Typeahead.Text Typeahead.Web

set_option autoImplicit false

/-- Why a file cannot be read to its end. -/
inductive FileFault where
  | opening (fault : OpenFault)
  | badBytes
  deriving DecidableEq, Repr, Inhabited

/-- What is said about a file that cannot be read to its end. -/
def FileFault.message : FileFault → String
  | .opening fault => fault.message
  | .badBytes => "'utf-8' codec can't decode"

/-- Why a catalog cannot be read to its end. -/
inductive SourceFault where
  | web (address : String) (fault : WebFault)
  | file (path : String) (fault : FileFault)
  /-- the source gives its reason itself -/
  | stated (reason : String)
  /-- the source broke down in a way that nobody expects -/
  | crashed (reason : String)
  deriving DecidableEq, Repr, Inhabited

/-- The failure is one of fetching; the others are faults of the program or of its user. -/
def SourceFault.isFetch : SourceFault → Bool
  | .web _ (.badAddress _) => false
  | .file _ (.opening .nulInPath) => false
  | .crashed _ => false
  | _ => true

/-- What is said about a catalog that cannot be read to its end. -/
def SourceFault.message (fault : SourceFault) : String :=
  match fault with
  | .web address cause =>
      if fault.isFetch then "There was an error querying " ++ address ++ ": " ++ cause.message
      else cause.message
  | .file path cause =>
      if fault.isFetch then "There was an error reading " ++ path ++ ": " ++ cause.message
      else cause.message
  | .stated reason => reason
  | .crashed reason => reason

/-- What comes next. -/
inductive Signal where
  | line (text : String)
  | pause (seconds : Rat)
  deriving DecidableEq, Repr, Inhabited

/-- What one pass over a catalog brings. -/
structure Feed where
  /-- what is reported when the pass begins -/
  opening : Option Notice := none
  /-- the requests that are made for it -/
  requests : List String := []
  signals : List Signal
  failure : Option SourceFault := none
  /-- how many steps it takes to close a pass that is broken off -/
  closing : Nat := 0
  deriving Repr, Inhabited

/-! ## Files -/

/-- How many bytes of a file are read at once. -/
def fileChunkSize : Nat := 8192

/-- Cuts bytes into chunks of a size. -/
def chunksOf (size : Nat) (bytes : List UInt8) : List (List UInt8) :=
  if _short : bytes.length ≤ size ∨ size = 0 then (if bytes.isEmpty then [] else [bytes])
  else bytes.take size :: chunksOf size (bytes.drop size)
termination_by bytes.length
decreasing_by
  simp only [List.length_drop]
  omega

/-- Reads the chunks of a file: the lines, and whether all bytes were good.  A bad byte spoils the
whole chunk that it stands in. -/
def fileLines (begun : Option Begun) (cutter : Cutter) :
    List (List UInt8) → List (List Char) × Bool
  | [] =>
      match begun with
      | none => (cutter.finish, true)
      | some _ => ([], false)
  | bytes :: more =>
      let pieces := Charset.utf8.feed begun bytes
      match pieces.1.mapM Piece.char? with
      | none => ([], false)
      | some text =>
          let lines := Cutter.feed endsFileLine cutter text
          let rest := fileLines pieces.2 lines.2 more
          (lines.1 ++ rest.1, rest.2)

/-- Lines as signals. -/
def signalsOfLines (lines : List (List Char)) : List Signal :=
  lines.map fun line => .line (String.ofList line)

/-- A pass over a file. -/
def fileFeed (tree : Tree) (path : Path) : Feed :=
  let opening : Option Notice := some ⟨.info, "Reading all packages data from " ++ path.text ++ "..."⟩
  match tree.open path with
  | .error fault => { opening, signals := [], failure := some (.file path.text (.opening fault)) }
  | .ok bytes =>
      let read := fileLines none {} (chunksOf fileChunkSize bytes)
      { opening, signals := signalsOfLines read.1,
        failure := if read.2 then none else some (.file path.text .badBytes) }

/-! ## Replies -/

/-- A pass over a catalog on the web. -/
def webFeed (network : Network) (address : String) : Feed :=
  let opening : Option Notice :=
    some ⟨.info, "Fetching all packages data from " ++ address ++ "..."⟩
  match requestAddress address with
  | .error fault => { opening, signals := [], failure := some (.web address (.badAddress fault)) }
  | .ok target =>
      let exchange := network.follow maxRedirects target
      match exchange.outcome with
      | .error fault =>
          { opening, requests := exchange.requests, signals := [],
            failure := some (.web address fault) }
      | .ok (final, reply) =>
          match checkStatus final reply with
          | .error fault =>
              { opening, requests := exchange.requests, signals := [],
                failure := some (.web address fault) }
          | .ok reply =>
              { opening, requests := exchange.requests, signals := signalsOfLines reply.lines,
                failure := reply.failure.map fun fault => .web address (.transport fault) }

end Typeahead.Catalog
