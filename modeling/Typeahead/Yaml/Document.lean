import Typeahead.Text.Base64
import Typeahead.Text.Utf8
import Typeahead.Yaml.Scalar

/-!
# The value of a YAML document

A tag overrides what the text of a scalar tells.  A mapping can merge others
into itself: their entries come first, so that its own entries win.  Of entries
with equal keys the last one counts, in the place of the first.  A pair of an
ordered mapping is a sequence of its key and its value.
-/

namespace Typeahead.Yaml

open Typeahead.Decimal Typeahead.Text

set_option autoImplicit false

/-- The value of a scalar. -/
inductive Scalar where
  | null
  | truth (value : Bool)
  | integer (value : Int)
  | real (value : Binary64)
  | text (value : String)
  /-- a text with halves of pairs of surrogates, in whose places another character is shown -/
  | halved (shown : String)
  | time (text : String)
  | bytes (value : List UInt8)
  deriving DecidableEq, Repr, Inhabited

/-- A value. -/
inductive Value where
  | scalar (value : Scalar)
  | sequence (items : List Value)
  | mapping (entries : List (Scalar × Value))
  | set (members : List Scalar)
  /-- a value inside itself -/
  | loop
  deriving Repr, Inhabited

/-- The standard types by the ends of their tags. -/
def standardKinds : List (String × Kind) :=
  [("bool", .truth), ("float", .real), ("int", .integer), ("null", .null), ("timestamp", .time),
    ("str", .text), ("binary", .binary)]

/-- The type of a scalar with a tag. -/
def kindOfTag (tag : String) : Except Fault Kind :=
  match standardKinds.find? fun entry => standardStem ++ entry.1 == tag with
  | some entry => .ok entry.2
  | none => .error .malformed

/-- The bytes that a text of ASCII characters stands for. -/
def bytesOf (text : String) : Except Fault (List UInt8) :=
  match decodeBase64? text.toList with
  | some bytes => if text.toList.all (·.toNat < 0x80) then .ok bytes else .error .malformed
  | none => .error .malformed

/-- The value of a scalar of a type, given whether it has halves of characters. -/
def scalarOfKind (kind : Kind) (text : String) (halved : Bool) : Except Fault Scalar :=
  match kind with
  | .truth => (truthOf text).map .truth
  | .real => (realOf text).map .real
  | .integer => (integerOf text).map .integer
  | .null => .ok .null
  | .text => .ok (if halved then .halved text else .text text)
  | .time =>
      match readTime? text.toList with
      | some time => if time.isValid then .ok (.time text) else .error .unusable
      | none => .error .unusable
  | .binary => (bytesOf text).map .bytes
  | .merge => .error .malformed
  | .equals => .error .malformed

/-- The type of a scalar. -/
def kindOf (tag : Option String) (text : String) (plain : Bool) : Except Fault Kind :=
  match tag with
  | some tag => kindOfTag tag
  | none => .ok (if plain then kindOfPlain text else .text)

/-- A tag, if there is one, is one of the standard types with the given names. -/
def hasTag (tag : Option String) (names : List String) : Bool :=
  match tag with
  | none => true
  | some tag => names.any fun name => standardStem ++ name == tag

/-- The number that a scalar counts as, if it does. -/
def Scalar.number? : Scalar → Option Rat
  | .truth value => some (if value then 1 else 0)
  | .integer value => some value
  | .real value => if value.isFinite then some value.value else none
  | _ => none

/-- Two scalars are one key: they are equal, or they count as one number. -/
def Scalar.isKeyOf (first second : Scalar) : Bool :=
  first == second || (first.number?.isSome && first.number? == second.number?)

/-- Sets the entry of a key.  A key that is there already stays as it was written. -/
def setEntry (key : Scalar) (value : Value) : List (Scalar × Value) → List (Scalar × Value)
  | [] => [(key, value)]
  | entry :: entries =>
      if entry.1.isKeyOf key then (entry.1, value) :: entries
      else entry :: setEntry key value entries

/-- A key that merges other mappings into its own. -/
def isMergeKey : Node → Bool
  | .scalar none text true _ => text == "<<"
  | .scalar (some tag) _ _ _ => tag == standardStem ++ "merge"
  | _ => false

/-- A key that is a lone equals sign is a text. -/
def plainKey : Node → Node
  | .scalar none "=" true halved => .scalar none "=" false halved
  | key => key

mutual

/-- The value of a node, which nests at most so deep. -/
def valueOf : Nat → Node → Except Fault Value
  | 0, _ => .error .malformed
  | depth + 1, node =>
      match node with
      | .scalar tag text plain halved => do
          let kind ← kindOf tag text plain
          return .scalar (← scalarOfKind kind text halved)
      | .sequence tag items => do
          if hasTag tag ["seq"] then return .sequence (← items.mapM (valueOf depth))
          else if hasTag tag ["omap", "pairs"] then
            return .sequence (← items.mapM (pairOf depth))
          else throw .malformed
      | .mapping tag entries => do
          if hasTag tag ["map"] then return .mapping (← entriesOf depth entries)
          else if hasTag tag ["set"] then
            return .set ((← entriesOf depth entries).map Prod.fst)
          else throw .malformed
      | .loop => .ok .loop

/-- An entry that is written as a mapping of its own. -/
def pairOf : Nat → Node → Except Fault Value
  | 0, _ => .error .malformed
  | depth + 1, node =>
      match node with
      | .mapping _ [(key, value)] => do
          return .sequence [← valueOf depth key, ← valueOf depth value]
      | _ => .error .malformed

/-- The entries of a mapping, those that it merges into itself first. -/
def entriesOf : Nat → List (Node × Node) → Except Fault (List (Scalar × Value))
  | 0, _ => .error .malformed
  | depth + 1, entries => do
      let flat ← flatten depth entries
      let values ← flat.mapM fun entry => do
        match ← valueOf depth (plainKey entry.1) with
        | .scalar key => return (key, ← valueOf depth entry.2)
        | _ => throw .malformed
      return values.foldl (fun kept entry => setEntry entry.1 entry.2 kept) []

/-- The entries of a mapping with its merges carried out. -/
def flatten : Nat → List (Node × Node) → Except Fault (List (Node × Node))
  | 0, _ => .error .malformed
  | depth + 1, entries => do
      let merges := entries.filter fun entry => isMergeKey entry.1
      let own := entries.filter fun entry => !isMergeKey entry.1
      let merged ← merges.mapM fun entry => mergedEntries depth entry.2
      return merged.flatten ++ own

/-- The entries that a merge brings: those of a mapping, or of several, the first of which wins. -/
def mergedEntries : Nat → Node → Except Fault (List (Node × Node))
  | 0, _ => .error .malformed
  | depth + 1, node =>
      match node with
      | .mapping _ entries => flatten depth entries
      | .sequence _ items => do
          let parts ← items.mapM fun item => match item with
            | .mapping _ entries => flatten depth entries
            | _ => .error .malformed
          return parts.reverse.flatten
      | _ => .error .malformed

end

mutual

/-- How deep a node nests. -/
def Node.depth : Node → Nat
  | .scalar _ _ _ _ => 1
  | .sequence _ items => Node.depthOfItems items + 1
  | .mapping _ entries => Node.depthOfEntries entries + 1
  | .loop => 1

def Node.depthOfItems : List Node → Nat
  | [] => 0
  | item :: items => max item.depth (Node.depthOfItems items)

def Node.depthOfEntries : List (Node × Node) → Nat
  | [] => 0
  | (key, value) :: entries => max (max key.depth value.depth) (Node.depthOfEntries entries)

end

/-- The value of the document in a text; a text without a document is null. -/
def read (text : List Char) : Except Fault Value := do
  match ← Node.ofText text with
  | none => return .scalar .null
  | some node => valueOf (4 * node.depth + 4) node

/-! ## Files -/

/-- The text of a file with one kind of line ends. -/
def unifyLineEnds (text : List Char) : List Char :=
  match text with
  | '\r' :: '\n' :: rest => '\n' :: unifyLineEnds rest
  | '\r' :: rest => '\n' :: unifyLineEnds rest
  | c :: rest => c :: unifyLineEnds rest
  | [] => []

/-- The value of the document in the bytes of a file. -/
def readFile (bytes : List UInt8) : Except Fault Value :=
  match decode? bytes with
  | none => .error .unusable
  | some text => read (unifyLineEnds text)

end Typeahead.Yaml
