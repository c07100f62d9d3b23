import Typeahead.Yaml.Token

/-!
# The nodes of a YAML document

A node is a scalar, a sequence or a mapping, with the tag that names its type if
it has one.  An anchor gives a node a name, and an alias stands for the node of
that name.  A text holds at most one document.
-/

namespace Typeahead.Yaml

set_option autoImplicit false

/-- A node. -/
inductive Node where
  /-- a scalar; if it is plain its text tells its type, and it can have halves of characters -/
  | scalar (tag : Option String) (text : String) (plain halved : Bool)
  | sequence (tag : Option String) (items : List Node)
  | mapping (tag : Option String) (entries : List (Node × Node))
  /-- an alias that stands inside its own node -/
  | loop
  deriving Repr, Inhabited

/-- The node where nothing is written. -/
def Node.absent : Node := .scalar none "" true false

/-- The stem of the tags of the standard types. -/
def standardStem : String := "tag:yaml.org,2002:"

/-- What the reading of nodes keeps. -/
structure Composer where
  tokens : List Token
  /-- the named nodes; a name without a node belongs to a node that is being read -/
  anchors : List (String × Option Node) := []
  /-- the families of tags -/
  families : List (String × String) := [("!", "!"), ("!!", standardStem)]
  deriving Inhabited

/-- A reading of nodes. -/
abbrev Compose (α : Type) : Type := StateT Composer (Except Fault) α

namespace Compose

/-- The next token. -/
def peek? : Compose (Option Token) := do
  return (← get).tokens.head?

/-- Moves over the next token. -/
def skip : Compose Unit :=
  modify fun composer => { composer with tokens := composer.tokens.drop 1 }

/-- Moves over the next token if it is the given one, and tells whether it was. -/
def take (token : Token) : Compose Bool := do
  if (← peek?) == some token then
    skip
    return true
  else return false

/-- The next token must be the given one. -/
def expect (token : Token) : Compose Unit := do
  if !(← take token) then throw .malformed

/-- One of some tokens is next. -/
def isAmong (tokens : List Token) : Compose Bool := do
  match ← peek? with
  | some token => return tokens.contains token
  | none => return false

/-- Names a node. -/
def define (anchor : Option String) (node : Option Node) : Compose Unit :=
  match anchor with
  | none => pure ()
  | some name =>
      modify fun composer => { composer with anchors := (name, node) :: composer.anchors }

/-- Gives a node a name that no node had before. -/
def reserve (anchor : Option String) : Compose Unit := do
  match anchor with
  | none => pure ()
  | some name =>
      if (← get).anchors.any fun entry => entry.1 == name then throw .malformed
      define anchor none

/-- The node of a name. -/
def resolve (name : String) : Compose Node := do
  match (← get).anchors.find? fun entry => entry.1 == name with
  | some (_, some node) => return node
  | some (_, none) => return .loop
  | none => throw .malformed

/-- The full text of a tag. -/
def fullTag (handle : Option String) (suffix : String) : Compose String := do
  match handle with
  | none => return suffix
  | some handle =>
      match (← get).families.find? fun family => family.1 == handle with
      | some family => return family.2 ++ suffix
      | none => throw .malformed

/-- An anchor, if one is next. -/
def takeAnchor : Compose (Option String) := do
  match ← peek? with
  | some (.anchor name) =>
      skip
      return some name
  | _ => return none

/-- A tag, if one is next. -/
def takeTag : Compose (Option String) := do
  match ← peek? with
  | some (.tag handle suffix) =>
      skip
      return some (← fullTag handle suffix)
  | _ => return none

/-- An anchor and a tag in either order. -/
def takeProperties : Compose (Option String × Option String) := do
  match ← takeAnchor with
  | some anchor => return (some anchor, ← takeTag)
  | none =>
      match ← takeTag with
      | some tag => return (← takeAnchor, some tag)
      | none => return (none, none)

/-- Where a node stands: inside a flow collection, in a block, or as a value in a block, where a
sequence need not be indented. -/
inductive Place where
  | flow
  | block
  | value
  deriving DecidableEq, Repr

mutual

/-- Reads a node. -/
def node : Nat → Place → Compose Node
  | 0, _ => throw .malformed
  | bound + 1, place => do
      match ← peek? with
      | some (.alias name) =>
          skip
          resolve name
      | _ =>
          let (anchor, tag) ← takeProperties
          reserve anchor
          let given := tag.filter (· != "!")
          let result ← match ← peek? with
            | some (.scalar text plain halved) =>
                skip
                pure (Node.scalar given text
                  (if tag == some "!" then true else plain && tag.isNone) halved)
            | some .flowSequenceStart =>
                skip
                pure (.sequence given (← flowItems bound true))
            | some .flowMappingStart =>
                skip
                pure (.mapping given (← flowEntries bound true))
            | some .sequenceStart =>
                if place == .flow then throw .malformed
                skip
                let items ← blockItems bound
                expect .blockEnd
                pure (.sequence given items)
            | some .mappingStart =>
                if place == .flow then throw .malformed
                skip
                let entries ← blockEntries bound
                expect .blockEnd
                pure (.mapping given entries)
            | some .entry =>
                if place == .value then pure (.sequence given (← valueItems bound))
                else if anchor.isNone && tag.isNone then throw .malformed
                else pure (.scalar given "" given.isNone false)
            | _ =>
                if anchor.isNone && tag.isNone then throw .malformed
                else pure (.scalar given "" given.isNone false)
          define anchor (some result)
          return result

/-- A node unless one of some tokens is next; then nothing is written there. -/
def nodeUnless : Nat → Place → List Token → Compose Node
  | 0, _, _ => throw .malformed
  | bound + 1, place, tokens => do
      if (← peek?).isNone || (← isAmong tokens) then return .absent
      else node bound place

/-- The items of an indented sequence. -/
def blockItems : Nat → Compose (List Node)
  | 0 => throw .malformed
  | bound + 1 => do
      if ← take .entry then
        let first ← nodeUnless bound .block [.entry, .blockEnd]
        return first :: (← blockItems bound)
      else return []

/-- The items of a sequence that is not indented. -/
def valueItems : Nat → Compose (List Node)
  | 0 => throw .malformed
  | bound + 1 => do
      if ← take .entry then
        let first ← nodeUnless bound .block [.entry, .key, .value, .blockEnd]
        return first :: (← valueItems bound)
      else return []

/-- The entries of an indented mapping. -/
def blockEntries : Nat → Compose (List (Node × Node))
  | 0 => throw .malformed
  | bound + 1 => do
      if ← take .key then
        let key ← nodeUnless bound .value [.key, .value, .blockEnd]
        let value ← if ← take .value then nodeUnless bound .value [.key, .value, .blockEnd]
          else pure .absent
        return (key, value) :: (← blockEntries bound)
      else return []

/-- The items of a sequence in brackets; a key among them makes a mapping of one entry. -/
def flowItems : Nat → Bool → Compose (List Node)
  | 0, _ => throw .malformed
  | bound + 1, first => do
      if ← take .flowSequenceEnd then return []
      if !first then
        expect .comma
        if ← take .flowSequenceEnd then return []
      let item ← if ← take .key then do
          let key ← nodeUnless bound .flow [.value, .comma, .flowSequenceEnd]
          let value ← if ← take .value then nodeUnless bound .flow [.comma, .flowSequenceEnd]
            else pure .absent
          pure (Node.mapping none [(key, value)])
        else node bound .flow
      return item :: (← flowItems bound false)

/-- The entries of a mapping in braces. -/
def flowEntries : Nat → Bool → Compose (List (Node × Node))
  | 0, _ => throw .malformed
  | bound + 1, first => do
      if ← take .flowMappingEnd then return []
      if !first then
        expect .comma
        if ← take .flowMappingEnd then return []
      let entry ← if ← take .key then do
          let key ← nodeUnless bound .flow [.value, .comma, .flowMappingEnd]
          let value ← if ← take .value then nodeUnless bound .flow [.comma, .flowMappingEnd]
            else pure .absent
          pure (key, value)
        else do
          let key ← node bound .flow
          pure (key, .absent)
      return entry :: (← flowEntries bound false)

end

/-- The directives in front of a document; the first one of each kind is the only one. -/
def directives : Nat → Bool → Compose Unit
  | 0, _ => throw .malformed
  | bound + 1, versioned => do
      match ← peek? with
      | some (.version major) =>
          if versioned || major != 1 then throw .malformed
          skip
          directives bound true
      | some (.tagFamily handle stem) =>
          let own := (← get).families.dropLast.dropLast
          if own.any fun family => family.1 == handle then throw .malformed
          skip
          modify fun composer =>
            { composer with families := (handle, stem) :: composer.families }
          directives bound versioned
      | some .directive =>
          skip
          directives bound versioned
      | _ => pure ()

/-- A document has an explicit beginning. -/
def startsExplicitly : Compose Bool := do
  match ← peek? with
  | some (.version _) | some (.tagFamily _ _) | some .directive | some .documentStart =>
      return true
  | _ => return false

/-- The document of a text, if there is one, and nothing behind it. -/
def document (bound : Nat) : Compose (Option Node) := do
  if (← peek?).isNone then return none
  let root ← if ← startsExplicitly then do
      directives bound false
      expect .documentStart
      if (← peek?).isNone || (← startsExplicitly) || (← isAmong [.documentEnd]) then
        pure Node.absent
      else node bound .block
    else node bound .block
  modify fun composer =>
    { composer with tokens := composer.tokens.dropWhile (· == .documentEnd) }
  if (← peek?).isSome then throw .malformed
  return some root

end Compose

/-- The document of a text.  Every call of the reading takes a token or comes a constant number of
calls before one that does. -/
def Node.ofText (text : List Char) : Except Fault (Option Node) := do
  let tokens ← tokensOf text
  let (root, _) ← (Compose.document (4 * tokens.length + 8)).run { tokens }
  return root

end Typeahead.Yaml
