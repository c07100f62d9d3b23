import Typeahead.Yaml.ScalarText

/-!
# The tokens of a YAML text

The nesting of blocks, which the text shows by indentation, is made explicit by
tokens that open and close a block.  Whether a scalar is the key of a mapping is
known only when a colon follows it on its line, so the place before a possible
key is remembered, and the tokens that make it a key are inserted there.
-/

namespace Typeahead.Yaml

open Typeahead.Text

set_option autoImplicit false

/-- A token. -/
inductive Token where
  /-- a directive that names the version of the language -/
  | version (major : Nat)
  /-- a directive that names a family of tags -/
  | tagFamily (handle stem : String)
  /-- a directive of another kind -/
  | directive
  | documentStart
  | documentEnd
  | sequenceStart
  | mappingStart
  | blockEnd
  | flowSequenceStart
  | flowSequenceEnd
  | flowMappingStart
  | flowMappingEnd
  | entry
  | comma
  | key
  | value
  | alias (name : String)
  | anchor (name : String)
  /-- a tag, with the handle of its family unless it is written in full -/
  | tag (handle : Option String) (suffix : String)
  | scalar (text : String) (plain halved : Bool)
  deriving DecidableEq, Repr, Inhabited

/-- A place at which a key may have begun. -/
structure PossibleKey where
  /-- the number of tokens before it -/
  place : Nat
  /-- nothing but a key may stand there -/
  required : Bool
  index : Nat
  line : Nat
  column : Nat
  deriving DecidableEq, Repr, Inhabited

/-- The state of the reading of tokens. -/
structure Scanner where
  cursor : Cursor
  tokens : Array Token := #[]
  /-- how many flow collections are open -/
  flow : Nat := 0
  /-- the column of the innermost open block, `-1` outside all blocks -/
  indent : Int := -1
  /-- the columns of the blocks around it -/
  outer : List Int := []
  keyAllowed : Bool := true
  /-- the possible keys by the number of flow collections around them -/
  keys : List (Nat × PossibleKey) := []
  deriving Inhabited

namespace Scanner

/-- Appends a token. -/
def push (scanner : Scanner) (token : Token) : Scanner :=
  { scanner with tokens := scanner.tokens.push token }

/-- Puts a token before the tokens from a place on. -/
def insertAt (scanner : Scanner) (place : Nat) (token : Token) : Scanner :=
  { scanner with
    tokens := (scanner.tokens.toList.take place ++ token ::
      scanner.tokens.toList.drop place).toArray }

/-- The possible key at the present depth. -/
def key? (scanner : Scanner) : Option PossibleKey :=
  (scanner.keys.find? fun entry => entry.1 == scanner.flow).map Prod.snd

/-- Forgets the possible key at the present depth. -/
def forgetKey (scanner : Scanner) : Scanner :=
  { scanner with keys := scanner.keys.filter fun entry => entry.1 != scanner.flow }

/-- Gives up the possible key at the present depth, which must not be required. -/
def dropKey (scanner : Scanner) : Except Fault Scanner :=
  match scanner.key? with
  | some key => if key.required then .error .malformed else .ok scanner.forgetKey
  | none => .ok scanner

/-- Gives up the possible keys that the reading has left behind: a key ends on the line on which it
begins, and within 1024 characters. -/
def dropStaleKeys (scanner : Scanner) : Except Fault Scanner :=
  let stale (key : PossibleKey) : Bool :=
    key.line != scanner.cursor.line || 1024 < scanner.cursor.index - key.index
  if scanner.keys.any fun entry => stale entry.2 && entry.2.required then .error .malformed
  else .ok { scanner with keys := scanner.keys.filter fun entry => !stale entry.2 }

/-- Remembers that a key may begin here. -/
def saveKey (scanner : Scanner) : Except Fault Scanner :=
  if scanner.keyAllowed then do
    let dropped ← scanner.dropKey
    let cursor := scanner.cursor
    let key : PossibleKey :=
      ⟨scanner.tokens.size, scanner.flow == 0 && scanner.indent == cursor.column,
        cursor.index, cursor.line, cursor.column⟩
    return { dropped with keys := (scanner.flow, key) :: dropped.keys }
  else .ok scanner

/-- Closes the blocks that are indented further than a column. -/
def unwind (column : Int) : List Int → Scanner → Scanner
  | [], scanner => scanner
  | wider :: outer, scanner =>
      if scanner.indent ≤ column then scanner
      else unwind column outer { scanner.push .blockEnd with indent := wider, outer }

/-- Closes blocks, unless a flow collection is open. -/
def unwindTo (scanner : Scanner) (column : Int) : Scanner :=
  if scanner.flow != 0 then scanner else unwind column scanner.outer scanner

/-- Opens a block at a column, if it is indented further than the innermost one. -/
def openBlock (scanner : Scanner) (column place : Nat) (token : Token) : Scanner :=
  if scanner.indent < column then
    { scanner.insertAt place token with
      indent := column, outer := scanner.indent :: scanner.outer }
  else scanner

/-- Moves to the next token: over spaces, comments and line breaks.  Outside flow collections a key
may begin on every new line. -/
def skipToToken : Nat → Scanner → Scanner
  | 0, scanner => scanner
  | bound + 1, scanner =>
      let cursor := scanner.cursor.skipWhile (· == ' ')
      let cursor := if cursor.isAt '#' then cursor.skipWhile (!isBreak ·) else cursor
      if cursor.ahead 0 isBreak false then
        skipToToken bound { scanner with
          cursor := cursor.takeBreak.2, keyAllowed := scanner.keyAllowed || scanner.flow == 0 }
      else { scanner with cursor }

/-! ## Marks of one or more characters -/

/-- Takes a token of a width. -/
def take (scanner : Scanner) (width : Nat) (token : Token) : Scanner :=
  { scanner.push token with cursor := scanner.cursor.skip width }

/-- A mark that begins or ends a document. -/
def scanSeparator (scanner : Scanner) (token : Token) : Except Fault Scanner := do
  let dropped ← (scanner.unwindTo (-1)).dropKey
  return { dropped with keyAllowed := false }.take 3 token

/-- The beginning of a flow collection. -/
def scanFlowStart (scanner : Scanner) (token : Token) : Except Fault Scanner := do
  let saved ← scanner.saveKey
  return { saved with flow := saved.flow + 1, keyAllowed := true }.take 1 token

/-- The end of a flow collection. -/
def scanFlowEnd (scanner : Scanner) (token : Token) : Except Fault Scanner := do
  let dropped ← scanner.dropKey
  return { dropped with flow := dropped.flow - 1, keyAllowed := false }.take 1 token

/-- A comma between the items of a flow collection. -/
def scanComma (scanner : Scanner) : Except Fault Scanner := do
  let dropped ← scanner.dropKey
  return { dropped with keyAllowed := true }.take 1 .comma

/-- The mark of an item of a block. -/
def scanEntry (scanner : Scanner) : Except Fault Scanner := do
  if scanner.flow == 0 && !scanner.keyAllowed then throw .malformed
  let opened := if scanner.flow == 0 then
      scanner.openBlock scanner.cursor.column scanner.tokens.size .sequenceStart
    else scanner
  let dropped ← opened.dropKey
  return { dropped with keyAllowed := true }.take 1 .entry

/-- The mark in front of a key that is no simple one. -/
def scanKey (scanner : Scanner) : Except Fault Scanner := do
  if scanner.flow == 0 && !scanner.keyAllowed then throw .malformed
  let opened := if scanner.flow == 0 then
      scanner.openBlock scanner.cursor.column scanner.tokens.size .mappingStart
    else scanner
  let dropped ← opened.dropKey
  return { dropped with keyAllowed := dropped.flow == 0 }.take 1 .key

/-- The mark in front of a value.  It makes what stands before it on its line a key. -/
def scanValue (scanner : Scanner) : Except Fault Scanner :=
  match scanner.key? with
  | some key =>
      let keyed := scanner.forgetKey.insertAt key.place .key
      let opened := if scanner.flow == 0 then keyed.openBlock key.column key.place .mappingStart
        else keyed
      .ok ({ opened with keyAllowed := false }.take 1 .value)
  | none => do
      if scanner.flow == 0 && !scanner.keyAllowed then throw .malformed
      let opened := if scanner.flow == 0 then
          scanner.openBlock scanner.cursor.column scanner.tokens.size .mappingStart
        else scanner
      let dropped ← { opened with keyAllowed := scanner.flow == 0 }.dropKey
      return dropped.take 1 .value

/-! ## Names and tags -/

/-- The characters of names. -/
def isNameChar (c : Char) : Bool :=
  isAsciiDigit c || ('a' ≤ c && c ≤ 'z') || ('A' ≤ c && c ≤ 'Z') || c == '-' || c == '_'

/-- A name behind its mark. -/
def scanName (cursor : Cursor) : Except Fault (String × Cursor) :=
  let name := cursor.next.takeWhile isNameChar
  let ends := name.2.endsWord 0 ||
    name.2.ahead 0 (['?', ':', ',', ']', '\x7d', '%', '@', '\x60'].contains ·) false
  if name.1.isEmpty || !ends then .error .malformed else .ok (String.ofList name.1, name.2)

/-- The characters of the texts of tags. -/
def isTagChar (c : Char) : Bool :=
  isNameChar c || [';', '/', '?', ':', '@', '&', '=', '+', '$', ',', '.', '!', '~', '*', '\'',
    '(', ')', '[', ']'].contains c

/-- Bytes that are written by percent signs and digits. -/
def scanTagBytes : Nat → Cursor → List Char → Except Fault (List Char × Cursor)
  | 0, cursor, digits => .ok (digits, cursor)
  | bound + 1, cursor, digits =>
      if cursor.isAt '%' then
        let pair := cursor.next.rest.take 2
        if pair.length == 2 && pair.all fun c => (hexDigit? c).isSome then
          scanTagBytes bound (cursor.skip 3) (digits ++ '%' :: pair)
        else .error .malformed
      else .ok (digits, cursor)

/-- The text of a tag, which is not empty. -/
def scanTagText : Nat → Cursor → List Char → Except Fault (String × Cursor)
  | 0, _, _ => .error .malformed
  | bound + 1, cursor, text =>
      if cursor.isAt '%' then do
        let (bytes, rest) ← scanTagBytes cursor.rest.length cursor []
        scanTagText bound rest (text ++ bytes)
      else
        let run := cursor.takeWhile isTagChar
        if !run.1.isEmpty then scanTagText bound run.2 (text ++ run.1)
        else if text.isEmpty then .error .malformed
        else .ok (String.ofList text, cursor)

/-- The handle of a family of tags: an exclamation mark, or a word between two. -/
def scanHandle (cursor : Cursor) : Except Fault (String × Cursor) :=
  let word := cursor.next.takeWhile isNameChar
  if cursor.ahead 1 (· == ' ') false then .ok ("!", cursor.next)
  else if word.2.isAt '!' then .ok (String.ofList ('!' :: word.1 ++ ['!']), word.2.next)
  else .error .malformed

/-- A tag. -/
def readTag (cursor : Cursor) : Except Fault (Token × Cursor) := do
  let (token, rest) ←
    if cursor.ahead 1 (· == '<') false then do
      let (text, rest) ← scanTagText (cursor.rest.length + 1) (cursor.skip 2) []
      if rest.isAt '>' then pure (Token.tag none text, rest.next) else throw .malformed
    else if cursor.endsWord 1 then pure (Token.tag none "!", cursor.next)
    else do
      let word := cursor.next.rest.takeWhile fun c => !(c == ' ' || isBreak c)
      let (handle, rest) ←
        if word.contains '!' then scanHandle cursor else pure ("!", cursor.next)
      let (suffix, rest) ← scanTagText (rest.rest.length + 1) rest []
      pure (Token.tag (some handle) suffix, rest)
  if rest.atSpaceOrLineEnd then return (token, rest) else throw .malformed

/-- A digit run of a version. -/
def scanVersionPart (cursor : Cursor) : Except Fault (Nat × Cursor) :=
  let digits := cursor.takeWhile isAsciiDigit
  if digits.1.isEmpty then .error .malformed
  else .ok (valueOfDigits 10 (digits.1.filterMap asciiDigit?), digits.2)

/-- A directive. -/
def readDirective (cursor : Cursor) : Except Fault (Token × Cursor) := do
  let name := cursor.next.takeWhile isNameChar
  if name.1.isEmpty || !name.2.atSpaceOrLineEnd then throw .malformed
  let (token, rest) ←
    if name.1 == ['Y', 'A', 'M', 'L'] then do
      let (major, rest) ← scanVersionPart (name.2.skipWhile (· == ' '))
      if !rest.isAt '.' then throw .malformed
      let (_, rest) ← scanVersionPart rest.next
      if !rest.atSpaceOrLineEnd then throw .malformed
      pure (Token.version major, rest)
    else if name.1 == ['T', 'A', 'G'] then do
      let (handle, rest) ← scanHandle (name.2.skipWhile (· == ' '))
      if !rest.isAt ' ' then throw .malformed
      let (stem, rest) ← scanTagText (rest.rest.length + 1) (rest.skipWhile (· == ' ')) []
      if !rest.atSpaceOrLineEnd then throw .malformed
      pure (Token.tagFamily handle stem, rest)
    else pure (Token.directive, name.2.skipWhile (!isBreak ·))
  return (token, ← scanLineRest rest)

/-! ## The whole text -/

/-- A scalar, an alias, an anchor or a tag: a key may begin with it, and none may follow. -/
def scanWord (scanner : Scanner) (token : Token) (cursor : Cursor) : Except Fault Scanner := do
  let saved ← scanner.saveKey
  return { saved.push token with keyAllowed := false, cursor }

/-- A plain scalar may begin here. -/
def atPlain (scanner : Scanner) : Bool :=
  let cursor := scanner.cursor
  match cursor.peek? 0 with
  | none => false
  | some c =>
      let marks := ['-', '?', ':', ',', '[', ']', '\x7b', '\x7d', '#', '&', '*', '!', '|', '>',
        '\'', '"', '%', '@', '\x60']
      (!cursor.endsWord 0 && !marks.contains c) ||
        (!cursor.endsWord 1 && (c == '-' || (scanner.flow == 0 && (c == '?' || c == ':'))))

/-- The indentation that the lines of a scalar must have. -/
def scalarIndent (scanner : Scanner) : Nat := (scanner.indent + 1).toNat

/-- Reads one token, where the text has not ended. -/
def scanToken (scanner : Scanner) (c : Char) : Except Fault Scanner :=
  let cursor := scanner.cursor
  let inBlock := scanner.flow == 0
  if c = '%' && cursor.column == 0 then do
    let dropped ← (scanner.unwindTo (-1)).dropKey
    let (token, rest) ← readDirective cursor
    return { dropped.push token with keyAllowed := false, cursor := rest }
  else if cursor.column == 0 && cursor.atMarks '-' then scanner.scanSeparator .documentStart
  else if cursor.column == 0 && cursor.atMarks '.' then scanner.scanSeparator .documentEnd
  else if c = '[' then scanner.scanFlowStart .flowSequenceStart
  else if c = '\x7b' then scanner.scanFlowStart .flowMappingStart
  else if c = ']' then scanner.scanFlowEnd .flowSequenceEnd
  else if c = '\x7d' then scanner.scanFlowEnd .flowMappingEnd
  else if c = ',' then scanner.scanComma
  else if c = '-' && cursor.endsWord 1 then scanner.scanEntry
  else if c = '?' && (!inBlock || cursor.endsWord 1) then scanner.scanKey
  else if c = ':' && (!inBlock || cursor.endsWord 1) then scanner.scanValue
  else if c = '*' then do
    let (name, rest) ← scanName cursor
    scanner.scanWord (.alias name) rest
  else if c = '&' then do
    let (name, rest) ← scanName cursor
    scanner.scanWord (.anchor name) rest
  else if c = '!' then do
    let (token, rest) ← readTag cursor
    scanner.scanWord token rest
  else if (c = '|' || c = '>') && inBlock then do
    let dropped ← scanner.dropKey
    let (text, rest) ← scanBlock (c == '>') (max 1 scanner.scalarIndent) cursor.next
    return { dropped.push (.scalar (String.ofList text) false false) with
      keyAllowed := true, cursor := rest }
  else if c = '\'' || c = '"' then do
    let (read, rest) ← scanQuoted c (cursor.rest.length + 1) cursor.next ⟨[], false⟩
    scanner.scanWord (.scalar (String.ofList read.text) false read.halved) rest
  else if scanner.atPlain then do
    let saved ← scanner.saveKey
    let plain := scanPlain (!inBlock) scanner.scalarIndent cursor
    return { saved.push (.scalar (String.ofList plain.text) true false) with
      keyAllowed := plain.broken, cursor := plain.cursor }
  else .error .malformed

/-- Reads tokens up to the end of the text.  Each token takes at least one character. -/
def scanAll : Nat → Scanner → Except Fault (List Token)
  | 0, _ => .error .malformed
  | bound + 1, scanner => do
      let fresh ← (skipToToken (scanner.cursor.rest.length + 1) scanner).dropStaleKeys
      let unwound := fresh.unwindTo fresh.cursor.column
      match unwound.cursor.peek? 0 with
      | none =>
          let closed ← (unwound.unwindTo (-1)).dropKey
          return closed.tokens.toList
      | some c => scanAll bound (← unwound.scanToken c)

end Scanner

/-- The tokens of a text.  A mark of the byte order in front of it is skipped. -/
def tokensOf (text : List Char) : Except Fault (List Token) :=
  let cursor : Cursor := { rest := text }
  let cursor := if cursor.ahead 0 (fun c => c.toNat == 0xFEFF) false then cursor.next else cursor
  if text.all isPrintable then Scanner.scanAll (text.length + 2) { cursor }
  else .error .malformed

end Typeahead.Yaml
