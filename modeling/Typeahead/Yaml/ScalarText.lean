import Typeahead.Text.Digit
import Typeahead.Yaml.Cursor

/-!
# The texts of scalars

A scalar is plain, stands between single or double quotes, or is a block of
lines.  Line breaks inside a plain or a quoted scalar are folded: one break
becomes a space, and of several breaks the first one goes away.
-/

namespace Typeahead.Yaml

open Typeahead.Text

set_option autoImplicit false

/-- What a break and the breaks behind it are folded to. -/
def foldBreaks (first : List Char) (others : List Char) : List Char :=
  if first != ['\n'] then first ++ others
  else if others.isEmpty then [' ']
  else others

/-! ## Plain scalars -/

/-- A character ends a plain scalar, given whether the character behind it ends a word. -/
def endsPlain (inFlow : Bool) (cursor : Cursor) (places : Nat) : Bool :=
  let flowMark (c : Char) : Bool := inFlow && [',', '[', ']', '\x7b', '\x7d'].contains c
  match cursor.peek? places with
  | none => true
  | some c =>
      cursor.endsWord places ||
        (c == ':' && (cursor.endsWord (places + 1) || cursor.ahead (places + 1) flowMark false)) ||
        (inFlow && (c == '?' || flowMark c))

/-- How many characters of a plain scalar stand in a row. -/
def plainRun (inFlow : Bool) (cursor : Cursor) : Nat → Nat → Nat
  | 0, length => length
  | bound + 1, length =>
      if endsPlain inFlow cursor length then length
      else plainRun inFlow cursor bound (length + 1)

/-- The breaks and spaces behind the first break in a plain scalar: what is kept of them, unless a
separator of documents comes. -/
def plainBreaks : Nat → Cursor → List Char → Option (List Char) × Cursor
  | 0, cursor, kept => (some kept, cursor)
  | bound + 1, cursor, kept =>
      if cursor.isAt ' ' then plainBreaks bound cursor.next kept
      else if cursor.ahead 0 isBreak false then
        let taken := cursor.takeBreak
        if taken.2.atSeparator then (none, taken.2)
        else plainBreaks bound taken.2 (kept ++ taken.1)
      else (some kept, cursor)

/-- The gap between two runs of a plain scalar: what it is read as, whether a line was broken, and
nothing if the scalar ends there. -/
def plainGap (cursor : Cursor) : Option (List Char) × Bool × Cursor :=
  let spaces := cursor.takeWhile (· == ' ')
  if spaces.2.ahead 0 isBreak false then
    let first := spaces.2.takeBreak
    if first.2.atSeparator then (none, true, first.2)
    else
      let others := plainBreaks first.2.rest.length first.2 []
      (others.1.map (foldBreaks first.1), true, others.2)
  else (if spaces.1.isEmpty then none else some spaces.1, false, spaces.2)

/-- A plain scalar. -/
structure PlainText where
  text : List Char
  /-- the scalar ended behind a line break -/
  broken : Bool
  cursor : Cursor

/-- Reads a plain scalar from a gap on. -/
def scanPlainFrom (inFlow : Bool) (indent : Nat) : Nat → PlainText → List Char → PlainText
  | 0, plain, _ => plain
  | bound + 1, plain, gap =>
      let cursor := plain.cursor
      let length := plainRun inFlow cursor cursor.rest.length 0
      if cursor.isAt '#' || length == 0 then plain
      else
        let text := plain.text ++ gap ++ cursor.rest.take length
        let between := plainGap (cursor.skip length)
        let read : PlainText := ⟨text, between.2.1, between.2.2⟩
        match between.1 with
        | none => read
        | some gap =>
            if read.cursor.isAt '#' || (!inFlow && read.cursor.column < indent) then read
            else scanPlainFrom inFlow indent bound read gap

/-- Reads a plain scalar whose lines are indented at least so far. -/
def scanPlain (inFlow : Bool) (indent : Nat) (cursor : Cursor) : PlainText :=
  scanPlainFrom inFlow indent (cursor.rest.length + 1) ⟨[], false, cursor⟩ []

/-! ## Quoted scalars -/

/-- What has been read of a quoted scalar. -/
structure QuotedText where
  text : List Char
  /-- an escape has brought half of a pair of surrogates, in whose place the text has another
  character -/
  halved : Bool := false

/-- A scalar with more behind it. -/
def QuotedText.append (before after : QuotedText) : QuotedText :=
  ⟨before.text ++ after.text, before.halved || after.halved⟩

/-- The character of a short escape between double quotes. -/
def shortEscape? (c : Char) : Option Char :=
  ([('0', 0), ('a', 7), ('b', 8), ('t', 9), ('\t', 9), ('n', 10), ('v', 11), ('f', 12), ('r', 13),
    ('e', 27), (' ', 32), ('"', 34), ('\\', 92), ('/', 47), ('N', 0x85), ('_', 0xA0),
    ('L', 0x2028), ('P', 0x2029)].find? fun entry => entry.1 == c).map fun entry =>
      Char.ofNat entry.2

/-- How many digits an escape by number has. -/
def escapeWidth? (c : Char) : Option Nat :=
  if c = 'x' then some 2 else if c = 'u' then some 4 else if c = 'U' then some 8 else none

/-- The breaks behind the first break in a quoted scalar. -/
def quotedBreaks : Nat → Cursor → List Char → Except Fault (List Char × Cursor)
  | 0, cursor, kept => .ok (kept, cursor)
  | bound + 1, cursor, kept =>
      if cursor.atSeparator then .error .malformed
      else
        let cursor := cursor.skipWhile fun c => c == ' ' || c == '\t'
        if cursor.ahead 0 isBreak false then
          let taken := cursor.takeBreak
          quotedBreaks bound taken.2 (kept ++ taken.1)
        else .ok (kept, cursor)

/-- The character of a code; half of a pair of surrogates is kept in mind only. -/
def characterOfCode (code : Nat) : Except Fault QuotedText :=
  if code.isValidChar then .ok ⟨[Char.ofNat code], false⟩
  else if code < 0xE000 then .ok ⟨['\uFFFD'], true⟩
  else .error .unusable

/-- An escape between double quotes, behind its backslash. -/
def scanEscape (cursor : Cursor) : Except Fault (QuotedText × Cursor) :=
  match cursor.peek? 0 with
  | none => .error .malformed
  | some c =>
      match shortEscape? c, escapeWidth? c with
      | some escaped, _ => .ok (⟨[escaped], false⟩, cursor.next)
      | none, some width =>
          let digits := cursor.next.rest.take width
          match digits.mapM hexDigit? with
          | some values =>
              if digits.length < width then .error .malformed
              else
                (characterOfCode (valueOfDigits 16 values)).map (·, cursor.skip (width + 1))
          | none => .error .malformed
      | none, none =>
          if isBreak c then
            let cursor := cursor.takeBreak.2
            (quotedBreaks (cursor.rest.length + 1) cursor []).map fun kept =>
              (⟨kept.1, false⟩, kept.2)
          else .error .malformed

/-- Blanks in a quoted scalar: they are kept inside a line and folded at its end. -/
def quotedGap (cursor : Cursor) : Except Fault (List Char × Cursor) := do
  let blanks := cursor.takeWhile fun c => c == ' ' || c == '\t'
  if blanks.2.ahead 0 isBreak false then
    let first := blanks.2.takeBreak
    let (others, rest) ← quotedBreaks (first.2.rest.length + 1) first.2 []
    return (foldBreaks first.1 others, rest)
  else return blanks

/-- Reads a quoted scalar behind its opening quote. -/
def scanQuoted (quote : Char) : Nat → Cursor → QuotedText → Except Fault (QuotedText × Cursor)
  | 0, _, _ => .error .malformed
  | bound + 1, cursor, read =>
      match cursor.peek? 0 with
      | none => .error .malformed
      | some c =>
          if c = quote then
            if quote = '\'' && cursor.ahead 1 (· == '\'') false then
              scanQuoted quote bound (cursor.skip 2) (read.append ⟨['\''], false⟩)
            else .ok (read, cursor.next)
          else if c = '\\' && quote == '"' then do
            let (escaped, rest) ← scanEscape cursor.next
            scanQuoted quote bound rest (read.append escaped)
          else if c = ' ' || c = '\t' || isBreak c then do
            let (gap, rest) ← quotedGap cursor
            scanQuoted quote bound rest (read.append ⟨gap, false⟩)
          else scanQuoted quote bound cursor.next (read.append ⟨[c], false⟩)

/-! ## Blocks of lines -/

/-- What the header of a block can ask for. -/
structure BlockHeader where
  /-- keep all breaks at the end, or none of them -/
  chomp : Option Bool := none
  /-- the indentation, counted from that of the surrounding block -/
  increment : Option Nat := none

/-- Reads the mark that keeps or drops the breaks at the end. -/
def scanChomp (cursor : Cursor) : Option Bool × Cursor :=
  if cursor.isAt '+' then (some true, cursor.next)
  else if cursor.isAt '-' then (some false, cursor.next)
  else (none, cursor)

/-- Reads the digit of the indentation, which is not zero. -/
def scanIncrement (cursor : Cursor) : Except Fault (Option Nat × Cursor) :=
  match (cursor.peek? 0).bind asciiDigit? with
  | some 0 => .error .malformed
  | some digit => .ok (some digit, cursor.next)
  | none => .ok (none, cursor)

/-- Reads to the end of a line that holds only blanks and a comment. -/
def scanLineRest (cursor : Cursor) : Except Fault Cursor :=
  let cursor := cursor.skipWhile (· == ' ')
  let cursor := if cursor.isAt '#' then cursor.skipWhile (!isBreak ·) else cursor
  if cursor.atLineEnd then .ok cursor.takeBreak.2 else .error .malformed

/-- Reads the header of a block: the two marks in either order, and the rest of the line. -/
def scanBlockHeader (cursor : Cursor) : Except Fault (BlockHeader × Cursor) := do
  let (chomp, cursor) := scanChomp cursor
  let (increment, cursor) ← scanIncrement cursor
  let (chomp, cursor) := if chomp.isNone && increment.isSome then scanChomp cursor
    else (chomp, cursor)
  if !cursor.atSpaceOrLineEnd then throw .malformed
  return (⟨chomp, increment⟩, ← scanLineRest cursor)

/-- Blank lines in front of a block: their breaks, and the widest indentation among them and the
first line with text. -/
def blockStart : Nat → Cursor → List Char → Nat → List Char × Nat × Cursor
  | 0, cursor, breaks, widest => (breaks, widest, cursor)
  | bound + 1, cursor, breaks, widest =>
      if cursor.isAt ' ' then
        blockStart bound cursor.next breaks (max widest cursor.next.column)
      else if cursor.ahead 0 isBreak false then
        let taken := cursor.takeBreak
        blockStart bound taken.2 (breaks ++ taken.1) widest
      else (breaks, widest, cursor)

/-- Moves over spaces up to a column. -/
def skipIndent (indent : Nat) : Nat → Cursor → Cursor
  | 0, cursor => cursor
  | bound + 1, cursor =>
      if cursor.column < indent && cursor.isAt ' ' then skipIndent indent bound cursor.next
      else cursor

/-- Blank lines inside a block: their breaks. -/
def blockBreaks (indent : Nat) : Nat → Cursor → List Char → List Char × Cursor
  | 0, cursor, breaks => (breaks, cursor)
  | bound + 1, cursor, breaks =>
      let cursor := skipIndent indent indent cursor
      if cursor.ahead 0 isBreak false then
        let taken := cursor.takeBreak
        blockBreaks indent bound taken.2 (breaks ++ taken.1)
      else (breaks, cursor)

/-- The lines of a block from a line with text on, up to the last line's own break: the text, that
break, the breaks behind it and the place. -/
def blockLines (folded : Bool) (indent : Nat) :
    Nat → Cursor → List Char → List Char × List Char × List Char × Cursor
  | 0, cursor, text => (text, [], [], cursor)
  | bound + 1, cursor, text =>
      let isBlank (cursor : Cursor) : Bool := cursor.ahead 0 (fun c => c == ' ' || c == '\t') false
      let line := cursor.takeWhile (!isBreak ·)
      let own := line.2.takeBreak
      let breaks := blockBreaks indent (own.2.rest.length + 1) own.2 []
      let text' := text ++ line.1
      if breaks.2.column == indent && (breaks.2.peek? 0).isSome then
        let joint :=
          if folded && own.1 == ['\n'] && !isBlank cursor && !isBlank breaks.2 then
            (if breaks.1.isEmpty then [' '] else [])
          else own.1
        blockLines folded indent bound breaks.2 (text' ++ joint ++ breaks.1)
      else (text', own.1, breaks.1, breaks.2)

/-- Reads a block behind its mark; `minimum` is the least indentation of its lines. -/
def scanBlock (folded : Bool) (minimum : Nat) (cursor : Cursor) :
    Except Fault (List Char × Cursor) := do
  let (header, cursor) ← scanBlockHeader cursor
  let bound := cursor.rest.length + 1
  let (breaks, indent, cursor) := match header.increment with
    | none =>
        let start := blockStart bound cursor [] 0
        (start.1, max minimum start.2.1, start.2.2)
    | some increment =>
        let indent := minimum + increment - 1
        let start := blockBreaks indent bound cursor []
        (start.1, indent, start.2)
  let (text, own, others, cursor) :=
    if cursor.column == indent && (cursor.peek? 0).isSome then
      blockLines folded indent bound cursor breaks
    else ([], [], breaks, cursor)
  let tail := match header.chomp with
    | some false => []
    | some true => own ++ others
    | none => own
  return (text ++ tail, cursor)

end Typeahead.Yaml
