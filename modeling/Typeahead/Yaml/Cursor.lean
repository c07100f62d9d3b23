/-!
# A place in a YAML text

A cursor holds the rest of a text and where this rest begins: how many
characters lie before it, and in which line and column it stands.  A carriage
return with a line feed behind it is one line break.
-/

namespace Typeahead.Yaml

set_option autoImplicit false

/-- Why a YAML text brings no value. -/
inductive Fault where
  /-- the text breaks the rules of the language -/
  | malformed
  /-- a scalar claims a type that its text does not have -/
  | unusable
  deriving DecidableEq, Repr, Inhabited

/-- The characters that a text may hold. -/
def isPrintable (c : Char) : Bool :=
  let code := c.toNat
  code == 0x09 || code == 0x0A || code == 0x0D || (0x20 ≤ code && code ≤ 0x7E) || code == 0x85 ||
    (0xA0 ≤ code && code ≤ 0xD7FF) || (0xE000 ≤ code && code ≤ 0xFFFD) || 0x10000 ≤ code

/-- The characters that break a line. -/
def isBreak (c : Char) : Bool :=
  c == '\n' || c == '\r' || c.toNat == 0x85 || c.toNat == 0x2028 || c.toNat == 0x2029

/-- A place in a text. -/
structure Cursor where
  rest : List Char
  index : Nat := 0
  line : Nat := 0
  column : Nat := 0
  deriving DecidableEq, Repr, Inhabited

namespace Cursor

/-- The character some places ahead, if the text reaches that far. -/
def peek? (cursor : Cursor) (ahead : Nat) : Option Char :=
  cursor.rest[ahead]?

/-- The character some places ahead is of a class; the end of the text counts as `atEnd`. -/
def ahead (cursor : Cursor) (places : Nat) (inClass : Char → Bool) (atEnd : Bool) : Bool :=
  match cursor.peek? places with
  | some c => inClass c
  | none => atEnd

/-- The next character is the given one. -/
def isAt (cursor : Cursor) (c : Char) : Bool :=
  cursor.ahead 0 (· == c) false

/-- What stands ahead ends a word: a blank, a line break or the end of the text. -/
def endsWord (cursor : Cursor) (places : Nat) : Bool :=
  cursor.ahead places (fun c => c == ' ' || c == '\t' || isBreak c) true

/-- A line break or the end of the text is next. -/
def atLineEnd (cursor : Cursor) : Bool :=
  cursor.ahead 0 isBreak true

/-- A space, a line break or the end of the text is next. -/
def atSpaceOrLineEnd (cursor : Cursor) : Bool :=
  cursor.ahead 0 (fun c => c == ' ' || isBreak c) true

/-- Moves over one character. -/
def next (cursor : Cursor) : Cursor :=
  match cursor.rest with
  | [] => cursor
  | c :: rest =>
      let breaks := isBreak c && !(c == '\r' && rest.head? == some '\n')
      { rest, index := cursor.index + 1,
        line := if breaks then cursor.line + 1 else cursor.line,
        column := if breaks then 0
          else if c.toNat == 0xFEFF || c == '\r' then cursor.column else cursor.column + 1 }

/-- Moves over some characters. -/
def skip (cursor : Cursor) : Nat → Cursor
  | 0 => cursor
  | count + 1 => cursor.next.skip count

/-- Takes the characters of a class. -/
def takeWhile (cursor : Cursor) (inClass : Char → Bool) : List Char × Cursor :=
  let taken := cursor.rest.takeWhile inClass
  (taken, cursor.skip taken.length)

/-- Moves over the characters of a class. -/
def skipWhile (cursor : Cursor) (inClass : Char → Bool) : Cursor :=
  (cursor.takeWhile inClass).2

/-- Takes a line break, if one is next.  All ordinary breaks are read as a line feed. -/
def takeBreak (cursor : Cursor) : List Char × Cursor :=
  match cursor.rest with
  | '\r' :: '\n' :: _ => (['\n'], cursor.skip 2)
  | c :: _ =>
      if c.toNat == 0x2028 || c.toNat == 0x2029 then ([c], cursor.next)
      else if isBreak c then (['\n'], cursor.next)
      else ([], cursor)
  | [] => ([], cursor)

/-- Three equal marks that separate documents are next. -/
def atMarks (cursor : Cursor) (mark : Char) : Bool :=
  cursor.rest.take 3 == [mark, mark, mark] && cursor.endsWord 3

/-- The marks that begin or end a document are next. -/
def atSeparator (cursor : Cursor) : Bool :=
  cursor.atMarks '-' || cursor.atMarks '.'

end Cursor

end Typeahead.Yaml
