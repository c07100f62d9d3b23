import Typeahead.Config.Settings
import Typeahead.Decimal.Literal
import Typeahead.Text.Lines

/-!
# Options on a command line

A word that begins with a hyphen is an option, unless it reads as a negative
number or holds a space.  A long option can be shortened as far as it stays the
only one with its beginning, and its argument follows it as the next word or
behind an equals sign.  Behind two hyphens alone no word is an option.  All words
are told apart before any of them is used.
-/

namespace Typeahead.Command

open Typeahead.Config Typeahead.Decimal Typeahead.Text

set_option autoImplicit false

/-- What an option takes as its argument. -/
inductive Kind where
  | text
  | integer
  | choice (choices : List String)
  deriving DecidableEq, Repr, Inhabited

/-- What an option is there for. -/
inductive Effect where
  /-- shows what can be written -/
  | help
  /-- gives a setting its argument -/
  | give (setting : Setting) (kind : Kind)
  /-- gives a setting a fixed value -/
  | fix (setting : Setting) (value : Raw)
  deriving DecidableEq, Repr, Inhabited

/-- An option. -/
structure Flag where
  names : List String
  effect : Effect
  deriving DecidableEq, Repr, Inhabited

/-- An option as messages name it. -/
def Flag.title (flag : Flag) : String :=
  "/".intercalate flag.names

/-- Why a command line is refused. -/
inductive LineFault where
  | ambiguous (word : String) (names : List String)
  | expectedOne (title : String)
  | ignored (title argument : String)
  | notAChoice (title value : String) (choices : List String)
  | notAnInteger (title value : String)
  | noCommand
  | unrecognized (words : List String)
  deriving DecidableEq, Repr, Inhabited

/-- What is said about a command line that is refused. -/
def LineFault.message : LineFault → String
  | .ambiguous word names =>
      "ambiguous option: " ++ word ++ " could match " ++ ", ".intercalate names
  | .expectedOne title => "argument " ++ title ++ ": expected one argument"
  | .ignored title argument =>
      "argument " ++ title ++ ": ignored explicit argument " ++ quoted argument
  | .notAChoice title value choices =>
      "argument " ++ title ++ ": invalid choice: " ++ quoted value ++ " (choose from " ++
        ", ".intercalate (choices.map quoted) ++ ")"
  | .notAnInteger title value =>
      "argument " ++ title ++ ": invalid int value: " ++ quoted value
  | .noCommand => "the following arguments are required: command"
  | .unrecognized words => "unrecognized arguments: " ++ " ".intercalate words

/-! ## Telling words apart -/

/-- An option that a word names, with the argument that is part of the word. -/
structure Named where
  /-- the option, unless there is none of this name -/
  flag : Option Flag
  name : String
  argument : Option String := none
  deriving DecidableEq, Repr, Inhabited

/-- What a word is. -/
inductive Mark where
  | plain
  /-- two hyphens alone -/
  | dashes
  | named (named : Named)
  deriving DecidableEq, Repr, Inhabited

/-- A word with what it is. -/
abbrev Token : Type := String × Mark

/-- The option of a name. -/
def flagOf? (flags : List Flag) (name : String) : Option Flag :=
  flags.find? fun flag => flag.names.contains name

/-- A word before its first equals sign, and the text behind it. -/
def splitEquals (word : List Char) : String × Option String :=
  match word.dropWhile (· != '=') with
  | [] => (String.ofList word, none)
  | _ :: argument => (String.ofList (word.takeWhile (· != '=')), some (String.ofList argument))

/-- All names with their options. -/
def allNames (flags : List Flag) : List (String × Flag) :=
  flags.flatMap fun flag => flag.names.map fun name => (name, flag)

/-- The options that a word can mean which is not the name of one. -/
def candidates (flags : List Flag) (word : List Char) : List Named :=
  if word.take 2 = ['-', '-'] then
    let parts := splitEquals word
    ((allNames flags).filter fun entry => parts.1.toList.isPrefixOf entry.1.toList).map
      fun entry => ⟨some entry.2, entry.1, parts.2⟩
  else
    (allNames flags).filterMap fun entry =>
      if entry.1 = String.ofList (word.take 2) then
        some ⟨some entry.2, entry.1, some (String.ofList (word.drop 2))⟩
      else if word.isPrefixOf entry.1.toList then some ⟨some entry.2, entry.1, none⟩
      else none

/-- A hyphen with a number behind it that has no exponent. -/
def isNegativeNumber (word : List Char) : Bool :=
  let isDigit (c : Char) : Bool := (decimalValue? c).isSome
  let number := dropLastFeed (word.drop 1)
  match number.dropWhile isDigit with
  | [] => !number.isEmpty
  | '.' :: fraction => !fraction.isEmpty && fraction.all isDigit
  | _ => false

/-- What a word is that is not two hyphens alone. -/
def markOf (flags : List Flag) (word : String) : Except LineFault Mark :=
  let characters := word.toList
  if characters.head? != some '-' then .ok .plain
  else
    match flagOf? flags word with
    | some flag => .ok (.named ⟨some flag, word, none⟩)
    | none =>
        if characters.length = 1 then .ok .plain
        else
          let parts := splitEquals characters
          match parts.2, flagOf? flags parts.1 with
          | some argument, some flag => .ok (.named ⟨some flag, parts.1, some argument⟩)
          | _, _ =>
              match candidates flags characters with
              | [candidate] => .ok (.named candidate)
              | [] =>
                  if isNegativeNumber characters || characters.contains ' ' then .ok .plain
                  else .ok (.named ⟨none, word, none⟩)
              | several => .error (.ambiguous word (several.map Named.name))

/-- Tells all words apart. -/
def tokensOf (flags : List Flag) : List String → Except LineFault (List Token)
  | [] => .ok []
  | word :: words =>
      if word = "--" then .ok ((word, .dashes) :: words.map fun word => (word, .plain))
      else do
        let mark ← markOf flags word
        return (word, mark) :: (← tokensOf flags words)

/-! ## Using words -/

/-- The argument of an option as a value. -/
def Kind.read (kind : Kind) (title value : String) : Except LineFault Raw :=
  match kind with
  | .text => .ok (.text value)
  | .integer =>
      match integerOfText? value with
      | some number => .ok (.integer number)
      | none => .error (.notAnInteger title value)
  | .choice choices =>
      if choices.contains value then .ok (.text value)
      else .error (.notAChoice title value choices)

/-- What has been read of a command line. -/
structure Line where
  given : List Assignment := []
  /-- the words that nothing wants -/
  extras : List String := []
  deriving DecidableEq, Repr, Inhabited

/-- Notes an assignment. -/
def Line.give (line : Line) (setting : Setting) (value : Raw) : Line :=
  { line with given := line.given ++ [(setting.key, value)] }

/-- Notes words that nothing wants. -/
def Line.leave (line : Line) (words : List String) : Line :=
  { line with extras := line.extras ++ words }

/-- Why reading ends before the end of the line. -/
inductive Halt where
  | help
  | fault (fault : LineFault)
  deriving DecidableEq, Repr, Inhabited

/-- The argument that is too much in what follows the short name of the option that shows the
help.  More such names may follow it, and what names no option there is passed over. -/
def surplus? : List Char → Option (List Char)
  | [] => none
  | '=' :: argument => some argument
  | '-' :: rest => some ('-' :: rest)
  | 'h' :: rest => surplus? rest
  | _ => none

/-- What the option that shows the help does in a word that holds more than its name. -/
def helpWith (flag : Flag) (name word argument : String) : Halt :=
  if name.length = 2 then
    match surplus? (word.toList.drop 2) with
    | some argument => .fault (.ignored flag.title (String.ofList argument))
    | none => .help
  else .fault (.ignored flag.title argument)

/-- Reads words in order.  If a command is wanted, the first plain word names it and takes all words
behind it. -/
def readTokens (wantsCommand : Bool) :
    Line → List Token → Except Halt (Line × Option (String × List String))
  | line, [] => .ok (line, none)
  | line, (word, .plain) :: rest =>
      if wantsCommand then .ok (line, some (word, rest.map Prod.fst))
      else readTokens wantsCommand (line.leave [word]) rest
  | line, (word, .dashes) :: rest =>
      if wantsCommand && !rest.isEmpty then .ok (line, some (word, rest.map Prod.fst))
      else .ok (line.leave (word :: rest.map Prod.fst), none)
  | line, (word, .named named) :: rest =>
      match named.flag with
      | none => readTokens wantsCommand (line.leave [word]) rest
      | some flag =>
          match flag.effect, named.argument with
          | .help, none => .error .help
          | .help, some argument => .error (helpWith flag named.name word argument)
          | .fix setting value, none => readTokens wantsCommand (line.give setting value) rest
          | .fix _ _, some argument => .error (.fault (.ignored flag.title argument))
          | .give setting kind, some argument =>
              match kind.read flag.title argument with
              | .ok value => readTokens wantsCommand (line.give setting value) rest
              | .error fault => .error (.fault fault)
          | .give setting kind, none =>
              match rest with
              | (argument, .plain) :: rest =>
                  match kind.read flag.title argument with
                  | .ok value => readTokens wantsCommand (line.give setting value) rest
                  | .error fault => .error (.fault fault)
              | _ => .error (.fault (.expectedOne flag.title))

end Typeahead.Command
