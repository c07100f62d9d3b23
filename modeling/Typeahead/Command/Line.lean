import Typeahead.Command.Options

/-!
# The command line of the program

Options of the whole program stand before the name of a command, and options of
the command behind it.  All words are told apart as options of the whole program
first.
-/

namespace Typeahead

open Typeahead.Config

set_option autoImplicit false

/-- The commands. -/
inductive Command where
  /-- answers requests -/
  | serve
  /-- keeps the index built -/
  | index
  /-- builds the index once -/
  | build
  deriving DecidableEq, Repr, Inhabited

namespace Command

/-- The names of the commands. -/
def commandNames : List (String × Command) :=
  [("serve", .serve), ("index", .index), ("build", .build)]

/-- The option that every part of the command line has. -/
def helpFlag : Flag := ⟨["-h", "--help"], .help⟩

/-- The options of the whole program. -/
def programFlags : List Flag :=
  [helpFlag, ⟨["--catalog-url"], .give .catalog .text⟩,
    ⟨["--store-address"], .give .storeAddress .text⟩,
    ⟨["--store-backend"], .give .storeBackend (.choice (backendNames.map Prod.fst))⟩]

/-- The options of a command. -/
def flags : Command → List Flag
  | .serve =>
      [helpFlag, ⟨["--host"], .give .host .text⟩, ⟨["--port"], .give .port .integer⟩,
        ⟨["--no-indexer"], .fix .runIndexer (.truth false)⟩]
  | _ => [helpFlag]

/-! ## What can be written -/

/-- The name of the program. -/
def programName : String := "names-search"

/-- The program together with one of its commands. -/
def title (command : Command) : String :=
  programName ++ " " ++ nameOfChoice commandNames command

/-- Lines with an end on each. -/
def paragraph (lines : List String) : String :=
  String.join (lines.map (· ++ "\n"))

/-- How the program is called. -/
def programUsage : List String :=
  ["usage: names-search [-h] [--catalog-url CATALOG_URL]",
   "                    [--store-address STORE_ADDRESS]",
   "                    [--store-backend \x7bredis,memory\x7d]",
   "                    \x7bserve,index,build\x7d ..."]

/-- What is shown about the whole program. -/
def programHelp : List String :=
  programUsage ++
  ["",
   "Package names prefix search.",
   "",
   "positional arguments:",
   "  \x7bserve,index,build\x7d",
   "    serve               Run the HTTP query service.",
   "    index               Build the index now and then on every rebuild",
   "                        interval.",
   "    build               Build the index once and exit.",
   "",
   "options:",
   "  -h, --help            show this help message and exit",
   "  --catalog-url CATALOG_URL",
   "                        Catalog snapshot URL or local file path.",
   "  --store-address STORE_ADDRESS",
   "                        Redis connection URL.",
   "  --store-backend \x7bredis,memory\x7d"]

/-- How a command is called. -/
def usage : Command → List String
  | .serve => ["usage: names-search serve [-h] [--host HOST] [--port PORT] [--no-indexer]"]
  | command => ["usage: " ++ command.title ++ " [-h]"]

/-- What is shown about a command. -/
def help (command : Command) : List String :=
  command.usage ++ ["", "options:"] ++
    match command with
    | .serve =>
        ["  -h, --help    show this help message and exit",
         "  --host HOST",
         "  --port PORT",
         "  --no-indexer  Serve queries only; another process builds the index."]
    | _ => ["  -h, --help  show this help message and exit"]

/-! ## Reading the line -/

/-- Why nothing is run. -/
inductive Stop where
  /-- the help was asked for -/
  | help (lines : List String)
  /-- the line is refused by the program or by a command of it -/
  | refused (title : String) (usage : List String) (fault : LineFault)
  deriving DecidableEq, Repr, Inhabited

namespace Stop

/-- The exit code. -/
def code : Stop → Nat
  | .help _ => 0
  | .refused _ _ _ => 2

/-- What is printed. -/
def output : Stop → String
  | .help lines => paragraph lines
  | .refused _ _ _ => ""

/-- What is printed about errors. -/
def errors : Stop → String
  | .help _ => ""
  | .refused title usage fault => paragraph usage ++ title ++ ": error: " ++ fault.message ++ "\n"

end Stop

/-- A part of the command line: its title, its options, and what is shown about it. -/
structure Part where
  title : String
  flags : List Flag
  usage : List String
  help : List String

/-- The part of the whole program. -/
def programPart : Part := ⟨programName, programFlags, programUsage, programHelp⟩

/-- The part of a command. -/
def part (command : Command) : Part :=
  ⟨command.title, command.flags, command.usage, command.help⟩

/-- The part refuses the line. -/
def Part.refuse (part : Part) (fault : LineFault) : Stop :=
  .refused part.title part.usage fault

/-- Reads the words of a part. -/
def Part.read (part : Part) (wantsCommand : Bool) (words : List String) :
    Except Stop (Line × Option (String × List String)) :=
  match tokensOf part.flags words with
  | .error fault => .error (part.refuse fault)
  | .ok tokens =>
      match readTokens wantsCommand {} tokens with
      | .error .help => .error (.help part.help)
      | .error (.fault fault) => .error (part.refuse fault)
      | .ok read => .ok read

/-- A command with the settings that the line gives. -/
structure Invocation where
  command : Command
  overrides : List Assignment
  deriving DecidableEq, Repr, Inhabited

/-- Reads a command line. -/
def Invocation.ofWords (words : List String) : Except Stop Invocation := do
  match ← programPart.read true words with
  | (_, none) => throw (programPart.refuse .noCommand)
  | (line, some (name, rest)) =>
      match commandNames.find? fun entry => entry.1 == name with
      | none =>
          throw (programPart.refuse (.notAChoice "command" name (commandNames.map Prod.fst)))
      | some (_, command) =>
          let (inner, _) ← command.part.read false rest
          let extras := line.extras ++ inner.extras
          if extras.isEmpty then return { command, overrides := line.given ++ inner.given }
          else throw (programPart.refuse (.unrecognized extras))

end Command

end Typeahead
