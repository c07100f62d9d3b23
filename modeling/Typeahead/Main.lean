import Std.Time.DateTime.Timestamp
import Typeahead.Command.Run
import Typeahead.Service.Life

/-!
# The program

The program reads its command line, its environment and the files that it is
pointed to, and runs a command in real time.  Its tasks sleep until they are
due.  Requests come in on standard input, one on a line, a method and a target;
notices go to the error output.
-/

namespace Typeahead.Command

open Typeahead.Catalog Typeahead.Config Typeahead.Files Typeahead.Schedule Typeahead.Service
open Typeahead.Store

set_option autoImplicit false

/-- The present moment. -/
def presentMoment : IO Rat := do
  let stamp ← Std.Time.Timestamp.now
  return mkRat stamp.toNanosecondsSinceUnixEpoch.val 1000000000

/-- The variables of the program that are set. -/
def setVariables : IO Variables := do
  let names := fileVariable ::
    Setting.all.map fun setting => (variableStem ++ setting.key).map Char.toUpper
  names.filterMapM fun name => do
    return (← IO.getEnv name).map fun value => (name, value)

/-- The absolute place of a path. -/
def placeOf (workplace : List String) (path : Path) : List String :=
  path.names.foldl (fun place name => if name = ".." then place.dropLast else place ++ [name])
    (if path.slashes = 0 then workplace else [])

/-- Adds what stands at a path to a tree. -/
def addPath (tree : Tree) (path : Path) : IO Tree := do
  let place := placeOf tree.workplace path
  try
    let found ← IO.FS.realPath path.text
    if ← found.isDir then return { tree with directories := place :: tree.directories }
    let bytes ← IO.FS.readBinFile found
    return { tree with files := (place, bytes.toList) :: tree.files }
  catch _ => return tree

/-- What the program finds around itself, its settings file among it. -/
def presentSurroundings : IO Surroundings := do
  let home := (← IO.getEnv "HOME").getD "/"
  let workplace := (Path.ofText (← IO.currentDir).toString).names
  let surroundings : Surroundings :=
    { environment := ← setVariables, homes := ⟨home, []⟩,
      files := { workplace, directories := [workplace] } }
  match surroundings.filePath with
  | .ok (some path) => return { surroundings with files := ← addPath surroundings.files path }
  | _ => return surroundings

/-- What commands can reach, the catalog of the settings among it. -/
def presentWorld (surroundings : Surroundings) (settings : Settings) : IO World := do
  let world : World := { files := surroundings.files, homes := surroundings.homes }
  match Location.ofText surroundings.homes settings.catalog with
  | .ok (.file path) => return { world with files := ← addPath world.files path }
  | _ => return world

/-- Prints the notices that are to be shown. -/
def printNotices (settings : Settings) (journal : List (Rat × Notice)) : IO Unit := do
  for (moment, notice) in journal do
    if settings.logLevel.shows notice.level then
      IO.eprintln (momentText moment ++ " - " ++ notice.text)

/-- Prints what a run leaves, and gives the exit code. -/
def printReport (report : Report) : IO UInt32 := do
  IO.print report.output
  IO.eprint report.errors
  match report.code with
  | .ok code => return UInt32.ofNat code
  | .error fault =>
      IO.eprintln fault.message
      return 1

/-- Sleeps until a moment has come. -/
def sleepUntil (moment : Rat) : IO Unit := do
  let left := moment - (← presentMoment)
  if 0 < left then IO.sleep (UInt32.ofNat ((left * 1000).ceil.toNat))

section Stores

variable {σ β : Type} [RankedStore σ β]

/-- The catalog as it lies there now, if the task at a place is about to read it. -/
def refreshFor (surroundings : Surroundings) (settings : Settings) (place : Nat)
    (supervisor : Supervisor σ β) : IO (Supervisor σ β) := do
  match (supervisor.task? place).map Task.point with
  | some (.opening _) =>
      return { supervisor with
        feeds := catalogFeeds settings (← presentWorld surroundings settings) }
  | _ => return supervisor

/-- Runs tasks in real time until they are finished. -/
partial def drive (surroundings : Surroundings) (settings : Settings)
    (finished : Supervisor σ β → Bool) (printed : Nat) (supervisor : Supervisor σ β) :
    IO (Supervisor σ β) := do
  printNotices settings (supervisor.desk.journal.drop printed)
  let printed := supervisor.desk.journal.length
  if finished supervisor then return supervisor
  match supervisor.first? with
  | none => return supervisor
  | some (place, wake) =>
      sleepUntil wake.time
      let ready ← refreshFor surroundings settings place supervisor
      drive surroundings settings finished printed
        ((ready.moveClock (← presentMoment)).stepTask place)

/-- Builds the index once. -/
def buildNow (surroundings : Surroundings) (settings : Settings) (world : World) (store : σ) :
    IO UInt32 := do
  let waiting := (indexer settings world store (← presentMoment)).addFirst .ready .polling
  let waited ← drive surroundings settings (fun tasks => (tasks.result? 0).isSome) 0 waiting
  let building := waited.addFirst .once (.opening none)
  let built ← drive surroundings settings (fun tasks => (tasks.result? 1).isSome)
    waited.desk.journal.length building
  match built.result? 1 with
  | none => return 0
  | some result =>
      match concluding (fun custody => some (outcomeOf result, custody)) { tasks := built } with
      | none => return 0
      | some (exit, left) =>
          printNotices settings (left.tasks.desk.journal.drop built.desk.journal.length)
          printReport (reportOfExit exit [])

/-- The longest run of steps between two requests. -/
def stepsBetweenRequests : Nat := 10000000

/-- Prints a response. -/
def printResponse (response : Response) : IO Unit := do
  IO.println (toString response.status)
  for (name, value) in response.headers do
    IO.println (name ++ ": " ++ value)
  IO.println ""
  IO.println response.body
  (← IO.getStdout).flush

/-- Answers requests until there are no more. -/
partial def answerRequests (input : IO.FS.Stream) (service : Service σ β) : IO Unit := do
  let line ← input.getLine
  let seen := service.supervisor.desk.journal.length
  let present := { service with
    supervisor := service.supervisor.runUntil (← presentMoment) stepsBetweenRequests }
  if line.isEmpty then
    let stopped := present.stop stepsBetweenRequests
    printNotices service.settings (stopped.supervisor.desk.journal.drop seen)
  else
    let words := line.trimAscii.toString.splitOn " "
    let request : Request :=
      { method := words.headD "", target := words.getD 1 "",
        host := service.settings.host ++ ":" ++ toString service.settings.port }
    let answered := present.respond request
    printNotices service.settings (answered.2.supervisor.desk.journal.drop seen)
    printResponse answered.1
    answerRequests input answered.2

/-- Runs a command. -/
def runNow (surroundings : Surroundings) (settings : Settings) (store : σ) (command : Command) :
    IO UInt32 := do
  let world ← presentWorld surroundings settings
  match command with
  | .build => buildNow surroundings settings world store
  | .index =>
      let tasks := (indexer settings world store (← presentMoment)).start
      let _ ← drive surroundings settings (fun _ => false) 0 tasks
      return 0
  | .serve =>
      let service := (Service.create settings world store true (← presentMoment)).start
      printNotices settings service.supervisor.desk.journal
      answerRequests (← IO.getStdin) service
      return 0

end Stores

/-- Runs an invocation. -/
def Invocation.runNow (invocation : Invocation) : IO UInt32 := do
  let surroundings ← presentSurroundings
  match load surroundings invocation.overrides with
  | .error fault => printReport (reportOfLoad fault)
  | .ok settings =>
      let usual : Context := { surroundings }
      match settings.storeChoice with
      | .error fault => printReport { code := .error (.address fault) }
      | .ok .memory => Command.runNow surroundings settings MemoryStore.empty invocation.command
      | .ok (.server _ _ _) => Command.runNow surroundings settings usual.server invocation.command

end Typeahead.Command

/-- The entry point. -/
def main (words : List String) : IO UInt32 := do
  match Typeahead.Command.Invocation.ofWords words with
  | .ok invocation => invocation.runNow
  | .error stop =>
      IO.print stop.output
      IO.eprint stop.errors
      return UInt32.ofNat stop.code
