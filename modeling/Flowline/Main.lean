import Flowline.Generation.ChatCompletion
import Flowline.Connector.ChatWebhook
import Flowline.Connector.Console
import Flowline.Handler.BuiltIn
import Flowline.Runner.CommandLine
import Flowline.Runner.Config
import Flowline.Store.Folder
import Std.Time.DateTime.Timestamp

/-!
# The command

The runner on a machine: files are read, the folder of records is kept under its
locks, and the clock goes on while handlers work.  There is no way to the web
from here, so requests over it stay unanswered.
-/

namespace Flowline.Runner.Machine

/-- The parts of the runner that the configuration decides. -/
structure Setup where
  storeDir : String
  handlers : HandlerRegistry

def Setup.ofConfig (config : Config) : Setup where
  storeDir := config.storeDir
  handlers :=
    .builtIn (.ofList [Connector.console, Connector.chatWebhook])
      (ChatCompletion.chain config.generation)

/-- The current time. -/
def now : IO Instant := do
  let nanoseconds := (← Std.Time.Timestamp.now).toNanosecondsSinceUnixEpoch.val
  return ⟨nanoseconds / 1000000000, (nanoseconds % 1000000000).toNat⟩

/-- A number that was not issued before. -/
def freshId : IO Ulid := do
  let time := (← now).position / 1000000
  let random := (← IO.getRandomBytes 10).toList.foldl (fun value byte => 256 * value + byte.toNat) 0
  return .ofParts (BitVec.ofInt 48 time) (BitVec.ofNat 80 random)

/-- Wait for some milliseconds. -/
def pause (milliseconds : Nat) : IO Unit := do
  let stretch := UInt32.size / 2
  for _ in [0:milliseconds / stretch] do
    IO.sleep (.ofNat stretch)
  IO.sleep (.ofNat (milliseconds % stretch))

/-- What services answer without a way to the web. -/
def serve : Program.TimedAnswers services Unit
  | .sleep milliseconds, _ => ((), milliseconds, ())
  | .exchange exchange, _ =>
      (.error (if exchange.timeout = some 0 then .timedOut else .unreachable), 0, ())
  | .operate connector _, _ => (.error (.notFound connector), 0, ())
  | .generate _ _, _ => (.error .notConfigured, 0, ())

/-- Attempt a node and let the time pass that it takes. -/
def attempt (setup : Setup) (attempt : Engine.Attempt) :
    IO (Option (Except NodeError Json)) := do
  let task := setup.handlers.attempt attempt.node attempt.context
  let (result, spent, _) := task.runWithin (some attempt.limit) serve 0 ()
  pause spent
  return result

/-- What a name in the folder of records stands for. -/
def entry? (setup : Setup) (name : String) : IO (Option Store.Folder.Entry) := do
  let path := (← IO.currentDir) / setup.storeDir / name
  if ← path.isDir then return some .folder
  if ← path.pathExists then return some (.file (← IO.FS.readFile path))
  return none

/-- The part of the folder that belongs to a record. -/
def entriesOf (setup : Setup) (id : ExecutionId) : IO Store.Folder := do
  let name := Store.Folder.documentName id
  return match ← entry? setup name with
    | some entry => [(name, entry)]
    | none => []

/-- Put the document of a record into its place at once. -/
def putDocument (setup : Setup) (id : ExecutionId) (text : String) : IO Unit := do
  let folder := (← IO.currentDir) / setup.storeDir
  let staged := folder / s!".{id.display}.{(← freshId).text}"
  IO.FS.writeFile staged text
  IO.FS.rename staged (folder / Store.Folder.documentName id)

/-- Change the folder under the lock of a record. -/
def update {α : Type} (setup : Setup) (id : ExecutionId)
    (act : Store.Folder → Except StoreError α × Store.Folder) : IO (Except StoreError α) := do
  let folder := (← IO.currentDir) / setup.storeDir
  IO.FS.createDirAll folder
  let lock ← IO.FS.Handle.mk (folder / Store.Folder.lockName id) .append
  lock.lock
  let before ← entriesOf setup id
  let (reply, after) := act before
  let name := Store.Folder.documentName id
  match Keyed.get? name after with
  | some (.file text) =>
      if Keyed.get? name before ≠ some (.file text) then putDocument setup id text
  | _ => pure ()
  lock.unlock
  return reply

/-- Failures of the machine as errors of the store. -/
def guarded {α : Type} (action : IO (Except StoreError α)) : IO (Except StoreError α) := do
  try action
  catch error => return .error (.storage (toString error))

/-- The answers to the engine. -/
def answerEngine (setup : Setup) : (request : Engine.Request) → IO (Engine.Reply request)
  | .now => now
  | .sleep milliseconds => pause milliseconds
  | .create record => guarded (update setup record.id (Store.Folder.create record))
  | .load id => guarded do return Store.Folder.load id (← entriesOf setup id)
  | .save record expected =>
      guarded (update setup record.id (Store.Folder.save record expected))
  | .attempt asked => attempt setup asked

/-- The answers to the runner. -/
def answer (setup : Setup) : (request : Request) → IO (Reply request)
  | .engine request => answerEngine setup request
  | .read path => do
      try return .ok (← IO.FS.readFile path)
      catch error => return .error (toString error)
  | .freshId => freshId

/-- The variables of the environment. -/
def environment : IO (List (String × String)) := do
  try
    let bytes ← IO.FS.readBinFile "/proc/self/environ"
    match String.fromUTF8? bytes with
    | none => return []
    | some text =>
        return (Text.split '\x00' text).filterMap fun entry =>
          match Text.split '=' entry with
          | name :: first :: rest => some (name, "=".intercalate (first :: rest))
          | _ => none
  catch _ => return []

/-- Read the configuration, if it can be read. -/
def config? (named : Option String) : IO (Option Config) := do
  let named ← match named with
    | some name => pure (some name)
    | none => IO.getEnv "SWITCHYARD_CONFIG"
  let text ← try
      pure (some (← IO.FS.readFile (named.getD Config.defaultFile)))
    catch _ => pure none
  return Config.load? named text (← environment)

end Flowline.Runner.Machine

/-- Carry out the command of a command line. -/
def main (args : List String) : IO UInt32 := do
  let some invocation := Flowline.Runner.Invocation.ofWords? args
    | IO.eprintln Flowline.Runner.CommandLine.usage
      return 2
  let some config ← Flowline.Runner.Machine.config? invocation.config
    | IO.eprintln "error: failed to load configuration"
      return 1
  let answer := Flowline.Runner.Machine.answer (.ofConfig config)
  match ← (invocation.command.action config.engine).runM answer with
  | .error error =>
      IO.eprintln ("error: " ++ ": ".intercalate error.chain)
      return 1
  | .ok answer =>
      IO.println answer.shown.indented
      return if answer.isSuccess then 0 else 1
