import Flowline.Engine.Settings
import Flowline.Generation.Request
import Flowline.Settings.Environment
import Flowline.Settings.Toml

/-!
# Configuration of the runner

The configuration is read from a file in TOML, and variables of the environment
come over it.  The file in the working directory need not be there; one that was
named must.
-/

namespace Flowline

open Setting

namespace Engine

def Settings.ofSetting? (setting : Setting) : Option Settings := do
  let fields ← setting.fields?
    ["default_timeout_ms", "default_retry_delay_ms", "max_depth", "check_cancellation"]
  some
    { defaultTimeout := ← defaulted fields "default_timeout_ms" count? 30000
      defaultRetryDelay := ← defaulted fields "default_retry_delay_ms" count? 1000
      maxDepth := ← defaulted fields "max_depth" count? 256
      checkCancellation := ← defaulted fields "check_cancellation" flag? true }

end Engine

def BackendConfig.ofSetting? (setting : Setting) : Option BackendConfig := do
  let fields ← setting.fields? ["name", "base_url", "model", "api_key", "timeout_ms"]
  some
    { name := ← required fields "name" text?
      baseUrl := ← required fields "base_url" text?
      model := ← required fields "model" text?
      apiKey := ← defaulted fields "api_key" (fun setting => setting.text?.map some) none
      timeout := ← defaulted fields "timeout_ms" count? 60000 }

/-- A setting as a count of 32 bits; higher bits are lost. -/
def Setting.count32? (setting : Setting) : Option Nat :=
  setting.count?.map (· % UInt32.size)

def GenerationConfig.ofSetting? (setting : Setting) : Option GenerationConfig := do
  let fields ← setting.fields?
    ["backends", "attempts_per_backend", "initial_backoff_ms", "max_backoff_ms"]
  some
    { backends := ← defaulted fields "backends" (list? BackendConfig.ofSetting?) []
      attemptsPerBackend := ← defaulted fields "attempts_per_backend" count32? 2
      initialBackoff := ← defaulted fields "initial_backoff_ms" count? 500
      maxBackoff := ← defaulted fields "max_backoff_ms" count? 8000 }

namespace Runner

/-- What the runner is told before it starts. -/
structure Config where
  /-- Which lines of the trace are shown. -/
  logFilter : String := "info"
  /-- The folder that keeps the records of runs. -/
  storeDir : String := ".switchyard/executions"
  engine : Engine.Settings := {}
  generation : GenerationConfig := {}
  deriving DecidableEq, Repr

namespace Config

/-- The file that is looked for if none is named. -/
def defaultFile : String := "switchyard.toml"

/-- The word that the names of variables start with. -/
def variableWord : String := "SWITCHYARD"

def ofSettings? (fields : Keyed Setting) : Option Config := do
  some
    { logFilter := ← defaulted fields "log_filter" text? "info"
      storeDir := ← defaulted fields "store_dir" text? ".switchyard/executions"
      engine := ← defaulted fields "engine" Engine.Settings.ofSetting? {}
      generation := ← defaulted fields "ai" GenerationConfig.ofSetting? {} }

/-- Whether the last step of a path ends in `.toml` and has something in front
of that. -/
def isTomlName (path : String) : Bool :=
  let ending := ".toml".toList
  let name := (path.toList.reverse.takeWhile (· ≠ '/')).reverse
  ending.isSuffixOf name && ending.length < name.length

/-- Read the configuration.  A file is named or not, and has a text if it is
there; files that are named must be in TOML. -/
def load? (named : Option String) (text : Option String) (environment : List (String × String)) :
    Option Config := do
  let file ← match named, text with
    | some name, some text =>
        if isTomlName name then Settings.Toml.parse? text else none
    | some _, none => none
    | none, some text => Settings.Toml.parse? text
    | none, none => some []
  let settings := file.foldl (fun settings (entry : String × Setting) =>
    putAt (pathOf entry.1) entry.2 settings) []
  ofSettings? (Settings.Environment.apply variableWord environment settings)

end Config

end Runner

end Flowline
