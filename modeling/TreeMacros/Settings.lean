import TreeMacros.Executor.Subprocess
import TreeMacros.Executor.Worker
import TreeMacros.Text.Natural
import TreeMacros.Toml.Reader

/-! # Settings

Where macros run and how far they may go. Settings come from the `meta` table of a TOML document,
and environment variables override them. Everything has a default, so an empty document is
complete.
-/

namespace TreeMacros

/-- The executors that settings can choose from. -/
inductive ExecutorKind where
  | inProcess
  | subprocess
  | worker
  deriving Repr, DecidableEq, Inhabited

namespace ExecutorKind

/-- The name in a settings file. -/
def name : ExecutorKind → String
  | inProcess => "inprocess"
  | subprocess => "subprocess"
  | worker => "worker"

/-- All of them. -/
def all : List ExecutorKind :=
  [inProcess, subprocess, worker]

/-- The executor with exactly this name. -/
def ofName? (name : String) : Option ExecutorKind :=
  all.find? (·.name == name)

/-- The executor that a text means: blanks around the name and upper case do not matter. -/
def ofText (text : String) : Except Fault ExecutorKind :=
  let name := (Text.trimmed text).map Char.toLower
  match if name == "in-process" then some inProcess else ofName? name with
  | some kind => .ok kind
  | none => .error { cause := .unknownRuntime name }

end ExecutorKind

/-- Where macros run and how far they may go. -/
structure Settings where
  executor : ExecutorKind := .inProcess
  /-- The program that macros run on in a process of their own. -/
  runner : Option String := none
  runnerArguments : List String := []
  /-- How long to wait for the runner, in milliseconds. -/
  subprocessTimeout : Nat := 30000
  /-- How long to wait for a worker, in milliseconds. -/
  workerTimeout : Nat := 30000
  /-- How deeply evaluation may be nested. -/
  maxEvaluationDepth : Nat := 512
  /-- How many expansions may be nested. -/
  maxExpansionDepth : Nat := 128
  deriving Repr, DecidableEq, Inhabited

namespace Toml

/-- A text. -/
def string? : Toml → Option String
  | string value => some value
  | _ => none

/-- A whole number that is not negative. -/
def natural? : Toml → Option Nat
  | integer value => if 0 ≤ value then some value.toNat else none
  | _ => none

/-- A list of texts. -/
def strings? : Toml → Option (List String)
  | array items => items.mapM string?
  | _ => none

/-- An array or table without anything in it. -/
def isVoid : Toml → Bool
  | array [] | table [] => true
  | _ => false

/-- The executor that a value names: a text, or a table with the name as its only key and nothing
    under it. -/
def executorKind? : Toml → Option ExecutorKind
  | string name => ExecutorKind.ofName? name
  | table [(name, content)] => if content.isVoid then ExecutorKind.ofName? name else none
  | _ => none

end Toml

namespace Settings

/-- A setting: its key, and how a value sets it. -/
structure Key where
  name : String
  set? : Toml → Settings → Option Settings

/-- The settings of a document, in the order in which an array lists their values. -/
def keys : List Key := [
  ⟨"runtime", fun value settings =>
    value.executorKind?.map fun kind => { settings with executor := kind }⟩,
  ⟨"runner", fun value settings =>
    value.string?.map fun path => { settings with runner := some path }⟩,
  ⟨"runner_args", fun value settings =>
    value.strings?.map fun texts => { settings with runnerArguments := texts }⟩,
  ⟨"subprocess_timeout_ms", fun value settings =>
    value.natural?.map fun n => { settings with subprocessTimeout := n }⟩,
  ⟨"worker_timeout_ms", fun value settings =>
    value.natural?.map fun n => { settings with workerTimeout := n }⟩,
  ⟨"max_eval_depth", fun value settings =>
    value.natural?.map fun n => { settings with maxEvaluationDepth := n }⟩,
  ⟨"max_expansion_depth", fun value settings =>
    value.natural?.map fun n => { settings with maxExpansionDepth := n }⟩]

/-- The defaults changed by the fields of a table. Fields that are no settings do not count. -/
def ofFields? (fields : List (String × Toml)) : Option Settings :=
  fields.foldlM (fun settings (name, value) =>
    match keys.find? (·.name == name) with
    | some key => key.set? value settings
    | none => some settings) {}

/-- The defaults changed by values in the order of the keys. -/
def ofItems? (items : List Toml) : Option Settings :=
  (keys.zip items).foldlM (fun settings (key, value) => key.set? value settings) {}

/-- The settings that a value under the key `meta` stands for. -/
def ofToml? : Toml → Option Settings
  | .table fields => ofFields? fields
  | .array items => ofItems? items
  | .moment _ => some {}
  | _ => none

/-- The settings of a document. -/
def ofText (text : String) : Except Fault Settings :=
  let settings := (Toml.read text).bind fun document =>
    (document.lookup "meta").elim (some {}) ofToml?
  match settings with
  | some settings => .ok settings
  | none => .error { cause := .unreadableSettings "settings" }

/-! ## The environment -/

/-- The number that the variable `key` sets. -/
def naturalOf (key text : String) : Except Fault Nat :=
  match Text.word? (Text.trimmed text) with
  | some n => .ok n
  | none => .error { cause := .notNatural key text }

/-- A number that the variable `key` overrides. -/
def overridden (environment : String → Option String) (key : String) (present : Nat) :
    Except Fault Nat :=
  match environment key with
  | some text => naturalOf key text
  | none => .ok present

/-- The settings with what the environment overrides. An empty runner overrides nothing. -/
def overlay (settings : Settings) (environment : String → Option String) :
    Except Fault Settings := do
  let executor ← match environment "MAKRELL_META_RUNTIME" with
    | some text => ExecutorKind.ofText text
    | none => pure settings.executor
  let runner := match environment "MAKRELL_META_RUNNER" with
    | some path => if path == "" then settings.runner else some path
    | none => settings.runner
  let subprocessTimeout ←
    overridden environment "MAKRELL_META_TIMEOUT_MS" settings.subprocessTimeout
  let workerTimeout ←
    overridden environment "MAKRELL_META_WORKER_TIMEOUT_MS" settings.workerTimeout
  let maxEvaluationDepth ←
    overridden environment "MAKRELL_META_MAX_DEPTH" settings.maxEvaluationDepth
  return { settings with
    executor, runner, subprocessTimeout, workerTimeout, maxEvaluationDepth }

/-! ## Use -/

/-- The executor that the settings choose, given the program that the host found for the runner.
    A worker has to be started on its own. -/
def choose (settings : Settings) (program : Option Program) : Except Fault Executor :=
  match settings.executor with
  | .inProcess => .ok (.inProcess settings.maxEvaluationDepth)
  | .subprocess => .ok (.subprocess program settings.maxEvaluationDepth)
  | .worker => .error { cause := .workerIsAsynchronous }

/-- The settings as a document. -/
def toJson (settings : Settings) : Json :=
  .object [("runtime", .string settings.executor.name),
    ("runner", settings.runner.elim .null .string),
    ("runner_args", .array (settings.runnerArguments.map .string)),
    ("subprocess_timeout_ms", .int settings.subprocessTimeout),
    ("worker_timeout_ms", .int settings.workerTimeout),
    ("max_eval_depth", .int settings.maxEvaluationDepth),
    ("max_expansion_depth", .int settings.maxExpansionDepth)]

end Settings

end TreeMacros
