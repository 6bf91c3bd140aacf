import TreeMacros.Settings

/-! # The runner

A program that answers one request. Its options come from the command line, its settings from a
file and the environment, and the request from standard input. It succeeds if the response does.
-/

namespace TreeMacros

/-- The options of the runner. -/
structure Options where
  /-- How much to log; `none` if not given. -/
  logLevel : Option String := none
  /-- The path of a settings file. -/
  config : Option String := none
  /-- How deeply evaluation may be nested; it overrides the settings. -/
  maxDepth : Option Nat := none
  deriving Repr, DecidableEq, Inhabited

/-- Why the command line asks for no answer. -/
inductive CommandStop where
  | help
  | version
  /-- The command line is not understood. -/
  | misuse
  deriving Repr, DecidableEq, Inhabited

namespace CommandStop

/-- The exit status. -/
def exitCode : CommandStop → UInt8
  | help | version => 0
  | misuse => 2

end CommandStop

/-! ## The command line -/

/-- The options that take a value. -/
inductive OptionName where
  | logLevel
  | config
  | maxDepth
  deriving Repr, DecidableEq, Inhabited

namespace OptionName

/-- What is written before the value. -/
def flag : OptionName → String
  | logLevel => "--log-level"
  | config => "--config"
  | maxDepth => "--max-depth"

/-- All of them. -/
def all : List OptionName :=
  [logLevel, config, maxDepth]

/-- The option that is written so. -/
def ofFlag? (flag : String) : Option OptionName :=
  all.find? (·.flag == flag)

end OptionName

namespace Options

/-- Set an option that is not set yet. A path is not empty, and a depth is a number. -/
def set? (options : Options) (name : OptionName) (value : String) : Option Options :=
  match name with
  | .logLevel =>
    if options.logLevel.isSome then none else some { options with logLevel := some value }
  | .config =>
    if options.config.isSome || value == "" then none
    else some { options with config := some value }
  | .maxDepth =>
    if options.maxDepth.isSome then none
    else (Text.word? value).map fun depth => { options with maxDepth := some depth }

/-- A flag and the value after an equals sign, if there is one. -/
def splitValue (argument : List Char) : String × Option String :=
  let flag := String.ofList (argument.takeWhile (· != '='))
  match argument.dropWhile (· != '=') with
  | [] => (flag, none)
  | _ :: value => (flag, some (String.ofList value))

/-- Read the options, with those set so far. -/
def readFrom (options : Options) : List String → Except CommandStop Options
  | [] => .ok options
  | argument :: rest =>
    let chars := argument.toList
    if argument == "--" then if rest.isEmpty then .ok options else .error .misuse
    else if ['-', '-'].isPrefixOf chars then
      match splitValue chars with
      | ("--help", none) => .error .help
      | ("--version", none) => .error .version
      | (flag, value) =>
        match OptionName.ofFlag? flag, value, rest with
        | some name, some value, rest =>
          match options.set? name value with
          | some options => readFrom options rest
          | none => .error .misuse
        | some name, none, value :: rest =>
          if value != "-" && ['-'].isPrefixOf value.toList then .error .misuse
          else
            match options.set? name value with
            | some options => readFrom options rest
            | none => .error .misuse
        | _, _, _ => .error .misuse
    else if ['-', 'h'].isPrefixOf chars then .error .help
    else if ['-', 'V'].isPrefixOf chars then .error .version
    else .error .misuse

/-- The options that a command line gives. -/
def read (arguments : List String) : Except CommandStop Options :=
  readFrom {} arguments

/-- The settings: those of the file, overridden by the environment, then by the options. -/
def settings (options : Options) (readFile : String → Except Fault String)
    (environment : String → Option String) : Except Fault Settings := do
  let base ← match options.config with
    | some path => Settings.ofText (← readFile path)
    | none => pure {}
  let settings ← base.overlay environment
  return { settings with
    maxEvaluationDepth := options.maxDepth.getD settings.maxEvaluationDepth }

end Options

/-- The answer to a request, or to settings that are at fault. -/
def answerWith (settings : Except Fault Settings) (request : String) : Except Endless Answer :=
  match settings with
  | .ok settings => answerText settings.maxEvaluationDepth request
  | .error fault => .ok { response := .failure fault.shown }

end TreeMacros
