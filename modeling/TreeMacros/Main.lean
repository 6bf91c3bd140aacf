import TreeMacros.Runner

/-! # The command line of the runner

Reads the request from standard input and writes the response to standard output. What macros
print goes to standard error.
-/

open TreeMacros

/-- What is shown on request. -/
def helpText : String :=
  "Runs one macro request from stdin in an isolated process.\n\n" ++
  "Options:\n" ++
  "      --log-level <LOG_LEVEL>  Log level for diagnostics on stderr\n" ++
  "      --config <CONFIG>        A TOML file with a [meta] table\n" ++
  "      --max-depth <MAX_DEPTH>  Overrides the evaluator depth limit\n" ++
  "  -h, --help                   Print help\n" ++
  "  -V, --version                Print version\n"

/-- The text of a settings file, or why it cannot be read. -/
def readSettings (path : String) : IO (Except Fault String) := do
  try
    return .ok (← IO.FS.readFile path)
  catch _ =>
    return .error { cause := .unreadableSettings path }

/-- The variables that settings may depend on. -/
def readEnvironment : IO (List (String × String)) := do
  let names := ["MAKRELL_META_RUNTIME", "MAKRELL_META_RUNNER", "MAKRELL_META_TIMEOUT_MS",
    "MAKRELL_META_WORKER_TIMEOUT_MS", "MAKRELL_META_MAX_DEPTH"]
  names.filterMapM fun name => do
    return (← IO.getEnv name).map (name, ·)

def main (arguments : List String) : IO UInt32 := do
  match Options.read arguments with
  | .error stop =>
    match stop with
    | .help => IO.print helpText
    | .version => IO.println "makrell-meta-runner 0.1.0"
    | .misuse => IO.eprintln "error: the command line is not understood"
    return stop.exitCode.toUInt32
  | .ok options =>
    let file ← match options.config with
      | some path => readSettings path
      | none => pure (.ok "")
    let environment ← readEnvironment
    let settings := options.settings (fun _ => file) (fun name => environment.lookup name)
    let request ← (← IO.getStdin).readToEnd
    match answerWith settings request with
    | .error _ => return 1
    | .ok answer =>
      let output := Program.outputOf answer
      IO.eprint output.stderr
      IO.print output.stdout
      return if output.success then 0 else 1
