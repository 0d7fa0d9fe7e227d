import ModuleImport.Code.Listing
import ModuleImport.Interpreter.Import

namespace ModuleImport.CommandLine

structure Outcome where
  exitCode : Nat
  stdout : String
  stderr : String
deriving DecidableEq, Repr

def ended (lines : List String) : String :=
  String.join (lines.map (· ++ "\n"))

def Outcome.success (lines : List String) : Outcome :=
  ⟨0, ended lines, ""⟩

def Outcome.failure (lines : List String) : Outcome :=
  ⟨1, "", ended lines⟩

def usage : List String :=
  ["MFS module repository tool",
   "",
   "Usage: mfs <command> [options]",
   "",
   "Commands:",
   "  run <repo> <module>   Run a module as __main__",
   "  find <repo> <name>    Show how a name resolves in a repository",
   "  dis <artifact.pyf>    Disassemble a compiled artifact",
   "  help                  Show this help message",
   "  version               Show version information",
   "",
   "Run options:",
   "  --path <dir>          Extra repository to search (repeatable)",
   "",
   "Set RUST_LOG=mfs_import=debug to trace resolution and loading."]

def runUsage : List String :=
  ["Usage: mfs run <repo> <module> [--path <dir>]...",
   "",
   "Options:",
   "  --path <dir>   Extra repository searched after <repo>"]

def findUsage : List String := ["Usage: mfs find <repo> <name>"]

def disUsage : List String := ["Usage: mfs dis <artifact.pyf>"]

def versionText : String := "mfs 0.1.0"

def joinedDirectory? (argument : String) : Option String :=
  let option := "--path=".toList
  if option.isPrefixOf argument.toList then
    some (String.ofList (argument.toList.drop option.length))
  else none

/-- The directories that options add to the search path, in order, or the first argument that is no
option. Whatever follows `--path` is its directory, even if it looks like an option. -/
def extraDirectories : List String → Except String (List Path)
  | [] => .ok []
  | argument :: rest =>
    if argument = "--path" then
      match rest with
      | [] => .error argument
      | directory :: rest => (extraDirectories rest).map (⟨directory⟩ :: ·)
    else
      match joinedDirectory? argument with
      | some directory => (extraDirectories rest).map (⟨directory⟩ :: ·)
      | none => .error argument

def failureReport (e : RunError) : List String :=
  let report := ["error: " ++ e.message]
  if e.hasInnerCause then report ++ ["caused by: " ++ e.rootCause.message] else report

def runConfig (repository : Path) (extra : List Path) : Config :=
  extra.foldl Config.withPath (Config.withPath ⟨[], none, .stdout []⟩ repository)

/-- What is written of a run that has ended. What its bodies printed is written even if it fails. -/
def report : Except RunError Module → Interpreter → Outcome
  | .ok _, s => .success s.output.written
  | .error e, s => ⟨1, ended s.output.written, ended (failureReport e)⟩

def runModule (fs : FileSystem) (repository : Path) (name : String) (extra : List Path) : Outcome :=
  match Interpreter.runMain fs name (.new (runConfig repository extra)) with
  | some (x, s) => report x s
  | none => .failure ["error: imports are nested too deeply"]

def run (fs : FileSystem) : List String → Outcome
  | repository :: name :: options =>
    match extraDirectories options with
    | .ok extra => runModule fs ⟨repository⟩ name extra
    | .error argument => .failure ["error: unexpected argument '" ++ argument ++ "'"]
  | _ => .failure runUsage

def describe (name : String) (resolution : Resolution) : List String :=
  let line (label : String) (p : Path) := label ++ p.text
  (name ++ ": " ++ resolution.description) ::
    (resolution.artifact?.toList.map (line "  artifact:    ") ++
      resolution.searchPath?.toList.map (line "  search path: "))

def find (fs : FileSystem) : List String → Outcome
  | repository :: name :: _ =>
    match Repository.openRoot fs ⟨repository⟩ with
    | .error e => .failure ["error: " ++ e.message]
    | .ok root =>
      match Repository.resolve fs root name with
      | .error e => .failure ["error: " ++ e.message]
      | .ok resolution => .success (describe name resolution)
  | _ => .failure findUsage

def dis (fs : FileSystem) : List String → Outcome
  | artifact :: _ =>
    match fs.read ⟨artifact⟩ with
    | .error e => .failure ["error: cannot read " ++ artifact ++ ": " ++ e.message]
    | .ok bytes =>
      match Artifact.decode bytes with
      | .error e => .failure ["error: " ++ artifact ++ ": " ++ e.message]
      | .ok code => ⟨0, code.listing, ""⟩
  | [] => .failure disUsage

def execute (fs : FileSystem) : List String → Outcome
  | [] => .success usage
  | command :: arguments =>
    if command = "run" then run fs arguments
    else if command = "find" then find fs arguments
    else if command = "dis" then dis fs arguments
    else if command ∈ ["help", "--help", "-h"] then .success usage
    else if command ∈ ["version", "--version", "-V"] then .success [versionText]
    else ⟨1, ended usage, ended ["Unknown command: " ++ command, ""]⟩

end ModuleImport.CommandLine
