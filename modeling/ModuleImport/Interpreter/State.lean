import ModuleImport.Interpreter.Error
import ModuleImport.Interpreter.Output
import ModuleImport.Interpreter.Store

namespace ModuleImport

inductive Event where
  | registered (name : String) (module : Module)
  | began (module : Module) (code : Code) (artifact : Path)
  | finished (module : Module) (artifact : Path)
  | stopped (module : Module) (artifact : Path)
  | removed (name : String)
  | assembled (name : String) (module : Module) (portions : List Path)
  /-- An import came to its end with a module. -/
  | imported (name : String) (module : Module)
deriving DecidableEq

structure Config where
  searchPath : List Path
  entryPoint : Option String
  output : Output

def Config.withPath (config : Config) (repository : Path) : Config :=
  { config with searchPath := config.searchPath ++ [repository] }

structure Interpreter where
  searchPath : List Path
  entryPoint : Option String
  registry : Table Module
  /-- The importer made for each entry of a search path, by the entry's canonical text, or none if
  the entry was no repository. -/
  importers : Table (Option Importer)
  store : Store
  output : Output
  /-- What was done, the latest first. -/
  trace : List Event

namespace Interpreter

def new (config : Config) : Interpreter where
  searchPath := config.searchPath
  entryPoint := config.entryPoint
  registry := .empty
  importers := .empty
  store := .empty
  output := config.output
  trace := []

def modules (s : Interpreter) : List String :=
  s.registry.names

def lookup (s : Interpreter) (name : String) : Option Module :=
  s.registry.get? name

def registeredName (s : Interpreter) (name : String) : String :=
  Name.registered s.entryPoint name

def loaded? (s : Interpreter) (name : String) : Option Module :=
  s.lookup (s.registeredName name)

def record (event : Event) (s : Interpreter) : Interpreter :=
  { s with trace := event :: s.trace }

def println (line : String) (s : Interpreter) : Interpreter :=
  { s with output := s.output.println line }

def clearOutput (s : Interpreter) : Interpreter :=
  { s with output := s.output.clear }

def assign (module : Module) (attr : String) (value : Value) (s : Interpreter) : Interpreter :=
  { s with store := s.store.set module attr value }

def newModule (name : String) (s : Interpreter) : Module × Interpreter :=
  let (module, store) := s.store.newModule name
  (module, { s with store })

def register (name : String) (s : Interpreter) : Module × Interpreter :=
  let (module, s) := s.newModule name
  (module, { s with registry := s.registry.insert name module })

def getOrCreate (name : String) (s : Interpreter) : Registration Module × Interpreter :=
  match s.lookup name with
  | some module => (⟨module, false⟩, s)
  | none =>
    let (module, s) := s.register name
    (⟨module, true⟩, s.record (.registered name module))

def remove (name : String) (s : Interpreter) : Interpreter :=
  { s with registry := s.registry.erase name }.record (.removed name)

/-- Changes the entry point, also for every importer made so far. -/
def setEntryPoint (entryPoint : Option String) (s : Interpreter) : Interpreter :=
  let made := s.importers.entries.filterMap Prod.snd
  { s with
    entryPoint
    store := made.foldl (fun store importer => store.setEntryPoint importer entryPoint) s.store }

def shownPaths (paths : List Path) : String :=
  "[" ++ ", ".intercalate (paths.map fun p => Text.quoted p.text) ++ "]"

def shownEntryPoint : Option String → String
  | some name => "Some(" ++ Text.quoted name ++ ")"
  | none => "None"

def shown (s : Interpreter) : String :=
  "Interpreter \x7b search_path: " ++ shownPaths s.searchPath ++ ", entry_point: " ++
    shownEntryPoint s.entryPoint ++ ", modules: [" ++
    ", ".intercalate (s.modules.map Text.quoted) ++ "], .. \x7d"

end Interpreter

def Config.shown (config : Config) : String :=
  "InterpreterConfig \x7b search_path: " ++ Interpreter.shownPaths config.searchPath ++
    ", entry_point: " ++ Interpreter.shownEntryPoint config.entryPoint ++ ", output: " ++
    config.output.shown ++ " \x7d"

end ModuleImport
