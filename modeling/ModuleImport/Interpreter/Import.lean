import ModuleImport.Interpreter.Body
import ModuleImport.Interpreter.Search
import ModuleImport.Loading.Load

namespace ModuleImport

namespace Interpreter

open Run

def host (importName : String → Run Module) : Host (StateT Interpreter Option) Module RunError where
  getOrCreate name := step (Interpreter.getOrCreate name)
  setAttribute module
    | .loader importer => change (·.assign module loaderAttribute (.loader importer))
    | .searchPath directories =>
      change (·.assign module searchPathAttribute (.ofPaths directories))
  execute module code artifact := Body.run importName module code artifact
  remove name := fun s => some ((), s.remove name)

def assemble (name : String) (portions : List Path) (s : Interpreter) : Module × Interpreter :=
  let target := s.registeredName name
  let (module, s) := s.register target
  (module, (s.assign module searchPathAttribute (.ofPaths portions)).record
    (.assembled target module portions))

def bindOnParent (parent? : Option Module) (name : String) (module : Module) (s : Interpreter) :
    Interpreter :=
  match parent?, Name.lastSegment? name with
  | some parent, some segment => s.assign parent segment (.module module)
  | _, _ => s

def directoriesFor (parent? : Option Module) (name : String) : Run (List Path) :=
  match parent? with
  | none => look (·.searchPath)
  | some parent => do
    match ← look (·.store.searchPath? parent) with
    | some directories => pure directories
    | none => throw (.notAPackage name parent.name)

def importFrom (fs : FileSystem) (importName : String → Run Module) (name : String)
    (directories : List Path) : Run Module := do
  match ← step (Interpreter.search fs name directories) with
  | .error e => throw (.failedLoad (.probe e))
  | .ok (.loader importer) =>
    let entryPoint ← look (·.store.entryPointOf importer)
    ExceptT.adapt .failedLoad ((host importName).loadModule fs importer entryPoint name)
  | .ok (.portions []) => throw (.moduleNotFound name)
  | .ok (.portions portions) => step (assemble name portions)

def importParent (importName : String → Run Module) (name : String) : Run (Option Module) :=
  match Name.parent? name with
  | some parent => some <$> importName parent
  | none => pure none

/-- One level of an import, given how the imports that it needs are done. The registry is looked at
again after the parent's import, because the parent's body may have imported the name. -/
def importStep (fs : FileSystem) (importName : String → Run Module) (name : String) :
    Run Module := do
  if Name.isImportable name then
    match ← look (·.loaded? name) with
    | some module => pure module
    | none =>
      let parent? ← importParent importName name
      let directories ← directoriesFor parent? name
      match ← look (·.loaded? name) with
      | some module => pure module
      | none =>
        let module ← importFrom fs importName name directories
        change (bindOnParent parent? name module)
        pure module
  else throw (.moduleNotFound name)

def importWithin (fs : FileSystem) : Nat → String → Run Module
  | 0, _ => tooDeep
  | depth + 1, name => do
    let module ← importStep fs (importWithin fs depth) name
    change (·.record (.imported name module))
    pure module

end Interpreter

mutual

def Node.importedNames : Node → List String
  | directory entries => Node.importedNamesOf entries
  | file content =>
    match Artifact.decode content with
    | .ok code => code.imports
    | .error _ => []
  | link _ | device => []

def Node.importedNamesOf : List (String × Node) → List String
  | [] => []
  | (_, node) :: rest => node.importedNames ++ Node.importedNamesOf rest

end

def FileSystem.importedNames (fs : FileSystem) : List String :=
  Node.importedNamesOf fs.entries

namespace Interpreter

open Run

/-- A bound on the imports inside one another that some names lead to: for each load in progress, of
which there are at most as many as there are names and names of parents, a chain of parents. -/
def importDepth (fs : FileSystem) (names : List String) : Nat :=
  let total := (names ++ fs.importedNames).foldl (fun n name => n + (Name.segments name).length) 0
  (total + 2) * (total + 2)

def importModule (fs : FileSystem) (name : String) : Run Module :=
  importWithin fs (importDepth fs [name]) name

def runMain (fs : FileSystem) (name : String) : Run Module := do
  change (setEntryPoint (some name))
  importModule fs name

def execute (fs : FileSystem) (module : Module) (code : Code) (artifact : Path) : Run Unit :=
  Body.run (importWithin fs (importDepth fs code.imports)) module code artifact

def loadingHost (fs : FileSystem) : Host (StateT Interpreter Option) Module RunError :=
  host (importWithin fs (importDepth fs []))

def load (fs : FileSystem) (importer : Importer) (name : String) (resolution : Resolution) :
    Run Module := do
  let entryPoint ← look (·.store.entryPointOf importer)
  ExceptT.adapt .failedLoad ((loadingHost fs).load fs importer entryPoint name resolution)

def loadModule (fs : FileSystem) (importer : Importer) (name : String) : Run Module := do
  let entryPoint ← look (·.store.entryPointOf importer)
  ExceptT.adapt .failedLoad ((loadingHost fs).loadModule fs importer entryPoint name)

end Interpreter

end ModuleImport
