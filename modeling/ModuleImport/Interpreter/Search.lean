import ModuleImport.Interpreter.State

namespace ModuleImport

inductive Found where
  | loader (importer : Importer)
  | portions (directories : List Path)
deriving DecidableEq, Repr

def Found.afterPortion (directory : Path) : Found → Found
  | .loader importer => .loader importer
  | .portions directories => .portions (directory :: directories)

namespace Interpreter

/-- The importer for an entry of a search path. It is made when the entry is first seen, and an
entry that is no repository then stays without one. -/
def importerFor (fs : FileSystem) (entry : Path) (s : Interpreter) :
    Option Importer × Interpreter :=
  let key := entry.canonicalText
  match s.importers.get? key with
  | some importer? => (importer?, s)
  | none =>
    match s.store.openImporter fs entry s.entryPoint with
    | .ok (importer, store) =>
      (some importer, { s with importers := s.importers.insert key (some importer), store })
    | .error _ => (none, { s with importers := s.importers.insert key none })

def search (fs : FileSystem) (name : String) :
    List Path → Interpreter → Except ProbeError Found × Interpreter
  | [], s => (.ok (.portions []), s)
  | entry :: rest, s =>
    match s.importerFor fs entry with
    | (none, s) => search fs name rest s
    | (some importer, s) =>
      match importer.offer fs name with
      | .error e => (.error e, s)
      | .ok .loader => (.ok (.loader importer), s)
      | .ok .nothing => search fs name rest s
      | .ok (.portion directory) =>
        let (found, s) := search fs name rest s
        (found.map (Found.afterPortion directory), s)

end Interpreter

end ModuleImport
