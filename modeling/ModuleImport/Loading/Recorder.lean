import ModuleImport.Code.Listing
import ModuleImport.Loading.Error
import ModuleImport.Loading.Host
import ModuleImport.Table

namespace ModuleImport

inductive Refusal where
  | refused (what : String)
  | raised (message : String)
deriving DecidableEq, Repr

def Refusal.message : Refusal → String
  | refused what => "refused " ++ what
  | raised message => "raised: " ++ message

structure Recorder where
  refusing : List String
  modules : Table (Table String)
  events : List String

namespace Recorder

def new : Recorder := ⟨[], .empty, []⟩

def note (event : String) (r : Recorder) : Recorder :=
  { r with events := r.events ++ [event] }

def setText (module attr text : String) (r : Recorder) : Recorder :=
  { r with modules :=
      r.modules.insert module (((r.modules.get? module).getD .empty).insert attr text) }

def attributeText : ModuleAttribute → String
  | .loader importer => importer.root.text
  | .searchPath directories => ":".intercalate (directories.map Path.text)

/-- A request: it is noted first, and then either refused or carried out. -/
def request {α : Type} (event what : String) (act : Recorder → Except Refusal α × Recorder) :
    ExceptT Refusal (StateM Recorder) α := fun r =>
  let r := r.note event
  if what ∈ r.refusing then (.error (.refused what), r) else act r

def getOrCreate (name : String) (r : Recorder) : Registration String × Recorder :=
  if r.modules.contains name then (⟨name, false⟩, r)
  else (⟨name, true⟩, { r with modules := r.modules.insert name .empty })

def runInstructions (module : String) :
    List Instruction → Recorder → Except Refusal Unit × Recorder
  | [], r => (.ok (), r)
  | .store name value :: rest, r =>
    runInstructions module rest (r.setText module name value.listing)
  | .raise message :: _, r => (.error (.raised message), r)
  | _ :: rest, r => runInstructions module rest r

def host : Host (StateM Recorder) String Refusal where
  getOrCreate name := request ("register " ++ name) "register" fun r =>
    let (found, r) := r.getOrCreate name
    (.ok found, r)
  setAttribute module attr :=
    request ("set " ++ module ++ " " ++ attr.name ++ " " ++ attributeText attr) attr.name fun r =>
      (.ok (), r.setText module attr.name (attributeText attr))
  execute module code artifact :=
    request ("execute " ++ module ++ " " ++ code.name ++ " " ++ artifact.text) "execute"
      (runInstructions module code.instructions)
  remove name := fun r =>
    ((), { r.note ("remove " ++ name) with modules := r.modules.erase name })

end Recorder

end ModuleImport
