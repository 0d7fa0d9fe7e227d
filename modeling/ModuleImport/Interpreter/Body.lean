import ModuleImport.Interpreter.State

namespace ModuleImport

/-- A run of an interpreter: it ends with a result or an error and a new state. It has no end if it
would nest imports more deeply than it was allowed to. -/
abbrev Run (α : Type) := ExceptT RunError (StateT Interpreter Option) α

namespace Run

def tooDeep {α : Type} : Run α := fun _ => none

def step {α : Type} (f : Interpreter → α × Interpreter) : Run α := fun s =>
  let (a, s) := f s
  some (.ok a, s)

def change (f : Interpreter → Interpreter) : Run Unit := fun s => some (.ok (), f s)

def look {α : Type} (f : Interpreter → α) : Run α := fun s => some (.ok (f s), s)

end Run

namespace Body

open Run

variable (importName : String → Run Module)

/-- The outermost package of a name that was imported just now. A name without a dot is its own
outermost package; any other is asked for once more. -/
def outermost (name : String) (imported : Module) : Run Module :=
  if Name.top name = name then pure imported else importName (Name.top name)

def runInstruction (module : Module) (artifact : Path) : Instruction → Run Unit
  | .store name value => change (·.assign module name (.ofConstant value))
  | .importName name bind => do
    let imported ← importName name
    match bind with
    | some target => change (·.assign module target (.module imported))
    | none =>
      let package ← outermost importName name imported
      change (·.assign module (Name.top name) (.module package))
  | .copy target source => do
    match ← look (·.store.get? module source) with
    | some value => change (·.assign module target value)
    | none => throw (.attributeNotFound module.name source)
  | .print text => change (·.println text)
  | .raise message => throw (.raised module.name message artifact)

def runInstructions (module : Module) (artifact : Path) : List Instruction → Run Unit
  | [] => pure ()
  | instruction :: rest => do
    runInstruction importName module artifact instruction
    runInstructions module artifact rest

def run (module : Module) (code : Code) (artifact : Path) : Run Unit := do
  change (·.assign module nameAttribute (.str module.name))
  change (·.assign module fileAttribute (.path artifact))
  change (·.record (.began module code artifact))
  tryCatch (runInstructions importName module artifact code.instructions) fun e => do
    change (·.record (.stopped module artifact))
    throw e
  change (·.record (.finished module artifact))

end Body

end ModuleImport
