namespace ModuleImport

inductive Constant where
  | none
  | bool (value : Bool)
  | int (value : Int64)
  | str (value : String)
deriving DecidableEq

inductive Instruction where
  | store (name : String) (value : Constant)
  /-- Imports a module. With `bind` the imported module is bound to that name, without it the
  outermost package of the imported name is bound to the first segment. -/
  | importName (name : String) (bind : Option String)
  | copy (target source : String)
  | print (text : String)
  | raise (message : String)
deriving DecidableEq

structure Code where
  name : String
  filename : String
  instructions : List Instruction
deriving DecidableEq

def Instruction.imports : Instruction → List String
  | .importName name _ => [name]
  | _ => []

def Code.imports (code : Code) : List String :=
  code.instructions.flatMap Instruction.imports

end ModuleImport
