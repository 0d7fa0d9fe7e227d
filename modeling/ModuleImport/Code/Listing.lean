import ModuleImport.Code.Basic
import ModuleImport.Text.Quoted

namespace ModuleImport

open Text (quoted)

def Constant.listing : Constant → String
  | .none => "None"
  | .bool true => "True"
  | .bool false => "False"
  | .int n => toString n.toInt
  | .str s => quoted s

def Instruction.listing : Instruction → String
  | .store name value => "STORE      " ++ name ++ " = " ++ value.listing
  | .importName name none => "IMPORT     " ++ name
  | .importName name (some bind) => "IMPORT     " ++ name ++ " as " ++ bind
  | .copy target source => "ALIAS      " ++ target ++ " = " ++ source
  | .print text => "PRINT      " ++ quoted text
  | .raise message => "RAISE      " ++ quoted message

/-- A number with blanks before it up to four characters. -/
def lineNumber (n : Nat) : String :=
  let digits := Nat.toDigits 10 n
  String.ofList (List.replicate (4 - digits.length) ' ' ++ digits)

namespace Code

def heading (code : Code) : String :=
  "code object " ++ quoted code.name ++ " from " ++ quoted code.filename ++ " (" ++
    toString code.instructions.length ++ " instructions)"

def lines (code : Code) : List String :=
  code.heading :: code.instructions.zipIdx.map fun (instruction, k) =>
    lineNumber k ++ " " ++ instruction.listing

def listing (code : Code) : String :=
  String.join (code.lines.map (· ++ "\n"))

theorem length_lines (code : Code) : code.lines.length = code.instructions.length + 1 := by
  simp [lines]

end Code

end ModuleImport
