import ModuleImport.Code.Basic
import ModuleImport.Repository.Importer
import ModuleImport.Text.Quoted

namespace ModuleImport

/-- A reference to a module object. The name that a module was made with never changes; its
attributes are kept in the store. -/
structure Module where
  id : Nat
  name : String
deriving DecidableEq, Repr

inductive Value where
  | none
  | bool (value : Bool)
  | int (value : Int64)
  | str (value : String)
  | path (value : Path)
  | list (items : List Value)
  | module (value : Module)
  | loader (value : Importer)

def Module.shown (m : Module) : String :=
  "<module " ++ Text.quoted m.name ++ ">"

namespace Value

def ofConstant : Constant → Value
  | .none => none
  | .bool b => bool b
  | .int n => int n
  | .str s => str s

def ofPaths (paths : List Path) : Value :=
  list (paths.map path)

mutual

def same : Value → Value → Bool
  | none, none => true
  | bool a, bool b => a = b
  | int a, int b => a = b
  | str a, str b => a = b
  | path a, path b => a.same b
  | list as, list bs => sameItems as bs
  | module a, module b => a.id = b.id
  | loader a, loader b => a.id = b.id
  | _, _ => false

def sameItems : List Value → List Value → Bool
  | [], [] => true
  | a :: as, b :: bs => same a b && sameItems as bs
  | _, _ => false

end

mutual

def shown : Value → String
  | none => "None"
  | bool true => "True"
  | bool false => "False"
  | int n => toString n.toInt
  | str s => Text.quoted s
  | path p => Text.quoted p.text
  | list items => "[" ++ ", ".intercalate (shownItems items) ++ "]"
  | module m => m.shown
  | loader importer => "<mfsimporter " ++ Text.quoted importer.root.text ++ ">"

def shownItems : List Value → List String
  | [] => []
  | item :: items => shown item :: shownItems items

end

def written : Value → String
  | str s => s
  | path p => p.text
  | value => value.shown

def module? : Value → Option Module
  | module m => some m
  | _ => Option.none

def str? : Value → Option String
  | str s => some s
  | _ => Option.none

def path? : Value → Option Path
  | path p => some p
  | _ => Option.none

def loader? : Value → Option Importer
  | loader importer => some importer
  | _ => Option.none

/-- The paths in a list that holds nothing but paths. -/
def paths? : Value → Option (List Path)
  | list items => items.mapM path?
  | _ => Option.none

@[simp] theorem paths?_ofPaths (paths : List Path) : (ofPaths paths).paths? = some paths := by
  induction paths with
  | nil => rfl
  | cons p paths ih =>
    simp only [paths?, ofPaths, List.map_cons, List.mapM_cons] at ih ⊢
    simp [ih, path?]

end Value

end ModuleImport
