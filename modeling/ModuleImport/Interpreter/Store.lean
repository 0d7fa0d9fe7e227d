import ModuleImport.Interpreter.Value
import ModuleImport.Loading.Host
import ModuleImport.Table

namespace ModuleImport

structure Store where
  attributes : Array (Table Value)
  entryPoints : Array (Option String)

namespace Store

def empty : Store := ⟨#[], #[]⟩

instance : Inhabited Store := ⟨empty⟩

def attributesOf (s : Store) (m : Module) : Table Value :=
  s.attributes.getD m.id .empty

def get? (s : Store) (m : Module) (attr : String) : Option Value :=
  (s.attributesOf m).get? attr

def set (s : Store) (m : Module) (attr : String) (value : Value) : Store :=
  { s with attributes := s.attributes.modify m.id (·.insert attr value) }

def newModule (s : Store) (name : String) : Module × Store :=
  (⟨s.attributes.size, name⟩,
    { s with attributes := s.attributes.push (Table.empty.insert nameAttribute (.str name)) })

def searchPath? (s : Store) (m : Module) : Option (List Path) :=
  (s.get? m searchPathAttribute).bind Value.paths?

def loader? (s : Store) (m : Module) : Option Importer :=
  (s.get? m loaderAttribute).bind Value.loader?

def file? (s : Store) (m : Module) : Option Path :=
  (s.get? m fileAttribute).bind Value.path?

def entryPointOf (s : Store) (importer : Importer) : Option String :=
  s.entryPoints.getD importer.id none

def newImporter (s : Store) (root : Path) (entryPoint : Option String) : Importer × Store :=
  (⟨s.entryPoints.size, root⟩, { s with entryPoints := s.entryPoints.push entryPoint })

def setEntryPoint (s : Store) (importer : Importer) (entryPoint : Option String) : Store :=
  { s with entryPoints := s.entryPoints.setIfInBounds importer.id entryPoint }

def openImporter (s : Store) (fs : FileSystem) (p : Path) (entryPoint : Option String) :
    Except InvalidRepository (Importer × Store) :=
  (Repository.openRoot fs p).map fun root => s.newImporter root entryPoint

@[simp] theorem get?_set_self (s : Store) {m : Module} (h : m.id < s.attributes.size) (attr other)
    (value : Value) :
    (s.set m attr value).get? m other =
      if other = attr then some value else s.get? m other := by
  simp [get?, attributesOf, set, Array.getD_eq_getD_getElem?, h, Array.getElem_modify,
    Table.get?_insert]

@[simp] theorem get?_set_other (s : Store) {m m' : Module} (h : m'.id ≠ m.id) (attr other)
    (value : Value) : (s.set m attr value).get? m' other = s.get? m' other := by
  simp [get?, attributesOf, set, Array.getD_eq_getD_getElem?, Array.getElem?_modify, Ne.symm h]

/-- A new module has an identity that no module of the store has. -/
@[simp] theorem newModule_id (s : Store) (name : String) :
    (s.newModule name).1.id = s.attributes.size := rfl

end Store

end ModuleImport
