import ModuleImport.Text.Split

namespace ModuleImport.Name

def mainModule : String := "__main__"

def packageInitializer : String := "__init__.pyf"

def artifactFileName (segment : String) : String :=
  segment ++ ".pyf"

def segments (name : String) : List String :=
  (Text.pieces '.' name.toList).map String.ofList

def isImportable (name : String) : Bool :=
  (segments name).all (· ≠ "")

/-- The text after the last dot, which is what is looked up; none if no text stands there. -/
def lastSegment? (name : String) : Option String :=
  let last := match Text.cutLast? '.' name.toList with
    | some (_, back) => back
    | none => name.toList
  if last.isEmpty then none else some (String.ofList last)

def parent? (name : String) : Option String :=
  match Text.cutLast? '.' name.toList with
  | some (front, _) => if front.isEmpty then none else some (String.ofList front)
  | none => none

def top (name : String) : String :=
  String.ofList (name.toList.takeWhile (· ≠ '.'))

/-- The name that a module is registered under, which differs from its own only for the entry
point. -/
def registered (entryPoint : Option String) (name : String) : String :=
  if entryPoint = some name then mainModule else name

@[simp] theorem registered_none (name : String) : registered none name = name := by
  simp [registered]

@[simp] theorem registered_self (name : String) : registered (some name) name = mainModule := by
  simp [registered]

/-- A parent's name is shorter, so going from parent to parent ends. -/
theorem length_parent_lt {name parent : String} (h : parent? name = some parent) :
    parent.length < name.length := by
  unfold parent? at h
  split at h
  · rename_i front back hcut
    obtain ⟨hname, -⟩ := Text.cutLast?_eq_some_iff.1 hcut
    split at h
    · cases h
    · obtain rfl := Option.some.inj h
      rw [← String.length_toList (s := name), hname]
      simp
  · cases h

end ModuleImport.Name
