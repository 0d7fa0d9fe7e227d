import ModuleImport.FileSystem.Error
import ModuleImport.Path
import ModuleImport.Table

namespace ModuleImport

inductive Node where
  | directory (entries : List (String × Node))
  | file (content : List UInt8)
  | link (target : Path)
  /-- Neither file nor directory, and empty when read. -/
  | device
deriving Repr

def Node.child? : Node → String → Option Node
  | directory entries, name => Table.lookupIn name entries
  | _, _ => none

abbrev Location := List String

def Node.descend? : Node → Location → Option Node
  | node, [] => some node
  | node, name :: rest => (node.child? name).bind fun child => child.descend? rest

/-- The nodes on the way from the root to a node, each with its name, the innermost first. There is
no node for a directory that has been removed. -/
abbrev Trail := List (String × Option Node)

def Trail.isRemoved : Trail → Bool
  | (_, none) :: _ => true
  | _ => false

def Trail.location (trail : Trail) : Location :=
  (trail.map Prod.fst).reverse

/-- The directory where relative paths start. It keeps its place after it has been removed, even if
another directory is made under its name. -/
structure WorkingDirectory where
  standing : Location
  removed : Location := []
  named : ∀ name ∈ standing, Path.IsName name
deriving Repr

def WorkingDirectory.top : WorkingDirectory where
  standing := []
  named := nofun

def WorkingDirectory.ofPath (p : Path) : WorkingDirectory where
  standing := p.names
  named := fun _ => Path.isName_of_mem

def WorkingDirectory.location? (directory : WorkingDirectory) : Option Location :=
  if directory.removed = [] then some directory.standing else none

structure FileSystem where
  entries : List (String × Node)
  workingDirectory : WorkingDirectory
  /-- Why nothing can be looked up in a directory, such as one that may not be searched. -/
  barred : Trail → Option Fault := fun _ => none
  /-- Why a name cannot be looked up in a directory, whether or not it is there. -/
  broken : Trail → String → Option Fault := fun _ _ => none

namespace FileSystem

def nameLimit : Nat := 255

def pathLimit : Nat := 4095

def linkLimit : Nat := 40

def nodeAt (fs : FileSystem) : Trail → Node
  | [] => .directory fs.entries
  | (_, some node) :: _ => node
  | (_, none) :: _ => .directory []

def along? (fs : FileSystem) (here : Trail) : Location → Option Trail
  | [] => some here
  | name :: rest =>
    match (fs.nodeAt here).child? name with
    | some node => fs.along? ((name, some node) :: here) rest
    | none => none

def node? (fs : FileSystem) (loc : Location) : Option Node :=
  (Node.directory fs.entries).descend? loc

def workingPath? (fs : FileSystem) : Option Path :=
  fs.workingDirectory.location?.map (Path.mk "/").joinNames

def workingTrail? (fs : FileSystem) : Option Trail :=
  (fs.along? [] fs.workingDirectory.standing).map fun here =>
    fs.workingDirectory.removed.foldl (fun trail name => (name, none) :: trail) here

inductive Step where
  | arrived (there : Trail)
  | redirected (target : Path)

def fault? (fs : FileSystem) (here : Trail) (name : String) : Option Fault :=
  -- `.` and `..` are no look-ups on a disk, but a directory that may not be searched refuses them, too
  (fs.barred here).or (if name = "." ∨ name = ".." then none else fs.broken here name)

/-- A step to an entry. In a directory that has been removed no name is looked up, not even one that
is too long. -/
def enter (here : Trail) (entries : List (String × Node)) (name : String) : Except IoError Step :=
  if here.isRemoved then .error .notFound
  else if nameLimit < name.utf8ByteSize then .error .nameTooLong
  else
    match Table.lookupIn name entries with
    | none => .error .notFound
    | some (.link target) => .ok (.redirected target)
    | some node => .ok (.arrived ((name, some node) :: here))

def step (fs : FileSystem) (here : Trail) (name : String) : Except IoError Step :=
  match fs.nodeAt here with
  | .directory entries =>
    if name = "" then .ok (.arrived here)
    else
      match fs.fault? here name with
      | some fault => .error (.failed fault)
      | none =>
        if name = "." then .ok (.arrived here)
        else if name = ".." then .ok (.arrived here.tail)
        else enter here entries name
  | _ => .error .notADirectory

structure Place where
  trail : Trail
  linksLeft : Nat

def start (here : Trail) (p : Path) : Trail :=
  if p.isAbsolute then [] else here

/-- Takes steps one by one. At a link the steps of its target come before the remaining ones, and
`follow` goes on with them. -/
def walkSteps (fs : FileSystem) (linksLeft : Nat)
    (follow : Trail → List String → Except IoError Place) :
    Trail → List String → Except IoError Place
  | here, [] => .ok ⟨here, linksLeft⟩
  | here, name :: rest =>
    match fs.step here name with
    | .error e => .error e
    | .ok (.arrived there) => walkSteps fs linksLeft follow there rest
    | .ok (.redirected target) => follow (start here target) (target.steps ++ rest)

def walk (fs : FileSystem) : Nat → Trail → List String → Except IoError Place
  | 0 => walkSteps fs 0 fun _ _ => .error .tooManyLinks
  | n + 1 => walkSteps fs (n + 1) (walk fs n)

def origin? (fs : FileSystem) (p : Path) : Option Trail :=
  if p.isAbsolute then some [] else fs.workingTrail?

def find (fs : FileSystem) (p : Path) : Except IoError Trail :=
  if '\x00' ∈ p.text.toList then .error .nulInPath
  else if p.text = "" then .error .notFound
  else if pathLimit < p.text.utf8ByteSize then .error .nameTooLong
  else
    match fs.origin? p with
    | some here => (walk fs linkLimit here p.steps).map Place.trail
    | none => .error .notFound

def stat (fs : FileSystem) (p : Path) : Except IoError Node :=
  (fs.find p).map fs.nodeAt

def isDirectory (fs : FileSystem) (p : Path) : Bool :=
  match fs.stat p with
  | .ok (.directory _) => true
  | _ => false

def read (fs : FileSystem) (p : Path) : Except IoError (List UInt8) :=
  match fs.stat p with
  | .error e => .error e
  | .ok (.directory _) => .error .isADirectory
  | .ok (.file content) => .ok content
  | .ok _ => .ok []

theorem map_nodeAt_along? (fs : FileSystem) (here : Trail) (names : Location) :
    (fs.along? here names).map fs.nodeAt = (fs.nodeAt here).descend? names := by
  induction names generalizing here with
  | nil => rfl
  | cons name rest ih =>
    rw [along?, Node.descend?]
    cases (fs.nodeAt here).child? name with
    | none => rfl
    | some node => exact ih _

theorem walk_append (fs : FileSystem) (links : Nat) (here : Trail) (xs ys : List String) :
    fs.walk links here (xs ++ ys) =
      (fs.walk links here xs).bind fun place => fs.walk place.linksLeft place.trail ys := by
  induction links generalizing here xs with
  | zero =>
    induction xs generalizing here with
    | nil => rfl
    | cons x xs ih =>
      simp only [walk, List.cons_append, walkSteps] at ih ⊢
      split
      · rfl
      · exact ih _
      · rfl
  | succ n ihn =>
    induction xs generalizing here with
    | nil => rfl
    | cons x xs ih =>
      simp only [walk, List.cons_append, walkSteps] at ih ⊢
      split
      · rfl
      · exact ih _
      · rw [← List.append_assoc]
        exact ihn _ _

end FileSystem

end ModuleImport
