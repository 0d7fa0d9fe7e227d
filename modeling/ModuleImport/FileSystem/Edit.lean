import ModuleImport.FileSystem.Basic

namespace ModuleImport

def Node.changeEntries (change : List (String × Node) → List (String × Node)) :
    Location → List (String × Node) → List (String × Node)
  | [], entries => change entries
  | name :: rest, entries =>
    match Table.lookupIn name entries with
    | some (.directory inner) =>
      Table.insertInto name (.directory (changeEntries change rest inner)) entries
    | _ => entries

theorem Node.descend?_changeEntries (change : List (String × Node) → List (String × Node))
    {loc : Location} {entries inner : List (String × Node)}
    (h : (directory entries).descend? loc = some (directory inner)) :
    (directory (changeEntries change loc entries)).descend? loc =
      some (directory (change inner)) := by
  induction loc generalizing entries with
  | nil =>
    obtain rfl : entries = inner := by simpa [descend?] using h
    rfl
  | cons name rest ih =>
    obtain ⟨node, found, below⟩ := Option.bind_eq_some_iff.1 h
    cases node with
    | directory old =>
      have found : Table.lookupIn name entries = some (directory old) := found
      simp [changeEntries, found, descend?, child?, Table.lookupIn_insertInto, ih below]
    | _ => cases rest <;> simp [descend?, child?] at below

/-- What becomes of the working directory when a name is taken out of a directory: if the way to it
led through that name, it is removed. -/
def WorkingDirectory.afterErase (working : WorkingDirectory) (loc : Location) (name : String) :
    WorkingDirectory :=
  if onWay : (loc ++ [name]).isPrefixOf working.standing then
    { standing := loc
      removed := working.standing.drop loc.length ++ working.removed
      named := fun other member => working.named other
        ((List.isPrefixOf_iff_prefix.1 onWay).subset (List.mem_append_left _ member)) }
  else working

theorem WorkingDirectory.location?_afterErase (working : WorkingDirectory) (loc : Location)
    (name : String) :
    (working.afterErase loc name).location? =
      if (loc ++ [name]).isPrefixOf working.standing then none else working.location? := by
  rw [afterErase]
  split
  · rename_i onWay
    obtain ⟨rest, way⟩ := List.isPrefixOf_iff_prefix.1 onWay
    simp [location?, ← way]
  · rfl

namespace FileSystem

def empty : FileSystem where
  entries := []
  workingDirectory := .top

def changeEntries (fs : FileSystem) (directory : Location)
    (change : List (String × Node) → List (String × Node)) : FileSystem :=
  { fs with entries := Node.changeEntries change directory fs.entries }

def insert (fs : FileSystem) (directory : Location) (name : String) (node : Node) : FileSystem :=
  fs.changeEntries directory (Table.insertInto name node)

def erase (fs : FileSystem) (directory : Location) (name : String) : FileSystem :=
  fs.changeEntries directory (·.filter (·.1 ≠ name))

theorem node?_insert {fs : FileSystem} {loc : Location} {entries : List (String × Node)}
    (h : fs.node? loc = some (.directory entries)) (name : String) (node : Node) :
    (fs.insert loc name node).node? loc =
      some (.directory (Table.insertInto name node entries)) :=
  Node.descend?_changeEntries _ h

theorem node?_erase {fs : FileSystem} {loc : Location} {entries : List (String × Node)}
    (h : fs.node? loc = some (.directory entries)) (name : String) :
    (fs.erase loc name).node? loc = some (.directory (entries.filter (·.1 ≠ name))) :=
  Node.descend?_changeEntries _ h

def makeDirectories (fs : FileSystem) (here : Location) : List String → FileSystem × Location
  | [] => (fs, here)
  | name :: rest =>
    match fs.along? [] here with
    | none => (fs, here)
    | some trail =>
      match fs.walk linkLimit trail [name] with
      | .ok place => fs.makeDirectories place.trail.location rest
      | .error _ => (fs.insert here name (.directory [])).makeDirectories (here ++ [name]) rest

def originLocation? (fs : FileSystem) (p : Path) : Option Location :=
  if p.isAbsolute then some [] else fs.workingDirectory.location?

def makeDirectory (fs : FileSystem) (p : Path) : FileSystem :=
  match fs.originLocation? p with
  | some here => (fs.makeDirectories here p.names).1
  | none => fs

/-- Where something written under a name goes: to the end of the links that start there, at most as
many as are given, whether or not anything is at their end. -/
def destination (fs : FileSystem) : Nat → Trail → String → Trail × String
  | 0, here, name => (here, name)
  | links + 1, here, name =>
    match (fs.nodeAt here).child? name with
    | some (.link target) =>
      match target.names.getLast?, fs.walk links (start here target) target.names.dropLast with
      | some last, .ok place => fs.destination links place.trail last
      | _, _ => (here, name)
    | _ => (here, name)

def write (fs : FileSystem) (here : Trail) (name : String) (content : List UInt8) : FileSystem :=
  let (there, last) := fs.destination linkLimit here name
  match (fs.nodeAt there).child? last with
  | some .device => fs
  | _ => fs.insert there.location last (.file content)

/-- Puts a node at a path after making the directories on the way to it. A link takes the place of
its own name; a file goes where the links under its name lead. -/
def put (fs : FileSystem) (p : Path) (node : Node) : FileSystem :=
  match p.names.getLast?, fs.originLocation? p with
  | some name, some here =>
    let (fs, here) := fs.makeDirectories here p.names.dropLast
    match node, fs.along? [] here with
    | .file content, some trail => fs.write trail name content
    | _, _ => fs.insert here name node
  | _, _ => fs

def remove (fs : FileSystem) (p : Path) : FileSystem :=
  match p.names.getLast?, fs.origin? p with
  | some name, some here =>
    match fs.walk linkLimit here p.names.dropLast with
    | .ok place =>
      match (fs.nodeAt place.trail).child? name with
      | some _ =>
        let loc := place.trail.location
        { fs.erase loc name with workingDirectory := fs.workingDirectory.afterErase loc name }
      | none => fs
    | .error _ => fs
  | _, _ => fs

end FileSystem

end ModuleImport
