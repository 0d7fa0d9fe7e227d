import ModuleImport.CommandLine
import ModuleImport.FileSystem.Edit

namespace ModuleImport.Picture

/-- A picture that is being taken: what it shows so far, the directories and the segments that are
looked up in them, and the look-ups that are still to be done. -/
structure Draft where
  fs : FileSystem
  directories : List String
  segments : List String
  pending : List (String × String)

def Draft.makeDirectory (draft : Draft) (real : String) : Draft :=
  { draft with fs := draft.fs.makeDirectory ⟨real⟩ }

def Draft.add (draft : Draft) (real : String) (node : Node) : Draft :=
  { draft with fs := draft.fs.put ⟨real⟩ node }

def Draft.shows (draft : Draft) (real : String) : Bool :=
  (draft.fs.find ⟨real⟩).toOption.isSome

def Draft.addDirectory (draft : Draft) (directory : String) : Draft :=
  if directory ∈ draft.directories then draft
  else
    { draft with
      directories := directory :: draft.directories
      pending := draft.segments.map (directory, ·) ++ draft.pending }

def Draft.addSegment (draft : Draft) (segment : String) : Draft :=
  if segment ∈ draft.segments ∨ segment = "" then draft
  else
    { draft with
      segments := segment :: draft.segments
      pending := draft.directories.map (·, segment) ++ draft.pending }

def Draft.addName (draft : Draft) (name : String) : Draft :=
  (Name.segments name).foldl Draft.addSegment draft

def Draft.addImports (draft : Draft) (artifact : String) : Draft :=
  match draft.fs.read ⟨artifact⟩ with
  | .ok bytes =>
    match Artifact.decode bytes with
    | .ok code => code.imports.foldl Draft.addName draft
    | .error _ => draft
  | .error _ => draft

def below (directory name : String) : String :=
  ((Path.mk directory).join name).text

def realText (path : String) : IO (Option String) := do
  try
    return some (← IO.FS.realPath path).toString
  catch _ => return none

def nameTooLong : UInt32 := -36

/-- Why the system does not tell what is there, unless nothing is there or nothing could be. -/
def fault? : IO.Error → Option Fault
  | .noFileOrDirectory .. | .inappropriateType .. | .invalidArgument .. => none
  | .permissionDenied .. => some .permissionDenied
  | .hardwareFault .. => some .inputOutput
  | e => some (.other (toString e))

def Draft.fail (draft : Draft) (directory name : String) (fault : Fault) : Draft :=
  let place := (Path.mk directory).names
  let broken (here : Trail) (other : String) : Option Fault :=
    if here.location = place ∧ other = name then some fault else draft.fs.broken here other
  { draft with fs := { draft.fs with broken } }

def Draft.bar (draft : Draft) (directory : String) (fault : Fault) : Draft :=
  let place := (Path.mk directory).names
  let barred (here : Trail) : Option Fault :=
    if here.location = place then some fault else draft.fs.barred here
  { draft with fs := { draft.fs with barred } }

/-- Notes why an entry could not be looked up. Permission is refused for all entries of a directory. -/
def Draft.refuse (draft : Draft) (directory name : String) (e : IO.Error) : Draft :=
  match fault? e with
  | none => draft
  | some .permissionDenied => draft.bar directory .permissionDenied
  | some fault => draft.fail directory name fault

def kind (directory name : String) : IO (Except IO.Error IO.FS.FileType) := do
  let entry : IO.FS.DirEntry := ⟨directory, name⟩
  try
    return .ok (← entry.path.symlinkMetadata).type
  catch e => return .error e

/-- The target of a link in a picture, which is where the link ends, so that links in a row count as
one. A link that leads nowhere fails in the picture as it does outside: no entry is named by a NUL, a
device has no entries, no name has 256 bytes, and a link to itself never ends. -/
def linkTarget (directory name : String) : IO (Except Fault String) := do
  let entry : IO.FS.DirEntry := ⟨directory, name⟩
  let real := below directory name
  if let some target ← realText real then return .ok target
  try
    discard entry.path.metadata
    return .ok real
  catch
    | .noFileOrDirectory .. => return .ok "\x00"
    | .inappropriateType .. => return .ok "/dev/null/"
    | .invalidArgument _ code _ =>
      return .ok (if code = nameTooLong then String.ofList (List.replicate 256 'x') else real)
    | e => return .error ((fault? e).getD (.other (toString e)))

/-- Adds an entry of a directory, but not what is below it. Only a wanted file is read, and another
one does not replace what the picture shows. A wanted file that cannot be read ends the program. -/
def addEntry (draft : Draft) (directory name : String) (wanted : Bool) : IO Draft := do
  let real := below directory name
  match ← kind directory name with
  | .error e => return draft.refuse directory name e
  | .ok .dir => return draft.makeDirectory real
  | .ok .file =>
    if wanted then return draft.add real (.file (← IO.FS.readBinFile real).toList)
    else return if draft.shows real then draft else draft.add real (.file [])
  | .ok .symlink =>
    match ← linkTarget directory name with
    | .ok target => return draft.add real (.link ⟨target⟩)
    | .error fault => return draft.fail directory name fault
  | .ok .other => return draft.add real .device

partial def addWay (draft : Draft) (path : Path) : IO Draft := do
  let mut draft := draft
  let mut way : Path := ⟨"/"⟩
  for name in path.names do
    if let some directory ← realText way.text then
      if name = ".." then
        -- a step back is refused, too, where permission is
        if let .error e ← kind directory name then draft := draft.refuse directory name e
      else
        let entry := below directory name
        draft ← addEntry draft directory name true
        if let some real ← realText entry then
          if real ≠ entry then draft ← addWay draft ⟨real⟩
    way := way.join name
  return draft

def addArtifact (draft : Draft) (directory name : String) : IO Draft := do
  let entry := below directory name
  let mut draft ← addEntry draft directory name true
  if let some real ← realText entry then
    if real ≠ entry then draft ← addWay draft ⟨real⟩
  return draft.addImports entry

def lookUp (draft : Draft) (directory segment : String) : IO Draft := do
  let entry := below directory segment
  let mut draft ← addArtifact draft directory (Name.artifactFileName segment)
  draft ← addEntry draft directory segment false
  if let some real ← realText entry then
    if real ≠ entry then draft ← addWay draft ⟨real⟩
    if draft.fs.isDirectory ⟨real⟩ then
      draft ← addArtifact draft real Name.packageInitializer
      draft := draft.addDirectory real
  return draft

partial def lookUpAll (draft : Draft) : IO Draft := do
  match draft.pending with
  | [] => return draft
  | (directory, segment) :: pending =>
    lookUpAll (← lookUp { draft with pending } directory segment)

def candidates (argument : String) : List String :=
  argument :: (CommandLine.joinedDirectory? argument).toList

/-- The working directory with a path, or one that has been removed and so has none. -/
def workingDirectoryAt : Option Path → WorkingDirectory
  | some path => .ofPath path
  | none => { WorkingDirectory.top with removed := ["."] }

def take (arguments : List String) : IO FileSystem := do
  let working? := (← realText ".").map Path.mk
  let start := FileSystem.empty.put ⟨"/dev/null"⟩ .device
  let mut draft : Draft :=
    ⟨{ start with workingDirectory := workingDirectoryAt working? }, [], [], []⟩
  if let some working := working? then draft ← addWay draft working
  for text in arguments.flatMap candidates do
    if let some path := (Path.mk text).absolute? working? then
      draft ← addWay draft path
      if let some real ← realText path.text then
        if draft.fs.isDirectory ⟨real⟩ then draft := draft.addDirectory real
  return (← lookUpAll (arguments.foldl Draft.addName draft)).fs

end ModuleImport.Picture

def main (arguments : List String) : IO UInt32 := do
  let fs ← ModuleImport.Picture.take arguments
  let outcome := ModuleImport.CommandLine.execute fs arguments
  IO.print outcome.stdout
  IO.eprint outcome.stderr
  return UInt32.ofNat outcome.exitCode
