import ModuleImport.Text.Split

namespace ModuleImport

structure Path where
  text : String
deriving DecidableEq, Repr

namespace Path

def isAbsolute (p : Path) : Bool :=
  p.text.toList.head? = some '/'

def endsInSlash (p : Path) : Bool :=
  p.text.toList.getLast? = some '/'

def steps (p : Path) : List String :=
  (Text.pieces '/' p.text.toList).map String.ofList

/-- A step that leads somewhere. -/
structure IsName (step : String) : Prop where
  noSlash : '/' ∉ step.toList
  some : step ≠ ""
  noDot : step ≠ "."

instance (step : String) : Decidable (IsName step) :=
  decidable_of_iff ('/' ∉ step.toList ∧ step ≠ "" ∧ step ≠ ".")
    ⟨fun h => ⟨h.1, h.2.1, h.2.2⟩, fun h => ⟨h.noSlash, h.some, h.noDot⟩⟩

def names (p : Path) : List String :=
  p.steps.filter fun step => step ≠ "" ∧ step ≠ "."

def startsWithDot (p : Path) : Bool :=
  p.steps.head? = some "."

/-- The text of a path without repeated slashes, trailing slashes and inner dots. -/
def canonicalText (p : Path) : String :=
  (if p.isAbsolute then "/" else if p.startsWithDot then "./" else "") ++ "/".intercalate p.names

inductive Component where
  | root
  | current
  | parent
  | normal (name : String)
deriving DecidableEq, Repr

def Component.ofName (name : String) : Component :=
  if name = ".." then .parent else .normal name

def components (p : Path) : List Component :=
  (if p.isAbsolute then [.root] else if p.startsWithDot then [.current] else []) ++
    p.names.map Component.ofName

def isSingleComponent (text : String) : Bool :=
  (Path.mk text).components = [.normal text]

def same (p q : Path) : Bool :=
  p.canonicalText = q.canonicalText

def join (base : Path) (below : String) : Path :=
  if (Path.mk below).isAbsolute then ⟨below⟩
  else if base.text = "" ∨ base.endsInSlash then ⟨base.text ++ below⟩
  else ⟨base.text ++ "/" ++ below⟩

def joinNames (base : Path) (names : List String) : Path :=
  if names = [] then base else base.join ("/".intercalate names)

/-- The text that the absolute form of an absolute path starts with: exactly two leading slashes
are kept, any other number counts as one. -/
def rootText (p : Path) : String :=
  match p.text.toList with
  | '/' :: '/' :: '/' :: _ => "/"
  | '/' :: '/' :: _ => "//"
  | _ => "/"

/-- The absolute form of a path, seen from the working directory `base?`. Parent steps are kept,
because what they mean depends on links, and so is a trailing slash. The empty path has none, and
neither has a relative path if the working directory has no path. -/
def absolute? (p : Path) (base? : Option Path) : Option Path :=
  if p.text = "" then none
  else
    (if p.isAbsolute then some ⟨p.rootText⟩ else base?).map fun start =>
      let full := start.joinNames p.names
      if p.endsInSlash ∧ ¬full.endsInSlash then ⟨full.text ++ "/"⟩ else full

theorem isName_of_mem {p : Path} {name : String} (member : name ∈ p.names) : IsName name := by
  obtain ⟨isStep, leads⟩ := List.mem_filter.mp member
  obtain ⟨piece, isPiece, rfl⟩ := List.mem_map.mp isStep
  simp only [decide_eq_true_eq] at leads
  refine ⟨?_, leads.1, leads.2⟩
  rw [String.toList_ofList]
  exact Text.not_mem_of_mem_pieces isPiece

theorem same_refl (p : Path) : p.same p = true := by
  simp [same]

theorem same_comm (p q : Path) : p.same q = q.same p := by
  simp [same, eq_comm]

theorem same_trans {p q r : Path} (hpq : p.same q = true) (hqr : q.same r = true) :
    p.same r = true := by
  simp only [same, decide_eq_true_eq] at *
  exact hpq.trans hqr

end Path

end ModuleImport
