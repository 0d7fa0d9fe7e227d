import Mathlib.Algebra.GroupWithZero.Nat
import Mathlib.Algebra.Order.BigOperators.Group.List
import Mathlib.Algebra.Order.Group.Nat
import ModuleImport.Proofs.FileSystem.Lookup
import ModuleImport.Proofs.Interpreter.Load
import ModuleImport.Proofs.Name.Prefixes

namespace ModuleImport

theorem Node.importedNames_of_lookupIn {entries : List (String × Node)} {name : String}
    {below : Node} (h : Table.lookupIn name entries = some below) :
    below.importedNames ⊆ Node.importedNamesOf entries := by
  induction entries with
  | nil => cases h
  | cons head rest ih =>
    obtain ⟨key, node⟩ := head
    rw [Table.lookupIn] at h
    rw [Node.importedNamesOf]
    split at h
    · cases h
      exact List.subset_append_left _ _
    · exact List.Subset.trans (ih h) (List.subset_append_right _ _)

theorem Node.importedNames_of_child {node below : Node} {name : String}
    (h : node.child? name = some below) : below.importedNames ⊆ node.importedNames := by
  cases node with
  | directory entries =>
    rw [importedNames]
    exact importedNames_of_lookupIn h
  | _ => cases h

namespace FileSystem

variable {fs : FileSystem}

theorem inherited_importedNames (fs : FileSystem) :
    Inherited fs fun node => node.importedNames ⊆ fs.importedNames where
  root := by
    rw [Node.importedNames]
    exact List.Subset.refl _
  removed := by
    rw [Node.importedNames, Node.importedNamesOf]
    exact List.nil_subset _
  child holds h := List.Subset.trans (Node.importedNames_of_child h) holds

theorem decode_nil : ∃ e, Artifact.decode [] = .error e := ⟨_, rfl⟩

/-- Whatever links it is read through, code imports nothing but what the file system mentions. -/
theorem imports_of_read {p : Path} {bytes : List UInt8} {code : Code}
    (read : fs.read p = .ok bytes) (decoded : Artifact.decode bytes = .ok code) :
    code.imports ⊆ fs.importedNames := by
  have empty {bytes : List UInt8} (none : bytes = [])
      (decoded : Artifact.decode bytes = .ok code) : code.imports ⊆ fs.importedNames := by
    obtain ⟨e, refused⟩ := decode_nil
    rw [none, refused] at decoded
    cases decoded
  unfold FileSystem.read at read
  cases found : fs.stat p with
  | error e =>
    rw [found] at read
    cases read
  | ok node =>
    rw [found] at read
    have names := (inherited_importedNames fs).stat found
    cases node with
    | directory entries => cases read
    | file content =>
      cases read
      rw [Node.importedNames, decoded] at names
      exact names
    | link target =>
      cases read
      exact empty rfl decoded
    | device =>
      cases read
      exact empty rfl decoded

/-- The names that are asked for or imported by artifacts, with the packages around them. -/
def mentioned (fs : FileSystem) (names : List String) : List String :=
  (names ++ fs.importedNames).flatMap Name.prefixes

end FileSystem

/-- What an import of some names can come to without leaving them. -/
structure Closed (fs : FileSystem) (N : String → Prop) : Prop where
  parent : ∀ {name parent}, N name → Name.parent? name = some parent → N parent
  top : ∀ {name}, N name → Name.isImportable name = true → N (Name.top name)
  imported : ∀ {name}, name ∈ fs.importedNames → N name

namespace LoadPlan

variable {ε : Type} {fs : FileSystem} {importer : Importer} {entryPoint : Option String}
  {name : String} {resolution : Resolution} {plan : LoadPlan}

theorem IsFor.imports (isFor : IsFor fs entryPoint name resolution plan) :
    plan.code.imports ⊆ fs.importedNames := by
  obtain ⟨_, read, decoded⟩ := isFor.code
  exact FileSystem.imports_of_read read decoded

theorem imports_of_make (h : make (ε := ε) fs entryPoint name resolution = .ok plan) :
    plan.code.imports ⊆ fs.importedNames :=
  (isFor_of_make h).imports

theorem imports_of_find (h : find (ε := ε) fs importer entryPoint name = .ok plan) :
    plan.code.imports ⊆ fs.importedNames := by
  obtain ⟨_, -, isFor⟩ := isFor_of_find h
  exact isFor.imports

end LoadPlan

variable {fs : FileSystem} {names : List String} {name : String}

theorem mem_mentioned_iff :
    name ∈ fs.mentioned names ↔ ∃ origin ∈ names ++ fs.importedNames, name ∈ Name.prefixes origin :=
  List.mem_flatMap

theorem mentioned_of_mem (h : name ∈ names) : name ∈ fs.mentioned names :=
  mem_mentioned_iff.mpr ⟨name, List.mem_append_left _ h, Name.self_mem_prefixes name⟩

theorem closed_mentioned (fs : FileSystem) (names : List String) :
    Closed fs (· ∈ fs.mentioned names) where
  parent member h := by
    obtain ⟨origin, known, enclosing⟩ := mem_mentioned_iff.mp member
    exact mem_mentioned_iff.mpr ⟨origin, known, Name.parent_mem_prefixes enclosing h⟩
  top member importable := by
    obtain ⟨origin, known, enclosing⟩ := mem_mentioned_iff.mp member
    refine mem_mentioned_iff.mpr ⟨origin, known, ?_⟩
    exact Name.prefixes_induct (fun h member => Name.parent_mem_prefixes member h) enclosing _
      (Name.top_mem_prefixes importable)
  imported h :=
    mem_mentioned_iff.mpr ⟨_, List.mem_append_right _ h, Name.self_mem_prefixes _⟩

theorem foldl_segments (names : List String) (n : Nat) :
    names.foldl (fun n name => n + (Name.segments name).length) n =
      n + (names.map fun name => (Name.segments name).length).sum := by
  induction names generalizing n with
  | nil => rfl
  | cons name names ih => rw [List.foldl_cons, ih, List.map_cons, List.sum_cons, Nat.add_assoc]

/-- The bound on nested imports is the square of more than the mentioned names are, and of more than
any of them has segments. -/
theorem importDepth_eq (fs : FileSystem) (names : List String) : ∃ total,
    Interpreter.importDepth fs names = (total + 2) * (total + 2) ∧
      (fs.mentioned names).length ≤ total ∧
      ∀ name ∈ fs.mentioned names, (Name.segments name).length ≤ total := by
  refine ⟨_, rfl, ?_, ?_⟩
  · rw [foldl_segments, Nat.zero_add, FileSystem.mentioned, List.length_flatMap]
    exact List.sum_le_sum fun origin _ => Name.length_prefixes_le origin
  · intro name member
    obtain ⟨origin, known, enclosing⟩ := mem_mentioned_iff.mp member
    rw [foldl_segments, Nat.zero_add]
    refine Nat.le_trans (Name.length_segments_le_of_mem_prefixes enclosing) ?_
    exact List.single_le_sum (fun _ _ => Nat.zero_le _) _ (List.mem_map_of_mem known)

/-- The import of a parent is allowed one level less than the import of a name inside it. -/
theorem importDepth_parent_lt (fs : FileSystem) {parent : String}
    (h : Name.parent? name = some parent) :
    Interpreter.importDepth fs [parent] < Interpreter.importDepth fs [name] := by
  have longer := Name.length_segments_of_parent h
  unfold Interpreter.importDepth
  simp only [List.cons_append, List.foldl_cons, foldl_segments, longer]
  exact Nat.mul_self_lt_mul_self (by omega)

end ModuleImport
