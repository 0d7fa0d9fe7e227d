import ModuleImport.Proofs.Interpreter.Kept

namespace ModuleImport

theorem Table.mem_of_lookupIn {α : Type} {entries : List (String × α)} {name : String} {value : α}
    (h : Table.lookupIn name entries = some value) : (name, value) ∈ entries := by
  induction entries with
  | nil => cases h
  | cons head rest ih =>
    rw [Table.lookupIn.eq_def] at h
    dsimp only at h
    split at h
    · rename_i same
      cases h
      exact same ▸ List.mem_cons_self
    · exact List.mem_cons_of_mem _ (ih h)

namespace Interpreter

open Run

/-- A call that has ended, from the state before it to the state after it. -/
inductive Called : Interpreter → Interpreter → Prop
  | importModule {s t fs name x} : importModule fs name s = some (x, t) → Called s t
  | runMain {s t fs name x} : runMain fs name s = some (x, t) → Called s t
  | setEntryPoint (s entryPoint) : Called s (s.setEntryPoint entryPoint)

inductive Reached : Interpreter → Prop
  | new (config) : Reached (new config)
  | called {s t} : Reached s → Called s t → Reached t

/-- A new interpreter that searches one directory and prints nothing. -/
def fresh : Interpreter :=
  new ⟨[⟨"/r"⟩], none, .silent⟩

theorem reached_fresh : Reached fresh := .new _

variable {s t : Interpreter}

theorem size_foldl_setEntryPoint (made : List Importer) (store : Store)
    (entryPoint : Option String) :
    (made.foldl (fun store importer => store.setEntryPoint importer entryPoint) store
      ).entryPoints.size = store.entryPoints.size := by
  induction made generalizing store with
  | nil => rfl
  | cons importer made ih =>
    rw [List.foldl_cons, ih, Store.setEntryPoint, Array.size_setIfInBounds]

theorem entryPointOf_foldl (made : List Importer) (store : Store) (entryPoint : Option String)
    (importer : Importer) (known : importer.id < store.entryPoints.size)
    (told : importer ∈ made ∨ store.entryPointOf importer = entryPoint) :
    (made.foldl (fun store importer => store.setEntryPoint importer entryPoint) store
      ).entryPointOf importer = entryPoint := by
  induction made generalizing store with
  | nil =>
    rcases told with absurd | told
    · cases absurd
    · exact told
  | cons other made ih =>
    rw [List.foldl_cons]
    apply ih
    · rw [Store.setEntryPoint, Array.size_setIfInBounds]
      exact known
    · rw [Store.entryPointOf_setEntryPoint]
      rcases told with member | told
      · rcases List.mem_cons.mp member with rfl | member
        · exact .inr (if_pos ⟨rfl, known⟩)
        · exact .inl member
      · right
        split
        · rfl
        · exact told

theorem attributes_foldl_setEntryPoint (made : List Importer) (store : Store)
    (entryPoint : Option String) :
    (made.foldl (fun store importer => store.setEntryPoint importer entryPoint) store
      ).attributes = store.attributes := by
  induction made generalizing store with
  | nil => rfl
  | cons importer made ih =>
    rw [List.foldl_cons, ih]
    rfl

@[simp] theorem attributes_setEntryPoint (s : Interpreter) (entryPoint : Option String) :
    (s.setEntryPoint entryPoint).store.attributes = s.store.attributes :=
  attributes_foldl_setEntryPoint _ _ _

theorem Sound.setEntryPoint (sound : s.Sound) (entryPoint : Option String) :
    (s.setEntryPoint entryPoint).Sound := by
  have owns {module : Module} (h : s.Owns module) : (s.setEntryPoint entryPoint).Owns module := by
    simpa [Owns] using h
  refine ⟨fun h => owns (sound.owned h), ?_, ?_, fun h about => owns (sound.traced h about)⟩
  · intro entry importer cached
    change importer.id < (List.foldl _ s.store _).entryPoints.size
    rw [size_foldl_setEntryPoint]
    exact sound.known cached
  · intro entry importer cached
    apply entryPointOf_foldl _ _ _ _ (sound.known cached)
    left
    exact List.mem_filterMap.mpr ⟨_, Table.mem_of_lookupIn cached, rfl⟩

theorem runMain_eq (fs : FileSystem) (name : String) (s : Interpreter) :
    runMain fs name s = importModule fs name (s.setEntryPoint (some name)) := rfl

/-- What every import keeps, and a change of the entry point too, is kept by every call. -/
theorem Called.follows {R : Interpreter → Interpreter → Prop} (kept : ∀ fs, Kept fs R)
    (entryPointSet : ∀ s entryPoint, R s (s.setEntryPoint entryPoint)) (sound : s.Sound)
    (called : Called s t) : Follows R s t := by
  have told (entryPoint : Option String) : Follows R s (s.setEntryPoint entryPoint) :=
    ⟨sound.setEntryPoint entryPoint, Nat.le_of_eq (by simp),
      entryPointSet s entryPoint⟩
  cases called with
  | @importModule _ fs _ _ h => exact importWithin_follows (kept fs) _ sound h
  | @runMain _ fs name _ h =>
    rw [runMain_eq] at h
    have start := told (some name)
    exact start.trans (kept fs) (importWithin_follows (kept fs) _ start.sound h)
  | setEntryPoint entryPoint => exact told entryPoint

end Interpreter

end ModuleImport
