import ModuleImport.Proofs.Interpreter.Run

namespace ModuleImport

/-- The attributes of its module that an instruction binds. -/
def Instruction.writes : Instruction → List String
  | .store name _ => [name]
  | .importName _ (some target) => [target]
  | .importName name none => [Name.top name]
  | .copy target _ => [target]
  | .print _ | .raise _ => []

def Code.writes (code : Code) : List String :=
  code.instructions.flatMap Instruction.writes

open Run

variable {inner : String → Run Module} {module : Module} {artifact : Path} {s t : Interpreter}

namespace Body

/-- The ways in which one instruction ends. -/
inductive Instructed (inner : String → Run Module) (module : Module) (artifact : Path) :
    Instruction → Interpreter → Except RunError Unit → Interpreter → Prop
  | stored {name value s} : Instructed inner module artifact (.store name value) s (.ok ())
      (s.assign module name (.ofConstant value))
  | importFailed {name bind e s t} : inner name s = some (.error e, t) →
      Instructed inner module artifact (.importName name bind) s (.error e) t
  | bound {name target imported s t} : inner name s = some (.ok imported, t) →
      Instructed inner module artifact (.importName name (some target)) s (.ok ())
        (t.assign module target (.module imported))
  | boundItself {name imported s t} : inner name s = some (.ok imported, t) →
      Name.top name = name →
      Instructed inner module artifact (.importName name none) s (.ok ())
        (t.assign module (Name.top name) (.module imported))
  | outermostFailed {name imported e s t u} : inner name s = some (.ok imported, t) →
      inner (Name.top name) t = some (.error e, u) →
      Instructed inner module artifact (.importName name none) s (.error e) u
  | boundOutermost {name imported package s t u} : inner name s = some (.ok imported, t) →
      inner (Name.top name) t = some (.ok package, u) →
      Instructed inner module artifact (.importName name none) s (.ok ())
        (u.assign module (Name.top name) (.module package))
  | copied {target source value s} : s.store.get? module source = some value →
      Instructed inner module artifact (.copy target source) s (.ok ())
        (s.assign module target value)
  | missing {target source s} : s.store.get? module source = none →
      Instructed inner module artifact (.copy target source) s
        (.error (.attributeNotFound module.name source)) s
  | printed {text s} : Instructed inner module artifact (.print text) s (.ok ()) (s.println text)
  | raised {message s} : Instructed inner module artifact (.raise message) s
      (.error (.raised module.name message artifact)) s

theorem instructed_of_runInstruction {instruction : Instruction} {x : Except RunError Unit}
    (h : runInstruction inner module artifact instruction s = some (x, t)) :
    Instructed inner module artifact instruction s x t := by
  cases instruction with
  | store name value =>
    cases h
    exact .stored
  | print text =>
    cases h
    exact .printed
  | raise message =>
    obtain ⟨rfl, rfl⟩ := throw_inv h
    exact .raised
  | copy target source =>
    rw [runInstruction, look_bind] at h
    cases found : s.store.get? module source with
    | none =>
      rw [found] at h
      obtain ⟨rfl, rfl⟩ := throw_inv h
      exact .missing found
    | some value =>
      rw [found] at h
      cases h
      exact .copied found
  | importName name bind =>
    rw [runInstruction] at h
    obtain ⟨e, failed, rfl⟩ | ⟨imported, u, got, rest⟩ := bind_inv h
    · exact .importFailed failed
    cases bind with
    | some target =>
      cases rest
      exact .bound got
    | none =>
      by_cases same : Name.top name = name
      · simp only [outermost, if_pos same] at rest
        cases rest
        exact .boundItself got same
      · simp only [outermost, if_neg same] at rest
        obtain ⟨e, failed, rfl⟩ | ⟨package, v, found, last⟩ := bind_inv rest
        · exact .outermostFailed got failed
        · cases last
          exact .boundOutermost got found

/-- A property that single instructions keep up to the first that fails, and what holds if one
fails, carry over to all instructions. -/
theorem runInstructions_induct {P : Interpreter → Prop} {Q : RunError → Interpreter → Prop}
    {instructions : List Instruction}
    (ended : ∀ {s t}, ∀ instruction ∈ instructions, P s →
      runInstruction inner module artifact instruction s = some (.ok (), t) → P t)
    (failed : ∀ {s t e}, ∀ instruction ∈ instructions, P s →
      runInstruction inner module artifact instruction s = some (.error e, t) → Q e t)
    (start : P s) {x : Except RunError Unit}
    (h : runInstructions inner module artifact instructions s = some (x, t)) :
    (x = .ok () ∧ P t) ∨ ∃ e, x = .error e ∧ Q e t := by
  induction instructions generalizing s with
  | nil =>
    obtain ⟨rfl, rfl⟩ := pure_inv h
    exact .inl ⟨rfl, start⟩
  | cons instruction rest ih =>
    rw [runInstructions] at h
    obtain ⟨e, stopped, rfl⟩ | ⟨_, u, ran, rest⟩ := bind_inv h
    · exact .inr ⟨e, rfl, failed instruction List.mem_cons_self start stopped⟩
    · exact ih (fun i member => ended i (List.mem_cons_of_mem _ member))
        (fun i member => failed i (List.mem_cons_of_mem _ member))
        (ended instruction List.mem_cons_self start ran) rest

end Body

end ModuleImport
