import Mathlib.Tactic.Choose
import ModuleImport.Loading.Load

namespace ModuleImport

/-- A call to a host, with the host's answer. -/
inductive HostCall (μ ε : Type) where
  | getOrCreate (name : String) (answer : Except ε (Registration μ))
  | setAttribute (module : μ) (attr : ModuleAttribute) (answer : Except ε Unit)
  | execute (module : μ) (code : Code) (artifact : Path) (answer : Except ε Unit)
  | remove (name : String)

variable {m : Type → Type} [Monad m] {μ ε α β γ δ : Type}

def HostCall.error? : HostCall μ ε → Option ε
  | getOrCreate _ (.error e) => some e
  | setAttribute _ _ (.error e) => some e
  | execute _ _ _ (.error e) => some e
  | _ => none

/-- A computation that also keeps the calls that were made to a host. -/
abbrev Noting (m : Type → Type) (μ ε δ α : Type) := ExceptT δ (StateT (List (HostCall μ ε)) m) α

/-- Notes a call when its answer is there. -/
def noteCall (call : α → HostCall μ ε) (act : m α) : StateT (List (HostCall μ ε)) m α :=
  fun calls => (fun answer => (answer, calls ++ [call answer])) <$> act

/-- The same host, except that it notes the calls made to it. -/
def Host.noting (host : Host m μ ε) : Host (StateT (List (HostCall μ ε)) m) μ ε where
  getOrCreate name := .mk (noteCall (.getOrCreate name) (host.getOrCreate name).run)
  setAttribute module attr :=
    .mk (noteCall (.setAttribute module attr) (host.setAttribute module attr).run)
  execute module code artifact :=
    .mk (noteCall (.execute module code artifact) (host.execute module code artifact).run)
  remove name := noteCall (fun _ => .remove name) (host.remove name)

/-- What is known of the result of a computation and of the calls made on the way. -/
abbrev Expected (μ ε δ α : Type) := Except δ α → List (HostCall μ ε) → Prop

/-- A computation with a noting host and the same one with the host itself: they have the same
effects and the same result, and in every run the result and the calls are as expected. All effects
of both are those of one computation, whose results come with the calls made and with a proof that
they are as expected. -/
def Notes (noting : Noting m μ ε δ α) (plain : ExceptT δ m α) (expected : Expected μ ε δ α) :
    Prop :=
  ∃ run : m {r : Except δ α × List (HostCall μ ε) // expected r.1 r.2},
    (∀ before, noting.run.run before = (fun r => (r.1.1, before ++ r.1.2)) <$> run) ∧
      plain.run = (fun r => r.1.1) <$> run

/-- How a computation that is watched for errors goes on when it has ended. -/
def rescue (handle : δ → ExceptT δ m α) : Except δ α → ExceptT δ m α
  | .ok a => pure a
  | .error e => handle e

theorem tryCatch_eq (act : ExceptT δ m α) (handle : δ → ExceptT δ m α) :
    tryCatch act handle = ExceptT.mk (act.run >>= fun x => (rescue handle x).run) := by
  simp only [tryCatch, tryCatchThe, MonadExceptOf.tryCatch, ExceptT.tryCatch]
  congr 2
  funext x
  cases x <;> rfl

section Rules

variable [LawfulMonad m] {noting : Noting m μ ε δ α} {plain : ExceptT δ m α}
  {expected : Expected μ ε δ α}

theorem Notes.mono (h : Notes noting plain expected) {weaker : Expected μ ε δ α}
    (le : ∀ x calls, expected x calls → weaker x calls) : Notes noting plain weaker := by
  obtain ⟨run, same, result⟩ := h
  refine ⟨(fun r => ⟨r.1, le _ _ r.2⟩) <$> run, fun before => ?_, ?_⟩
  · rw [same before, Functor.map_map]
  · rw [result, Functor.map_map]

theorem Notes.at {σ : Type} {noting : Noting (StateM σ) μ ε δ α} {plain : ExceptT δ (StateM σ) α}
    {expected : Expected μ ε δ α} (h : Notes noting plain expected) (s : σ) :
    ∃ x calls s', noting.run.run [] s = ((x, calls), s') ∧ plain.run s = (x, s') ∧
      expected x calls := by
  obtain ⟨run, same, result⟩ := h
  refine ⟨(run s).1.1.1, (run s).1.1.2, (run s).2, ?_, ?_, (run s).1.2⟩
  · rw [same []]
    rfl
  · rw [result]
    rfl

theorem notes_pure (a : α) :
    Notes (m := m) (μ := μ) (ε := ε) (δ := δ) (pure a) (pure a)
      fun x calls => x = .ok a ∧ calls = [] := by
  refine ⟨pure ⟨(.ok a, []), rfl, rfl⟩, fun before => ?_, ?_⟩
  · rw [map_pure, List.append_nil]
    rfl
  · rw [map_pure]
    rfl

theorem notes_throw (e : δ) :
    Notes (m := m) (μ := μ) (ε := ε) (α := α) (throw e) (throw e)
      fun x calls => x = .error e ∧ calls = [] := by
  refine ⟨pure ⟨(.error e, []), rfl, rfl⟩, fun before => ?_, ?_⟩
  · rw [map_pure, List.append_nil]
    rfl
  · rw [map_pure]
    rfl

theorem notes_call (call : Except δ α → HostCall μ ε) (act : ExceptT δ m α) :
    Notes (.mk (noteCall call act.run)) act fun x calls => calls = [call x] := by
  refine ⟨(fun x => ⟨(x, [call x]), rfl⟩) <$> act.run, fun before => ?_, ?_⟩
  · rw [Functor.map_map]
    rfl
  · rw [Functor.map_map, id_map']

theorem notes_lift (call : α → HostCall μ ε) (act : m α) :
    Notes (m := m) (δ := δ) (liftM (noteCall call act)) (liftM act)
      fun x calls => ∃ a, x = .ok a ∧ calls = [call a] := by
  refine ⟨(fun a => ⟨(.ok a, [call a]), a, rfl, rfl⟩) <$> act, fun before => ?_, ?_⟩
  · have lifted : (liftM (noteCall call act) : Noting m μ ε δ α).run.run before =
        (fun p => (.ok p.1, p.2)) <$> noteCall call act before := StateT.run_map ..
    rw [lifted, noteCall, Functor.map_map, Functor.map_map]
  · have lifted : (liftM act : ExceptT δ m α).run = Except.ok <$> act := rfl
    rw [lifted, Functor.map_map]

/-- One computation after another, which goes on in a way that depends on how the first ended. -/
theorem Notes.andThen {next : Except δ α → Noting m μ ε γ β}
    {plainNext : Except δ α → ExceptT γ m β} {expectedNext : Except δ α → Expected μ ε γ β}
    (h : Notes noting plain expected)
    (hnext : ∀ x, Notes (next x) (plainNext x) (expectedNext x)) :
    Notes (ExceptT.mk (noting.run >>= fun x => (next x).run))
      (ExceptT.mk (plain.run >>= fun x => (plainNext x).run))
      fun y calls => ∃ x first rest,
        expected x first ∧ expectedNext x y rest ∧ calls = first ++ rest := by
  obtain ⟨run, same, result⟩ := h
  choose runNext sameNext resultNext using hnext
  refine ⟨run >>= fun r => (fun r' => ⟨(r'.1.1, r.1.2 ++ r'.1.2),
    r.1.1, r.1.2, r'.1.2, r.2, r'.2, rfl⟩) <$> runNext r.1.1, fun before => ?_, ?_⟩
  · have first : (ExceptT.mk (noting.run >>= fun x => (next x).run)).run.run before =
        noting.run.run before >>= fun p => (next p.1).run.run p.2 := rfl
    rw [first, same before, bind_map_left, map_bind]
    simp only [sameNext, Functor.map_map, List.append_assoc]
  · have first : (ExceptT.mk (plain.run >>= fun x => (plainNext x).run)).run =
        plain.run >>= fun x => (plainNext x).run := rfl
    rw [first, result, bind_map_left, map_bind]
    simp only [resultNext, Functor.map_map]

theorem Notes.bind {next : α → Noting m μ ε δ β} {plainNext : α → ExceptT δ m β}
    {expectedNext : α → Expected μ ε δ β} (h : Notes noting plain expected)
    (hnext : ∀ a, Notes (next a) (plainNext a) (expectedNext a)) :
    Notes (noting >>= next) (plain >>= plainNext) fun y calls =>
      (∃ e, expected (.error e) calls ∧ y = .error e) ∨
        ∃ a first rest,
          expected (.ok a) first ∧ expectedNext a y rest ∧ calls = first ++ rest := by
  have ended : ∀ x, Notes (ExceptT.mk (ExceptT.bindCont next x))
      (ExceptT.mk (ExceptT.bindCont plainNext x)) fun y calls => match x with
        | .error e => y = .error e ∧ calls = []
        | .ok a => expectedNext a y calls
    | .error e => notes_throw e
    | .ok a => hnext a
  refine (h.andThen ended).mono fun y calls made => ?_
  obtain ⟨_ | a, first, rest, expectedFirst, expectedRest, rfl⟩ := made
  · obtain ⟨rfl, rfl⟩ := expectedRest
    rw [List.append_nil]
    exact .inl ⟨_, expectedFirst, rfl⟩
  · exact .inr ⟨a, first, rest, expectedFirst, expectedRest, rfl⟩

theorem Notes.tryCatch {handle : δ → Noting m μ ε δ α} {plainHandle : δ → ExceptT δ m α}
    {expectedHandle : δ → Expected μ ε δ α} (h : Notes noting plain expected)
    (hhandle : ∀ e, Notes (handle e) (plainHandle e) (expectedHandle e)) :
    Notes (tryCatch noting handle) (tryCatch plain plainHandle) fun y calls =>
      (∃ a, expected (.ok a) calls ∧ y = .ok a) ∨
        ∃ e first rest,
          expected (.error e) first ∧ expectedHandle e y rest ∧ calls = first ++ rest := by
  have ended : ∀ x, Notes (rescue handle x) (rescue plainHandle x) fun y calls => match x with
        | .ok a => y = .ok a ∧ calls = []
        | .error e => expectedHandle e y calls
    | .ok a => notes_pure a
    | .error e => hhandle e
  rw [tryCatch_eq, tryCatch_eq]
  refine (h.andThen ended).mono fun y calls made => ?_
  obtain ⟨e | a, first, rest, expectedFirst, expectedRest, rfl⟩ := made
  · exact .inr ⟨e, first, rest, expectedFirst, expectedRest, rfl⟩
  · obtain ⟨rfl, rfl⟩ := expectedRest
    rw [List.append_nil]
    exact .inl ⟨_, expectedFirst, rfl⟩

theorem Notes.adapt (h : Notes noting plain expected) (f : δ → γ) :
    Notes (ExceptT.adapt f noting) (ExceptT.adapt f plain)
      fun y calls => ∃ x, expected x calls ∧ y = x.mapError f := by
  obtain ⟨run, same, result⟩ := h
  refine ⟨(fun r => ⟨(r.1.1.mapError f, r.1.2), r.1.1, r.2, rfl⟩) <$> run, fun before => ?_, ?_⟩
  · have mapped : (ExceptT.adapt f noting).run.run before =
        (fun p => (p.1.mapError f, p.2)) <$> noting.run.run before :=
      StateT.run_map _ _ _
    rw [mapped, same before, Functor.map_map, Functor.map_map]
  · have mapped : (ExceptT.adapt f plain).run = Except.mapError f <$> plain.run := rfl
    rw [mapped, result, Functor.map_map, Functor.map_map]

end Rules

end ModuleImport
