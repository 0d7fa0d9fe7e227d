import ModuleImport.Interpreter.Import

namespace ModuleImport.Run

variable {α β ε δ : Type} {s s' : Interpreter}

abbrev Failing (ε α : Type) := ExceptT ε (StateT Interpreter Option) α

/-- What is computed to be well is so, also where results are compared by their value only. -/
theorem eq_ok_of_toOption {x : Except ε α} {a : α} (h : x.toOption = some a) : x = .ok a := by
  cases x with
  | error e => cases h
  | ok b =>
    cases h
    rfl

theorem bind_inv {r : Failing ε α} {f : α → Failing ε β} {x : Except ε β}
    (h : (r >>= f) s = some (x, s')) :
    (∃ e, r s = some (.error e, s') ∧ x = .error e) ∨
      ∃ a t, r s = some (.ok a, t) ∧ f a t = some (x, s') := by
  change (r s).bind (fun p => ExceptT.bindCont f p.1 p.2) = some (x, s') at h
  cases hr : r s with
  | none =>
    rw [hr] at h
    cases h
  | some p =>
    obtain ⟨y, t⟩ := p
    rw [hr] at h
    cases y with
    | error e =>
      cases h
      exact .inl ⟨e, rfl, rfl⟩
    | ok a => exact .inr ⟨a, t, rfl, h⟩

theorem bind_of_ok {r : Failing ε α} {f : α → Failing ε β} {a : α} (h : r s = some (.ok a, s')) :
    (r >>= f) s = f a s' := by
  change (r s).bind (fun p => ExceptT.bindCont f p.1 p.2) = f a s'
  rw [h]
  rfl

theorem bind_of_error {r : Failing ε α} {f : α → Failing ε β} {e : ε}
    (h : r s = some (.error e, s')) : (r >>= f) s = some (.error e, s') := by
  change (r s).bind (fun p => ExceptT.bindCont f p.1 p.2) = _
  rw [h]
  rfl

theorem tryCatch_inv {r : Failing ε α} {f : ε → Failing ε α} {x : Except ε α}
    (h : (tryCatch r f) s = some (x, s')) :
    (∃ a, r s = some (.ok a, s') ∧ x = .ok a) ∨
      ∃ e t, r s = some (.error e, t) ∧ f e t = some (x, s') := by
  simp only [tryCatch, tryCatchThe, MonadExceptOf.tryCatch, ExceptT.tryCatch, ExceptT.mk, bind,
    StateT.bind] at h
  cases hr : r s with
  | none =>
    rw [hr] at h
    cases h
  | some p =>
    obtain ⟨y, t⟩ := p
    rw [hr] at h
    cases y with
    | error e => exact .inr ⟨e, t, rfl, h⟩
    | ok a =>
      cases h
      exact .inl ⟨a, rfl, rfl⟩

theorem tryCatch_of_ok {r : Failing ε α} {f : ε → Failing ε α} {a : α}
    (h : r s = some (.ok a, s')) : (tryCatch r f) s = some (.ok a, s') := by
  simp only [tryCatch, tryCatchThe, MonadExceptOf.tryCatch, ExceptT.tryCatch, ExceptT.mk, bind,
    StateT.bind, h]
  rfl

theorem tryCatch_of_error {r : Failing ε α} {f : ε → Failing ε α} {e : ε}
    (h : r s = some (.error e, s')) : (tryCatch r f) s = f e s' := by
  simp only [tryCatch, tryCatchThe, MonadExceptOf.tryCatch, ExceptT.tryCatch, ExceptT.mk, bind,
    StateT.bind, h]
  rfl

theorem adapt_eq (r : Failing ε α) (f : ε → δ) (s : Interpreter) :
    (ExceptT.adapt f r) s = (r s).map fun p => (p.1.mapError f, p.2) := by
  change (r s).bind _ = _
  cases r s <;> rfl

theorem adapt_inv {r : Failing ε α} {f : ε → δ} {x : Except δ α}
    (h : (ExceptT.adapt f r) s = some (x, s')) :
    ∃ y, r s = some (y, s') ∧ x = y.mapError f := by
  rw [adapt_eq] at h
  cases hr : r s with
  | none =>
    rw [hr] at h
    cases h
  | some p =>
    rw [hr] at h
    cases h
    exact ⟨p.1, rfl, rfl⟩

theorem adapt_of_ok {r : Failing ε α} (f : ε → δ) {a : α} (h : r s = some (.ok a, s')) :
    (ExceptT.adapt f r) s = some (.ok a, s') := by
  rw [adapt_eq, h]
  rfl

theorem adapt_of_error {r : Failing ε α} (f : ε → δ) {e : ε} (h : r s = some (.error e, s')) :
    (ExceptT.adapt f r) s = some (.error (f e), s') := by
  rw [adapt_eq, h]
  rfl

theorem pure_inv {a : α} {x : Except ε α} (h : (pure a : Failing ε α) s = some (x, s')) :
    x = .ok a ∧ s' = s := by
  cases h
  exact ⟨rfl, rfl⟩

theorem throw_inv {e : ε} {x : Except ε α} (h : (throw e : Failing ε α) s = some (x, s')) :
    x = .error e ∧ s' = s := by
  cases h
  exact ⟨rfl, rfl⟩

theorem change_bind {f : Interpreter → Interpreter} {r : Unit → Run α} :
    (change f >>= r) s = r () (f s) := rfl

theorem look_bind {f : Interpreter → α} {r : α → Run β} : (look f >>= r) s = r (f s) s := rfl

theorem step_bind {f : Interpreter → α × Interpreter} {r : α → Run β} :
    (step f >>= r) s = r (f s).1 (f s).2 := rfl

end ModuleImport.Run
