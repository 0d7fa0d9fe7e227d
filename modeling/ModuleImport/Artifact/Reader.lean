import ModuleImport.Artifact.Error

namespace ModuleImport.Artifact

abbrev Reader (α : Type) := StateT (List UInt8) (Except BodyError) α

namespace Reader

variable {α β : Type}

theorem bind_eq_ok_iff {r : Reader α} {f : α → Reader β} {bytes : List UInt8}
    {result : β × List UInt8} :
    (r >>= f) bytes = .ok result ↔ ∃ a rest, r bytes = .ok (a, rest) ∧ f a rest = .ok result := by
  change (r bytes).bind (fun p => f p.1 p.2) = .ok result ↔ _
  cases r bytes with
  | error e => simp [Except.bind]
  | ok p =>
    obtain ⟨a, rest⟩ := p
    simp [Except.bind, and_assoc]

theorem bind_of_eq_ok {r : Reader α} (f : α → Reader β) {bytes rest : List UInt8} {a : α}
    (h : r bytes = .ok (a, rest)) : (r >>= f) bytes = f a rest := by
  change (r bytes).bind (fun p => f p.1 p.2) = _
  rw [h]
  rfl

theorem map_eq_ok_iff {r : Reader α} {f : α → β} {bytes rest : List UInt8} {b : β} :
    (f <$> r) bytes = .ok (b, rest) ↔ ∃ a, r bytes = .ok (a, rest) ∧ f a = b := by
  change (r bytes).map (fun p => (f p.1, p.2)) = .ok (b, rest) ↔ _
  cases r bytes with
  | error e => simp [Except.map]
  | ok p =>
    obtain ⟨a, left⟩ := p
    simp only [Except.map, Except.ok.injEq, Prod.mk.injEq]
    exact ⟨fun ⟨hb, hrest⟩ => ⟨a, ⟨rfl, hrest⟩, hb⟩,
      fun ⟨_, ⟨ha, hrest⟩, hb⟩ => ⟨ha ▸ hb, hrest⟩⟩

theorem map_of_eq_ok {r : Reader α} (f : α → β) {bytes rest : List UInt8} {a : α}
    (h : r bytes = .ok (a, rest)) : (f <$> r) bytes = .ok (f a, rest) :=
  map_eq_ok_iff.2 ⟨a, h, rfl⟩

theorem pure_eq_ok_iff {a b : α} {bytes rest : List UInt8} :
    (pure a : Reader α) bytes = .ok (b, rest) ↔ a = b ∧ bytes = rest := by
  change Except.ok (a, bytes) = .ok (b, rest) ↔ _
  simp

end Reader

/-- The first bytes, which must be there; `missing` is what is wrong if they are not. -/
def takeBytes (count : Nat) (missing : BodyError) : Reader (List UInt8) := fun bytes =>
  if (bytes.take count).length < count then .error missing
  else .ok (bytes.take count, bytes.drop count)

theorem takeBytes_append (xs rest : List UInt8) (missing : BodyError) :
    takeBytes xs.length missing (xs ++ rest) = .ok (xs, rest) := by
  simp [takeBytes]

theorem eq_append_of_takeBytes {count : Nat} {missing : BodyError}
    {bytes front rest : List UInt8} (h : takeBytes count missing bytes = .ok (front, rest)) :
    bytes = front ++ rest ∧ front.length = count := by
  unfold takeBytes at h
  split at h
  · cases h
  · rename_i enough
    obtain ⟨rfl, rfl⟩ := Prod.mk.inj (Except.ok.inj h)
    refine ⟨(List.take_append_drop count bytes).symm, ?_⟩
    have := List.length_take_le count bytes
    omega

end ModuleImport.Artifact
