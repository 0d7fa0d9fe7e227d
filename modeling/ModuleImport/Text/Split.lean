namespace ModuleImport.Text

/-- All pieces between separators, empty ones included; text without a separator is one piece. -/
def pieces (sep : Char) : List Char → List (List Char)
  | [] => [[]]
  | c :: cs =>
    match pieces sep cs with
    | [] => [[c]]
    | p :: ps => if c = sep then [] :: p :: ps else (c :: p) :: ps

def cutLast? (sep : Char) : List Char → Option (List Char × List Char)
  | [] => none
  | c :: cs =>
    match cutLast? sep cs with
    | some (front, back) => some (c :: front, back)
    | none => if c = sep then some ([], cs) else none

theorem pieces_ne_nil (sep : Char) (cs : List Char) : pieces sep cs ≠ [] := by
  cases cs with
  | nil => simp [pieces]
  | cons c cs => rw [pieces]; split <;> (try split) <;> simp

theorem pieces_cons (sep c : Char) (cs : List Char) :
    pieces sep (c :: cs) =
      if c = sep then [] :: pieces sep cs
      else (c :: (pieces sep cs).head (pieces_ne_nil sep cs)) :: (pieces sep cs).tail := by
  rw [pieces]
  split
  · exact absurd ‹_› (pieces_ne_nil sep cs)
  · simp [*]

theorem not_mem_of_mem_pieces {sep : Char} {cs p : List Char} (h : p ∈ pieces sep cs) :
    sep ∉ p := by
  induction cs generalizing p with
  | nil => simp [pieces] at h; simp [h]
  | cons c cs ih =>
    rw [pieces_cons] at h
    split at h
    · rcases List.mem_cons.1 h with rfl | h
      · simp
      · exact ih h
    · rcases List.mem_cons.1 h with rfl | h
      · have : sep ∉ (pieces sep cs).head _ := ih (List.head_mem (pieces_ne_nil sep cs))
        simp_all [eq_comm]
      · exact ih (List.mem_of_mem_tail h)

theorem mem_iff_mem_pieces {sep c : Char} (ne : c ≠ sep) (cs : List Char) :
    c ∈ cs ↔ ∃ piece ∈ pieces sep cs, c ∈ piece := by
  induction cs with
  | nil => simp [pieces]
  | cons d cs ih =>
    obtain ⟨piece, rest, whole⟩ := List.exists_cons_of_ne_nil (pieces_ne_nil sep cs)
    rw [List.mem_cons, ih, pieces, whole]
    dsimp only
    by_cases same : d = sep
    · simp [same, ne]
    · simp [same, or_assoc]

theorem pieces_of_not_mem {sep : Char} {cs : List Char} (h : sep ∉ cs) : pieces sep cs = [cs] := by
  induction cs with
  | nil => rfl
  | cons c cs ih =>
    rw [List.mem_cons, not_or] at h
    simp [pieces, ih h.2, Ne.symm h.1]

theorem pieces_append_cons (sep : Char) (xs ys : List Char) :
    pieces sep (xs ++ sep :: ys) = pieces sep xs ++ pieces sep ys := by
  induction xs with
  | nil => simp [pieces_cons, pieces]
  | cons x xs ih =>
    rw [List.cons_append, pieces_cons, pieces_cons]
    split
    · simp [ih]
    · simp [ih, pieces_ne_nil]

theorem cutLast?_eq_none_iff {sep : Char} {cs : List Char} :
    cutLast? sep cs = none ↔ sep ∉ cs := by
  induction cs with
  | nil => simp [cutLast?]
  | cons c cs ih =>
    rw [cutLast?]
    cases h : cutLast? sep cs with
    | some p => simp_all
    | none =>
      by_cases hc : c = sep
      · simp [hc]
      · simp [hc, Ne.symm hc, ih.1 h]

theorem cutLast?_append {sep : Char} (front : List Char) {back : List Char} (h : sep ∉ back) :
    cutLast? sep (front ++ sep :: back) = some (front, back) := by
  induction front with
  | nil => simp [cutLast?, cutLast?_eq_none_iff.2 h]
  | cons c front ih => simp [cutLast?, ih]

/-- The cut is at a separator, and at the last one. -/
theorem cutLast?_eq_some_iff {sep : Char} {cs front back : List Char} :
    cutLast? sep cs = some (front, back) ↔ cs = front ++ sep :: back ∧ sep ∉ back := by
  refine ⟨fun h => ?_, fun ⟨hcs, hback⟩ => hcs ▸ cutLast?_append front hback⟩
  induction cs generalizing front with
  | nil => simp [cutLast?] at h
  | cons c cs ih =>
    rw [cutLast?] at h
    cases hcut : cutLast? sep cs with
    | some p =>
      rw [hcut] at h
      obtain ⟨rfl, rfl⟩ := Prod.mk.inj (Option.some.inj h)
      obtain ⟨hcs, hback⟩ := ih hcut
      exact ⟨by rw [hcs]; rfl, hback⟩
    | none =>
      rw [hcut] at h
      by_cases hc : c = sep
      · simp only [hc, if_true, Option.some.injEq, Prod.mk.injEq] at h
        obtain ⟨rfl, rfl⟩ := h
        exact ⟨by rw [hc]; rfl, cutLast?_eq_none_iff.1 hcut⟩
      · simp [hc] at h

end ModuleImport.Text
