import Mathlib.Data.List.TakeWhile
import ModuleImport.Name

namespace ModuleImport.Name

variable {name parent : String}

theorem parent?_eq_some_iff :
    parent? name = some parent ↔
      parent ≠ "" ∧ ∃ back, name.toList = parent.toList ++ '.' :: back ∧ '.' ∉ back := by
  unfold parent?
  constructor
  · intro h
    split at h
    · rename_i front back cut
      split at h
      · cases h
      · rename_i someFront
        cases h
        rw [String.toList_ofList]
        refine ⟨?_, back, Text.cutLast?_eq_some_iff.mp cut⟩
        intro empty
        have := congrArg String.toList empty
        rw [String.toList_ofList] at this
        simp [this] at someFront
    · cases h
  · rintro ⟨someFront, back, whole, last⟩
    rw [whole, Text.cutLast?_append _ last]
    have : parent.toList ≠ [] := fun h => someFront (String.toList_inj.mp h)
    simp [this]

theorem toList_of_parent {last : String} (isParent : parent? name = some parent)
    (isLast : lastSegment? name = some last) :
    name.toList = parent.toList ++ '.' :: last.toList := by
  obtain ⟨-, back, whole, noDot⟩ := parent?_eq_some_iff.mp isParent
  unfold lastSegment? at isLast
  rw [whole, Text.cutLast?_append _ noDot] at isLast
  dsimp only at isLast
  split at isLast
  · cases isLast
  · cases isLast
    rw [whole, String.toList_ofList]

/-- No two names have the same parent and the same last segment. -/
theorem eq_of_parent_of_lastSegment {other last : String} (isParent : parent? name = some parent)
    (isLast : lastSegment? name = some last) (otherParent : parent? other = some parent)
    (otherLast : lastSegment? other = some last) : name = other :=
  String.toList_inj.mp
    ((toList_of_parent isParent isLast).trans (toList_of_parent otherParent otherLast).symm)

theorem segments_of_parent (h : parent? name = some parent) :
    ∃ last, segments name = segments parent ++ [last] := by
  obtain ⟨-, back, whole, noDot⟩ := parent?_eq_some_iff.mp h
  refine ⟨String.ofList back, ?_⟩
  unfold segments
  rw [whole, Text.pieces_append_cons, Text.pieces_of_not_mem noDot, List.map_append]
  rfl

theorem segments_of_lastSegment {last : String} (h : parent? name = some parent)
    (isLast : lastSegment? name = some last) : segments name = segments parent ++ [last] := by
  obtain ⟨-, back, whole, noDot⟩ := parent?_eq_some_iff.mp h
  have same : back = last.toList := by
    have text := toList_of_parent h isLast
    rw [whole] at text
    exact (List.cons.inj (List.append_cancel_left text)).2
  unfold segments
  rw [whole, Text.pieces_append_cons, Text.pieces_of_not_mem noDot, List.map_append,
    List.map_singleton, same, String.ofList_toList]

theorem length_segments_of_parent (h : parent? name = some parent) :
    (segments name).length = (segments parent).length + 1 := by
  obtain ⟨last, whole⟩ := segments_of_parent h
  rw [whole, List.length_append]
  rfl

theorem length_segments_pos (name : String) : 0 < (segments name).length := by
  unfold segments
  rw [List.length_map]
  exact List.length_pos_iff.mpr (Text.pieces_ne_nil _ _)

theorem isImportable_of_parent (h : parent? name = some parent)
    (importable : isImportable name = true) : isImportable parent = true := by
  obtain ⟨last, whole⟩ := segments_of_parent h
  unfold isImportable at importable ⊢
  rw [whole, List.all_append, Bool.and_eq_true] at importable
  exact importable.1

theorem top_of_parent (h : parent? name = some parent) : top name = top parent := by
  obtain ⟨-, back, whole, -⟩ := parent?_eq_some_iff.mp h
  unfold top
  rw [whole, List.takeWhile_append]
  split
  · rename_i all
    rw [List.takeWhile_cons_of_neg (by decide), List.append_nil,
      (List.takeWhile_prefix _).eq_of_length all]
  · rfl

theorem not_mem_of_parent_eq_none (h : parent? name = none) (importable : isImportable name = true) :
    '.' ∉ name.toList := by
  intro dotted
  unfold parent? at h
  cases cut : Text.cutLast? '.' name.toList with
  | none => exact Text.cutLast?_eq_none_iff.mp cut dotted
  | some parts =>
    obtain ⟨front, back⟩ := parts
    rw [cut] at h
    obtain ⟨whole, -⟩ := Text.cutLast?_eq_some_iff.mp cut
    cases front with
    | cons c front => simp at h
    | nil =>
      unfold isImportable segments at importable
      rw [whole, Text.pieces_append_cons] at importable
      simp [Text.pieces] at importable

theorem segments_of_parent_eq_none {last : String} (h : parent? name = none)
    (importable : isImportable name = true) (isLast : lastSegment? name = some last) :
    segments name = [last] := by
  have noDot := not_mem_of_parent_eq_none h importable
  have whole : name = last := by
    unfold lastSegment? at isLast
    rw [Text.cutLast?_eq_none_iff.mpr noDot] at isLast
    dsimp only at isLast
    split at isLast
    · cases isLast
    · rw [String.ofList_toList] at isLast
      exact Option.some.inj isLast
  rw [segments, Text.pieces_of_not_mem noDot, List.map_singleton, String.ofList_toList, whole]

theorem top_of_parent_eq_none (h : parent? name = none) (importable : isImportable name = true) :
    top name = name := by
  have noDot := not_mem_of_parent_eq_none h importable
  unfold top
  have all : name.toList.takeWhile (· ≠ '.') = name.toList := by
    rw [List.takeWhile_eq_self_iff]
    intro c member
    rw [decide_eq_true_eq]
    rintro rfl
    exact noDot member
  rw [all, String.ofList_toList]

/-- A name and the names of the packages around it, the innermost first. -/
def prefixes (name : String) : List String :=
  match _isParent : parent? name with
  | some parent => name :: prefixes parent
  | none => [name]
termination_by name.length
decreasing_by exact length_parent_lt _isParent

theorem prefixes_of_parent (h : parent? name = some parent) :
    prefixes name = name :: prefixes parent := by
  rw [prefixes]
  split <;> simp_all

theorem prefixes_of_parent_eq_none (h : parent? name = none) : prefixes name = [name] := by
  rw [prefixes]
  split <;> simp_all

theorem self_mem_prefixes (name : String) : name ∈ prefixes name := by
  rw [prefixes]
  split <;> exact List.mem_cons_self

theorem prefixes_induct {P : String → Prop} (step : ∀ {name parent}, parent? name = some parent →
    P name → P parent) (start : P name) : ∀ enclosing ∈ prefixes name, P enclosing := by
  intro enclosing member
  induction name using prefixes.induct with
  | case1 name parent h ih =>
    rw [prefixes_of_parent h] at member
    rcases List.mem_cons.mp member with rfl | member
    · exact start
    · exact ih (step h start) member
  | case2 name h =>
    rw [prefixes_of_parent_eq_none h] at member
    rcases List.mem_singleton.mp member with rfl
    exact start

theorem parent_mem_prefixes {enclosing : String} (member : enclosing ∈ prefixes name)
    (h : parent? enclosing = some parent) : parent ∈ prefixes name := by
  induction name using prefixes.induct with
  | case1 name next isParent ih =>
    rw [prefixes_of_parent isParent] at member ⊢
    rcases List.mem_cons.mp member with rfl | member
    · rw [isParent] at h
      cases h
      exact List.mem_cons_of_mem _ (self_mem_prefixes _)
    · exact List.mem_cons_of_mem _ (ih member)
  | case2 name none =>
    rw [prefixes_of_parent_eq_none none] at member
    rcases List.mem_singleton.mp member with rfl
    rw [none] at h
    cases h

theorem top_mem_prefixes (importable : isImportable name = true) : top name ∈ prefixes name := by
  induction name using prefixes.induct with
  | case1 name parent h ih =>
    rw [prefixes_of_parent h, top_of_parent h]
    exact List.mem_cons_of_mem _ (ih (isImportable_of_parent h importable))
  | case2 name h =>
    rw [top_of_parent_eq_none h importable]
    exact self_mem_prefixes name

theorem length_prefixes_le (name : String) : (prefixes name).length ≤ (segments name).length := by
  induction name using prefixes.induct with
  | case1 name parent h ih =>
    rw [prefixes_of_parent h, length_segments_of_parent h, List.length_cons]
    exact Nat.succ_le_succ ih
  | case2 name h =>
    rw [prefixes_of_parent_eq_none h]
    exact length_segments_pos name

theorem length_segments_le_of_mem_prefixes {enclosing : String} (member : enclosing ∈ prefixes name) :
    (segments enclosing).length ≤ (segments name).length := by
  refine prefixes_induct (P := fun other => (segments other).length ≤ (segments name).length) ?_
    (Nat.le_refl _) enclosing member
  intro other parent h le
  have := length_segments_of_parent h
  omega

end ModuleImport.Name
