import Mathlib.Data.List.Infix
import ModuleImport.Proofs.Name.Prefixes

namespace ModuleImport.Name

/-- A part of a dotted name: it has text, and no dot in it. -/
structure IsPart (part : String) : Prop where
  text : part ≠ ""
  noDot : '.' ∉ part.toList

/-- A segment that names a single file: it has text, and neither a dot nor a slash in it. -/
structure IsSegment (segment : String) : Prop where
  text : segment ≠ ""
  noDot : '.' ∉ segment.toList
  noSlash : '/' ∉ segment.toList

/-- The name with some segments. -/
def dotted (segments : List String) : String :=
  ".".intercalate segments

/-- The text that a name ends in: what stands behind its last dot, or all of it. -/
def ending (name : String) : String :=
  (segments name).getLastD ""

variable {name front last part : String} {outer other parts : List String} {segment : String}

theorem IsSegment.isPart (isSegment : IsSegment segment) : IsPart segment :=
  ⟨isSegment.text, isSegment.noDot⟩

section Ending

theorem segments_of_noDot (noDot : '.' ∉ name.toList) : segments name = [name] := by
  rw [segments, Text.pieces_of_not_mem noDot, List.map_singleton, String.ofList_toList]

theorem segments_dot (front back : String) :
    segments (front ++ "." ++ back) = segments front ++ segments back := by
  have text : (front ++ "." ++ back).toList = front.toList ++ '.' :: back.toList := by simp
  rw [segments, text, Text.pieces_append_cons, List.map_append]
  rfl

theorem ending_of_noDot (noDot : '.' ∉ name.toList) : ending name = name := by
  rw [ending, segments_of_noDot noDot]
  rfl

theorem ending_dot (front : String) (noDot : '.' ∉ last.toList) :
    ending (front ++ "." ++ last) = last := by
  rw [ending, segments_dot, segments_of_noDot noDot, List.getLastD_concat]

theorem ending_cases (name : String) :
    '.' ∉ (ending name).toList ∧ (name = ending name ∧ Text.cutLast? '.' name.toList = none ∨
      ∃ front, name = front ++ "." ++ ending name ∧
        Text.cutLast? '.' name.toList = some (front.toList, (ending name).toList)) := by
  cases cut : Text.cutLast? '.' name.toList with
  | none =>
    have noDot := Text.cutLast?_eq_none_iff.mp cut
    rw [ending_of_noDot noDot]
    exact ⟨noDot, .inl ⟨rfl, rfl⟩⟩
  | some sides =>
    obtain ⟨front, back⟩ := sides
    obtain ⟨whole, noDot⟩ := Text.cutLast?_eq_some_iff.mp cut
    obtain rfl : name = String.ofList front ++ "." ++ String.ofList back := by
      apply String.toList_inj.mp
      rw [whole]
      simp
    rw [← String.toList_ofList (l := back)] at noDot
    rw [ending_dot _ noDot]
    exact ⟨noDot, .inr ⟨String.ofList front, rfl, by simp⟩⟩

theorem noDot_ending (name : String) : '.' ∉ (ending name).toList :=
  (ending_cases name).1

theorem ending_suffix (name : String) : (ending name).toList <:+ name.toList := by
  rcases (ending_cases name).2 with ⟨whole, -⟩ | ⟨front, whole, -⟩
  · rw [← whole]
  · exact ⟨front.toList ++ ['.'], by rw [whole, ending_dot _ (noDot_ending name)]; simp⟩

theorem lastSegment?_eq (name : String) :
    lastSegment? name = if ending name = "" then none else some (ending name) := by
  have last : lastSegment? name =
      if (ending name).toList.isEmpty then none else some (String.ofList (ending name).toList) := by
    unfold lastSegment?
    rcases (ending_cases name).2 with ⟨whole, cut⟩ | ⟨front, -, cut⟩
    · rw [cut, ← whole]
    · rw [cut]
  rw [last, String.ofList_toList]
  simp

theorem lastSegment?_eq_some_iff : lastSegment? name = some last ↔ last ≠ "" ∧ ending name = last := by
  rw [lastSegment?_eq]
  split
  · rename_i empty
    constructor
    · nofun
    · rintro ⟨some, rfl⟩
      exact absurd empty some
  · rename_i some
    rw [Option.some.injEq]
    constructor
    · rintro rfl
      exact ⟨some, rfl⟩
    · exact And.right

end Ending

section Parts

theorem dotted_singleton (segment : String) : dotted [segment] = segment :=
  String.intercalate_singleton

theorem dotted_concat (some : outer ≠ []) (segment : String) :
    dotted (outer ++ [segment]) = dotted outer ++ "." ++ segment := by
  rw [dotted, String.intercalate_append_of_ne_nil some (List.cons_ne_nil _ _),
    String.intercalate_singleton]
  rfl

theorem segments_dotted (some : parts ≠ []) (all : ∀ part ∈ parts, IsPart part) :
    segments (dotted parts) = parts := by
  unfold dotted
  induction parts with
  | nil => exact absurd rfl some
  | cons first rest ih =>
    have single := segments_of_noDot (all first List.mem_cons_self).noDot
    cases rest with
    | nil => rw [String.intercalate_singleton, single]
    | cons second rest =>
      have inside := ih (List.cons_ne_nil _ _) fun part member =>
        all part (List.mem_cons_of_mem _ member)
      rw [String.intercalate_cons_cons, segments_dot, single, inside]
      rfl

theorem dotted_ne_empty (some : parts ≠ []) (all : ∀ part ∈ parts, IsPart part) :
    dotted parts ≠ "" := by
  intro empty
  have read := segments_dotted some all
  rw [empty] at read
  obtain rfl : parts = [""] := read.symm
  exact (all "" List.mem_cons_self).text rfl

theorem ending_dotted (outer : List String) (isPart : IsPart part) :
    ending (dotted (outer ++ [part])) = part := by
  by_cases outermost : outer = []
  · rw [outermost, List.nil_append, dotted_singleton, ending_of_noDot isPart.noDot]
  · rw [dotted_concat outermost, ending_dot _ isPart.noDot]

theorem lastSegment?_of_parts (some : parts ≠ []) (all : ∀ part ∈ parts, IsPart part) :
    lastSegment? (dotted parts) = parts.getLast? := by
  obtain rfl | ⟨outer, part, rfl⟩ := List.eq_nil_or_concat' parts
  · exact absurd rfl some
  · have isPart := all part (List.mem_append_right _ List.mem_cons_self)
    rw [List.getLast?_concat, lastSegment?_eq_some_iff]
    exact ⟨isPart.text, ending_dotted outer isPart⟩

theorem parent?_of_isPart (isPart : IsPart part) : parent? part = none := by
  unfold parent?
  rw [Text.cutLast?_eq_none_iff.mpr isPart.noDot]

theorem parent?_concat (some : outer ≠ []) (all : ∀ part ∈ outer, IsPart part)
    (isPart : IsPart part) : parent? (dotted (outer ++ [part])) = .some (dotted outer) := by
  refine parent?_eq_some_iff.mpr ⟨dotted_ne_empty some all, part.toList, ?_, isPart.noDot⟩
  rw [dotted_concat some]
  simp

theorem parent?_of_parts (some : parts ≠ []) (all : ∀ part ∈ parts, IsPart part) :
    parent? (dotted parts) =
      if parts.length = 1 then none else .some (dotted parts.dropLast) := by
  obtain rfl | ⟨outer, part, rfl⟩ := List.eq_nil_or_concat' parts
  · exact absurd rfl some
  · have isPart := all part (List.mem_append_right _ List.mem_cons_self)
    rw [List.dropLast_concat]
    by_cases outermost : outer = []
    · rw [outermost, List.nil_append, dotted_singleton, parent?_of_isPart isPart]
      rfl
    · rw [parent?_concat outermost (fun part member => all part (List.mem_append_left _ member)) isPart,
        if_neg (by simpa using outermost)]

theorem inits_concat (outer : List String) (part : String) :
    (outer ++ [part]).inits.tail.reverse = (outer ++ [part]) :: outer.inits.tail.reverse := by
  have some : outer.inits ≠ [] := by cases outer <;> simp
  rw [List.inits_append, List.tail_append_of_ne_nil some, List.reverse_append]
  rfl

theorem prefixes_dotted (some : parts ≠ []) (all : ∀ part ∈ parts, IsPart part) :
    prefixes (dotted parts) = parts.inits.tail.reverse.map dotted := by
  -- going outwards drops the last part, so the rows grow at their end
  induction parts using List.reverseRecOn with
  | nil => exact absurd rfl some
  | append_singleton outer part ih =>
    have isPart := all part (List.mem_append_right _ List.mem_cons_self)
    have inside : ∀ part ∈ outer, IsPart part :=
      fun part member => all part (List.mem_append_left _ member)
    rw [inits_concat, List.map_cons]
    by_cases outermost : outer = []
    · subst outermost
      rw [List.nil_append, dotted_singleton,
        prefixes_of_parent_eq_none (parent?_of_isPart isPart)]
      rfl
    · rw [prefixes_of_parent (parent?_concat outermost inside isPart), ih outermost inside]

end Parts

section Segments

variable (some : outer ≠ []) (all : ∀ part ∈ outer, IsSegment part)

include some all

theorem eq_of_dotted (some' : other ≠ []) (all' : ∀ part ∈ other, IsSegment part)
    (same : dotted outer = dotted other) : outer = other := by
  rw [← segments_dotted some fun part member => (all part member).isPart, same,
    segments_dotted some' fun part member => (all' part member).isPart]

theorem isImportable_dotted : isImportable (dotted outer) = true := by
  rw [isImportable, segments_dotted some fun part member => (all part member).isPart,
    List.all_eq_true]
  intro part member
  exact decide_eq_true (all part member).text

theorem parent?_dotted (isSegment : IsSegment segment) :
    parent? (dotted (outer ++ [segment])) = .some (dotted outer) :=
  parent?_concat some (fun part member => (all part member).isPart) isSegment.isPart

end Segments

theorem parent?_of_isSegment (isSegment : IsSegment segment) : parent? segment = none :=
  parent?_of_isPart isSegment.isPart

theorem lastSegment?_dotted (outer : List String) (isSegment : IsSegment segment) :
    lastSegment? (dotted (outer ++ [segment])) = some segment :=
  lastSegment?_eq_some_iff.mpr ⟨isSegment.text, ending_dotted outer isSegment.isPart⟩

/-- Reading a name from the right gives back the parts that it was put together from, as cutting it at
all dots does: the last part, the name of the others, and outwards from there the name of each shorter
row that the parts start with, the longest first and down to a single part. Of any text the last
segment is what it ends in, if that has text. -/
theorem dotted_taken_apart :
    (∀ parts : List String, parts ≠ [] → (∀ part ∈ parts, IsPart part) →
      segments (dotted parts) = parts ∧
      lastSegment? (dotted parts) = parts.getLast? ∧
      parent? (dotted parts) =
        (if parts.length = 1 then none else some (dotted parts.dropLast)) ∧
      (∀ parent, parent? (dotted parts) = some parent →
        ∃ last, lastSegment? (dotted parts) = some last ∧
          dotted parts = parent ++ "." ++ last) ∧
      prefixes (dotted parts) = parts.inits.tail.reverse.map dotted) ∧
    ∀ name : String,
      lastSegment? name = (if ending name = "" then none else some (ending name)) ∧
      '.' ∉ (ending name).toList ∧ (ending name).toList <:+ name.toList := by
  refine ⟨fun parts some all => ?_, fun name =>
    ⟨lastSegment?_eq name, noDot_ending name, ending_suffix name⟩⟩
  have isLast : lastSegment? (dotted parts) = parts.getLast? := lastSegment?_of_parts some all
  refine ⟨segments_dotted some all, isLast, parent?_of_parts some all, fun parent isParent => ?_,
    prefixes_dotted some all⟩
  rw [List.getLast?_eq_some_getLast some] at isLast
  refine ⟨parts.getLast some, isLast, String.toList_inj.mp ?_⟩
  rw [toList_of_parent isParent isLast]
  simp

/-- Parts may hold any text without a dot. -/
theorem dotted_taken_apart_threeParts :
    (∀ part ∈ ["paquet", "modülé", "名/前"], IsPart part) ∧
    lastSegment? "paquet.modülé.名/前" = some "名/前" ∧
    parent? "paquet.modülé.名/前" = some "paquet.modülé" ∧
    prefixes "paquet.modülé.名/前" = ["paquet.modülé.名/前", "paquet.modülé", "paquet"] := by
  have all : ∀ part ∈ ["paquet", "modülé", "名/前"], IsPart part := by
    simp only [List.forall_mem_cons, List.not_mem_nil]
    exact ⟨⟨by decide, by decide⟩, ⟨by decide, by decide⟩, ⟨by decide, by decide⟩, nofun⟩
  obtain ⟨-, last, parent, -, outwards⟩ := dotted_taken_apart.1 _ (List.cons_ne_nil _ _) all
  exact ⟨all, last, parent, outwards⟩

end ModuleImport.Name
