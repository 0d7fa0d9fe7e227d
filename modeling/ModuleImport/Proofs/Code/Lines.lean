import Mathlib.Algebra.GroupWithZero.Nat
import ModuleImport.Code.Listing
import ModuleImport.Proofs.Text.Quoted
import ModuleImport.Text.Split

namespace ModuleImport

open Text

namespace Text

/-- Ended lines are cut into the pieces of each line, and nothing stands after the last one. -/
theorem pieces_flatMap_ended (sep : Char) (lines : List (List Char)) :
    pieces sep (lines.flatMap (· ++ [sep])) = lines.flatMap (pieces sep) ++ [[]] := by
  induction lines with
  | nil => rfl
  | cons line lines ih =>
    rw [List.flatMap_cons, List.append_assoc, List.singleton_append, pieces_append_cons, ih,
      List.flatMap_cons, List.append_assoc]

theorem count_flatMap_ended (sep : Char) (lines : List (List Char)) :
    (lines.flatMap (· ++ [sep])).count sep = lines.length + (lines.map (·.count sep)).sum := by
  induction lines with
  | nil => rfl
  | cons line lines ih =>
    simp [List.count_append, ih]
    omega

theorem pieces_flatMap_ended_iff {sep : Char} {lines : List (List Char)} :
    pieces sep (lines.flatMap (· ++ [sep])) = lines ++ [[]] ↔ ∀ line ∈ lines, sep ∉ line := by
  constructor
  · intro cut line mem
    exact not_mem_of_mem_pieces (cut ▸ List.mem_append_left _ mem)
  · intro whole
    rw [pieces_flatMap_ended]
    induction lines with
    | nil => rfl
    | cons line lines ih =>
      have first := pieces_of_not_mem (whole line (List.mem_cons_self ..))
      have rest := ih fun other mem => whole other (List.mem_cons_of_mem _ mem)
      rw [List.flatMap_cons, first, List.append_assoc, rest, List.singleton_append,
        List.cons_append]

end Text

namespace Constant

theorem lineFeed_not_mem_listing (constant : Constant) : '\n' ∉ constant.listing.toList := by
  cases constant with
  | none => decide
  | bool value => cases value <;> decide
  | int n =>
    intro mem
    obtain sign | digit := sign_or_digit_of_mem_repr mem
    · cases sign
    · cases digit
  | str s => exact lineFeed_not_mem_quoted s

end Constant

namespace Instruction

/-- The texts of an instruction that its listing shows as they are. -/
def bare : Instruction → List String
  | .store name _ => [name]
  | .importName name bind => name :: bind.toList
  | .copy target source => [target, source]
  | .print _ | .raise _ => []

/-- How often the listing of an instruction goes on to a further line. -/
def breaks (instruction : Instruction) : Nat :=
  (instruction.bare.map (·.toList.count '\n')).sum

theorem count_listing (instruction : Instruction) :
    instruction.listing.toList.count '\n' = instruction.breaks := by
  cases instruction with
  | store name value =>
    have shown := List.count_eq_zero.2 value.lineFeed_not_mem_listing
    simp [listing, breaks, bare, List.count_append, shown]
  | importName name bind =>
    cases bind with
    | none => simp [listing, breaks, bare]
    | some bind => simp [listing, breaks, bare, List.count_append]
  | copy target source => simp [listing, breaks, bare, List.count_append]
  | print text | raise text =>
    have shown := List.count_eq_zero.2 (lineFeed_not_mem_quoted text)
    simp [listing, breaks, bare, shown]

theorem breaks_eq_zero_iff {instruction : Instruction} :
    instruction.breaks = 0 ↔ ∀ text ∈ instruction.bare, '\n' ∉ text.toList := by
  simp [breaks, List.sum_eq_zero_iff_forall_eq_nat, List.count_eq_zero]

end Instruction

theorem lineFeed_not_mem_toDigits (n : Nat) : '\n' ∉ Nat.toDigits 10 n :=
  not_mem_toDigits (by decide) (fun _ => Nat.digitChar_ne '\n' rfl) n

theorem lineFeed_not_mem_lineNumber (n : Nat) : '\n' ∉ (lineNumber n).toList := by
  simp [lineNumber, lineFeed_not_mem_toDigits]

namespace Code

theorem lineFeed_not_mem_heading (code : Code) : '\n' ∉ code.heading.toList := by
  unfold heading
  simp [lineFeed_not_mem_quoted, lineFeed_not_mem_toDigits]

theorem toList_listing (code : Code) :
    code.listing.toList = (code.lines.map String.toList).flatMap (· ++ ['\n']) := by
  simp [listing, String.toList_join, List.flatMap_map]

theorem count_line (instruction : Instruction) (k : Nat) :
    (lineNumber k ++ " " ++ instruction.listing).toList.count '\n' = instruction.breaks := by
  have number := List.count_eq_zero.2 (lineFeed_not_mem_lineNumber k)
  simp [List.count_append, number, Instruction.count_listing]

theorem count_lines (code : Code) :
    (code.lines.map String.toList).map (·.count '\n') =
      0 :: code.instructions.map Instruction.breaks := by
  rw [lines, List.map_cons, List.map_cons, List.count_eq_zero.2 code.lineFeed_not_mem_heading,
    List.map_map, List.map_map]
  congr 1
  conv => rhs; rw [← List.zipIdx_map_fst 0 code.instructions, List.map_map]
  refine List.map_congr_left fun entry _ => ?_
  simp only [Function.comp_apply, count_line]

theorem lines_whole_iff (code : Code) :
    (∀ line ∈ code.lines.map String.toList, '\n' ∉ line) ↔
      ∀ instruction ∈ code.instructions, ∀ text ∈ instruction.bare, '\n' ∉ text.toList := by
  calc
    _ ↔ ∀ n ∈ (code.lines.map String.toList).map (·.count '\n'), n = 0 := by
      simp [List.count_eq_zero]
    _ ↔ ∀ instruction ∈ code.instructions, instruction.breaks = 0 := by
      rw [count_lines]
      simp
    _ ↔ _ := by simp only [Instruction.breaks_eq_zero_iff]

/-- Below a heading each instruction is listed in one line, and in one line more for each line feed in
the texts that its listing shows as they are. So it has one line for each instruction just if no such
text holds a line feed. -/
theorem listing_lines (code : Code) :
    pieces '\n' code.listing.toList =
        code.heading.toList ::
          code.instructions.zipIdx.flatMap (fun (instruction, k) =>
            pieces '\n' (lineNumber k ++ " " ++ instruction.listing).toList) ++ [[]] ∧
      code.listing.toList.count '\n' =
        code.instructions.length + 1 + (code.instructions.map Instruction.breaks).sum ∧
      (pieces '\n' code.listing.toList = code.lines.map String.toList ++ [[]] ↔
        ∀ instruction ∈ code.instructions, ∀ text ∈ instruction.bare, '\n' ∉ text.toList) := by
  refine ⟨?_, ?_, ?_⟩
  · rw [toList_listing, pieces_flatMap_ended, lines, List.map_cons, List.flatMap_cons,
      pieces_of_not_mem code.lineFeed_not_mem_heading]
    simp [List.flatMap_map]
  · rw [toList_listing, count_flatMap_ended, count_lines, List.length_map, length_lines,
      List.sum_cons, Nat.zero_add]
  · rw [toList_listing, pieces_flatMap_ended_iff, lines_whole_iff]

/-- A name that holds a line feed: two lines for one instruction. -/
theorem listing_lines_store :
    let code : Code := ⟨"m", "m.py", [.store "a\nb" (.int 1)]⟩
    code.listing.toList.count '\n' = code.instructions.length + 2 ∧
      pieces '\n' code.listing.toList ≠ code.lines.map String.toList ++ [[]] := by
  intro code
  obtain ⟨-, number, whole⟩ := listing_lines code
  refine ⟨number.trans (by decide), fun same => ?_⟩
  exact whole.1 same (.store "a\nb" (.int 1)) (List.mem_cons_self ..) "a\nb" (List.mem_cons_self ..)
    (by decide)

end Code

end ModuleImport
