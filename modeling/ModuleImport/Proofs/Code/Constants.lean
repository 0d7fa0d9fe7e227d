import ModuleImport.Code.Listing
import ModuleImport.Proofs.Text.Quoted

namespace ModuleImport

open Text

namespace Constant

/-- The characters that the listing of a constant of this kind can start with. -/
def StartsWith : Constant → Char → Prop
  | .none, c => c = 'N'
  | .bool true, c => c = 'T'
  | .bool false, c => c = 'F'
  | .int _, c => c = '-' ∨ c.isDigit = true
  | .str _, c => c = '"'

theorem startsWith_listing (constant : Constant) :
    ∃ c ∈ constant.listing.toList.head?, constant.StartsWith c := by
  cases constant with
  | none => exact ⟨'N', rfl, rfl⟩
  | bool value =>
    cases value with
    | true => exact ⟨'T', rfl, rfl⟩
    | false => exact ⟨'F', rfl, rfl⟩
  | int n =>
    have text : n.toInt.repr.toList ≠ [] := by simp [repr_ne_empty]
    exact ⟨_, List.head?_eq_some_head text, sign_or_digit_of_mem_repr (List.head_mem text)⟩
  | str s => exact ⟨'"', by simp [listing, quoted], rfl⟩

theorem eq_or_kind_of_startsWith {a b : Constant} {c : Char} (startA : a.StartsWith c)
    (startB : b.StartsWith c) :
    a = b ∨ (∃ m n, a = .int m ∧ b = .int n) ∨ ∃ s t, a = .str s ∧ b = .str t := by
  rcases a with _ | (_ | _) | m | s <;> rcases b with _ | (_ | _) | n | t <;>
    simp_all [StartsWith]

theorem listing_inj {a b : Constant} : a.listing = b.listing ↔ a = b := by
  refine ⟨fun same => ?_, congrArg _⟩
  obtain ⟨c, headA, startA⟩ := a.startsWith_listing
  obtain ⟨d, headB, startB⟩ := b.startsWith_listing
  have first : c = d := by
    rw [same] at headA
    exact Option.some.inj (headA.symm.trans headB)
  obtain alike | ⟨m, n, rfl, rfl⟩ | ⟨s, t, rfl, rfl⟩ :=
    eq_or_kind_of_startsWith startA (first ▸ startB)
  · exact alike
  · have value : m.toInt = n.toInt := intRepr_inj same
    rw [Int64.toInt_inj.1 value]
  · rw [quoted_inj.1 same]

end Constant

/-- Constants that are listed alike are equal, and so are texts that are printed or raised. -/
theorem listing_unambiguous (a b : Constant) (s t : String) :
    (a.listing = b.listing ↔ a = b) ∧
      ((Instruction.print s).listing = (Instruction.print t).listing ↔ s = t) ∧
      ((Instruction.raise s).listing = (Instruction.raise t).listing ↔ s = t) := by
  refine ⟨Constant.listing_inj, ?_, ?_⟩
  · rw [Instruction.listing, Instruction.listing, String.append_right_inj, quoted_inj]
  · rw [Instruction.listing, Instruction.listing, String.append_right_inj, quoted_inj]

end ModuleImport
