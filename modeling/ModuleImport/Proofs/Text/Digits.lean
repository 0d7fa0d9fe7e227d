namespace ModuleImport.Text

theorem not_mem_toDigits {base : Nat} (positional : 1 < base) {c : Char}
    (other : ∀ d : Nat, d.digitChar ≠ c) (n : Nat) : c ∉ Nat.toDigits base n := by
  induction n using Nat.strongRecOn with
  | ind n ih =>
    rw [Nat.toDigits_eq_if positional]
    split
    · simpa using (other n).symm
    · have shorter : n / base < n := Nat.div_lt_self (by omega) positional
      simpa using ⟨ih (n / base) shorter, (other (n % base)).symm⟩

def hexValue (c : Char) : Nat :=
  if c.isDigit then c.toNat - '0'.toNat else c.toNat - 'a'.toNat + 10

/-- The number that hexadecimal digits stand for, the highest first. -/
def ofHex (digits : List Char) : Nat :=
  digits.foldl (fun n c => 16 * n + hexValue c) 0

theorem hexValue_digitChar : ∀ d < 16, hexValue d.digitChar = d := by decide

theorem ofHex_toDigits (n : Nat) : ofHex (Nat.toDigits 16 n) = n := by
  induction n using Nat.strongRecOn with
  | ind n ih =>
    rw [Nat.toDigits_eq_if (by decide)]
    split
    case isTrue small => simp [ofHex, hexValue_digitChar n small]
    case isFalse large =>
      have front : ofHex (Nat.toDigits 16 (n / 16)) = n / 16 := ih _ (by omega)
      have last : hexValue (n % 16).digitChar = n % 16 :=
        hexValue_digitChar _ (Nat.mod_lt n (by decide))
      rw [ofHex, List.foldl_append, ← ofHex, front]
      simp [last, Nat.div_add_mod]

theorem isDigit_of_mem_repr {n : Nat} {c : Char} (mem : c ∈ n.repr.toList) : c.isDigit = true := by
  rw [Nat.repr_eq_ofList_toDigits, String.toList_ofList] at mem
  exact Nat.isDigit_of_mem_toDigits (by decide) (by decide) mem

theorem sign_or_digit_of_mem_repr {n : Int} {c : Char} (mem : c ∈ n.repr.toList) :
    c = '-' ∨ c.isDigit = true := by
  rw [Int.repr_eq_if] at mem
  split at mem
  · exact .inr (isDigit_of_mem_repr mem)
  · obtain sign | digit := List.mem_append.1 (String.toList_append ▸ mem)
    · exact .inl (by simpa using sign)
    · exact .inr (isDigit_of_mem_repr digit)

theorem repr_ne_empty (n : Int) : n.repr ≠ "" := by
  rw [Int.repr_eq_if]
  split
  · exact Nat.repr_ne_empty
  · simp

theorem natRepr_inj {m n : Nat} (same : m.repr = n.repr) : m = n := by
  rw [Nat.repr_eq_ofList_toDigits, Nat.repr_eq_ofList_toDigits, String.ofList_inj] at same
  have value (k : Nat) : Nat.ofDigitChars 10 (Nat.toDigits 10 k) 0 = k :=
    Nat.ofDigitChars_toDigits (by decide) (by decide)
  rw [← value m, same, value]

/-- A number without a sign is not written like one with a sign. -/
theorem natRepr_ne_signed (m n : Nat) : m.repr ≠ "-" ++ n.repr := by
  intro same
  have sign : '-' ∈ m.repr.toList := by
    rw [same, String.toList_append]
    exact List.mem_append_left _ (by decide)
  exact absurd (isDigit_of_mem_repr sign) (by decide)

theorem intRepr_inj {m n : Int} (same : m.repr = n.repr) : m = n := by
  rw [Int.repr_eq_if, Int.repr_eq_if] at same
  split at same <;> split at same
  · have value := natRepr_inj same
    omega
  · exact absurd same (natRepr_ne_signed _ _)
  · exact absurd same.symm (natRepr_ne_signed _ _)
  · have value := natRepr_inj (String.append_right_inj _ |>.mp same)
    omega

end ModuleImport.Text
