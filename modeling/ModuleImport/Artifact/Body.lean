import ModuleImport.Artifact.Codec
import ModuleImport.Code.Basic

namespace ModuleImport.Artifact

def constant : Codec Constant where
  write
    | .none => (Codec.alternative 4).write 0
    | .bool b => (Codec.alternative 4).write 1 ++ Codec.bool.write b
    | .int n => (Codec.alternative 4).write 2 ++ Codec.int64.write n
    | .str s => (Codec.alternative 4).write 3 ++ Codec.text.write s
  read := do
    match ← (Codec.alternative 4).read with
    | 0 => return .none
    | 1 => return .bool (← Codec.bool.read)
    | 2 => return .int (← Codec.int64.read)
    | 3 => return .str (← Codec.text.read)

def instruction : Codec Instruction where
  write
    | .store name value =>
      (Codec.alternative 5).write 0 ++ (Codec.text.write name ++ constant.write value)
    | .importName name bind =>
      (Codec.alternative 5).write 1 ++
        (Codec.text.write name ++ (Codec.optional Codec.text).write bind)
    | .copy target source =>
      (Codec.alternative 5).write 2 ++ (Codec.text.write target ++ Codec.text.write source)
    | .print text => (Codec.alternative 5).write 3 ++ Codec.text.write text
    | .raise message => (Codec.alternative 5).write 4 ++ Codec.text.write message
  read := do
    match ← (Codec.alternative 5).read with
    | 0 => return .store (← Codec.text.read) (← constant.read)
    | 1 => return .importName (← Codec.text.read) (← (Codec.optional Codec.text).read)
    | 2 => return .copy (← Codec.text.read) (← Codec.text.read)
    | 3 => return .print (← Codec.text.read)
    | 4 => return .raise (← Codec.text.read)

def body : Codec Code where
  write code :=
    Codec.text.write code.name ++
      (Codec.text.write code.filename ++ (Codec.list instruction).write code.instructions)
  read := do
    return ⟨← Codec.text.read, ← Codec.text.read, ← (Codec.list instruction).read⟩

open Reader Codec

section Sequences

variable {α β γ : Type} {c : Codec α} {d : Codec β}

theorem Codec.Faithful.read_one (hc : c.Faithful) (f : α → γ) (a : α)
    (fits : (c.write a).length < capacity 8) (rest : List UInt8) :
    (do return f (← c.read) : Reader γ) (c.write a ++ rest) = .ok (f a, rest) :=
  bind_of_eq_ok _ (hc.read_write a rest fits)

theorem Codec.Faithful.read_two (hc : c.Faithful) (hd : d.Faithful) (f : α → β → γ) (a : α)
    (b : β)
    (fits : (c.write a ++ d.write b).length < capacity 8) (rest : List UInt8) :
    (do return f (← c.read) (← d.read) : Reader γ) (c.write a ++ d.write b ++ rest) =
      .ok (f a b, rest) := by
  rw [List.length_append] at fits
  rw [List.append_assoc]
  exact (bind_of_eq_ok _ (hc.read_write a _ (by omega))).trans
    (hd.read_one (f a) b (by omega) rest)

theorem Codec.Faithful.eq_of_read_one (hc : c.Faithful) {f : α → γ} {bytes rest : List UInt8}
    {r : γ} (h : (do return f (← c.read) : Reader γ) bytes = .ok (r, rest)) :
    ∃ a, f a = r ∧ bytes = c.write a ++ rest := by
  obtain ⟨a, left, ha, h⟩ := bind_eq_ok_iff.1 h
  obtain ⟨hr, rfl⟩ := pure_eq_ok_iff.1 h
  exact ⟨a, hr, hc.eq_write_of_read ha⟩

theorem Codec.Faithful.eq_of_read_two (hc : c.Faithful) (hd : d.Faithful) {f : α → β → γ}
    {bytes rest : List UInt8} {r : γ}
    (h : (do return f (← c.read) (← d.read) : Reader γ) bytes = .ok (r, rest)) :
    ∃ a b, f a b = r ∧ bytes = c.write a ++ d.write b ++ rest := by
  obtain ⟨a, left, ha, h⟩ := bind_eq_ok_iff.1 h
  obtain ⟨b, hr, hleft⟩ := hd.eq_of_read_one h
  exact ⟨a, b, hr, by rw [hc.eq_write_of_read ha, hleft, List.append_assoc]⟩

end Sequences

theorem read_alternative {count : Nat} (small : count ≤ capacity 4) (i : Fin count)
    (rest : List UInt8) :
    (alternative count).read ((alternative count).write i ++ rest) = .ok (i, rest) := by
  have fits : ((alternative count).write i).length < capacity 8 := by
    simp only [alternative, nat, length_littleEndian]
    decide
  exact (alternative_faithful small).read_write i rest fits

theorem constant_faithful : constant.Faithful where
  read_write k rest fits := by
    have small : 4 ≤ capacity 4 := by decide
    cases k with
    | none => exact bind_of_eq_ok _ (read_alternative small 0 rest)
    | bool b =>
      rw [constant, List.length_append] at fits
      rw [constant, List.append_assoc]
      exact (bind_of_eq_ok _ (read_alternative small 1 _)).trans
        (bool_faithful.read_one Constant.bool b (by omega) rest)
    | int n =>
      rw [constant, List.length_append] at fits
      rw [constant, List.append_assoc]
      exact (bind_of_eq_ok _ (read_alternative small 2 _)).trans
        (int64_faithful.read_one Constant.int n (by omega) rest)
    | str s =>
      rw [constant, List.length_append] at fits
      rw [constant, List.append_assoc]
      exact (bind_of_eq_ok _ (read_alternative small 3 _)).trans
        (text_faithful.read_one Constant.str s (by omega) rest)
  eq_write_of_read {bytes k rest} h := by
    obtain ⟨i, left, htag, h⟩ := bind_eq_ok_iff.1 h
    have hbytes := (alternative_faithful (by decide)).eq_write_of_read htag
    split at h
    · obtain ⟨rfl, rfl⟩ := pure_eq_ok_iff.1 h
      exact hbytes
    · obtain ⟨b, rfl, hleft⟩ := bool_faithful.eq_of_read_one h
      exact hbytes.trans (hleft ▸ (List.append_assoc _ _ _).symm)
    · obtain ⟨n, rfl, hleft⟩ := int64_faithful.eq_of_read_one h
      exact hbytes.trans (hleft ▸ (List.append_assoc _ _ _).symm)
    · obtain ⟨s, rfl, hleft⟩ := text_faithful.eq_of_read_one h
      exact hbytes.trans (hleft ▸ (List.append_assoc _ _ _).symm)

theorem instruction_faithful : instruction.Faithful where
  read_write i rest fits := by
    have small : 5 ≤ capacity 4 := by decide
    cases i with
    | store name value =>
      rw [instruction, List.length_append] at fits
      rw [instruction, List.append_assoc]
      exact (bind_of_eq_ok _ (read_alternative small 0 _)).trans
        (text_faithful.read_two constant_faithful Instruction.store name value (by omega) rest)
    | importName name bind =>
      rw [instruction, List.length_append] at fits
      rw [instruction, List.append_assoc]
      exact (bind_of_eq_ok _ (read_alternative small 1 _)).trans
        (text_faithful.read_two (optional_faithful text_faithful) Instruction.importName name bind
          (by omega) rest)
    | copy target source =>
      rw [instruction, List.length_append] at fits
      rw [instruction, List.append_assoc]
      exact (bind_of_eq_ok _ (read_alternative small 2 _)).trans
        (text_faithful.read_two text_faithful Instruction.copy target source (by omega) rest)
    | print text =>
      rw [instruction, List.length_append] at fits
      rw [instruction, List.append_assoc]
      exact (bind_of_eq_ok _ (read_alternative small 3 _)).trans
        (text_faithful.read_one Instruction.print text (by omega) rest)
    | raise message =>
      rw [instruction, List.length_append] at fits
      rw [instruction, List.append_assoc]
      exact (bind_of_eq_ok _ (read_alternative small 4 _)).trans
        (text_faithful.read_one Instruction.raise message (by omega) rest)
  eq_write_of_read {bytes i rest} h := by
    obtain ⟨k, left, htag, h⟩ := bind_eq_ok_iff.1 h
    have hbytes := (alternative_faithful (by decide)).eq_write_of_read htag
    split at h
    · obtain ⟨name, value, rfl, hleft⟩ := text_faithful.eq_of_read_two constant_faithful h
      exact hbytes.trans (hleft ▸ (List.append_assoc _ _ _).symm)
    · obtain ⟨name, bind, rfl, hleft⟩ :=
        text_faithful.eq_of_read_two (optional_faithful text_faithful) h
      exact hbytes.trans (hleft ▸ (List.append_assoc _ _ _).symm)
    · obtain ⟨target, source, rfl, hleft⟩ := text_faithful.eq_of_read_two text_faithful h
      exact hbytes.trans (hleft ▸ (List.append_assoc _ _ _).symm)
    · obtain ⟨text, rfl, hleft⟩ := text_faithful.eq_of_read_one h
      exact hbytes.trans (hleft ▸ (List.append_assoc _ _ _).symm)
    · obtain ⟨message, rfl, hleft⟩ := text_faithful.eq_of_read_one h
      exact hbytes.trans (hleft ▸ (List.append_assoc _ _ _).symm)

theorem instruction_write_ne_nil (i : Instruction) : instruction.write i ≠ [] := by
  cases i <;> simp [instruction, alternative, nat, littleEndian]

/-- Code is read back from its body, and a body is nothing but the code that is read from it. -/
theorem body_faithful : body.Faithful where
  read_write code rest fits := by
    have instructions := list_faithful instruction_faithful instruction_write_ne_nil
    rw [body, List.length_append] at fits
    rw [body, List.append_assoc]
    exact (bind_of_eq_ok _ (text_faithful.read_write code.name _ (by omega))).trans
      (text_faithful.read_two instructions (Code.mk code.name) _ _ (by omega) rest)
  eq_write_of_read {bytes code rest} h := by
    have instructions := list_faithful instruction_faithful instruction_write_ne_nil
    obtain ⟨name, left, hname, h⟩ := bind_eq_ok_iff.1 h
    obtain ⟨filename, is, rfl, hleft⟩ := text_faithful.eq_of_read_two instructions h
    rw [text_faithful.eq_write_of_read hname, hleft]
    simp [body]

end ModuleImport.Artifact
