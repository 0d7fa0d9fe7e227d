namespace ModuleImport.Text

def utf8 (s : String) : List UInt8 :=
  s.toUTF8.data.toList

/-- Where bytes stop being UTF-8: the index of the character that cannot be read, and how many of
its bytes belong to the fault. There is no count when the bytes end within the character. -/
structure Utf8Fault where
  start : Nat
  length : Option Nat
deriving DecidableEq, Repr

def Utf8Fault.message (fault : Utf8Fault) : String :=
  match fault.length with
  | some n => s!"invalid utf-8 sequence of {n} bytes from index {fault.start}"
  | none => s!"incomplete utf-8 byte sequence from index {fault.start}"

/-- The ranges that the remaining bytes of a character must lie in, by its first byte. They exclude
overlong forms, surrogates and numbers above the last code point. -/
def continuations? (first : UInt8) : Option (List (UInt8 × UInt8)) :=
  let tail := (0x80, 0xBF)
  if first ≤ 0x7F then some []
  else if first < 0xC2 then none
  else if first ≤ 0xDF then some [tail]
  else if first = 0xE0 then some [(0xA0, 0xBF), tail]
  else if first = 0xED then some [(0x80, 0x9F), tail]
  else if first ≤ 0xEF then some [tail, tail]
  else if first = 0xF0 then some [(0x90, 0xBF), tail, tail]
  else if first ≤ 0xF3 then some [tail, tail, tail]
  else if first = 0xF4 then some [(0x80, 0x8F), tail, tail]
  else none

def findFault (start seen : Nat) (due : List (UInt8 × UInt8)) : List UInt8 → Option Utf8Fault
  | [] => if due.isEmpty then none else some ⟨start, none⟩
  | b :: bs =>
    match due with
    | (lo, hi) :: due =>
      if lo ≤ b ∧ b ≤ hi then findFault start (seen + 1) due bs else some ⟨start, some seen⟩
    | [] =>
      match continuations? b with
      | some due => findFault (start + seen) 1 due bs
      | none => some ⟨start + seen, some 1⟩

def ofUtf8 (bytes : List UInt8) : Except Utf8Fault String :=
  match String.fromUTF8? ⟨bytes.toArray⟩ with
  | some s => .ok s
  | none => .error ((findFault 0 0 [] bytes).getD ⟨bytes.length, none⟩)

theorem ofUtf8_utf8 (s : String) : ofUtf8 (utf8 s) = .ok s := by
  have h : String.fromUTF8? ⟨(utf8 s).toArray⟩ = some s := by
    simp [utf8, String.fromUTF8?, s.isValidUTF8, String.fromUTF8]
  simp only [ofUtf8, h]

theorem utf8_of_ofUtf8 {bytes : List UInt8} {s : String} (h : ofUtf8 bytes = .ok s) :
    utf8 s = bytes := by
  unfold ofUtf8 at h
  split at h
  · rename_i t ht
    obtain rfl := Except.ok.inj h
    rw [String.fromUTF8?] at ht
    split at ht
    · obtain rfl := Option.some.inj ht
      simp [utf8, String.fromUTF8]
    · cases ht
  · cases h

end ModuleImport.Text
