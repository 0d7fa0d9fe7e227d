import Mathlib.Algebra.Group.Nat.Defs
import ModuleImport.Proofs.Artifact.Frame

namespace ModuleImport.Artifact

/-- Decoding an artifact gives back the code that was encoded, and encoding succeeds on every code
whose body is shorter than four gigabytes. -/
theorem decode_encode (code : Code) (fits : (body.write code).length < 2 ^ 32) :
    ∃ bytes, encode code = .ok bytes ∧ decode bytes = .ok code := by
  refine ⟨frame (body.write code), encode_eq_ok_iff.2 ⟨fits, rfl⟩, ?_⟩
  have fits' : (body.write code ++ []).length < capacity 4 := by rwa [List.append_nil]
  have h := decode_eq_ok_iff.2 ⟨[], fits', rfl⟩
  rwa [List.append_nil] at h

/-- A body with every kind of instruction and of constant, with and without a bound import. -/
def everyKind : Code where
  name := "c"
  filename := "c.py"
  instructions := [.store "none" .none, .store "yes" (.bool true), .store "neg" (.int (-3)),
    .store "text" (.str "ünïcødé 𝄞"), .importName "a.b" none, .importName "a.b" (some "ab"),
    .copy "again" "neg", .print "", .raise "boom"]

theorem decode_encode_everyKind :
    (body.write everyKind).length < 2 ^ 32 ∧
      ∃ bytes, encode everyKind = .ok bytes ∧ decode bytes = .ok everyKind :=
  have fits : (body.write everyKind).length < 2 ^ 32 := by decide +kernel
  ⟨fits, decode_encode everyKind fits⟩

/-- The bytes from `start` up to `stop`, if there are that many. -/
def slice? (bytes : List UInt8) (start stop : Nat) : Option (List UInt8) :=
  if start ≤ stop ∧ stop ≤ bytes.length then some ((bytes.take stop).drop start) else none

/-- The bytes at `width` indices from `offset` on, read one by one, if all of them are in range. -/
def bytesAt? (bytes : List UInt8) (offset : Nat) : Nat → Option (List UInt8)
  | 0 => some []
  | width + 1 => do
    let b ← bytes[offset]?
    let bs ← bytesAt? bytes (offset + 1) width
    return b :: bs

def number? (bytes : List UInt8) (offset width : Nat) : Option Nat :=
  ofLittleEndian <$> bytesAt? bytes offset width

/-- `readHeader` in terms of indices; there is no result if one of them is out of range. -/
def readHeader? (bytes : List UInt8) : Option (Except ArtifactError Header) := do
  let available := min bytes.length magic.length
  let found ← slice? bytes 0 available
  let expected ← slice? magic 0 available
  if found ≠ expected then return .error .badMagic
  else if bytes.length < headerSize then return .error (.truncated headerSize bytes.length)
  else
    let found ← number? bytes 4 2
    if found ≠ version then return .error (.unsupportedVersion found version)
    else
      let flags ← number? bytes 6 2
      if flags ≠ 0 then return .error (.unknownFlags flags)
      else
        let length ← number? bytes 8 4
        let sum ← number? bytes 12 8
        return .ok ⟨length, UInt64.ofNat sum⟩

def unframe? (bytes : List UInt8) : Option (Except ArtifactError (List UInt8)) := do
  match ← readHeader? bytes with
  | .error e => return .error e
  | .ok header =>
    let payload ← slice? bytes headerSize bytes.length
    if payload.length < header.length then
      return .error (.truncated (headerSize + header.length) bytes.length)
    else if header.length < payload.length then
      return .error (.trailingBytes (payload.length - header.length))
    else if checksum payload ≠ header.checksum then
      return .error (.checksumMismatch header.checksum (checksum payload))
    else return .ok payload

/-- `decode` in terms of indices. The body needs none: it is read from the front, and each part of it
is compared with what is left. -/
def decode? (bytes : List UInt8) : Option (Except ArtifactError Code) := do
  match ← unframe? bytes with
  | .error e => return .error e
  | .ok payload =>
    match body.read payload with
    | .ok (code, _) => return .ok code
    | .error cause => return .error (.undecodable cause)

theorem slice?_prefix (bytes : List UInt8) {stop : Nat} (inside : stop ≤ bytes.length) :
    slice? bytes 0 stop = some (bytes.take stop) := by
  simp [slice?, inside]

theorem slice?_suffix (bytes : List UInt8) {start : Nat} (inside : start ≤ bytes.length) :
    slice? bytes start bytes.length = some (bytes.drop start) := by
  simp [slice?, inside]

theorem bytesAt?_eq (bytes : List UInt8) {offset width : Nat}
    (inside : offset + width ≤ bytes.length) :
    bytesAt? bytes offset width = some ((bytes.drop offset).take width) := by
  induction width generalizing offset with
  | zero => rfl
  | succ width ih =>
    have hin : offset < bytes.length := by omega
    rw [bytesAt?, List.getElem?_eq_getElem hin, ih (by omega), List.drop_eq_getElem_cons hin,
      List.take_succ_cons]
    rfl

theorem number?_eq (bytes : List UInt8) (offset width : Nat)
    (inside : offset + width ≤ bytes.length) :
    number? bytes offset width = some (field bytes offset width) := by
  rw [number?, bytesAt?_eq bytes inside]
  rfl

theorem take_min_length (xs : List UInt8) (n : Nat) :
    xs.take (min xs.length n) = xs.take n := by
  rw [Nat.min_comm, ← List.take_take, List.take_length]

/-- Every index of a header is in range where it is read: the length is checked before. -/
theorem readHeader?_eq (bytes : List UInt8) : readHeader? bytes = some (readHeader bytes) := by
  have hfound := slice?_prefix bytes (Nat.min_le_left bytes.length magic.length)
  have hexpected := slice?_prefix magic (Nat.min_le_right bytes.length magic.length)
  rw [take_min_length] at hfound
  rw [Nat.min_comm, take_min_length] at hexpected
  rw [Nat.min_comm] at hfound
  unfold readHeader? readHeader
  simp only [Nat.min_comm bytes.length, hfound, hexpected, Option.bind_eq_bind, Option.bind_some]
  by_cases hmagic : bytes.take magic.length ≠ magic.take bytes.length
  · rw [if_pos hmagic, if_pos hmagic]
    rfl
  rw [if_neg hmagic, if_neg hmagic]
  by_cases hshort : bytes.length < headerSize
  · rw [if_pos hshort, if_pos hshort]
    rfl
  rw [if_neg hshort, if_neg hshort]
  have henough : 20 ≤ bytes.length := by
    have : headerSize = 20 := rfl
    omega
  rw [number?_eq bytes 4 2 (by omega), number?_eq bytes 6 2 (by omega),
    number?_eq bytes 8 4 (by omega), number?_eq bytes 12 8 (by omega)]
  simp only [Option.bind_some]
  split
  · rfl
  · split <;> rfl

theorem length_of_readHeader {bytes : List UInt8} {header : Header}
    (h : readHeader bytes = .ok header) : headerSize ≤ bytes.length := by
  rw [(Header.eq_write_of_read h).2, List.length_append, Header.length_write]
  omega

theorem unframe?_eq (bytes : List UInt8) : unframe? bytes = some (unframe bytes) := by
  unfold unframe? unframe
  rw [readHeader?_eq]
  cases hread : readHeader bytes with
  | error e => rfl
  | ok header =>
    simp only [Option.bind_eq_bind, Option.bind_some]
    rw [slice?_suffix bytes (length_of_readHeader hread)]
    simp only [Option.bind_some]
    split
    · rfl
    · split
      · rfl
      · split <;> rfl

theorem decode?_eq (bytes : List UInt8) : decode? bytes = some (decode bytes) := by
  unfold decode? decode
  rw [unframe?_eq]
  cases unframe bytes with
  | error e => rfl
  | ok payload =>
    cases hread : body.read payload <;> simp [hread]

/-- The bytes are an artifact of the code: the header's fields one after the other, the body of the
code, and bytes that are ignored but counted. -/
structure Spells (bytes : List UInt8) (code : Code) (ignored : List UInt8) : Prop where
  fits : (body.write code ++ ignored).length < 2 ^ 32
  layout : bytes =
    [0x4D, 0x46, 0x53, 0x1A] ++ [1, 0] ++ [0, 0] ++
      littleEndian 4 (body.write code ++ ignored).length ++
      littleEndian 8 (checksum (body.write code ++ ignored)).toNat ++
      (body.write code ++ ignored)

theorem spells_iff {bytes : List UInt8} {code : Code} {ignored : List UInt8} :
    Spells bytes code ignored ↔ (body.write code ++ ignored).length < capacity 4 ∧
      bytes = frame (body.write code ++ ignored) :=
  ⟨fun h => ⟨h.fits, h.layout⟩, fun h => ⟨h.1, h.2⟩⟩

theorem Spells.unique {bytes : List UInt8} {code code' : Code} {ignored ignored' : List UInt8}
    (h : Spells bytes code ignored) (h' : Spells bytes code' ignored') :
    code = code' ∧ ignored = ignored' := by
  obtain ⟨fits, hbytes⟩ := spells_iff.1 h
  obtain ⟨-, hbytes'⟩ := spells_iff.1 h'
  have hpayload := congrArg (List.drop headerSize) (hbytes.symm.trans hbytes')
  rw [drop_frame, drop_frame] at hpayload
  exact body_append_inj fits hpayload

/-- Nothing but artifacts is decoded. An artifact spells one code, and does so in one way unless
there are ignored bytes; all other bytes are refused with an error. -/
theorem decode_canonical (bytes : List UInt8) :
    (∀ code, decode bytes = .ok code ↔ ∃ ignored, Spells bytes code ignored) ∧
    (∀ code code' ignored ignored', Spells bytes code ignored → Spells bytes code' ignored' →
      code = code' ∧ ignored = ignored') ∧
    (∀ code, Spells bytes code [] ↔ encode code = .ok bytes) ∧
    ((∀ code ignored, ¬Spells bytes code ignored) → ∃ e, decode bytes = .error e) ∧
    decode? bytes = some (decode bytes) := by
  have accepted (code : Code) :
      decode bytes = .ok code ↔ ∃ ignored, Spells bytes code ignored := by
    simp only [decode_eq_ok_iff, spells_iff]
  refine ⟨accepted, fun _ _ _ _ h h' => h.unique h', ?_, ?_, decode?_eq bytes⟩
  · intro code
    rw [spells_iff, encode_eq_ok_iff, List.append_nil]
  · intro none
    cases hdecode : decode bytes with
    | error e => exact ⟨e, rfl⟩
    | ok code =>
      obtain ⟨ignored, h⟩ := (accepted code).1 hdecode
      exact absurd h (none code ignored)

end ModuleImport.Artifact
