import ModuleImport.Artifact.Frame

namespace ModuleImport.Artifact

theorem length_take_drop {bytes : List UInt8} {offset width : Nat}
    (inside : offset + width ≤ bytes.length) :
    ((bytes.drop offset).take width).length = width := by
  rw [List.length_take, List.length_drop]
  omega

theorem littleEndian_field {bytes : List UInt8} {offset width : Nat}
    (inside : offset + width ≤ bytes.length) :
    littleEndian width (field bytes offset width) = (bytes.drop offset).take width := by
  have h := littleEndian_ofLittleEndian ((bytes.drop offset).take width)
  rwa [length_take_drop inside] at h

theorem field_lt {bytes : List UInt8} {offset width : Nat}
    (inside : offset + width ≤ bytes.length) : field bytes offset width < capacity width := by
  have h := ofLittleEndian_lt ((bytes.drop offset).take width)
  rwa [length_take_drop inside] at h

theorem drop_eq_field_append {bytes : List UInt8} (offset width : Nat)
    (inside : offset + width ≤ bytes.length) :
    bytes.drop offset =
      littleEndian width (field bytes offset width) ++ bytes.drop (offset + width) := by
  rw [littleEndian_field inside, ← List.drop_drop, List.take_append_drop]

theorem field_append {front : List UInt8} {offset : Nat} (hfront : front.length = offset)
    (width n : Nat) (rest : List UInt8) :
    field (front ++ (littleEndian width n ++ rest)) offset width = n % capacity width := by
  subst hfront
  have hlen := length_littleEndian width n
  rw [field, List.drop_left, List.take_left' hlen, ofLittleEndian_littleEndian]

/-- What a header says before it comes to the payload is in order. -/
structure Intact (bytes : List UInt8) : Prop where
  enough : headerSize ≤ bytes.length
  sameMagic : bytes.take magic.length = magic
  sameVersion : field bytes 4 2 = version
  noFlags : field bytes 6 2 = 0

theorem magic_length_le : magic.length ≤ headerSize := by decide

theorem Intact.read {bytes : List UInt8} (intact : Intact bytes) :
    readHeader bytes = .ok ⟨field bytes 8 4, UInt64.ofNat (field bytes 12 8)⟩ := by
  have whole : magic.take bytes.length = magic :=
    List.take_of_length_le (Nat.le_trans magic_length_le intact.enough)
  rw [readHeader, whole, if_neg (not_not_intro intact.sameMagic),
    if_neg (Nat.not_lt.mpr intact.enough), if_neg (not_not_intro intact.sameVersion),
    if_neg (not_not_intro intact.noFlags)]

theorem intact_of_read {bytes : List UInt8} {header : Header}
    (h : readHeader bytes = .ok header) : Intact bytes := by
  unfold readHeader at h
  split at h
  · cases h
  rename_i sameMagic
  split at h
  · cases h
  rename_i enough
  split at h
  · cases h
  rename_i sameVersion
  split at h
  · cases h
  rename_i noFlags
  have long : headerSize ≤ bytes.length := Nat.not_lt.mp enough
  have whole : magic.take bytes.length = magic :=
    List.take_of_length_le (Nat.le_trans magic_length_le long)
  rw [whole] at sameMagic
  exact ⟨long, Decidable.of_not_not sameMagic, Decidable.of_not_not sameVersion,
    Decidable.of_not_not noFlags⟩

namespace Header

def write (header : Header) : List UInt8 :=
  magic ++ littleEndian 2 version ++ littleEndian 2 0 ++ littleEndian 4 header.length ++
    littleEndian 8 header.checksum.toNat

def ofPayload (payload : List UInt8) : Header :=
  ⟨payload.length, Artifact.checksum payload⟩

theorem length_write (header : Header) : header.write.length = headerSize := by
  simp [write, length_littleEndian, magic, headerSize]

theorem drop_append (header : Header) (rest : List UInt8) :
    (header.write ++ rest).drop headerSize = rest :=
  List.drop_left' header.length_write

theorem read_write (header : Header) (fits : header.length < capacity 4) (rest : List UInt8) :
    readHeader (header.write ++ rest) = .ok header := by
  have enough : headerSize ≤ (header.write ++ rest).length := by
    rw [List.length_append, header.length_write]
    omega
  have hmagic : (header.write ++ rest).take magic.length = magic := by
    simp only [write, List.append_assoc]
    exact List.take_left
  have hversion : field (header.write ++ rest) 4 2 = version := by
    simp only [write, List.append_assoc]
    exact field_append (show magic.length = 4 from rfl) 2 version _
  have hflags : field (header.write ++ rest) 6 2 = 0 := by
    have hfront : (magic ++ littleEndian 2 version).length = 6 := rfl
    have h := field_append hfront 2 0
      (littleEndian 4 header.length ++ (littleEndian 8 header.checksum.toNat ++ rest))
    rw [Nat.zero_mod] at h
    simpa only [write, List.append_assoc] using h
  have hlength : field (header.write ++ rest) 8 4 = header.length := by
    have hfront : (magic ++ littleEndian 2 version ++ littleEndian 2 0).length = 8 := rfl
    have h := field_append hfront 4 header.length (littleEndian 8 header.checksum.toNat ++ rest)
    rw [Nat.mod_eq_of_lt (by omega)] at h
    simpa only [write, List.append_assoc] using h
  have hchecksum : field (header.write ++ rest) 12 8 = header.checksum.toNat := by
    have hfront : (magic ++ littleEndian 2 version ++ littleEndian 2 0 ++
        littleEndian 4 header.length).length = 12 := by
      simp [length_littleEndian, magic]
    have hlt : header.checksum.toNat < capacity 8 := header.checksum.toNat_lt
    have h := field_append hfront 8 header.checksum.toNat rest
    rw [Nat.mod_eq_of_lt hlt] at h
    simpa only [write, List.append_assoc] using h
  have intact : Intact (header.write ++ rest) := ⟨enough, hmagic, hversion, hflags⟩
  rw [intact.read, hlength, hchecksum, UInt64.ofNat_toNat]

theorem eq_write_of_read {bytes : List UInt8} {header : Header}
    (h : readHeader bytes = .ok header) :
    header.length < capacity 4 ∧ bytes = header.write ++ bytes.drop headerSize := by
  have intact := intact_of_read h
  have henough : 20 ≤ bytes.length := intact.enough
  have hall : bytes.take 4 = magic := intact.sameMagic
  rw [intact.read] at h
  have hsum : (UInt64.ofNat (field bytes 12 8)).toNat = field bytes 12 8 :=
    UInt64.toNat_ofNat_of_lt' (field_lt (by omega))
  obtain rfl := Except.ok.inj h
  refine ⟨field_lt (by omega), ?_⟩
  calc bytes
      = bytes.take 4 ++ bytes.drop 4 := (List.take_append_drop 4 bytes).symm
    _ = magic ++ (littleEndian 2 (field bytes 4 2) ++ (littleEndian 2 (field bytes 6 2) ++
          (littleEndian 4 (field bytes 8 4) ++
            (littleEndian 8 (field bytes 12 8) ++ bytes.drop 20)))) := by
        rw [hall, drop_eq_field_append 4 2 (by omega), drop_eq_field_append 6 2 (by omega),
          drop_eq_field_append 8 4 (by omega), drop_eq_field_append 12 8 (by omega)]
    _ = _ := by
        rw [intact.sameVersion, intact.noFlags]
        simp only [write, List.append_assoc, hsum, headerSize]

end Header

theorem frame_eq (payload : List UInt8) :
    frame payload = (Header.ofPayload payload).write ++ payload :=
  rfl

theorem length_frame (payload : List UInt8) :
    (frame payload).length = headerSize + payload.length := by
  rw [frame_eq, List.length_append, Header.length_write]

theorem drop_frame (payload : List UInt8) : (frame payload).drop headerSize = payload := by
  rw [frame_eq, Header.drop_append]

theorem readHeader_frame {payload : List UInt8} (fits : payload.length < capacity 4) :
    readHeader (frame payload) = .ok (Header.ofPayload payload) := by
  rw [frame_eq]
  exact Header.read_write _ fits payload

theorem unframe_frame {payload : List UInt8} (fits : payload.length < capacity 4) :
    unframe (frame payload) = .ok payload := by
  rw [unframe, readHeader_frame fits]
  simp [drop_frame, Header.ofPayload]

theorem eq_frame_of_unframe {bytes payload : List UInt8} (h : unframe bytes = .ok payload) :
    payload.length < capacity 4 ∧ bytes = frame payload := by
  unfold unframe at h
  cases hread : readHeader bytes with
  | error e =>
    rw [hread] at h
    cases h
  | ok header =>
    obtain ⟨fits, hbytes⟩ := Header.eq_write_of_read hread
    simp only [hread] at h
    split at h
    · cases h
    rename_i notShort
    split at h
    · cases h
    rename_i notLong
    split at h
    · cases h
    rename_i hsum
    obtain rfl := Except.ok.inj h
    have hlength : (bytes.drop headerSize).length = header.length := by omega
    have hheader : header = Header.ofPayload (bytes.drop headerSize) := by
      cases header
      rw [Header.ofPayload, hlength, Decidable.of_not_not hsum]
    rw [frame_eq, ← hheader]
    exact ⟨by omega, hbytes⟩

theorem unframe_eq_ok_iff {bytes payload : List UInt8} :
    unframe bytes = .ok payload ↔ payload.length < capacity 4 ∧ bytes = frame payload := by
  constructor
  · exact eq_frame_of_unframe
  · rintro ⟨fits, rfl⟩
    exact unframe_frame fits

theorem body_read_eq_ok_iff {payload ignored : List UInt8} {code : Code}
    (fits : payload.length < capacity 4) :
    body.read payload = .ok (code, ignored) ↔ payload = body.write code ++ ignored := by
  constructor
  · exact body_faithful.eq_write_of_read
  · rintro rfl
    rw [List.length_append] at fits
    have wider : capacity 4 < capacity 8 := by decide
    exact body_faithful.read_write code ignored (by omega)

theorem decode_of_unframe {bytes payload : List UInt8} {code : Code}
    (h : unframe bytes = .ok payload) :
    decode bytes = .ok code ↔ ∃ ignored, body.read payload = .ok (code, ignored) := by
  unfold decode
  simp only [h]
  cases hread : body.read payload with
  | error cause => simp
  | ok result => simp [Prod.ext_iff]

/-- The bytes that are decoded to a code: frames of a payload that starts with its body. -/
theorem decode_eq_ok_iff {bytes : List UInt8} {code : Code} :
    decode bytes = .ok code ↔ ∃ ignored,
      (body.write code ++ ignored).length < capacity 4 ∧
        bytes = frame (body.write code ++ ignored) := by
  constructor
  · intro h
    cases hunframe : unframe bytes with
    | error e =>
      rw [decode, hunframe] at h
      cases h
    | ok payload =>
      obtain ⟨fits, hbytes⟩ := unframe_eq_ok_iff.1 hunframe
      obtain ⟨ignored, hread⟩ := (decode_of_unframe hunframe).1 h
      obtain rfl := (body_read_eq_ok_iff fits).1 hread
      exact ⟨ignored, fits, hbytes⟩
  · rintro ⟨ignored, fits, rfl⟩
    have hread := (body_read_eq_ok_iff fits).2 (rfl : _ = body.write code ++ ignored)
    exact (decode_of_unframe (unframe_eq_ok_iff.2 ⟨fits, rfl⟩)).2 ⟨ignored, hread⟩

theorem body_append_inj {code code' : Code} {ignored ignored' : List UInt8}
    (fits : (body.write code ++ ignored).length < capacity 4)
    (h : body.write code ++ ignored = body.write code' ++ ignored') :
    code = code' ∧ ignored = ignored' := by
  have hread := (body_read_eq_ok_iff fits).2 rfl
  have hread' := (body_read_eq_ok_iff fits).2 h
  rw [hread] at hread'
  exact Prod.mk.inj (Except.ok.inj hread')

theorem encode_eq_ok_iff {code : Code} {bytes : List UInt8} :
    encode code = .ok bytes ↔
      (body.write code).length < capacity 4 ∧ bytes = frame (body.write code) := by
  simp only [encode]
  by_cases fits : (body.write code).length < capacity 4
  · rw [if_pos fits, Except.ok.injEq]
    exact ⟨fun h => ⟨fits, h.symm⟩, fun h => h.2.symm⟩
  · rw [if_neg fits]
    constructor
    · intro h
      cases h
    · intro h
      exact absurd h.1 fits

end ModuleImport.Artifact
