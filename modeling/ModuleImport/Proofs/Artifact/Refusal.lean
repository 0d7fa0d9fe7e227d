import ModuleImport.Proofs.Artifact.Frame

namespace ModuleImport.Artifact

section Fields

variable {bytes : List UInt8} {i : Nat} {byte : UInt8}

theorem field_set_of_outside (bytes : List UInt8) (byte : UInt8) (offset width : Nat)
    (outside : i < offset ∨ offset + width ≤ i) :
    field (bytes.set i byte) offset width = field bytes offset width := by
  have same : ((bytes.set i byte).drop offset).take width = (bytes.drop offset).take width := by
    apply List.ext_getElem?
    intro j
    by_cases within : j < width
    · have ne : i ≠ offset + j := by omega
      simp [List.getElem?_drop, ne, within]
    · rw [List.getElem?_take, List.getElem?_take, if_neg within, if_neg within]
  rw [field, same, field]

theorem field_set_ne (offset width : Nat) (first : offset ≤ i) (last : i < offset + width)
    (fits : offset + width ≤ bytes.length) (changed : bytes[i]? ≠ some byte) :
    field (bytes.set i byte) offset width ≠ field bytes offset width := by
  intro same
  have spelled := congrArg (littleEndian width) same
  rw [littleEndian_field fits, littleEndian_field (by rwa [List.length_set])] at spelled
  have there : i - offset < width := by omega
  have index : offset + (i - offset) = i := by omega
  have inside : i < bytes.length := by omega
  have read := congrArg (fun row => row[i - offset]?) spelled
  simp only [List.getElem?_take, if_pos there, List.getElem?_drop, index] at read
  rw [List.getElem?_set_self inside] at read
  exact changed read.symm

end Fields

section Headers

variable {bytes rest : List UInt8} {header : Header} {i n : Nat} {byte : UInt8}

theorem decode_of_readHeader {e : ArtifactError} (h : readHeader bytes = .error e) :
    decode bytes = .error e := by
  rw [decode, unframe, h]

section Payloads

variable (header : Header) (fits : header.length < capacity 4)

include fits

theorem unframe_write (rest : List UInt8) :
    unframe (header.write ++ rest) =
      if rest.length < header.length then
        .error (.truncated (headerSize + header.length) (headerSize + rest.length))
      else if header.length < rest.length then .error (.trailingBytes (rest.length - header.length))
      else if checksum rest ≠ header.checksum then
        .error (.checksumMismatch header.checksum (checksum rest))
      else .ok rest := by
  rw [unframe, Header.read_write header fits rest]
  simp only [Header.drop_append, List.length_append, Header.length_write]

theorem decode_write_of_shorter (shorter : rest.length < header.length) :
    decode (header.write ++ rest) =
      .error (.truncated (headerSize + header.length) (headerSize + rest.length)) := by
  have refused := unframe_write header fits rest
  rw [if_pos shorter] at refused
  rw [decode, refused]

theorem decode_write_of_longer (longer : header.length < rest.length) :
    decode (header.write ++ rest) = .error (.trailingBytes (rest.length - header.length)) := by
  have refused := unframe_write header fits rest
  rw [if_neg (Nat.lt_asymm longer), if_pos longer] at refused
  rw [decode, refused]

theorem decode_write_of_other (same : rest.length = header.length)
    (other : checksum rest ≠ header.checksum) : decode (header.write ++ rest) =
      .error (.checksumMismatch header.checksum (checksum rest)) := by
  have refused := unframe_write header fits rest
  rw [same, if_neg (Nat.lt_irrefl _), if_neg (Nat.lt_irrefl _), if_pos other] at refused
  rw [decode, refused]

end Payloads

/-- Bytes that are too few for a header are refused as such, if they are the first of an artifact. -/
theorem Intact.decode_take_of_lt (intact : Intact bytes) (cut : n < headerSize) :
    decode (bytes.take n) = .error (.truncated headerSize n) := by
  have length : (bytes.take n).length = n := by
    have := intact.enough
    rw [List.length_take]
    omega
  have sameMagic : (bytes.take n).take magic.length = magic.take (bytes.take n).length := by
    rw [length, List.take_take, Nat.min_comm, ← List.take_take, intact.sameMagic]
  apply decode_of_readHeader
  rw [readHeader, if_neg (not_not_intro sameMagic), length, if_pos cut]

theorem Intact.decode_set_magic (intact : Intact bytes) (inMagic : i < magic.length)
    (changed : bytes[i]? ≠ some byte) : decode (bytes.set i byte) = .error .badMagic := by
  have whole : magic.take (bytes.set i byte).length = magic := by
    rw [List.length_set]
    exact List.take_of_length_le (Nat.le_trans magic_length_le intact.enough)
  have foreign : (bytes.set i byte).take magic.length ≠ magic := by
    intro same
    have inside : i < bytes.length :=
      Nat.lt_of_lt_of_le inMagic (Nat.le_trans magic_length_le intact.enough)
    have read := congrArg (fun row => row[i]?) (same.trans intact.sameMagic.symm)
    simp only [List.getElem?_take, if_pos inMagic] at read
    rw [List.getElem?_set_self inside] at read
    exact changed read.symm
  apply decode_of_readHeader
  rw [readHeader, whole, if_pos foreign]

/-- Behind the magic bytes a change leaves the magic bytes and the number of bytes as they are. -/
theorem Intact.readHeader_set (intact : Intact bytes) (behind : magic.length ≤ i) (byte : UInt8) :
    readHeader (bytes.set i byte) =
      if field (bytes.set i byte) 4 2 ≠ version then
        .error (.unsupportedVersion (field (bytes.set i byte) 4 2) version)
      else if field (bytes.set i byte) 6 2 ≠ 0 then
        .error (.unknownFlags (field (bytes.set i byte) 6 2))
      else .ok ⟨field (bytes.set i byte) 8 4, UInt64.ofNat (field (bytes.set i byte) 12 8)⟩ := by
  have whole : magic.take (bytes.set i byte).length = magic := by
    rw [List.length_set]
    exact List.take_of_length_le (Nat.le_trans magic_length_le intact.enough)
  have sameMagic : (bytes.set i byte).take magic.length = magic := by
    rw [List.take_set, List.set_eq_of_length_le, intact.sameMagic]
    rw [intact.sameMagic]
    exact behind
  have enough : ¬(bytes.set i byte).length < headerSize := by
    rw [List.length_set]
    exact Nat.not_lt.mpr intact.enough
  rw [readHeader, whole, if_neg (not_not_intro sameMagic), if_neg enough]

theorem Intact.decode_set_version (intact : Intact bytes) (first : 4 ≤ i) (last : i < 6)
    (changed : bytes[i]? ≠ some byte) :
    field (bytes.set i byte) 4 2 ≠ version ∧ decode (bytes.set i byte) =
      .error (.unsupportedVersion (field (bytes.set i byte) 4 2) version) := by
  have long : 20 ≤ bytes.length := intact.enough
  have other := field_set_ne 4 2 first last (by omega) changed
  rw [intact.sameVersion] at other
  refine ⟨other, decode_of_readHeader ?_⟩
  rw [intact.readHeader_set first, if_pos other]

theorem Intact.decode_set_flags (intact : Intact bytes) (first : 6 ≤ i) (last : i < 8)
    (changed : bytes[i]? ≠ some byte) :
    field (bytes.set i byte) 6 2 ≠ 0 ∧
      decode (bytes.set i byte) = .error (.unknownFlags (field (bytes.set i byte) 6 2)) := by
  have long : 20 ≤ bytes.length := intact.enough
  have other := field_set_ne 6 2 first last (by omega) changed
  rw [intact.noFlags] at other
  have sameVersion := field_set_of_outside bytes byte 4 2 (.inr first)
  rw [intact.sameVersion] at sameVersion
  refine ⟨other, decode_of_readHeader ?_⟩
  rw [intact.readHeader_set (Nat.le_trans (by decide) first), if_neg (not_not_intro sameVersion),
    if_pos other]

/-- Behind the flags a change leaves a header that can be read, in front of the same payload. -/
theorem Intact.unframe_set (intact : Intact bytes) (first : 8 ≤ i) (last : i < headerSize)
    (byte : UInt8) : ∃ header : Header, header.length < capacity 4 ∧
      header = ⟨field (bytes.set i byte) 8 4, UInt64.ofNat (field (bytes.set i byte) 12 8)⟩ ∧
      bytes.set i byte = header.write ++ bytes.drop headerSize := by
  have sameVersion := field_set_of_outside bytes byte 4 2
    (.inr (Nat.le_trans (by decide) first))
  have noFlags := field_set_of_outside bytes byte 6 2 (.inr first)
  rw [intact.sameVersion] at sameVersion
  rw [intact.noFlags] at noFlags
  have read := intact.readHeader_set (Nat.le_trans (by decide) first) byte
  rw [if_neg (not_not_intro sameVersion), if_neg (not_not_intro noFlags)] at read
  obtain ⟨fits, written⟩ := Header.eq_write_of_read read
  rw [List.drop_set_of_lt last] at written
  exact ⟨_, fits, rfl, written⟩

end Headers

section Frames

variable {payload : List UInt8} {i n : Nat} {byte : UInt8}

theorem intact_frame (fits : payload.length < capacity 4) : Intact (frame payload) :=
  intact_of_read (readHeader_frame fits)

theorem field_frame (fits : payload.length < capacity 4) :
    field (frame payload) 8 4 = payload.length ∧
      UInt64.ofNat (field (frame payload) 12 8) = checksum payload := by
  have read := (intact_frame fits).read
  rw [readHeader_frame fits] at read
  have same := Except.ok.inj read
  exact ⟨(congrArg Header.length same).symm, (congrArg Header.checksum same).symm⟩

theorem decode_take_frame (fits : payload.length < capacity 4) (behind : headerSize ≤ n)
    (cut : n < (frame payload).length) :
    decode ((frame payload).take n) = .error (.truncated (frame payload).length n) := by
  rw [length_frame] at cut ⊢
  obtain ⟨kept, rfl⟩ := Nat.exists_eq_add_of_le behind
  have shorter : (payload.take kept).length < payload.length := by
    rw [List.length_take]
    omega
  have found : headerSize + (payload.take kept).length = headerSize + kept := by
    rw [List.length_take]
    omega
  have whole : (frame payload).take (headerSize + kept) =
      (Header.ofPayload payload).write ++ payload.take kept := by
    rw [frame_eq, ← (Header.ofPayload payload).length_write, List.take_length_add_append]
  rw [whole, decode_write_of_shorter _ fits shorter, found]
  rfl

theorem decode_frame_append (fits : payload.length < capacity 4) {extra : List UInt8}
    (some : extra ≠ []) : decode (frame payload ++ extra) = .error (.trailingBytes extra.length) := by
  have more : 0 < extra.length := List.length_pos_iff.mpr some
  have longer : payload.length < (payload ++ extra).length := by
    rw [List.length_append]
    omega
  have surplus : (payload ++ extra).length - payload.length = extra.length := by
    rw [List.length_append]
    omega
  rw [frame_eq, List.append_assoc, decode_write_of_longer _ fits longer]
  exact congrArg (fun size => Except.error (ArtifactError.trailingBytes size)) surplus

/-- The payload of a frame is too short or too long for any other length in the header. -/
theorem decode_frame_set_length (fits : payload.length < capacity 4) (first : 8 ≤ i) (last : i < 12)
    (changed : (frame payload)[i]? ≠ some byte) :
    let size := field ((frame payload).set i byte) 8 4
    payload.length < size ∧ decode ((frame payload).set i byte) =
        .error (.truncated (headerSize + size) (frame payload).length) ∨
      size < payload.length ∧ decode ((frame payload).set i byte) =
        .error (.trailingBytes (payload.length - size)) := by
  intro size
  have intact := intact_frame fits
  have long : 20 ≤ (frame payload).length := intact.enough
  have other : size ≠ payload.length := by
    rw [← (field_frame fits).1]
    exact field_set_ne 8 4 first last (by omega) changed
  obtain ⟨header, small, same, whole⟩ := intact.unframe_set first (Nat.lt_trans last (by decide)) byte
  have read : header.length = size := congrArg Header.length same
  rw [drop_frame] at whole
  rw [whole, ← read, length_frame]
  rw [← read] at other
  rcases Nat.lt_or_gt_of_ne other with less | more
  · exact .inr ⟨less, decode_write_of_longer header small less⟩
  · exact .inl ⟨more, decode_write_of_shorter header small more⟩

theorem decode_frame_set_checksum (fits : payload.length < capacity 4) (first : 12 ≤ i)
    (last : i < headerSize) (changed : (frame payload)[i]? ≠ some byte) :
    let sum := UInt64.ofNat (field ((frame payload).set i byte) 12 8)
    sum ≠ checksum payload ∧ decode ((frame payload).set i byte) =
      .error (.checksumMismatch sum (checksum payload)) := by
  intro sum
  have intact := intact_frame fits
  have long : 20 ≤ (frame payload).length := intact.enough
  have other : sum ≠ checksum payload := by
    rw [← (field_frame fits).2]
    intro same
    have values := congrArg UInt64.toNat same
    rw [UInt64.toNat_ofNat_of_lt' (field_lt (by rw [List.length_set]; omega)),
      UInt64.toNat_ofNat_of_lt' (field_lt (by omega))] at values
    exact field_set_ne 12 8 first last (by omega) changed values
  obtain ⟨header, small, same, whole⟩ := intact.unframe_set (Nat.le_trans (by decide) first) last byte
  have sameSum : header.checksum = sum := congrArg Header.checksum same
  have sameLength : header.length = payload.length := by
    rw [same, ← (field_frame fits).1]
    exact field_set_of_outside _ byte 8 4 (.inr first)
  rw [drop_frame] at whole
  rw [whole, ← sameSum]
  rw [← sameSum] at other
  exact ⟨other, decode_write_of_other header small sameLength.symm other.symm⟩

end Frames

/-- What a damaged artifact is refused for: a part of it for being cut off, an artifact with bytes
behind it for those, and one with another byte in its header for the field of that byte. -/
theorem decode_damaged {code : Code} {bytes : List UInt8} (encoded : encode code = .ok bytes) :
    (∀ n < 20, decode (bytes.take n) = .error (.truncated 20 n)) ∧
    (∀ n, 20 ≤ n → n < bytes.length →
      decode (bytes.take n) = .error (.truncated bytes.length n)) ∧
    (∀ extra, extra ≠ [] → decode (bytes ++ extra) = .error (.trailingBytes extra.length)) ∧
    ∀ i byte, bytes[i]? ≠ some byte →
      (i < 4 → decode (bytes.set i byte) = .error .badMagic) ∧
      (4 ≤ i → i < 6 → ∃ found, found ≠ version ∧
        decode (bytes.set i byte) = .error (.unsupportedVersion found version)) ∧
      (6 ≤ i → i < 8 → ∃ flags, flags ≠ 0 ∧
        decode (bytes.set i byte) = .error (.unknownFlags flags)) ∧
      (8 ≤ i → i < 12 →
        field bytes 8 4 < field (bytes.set i byte) 8 4 ∧
          decode (bytes.set i byte) =
            .error (.truncated (20 + field (bytes.set i byte) 8 4) bytes.length) ∨
        field (bytes.set i byte) 8 4 < field bytes 8 4 ∧
          decode (bytes.set i byte) =
            .error (.trailingBytes (field bytes 8 4 - field (bytes.set i byte) 8 4))) ∧
      (12 ≤ i → i < 20 → ∃ sum, sum ≠ checksum (body.write code) ∧
        decode (bytes.set i byte) =
          .error (.checksumMismatch sum (checksum (body.write code)))) := by
  obtain ⟨fits, rfl⟩ := encode_eq_ok_iff.mp encoded
  have intact := intact_frame fits
  refine ⟨fun n cut => intact.decode_take_of_lt cut, fun n => decode_take_frame fits,
    fun extra => decode_frame_append fits, fun i byte changed => ⟨?_, ?_, ?_, ?_, ?_⟩⟩
  · intro inMagic
    exact intact.decode_set_magic inMagic changed
  · intro first last
    exact ⟨_, intact.decode_set_version first last changed⟩
  · intro first last
    exact ⟨_, intact.decode_set_flags first last changed⟩
  · intro first last
    rw [(field_frame fits).1]
    exact decode_frame_set_length fits first last changed
  · intro first last
    exact ⟨_, decode_frame_set_checksum fits first last changed⟩

def greeting : Code where
  name := "m"
  filename := "m.py"
  instructions := [.print "hello"]

/-- The artifact is cut off within the magic bytes and within its payload, continued by one byte, and
changed in the last byte of each field of its header. -/
theorem decode_damaged_greeting :
    ∃ bytes, encode greeting = .ok bytes ∧ bytes.length = 66 ∧
      decode (bytes.take 3) = .error (.truncated 20 3) ∧
      decode (bytes.take 20) = .error (.truncated 66 20) ∧
      decode (bytes ++ [0]) = .error (.trailingBytes 1) ∧
      decode (bytes.set 3 0) = .error .badMagic ∧
      (∃ found, found ≠ version ∧
        decode (bytes.set 5 1) = .error (.unsupportedVersion found version)) ∧
      (∃ flags, flags ≠ 0 ∧ decode (bytes.set 7 1) = .error (.unknownFlags flags)) ∧
      field bytes 8 4 < field (bytes.set 11 1) 8 4 ∧
      decode (bytes.set 11 1) =
        .error (.truncated (20 + field (bytes.set 11 1) 8 4) bytes.length) ∧
      ∃ sum, sum ≠ checksum (body.write greeting) ∧ decode (bytes.set 19 0) =
        .error (.checksumMismatch sum (checksum (body.write greeting))) := by
  have encoded : encode greeting = .ok (frame (body.write greeting)) :=
    encode_eq_ok_iff.mpr ⟨by decide +kernel, rfl⟩
  have length : (frame (body.write greeting)).length = 66 := by decide +kernel
  obtain ⟨headerCut, payloadCut, continued, replaced⟩ := decode_damaged encoded
  rw [length] at payloadCut
  have magic := (replaced 3 0 (by decide +kernel)).1 (by decide)
  have version := (replaced 5 1 (by decide +kernel)).2.1 (by decide) (by decide)
  have flags := (replaced 7 1 (by decide +kernel)).2.2.1 (by decide) (by decide)
  have size := (replaced 11 1 (by decide +kernel)).2.2.2.1 (by decide) (by decide)
  have sum := (replaced 19 0 (by decide +kernel)).2.2.2.2 (by decide) (by decide)
  have grown : field (frame (body.write greeting)) 8 4 <
      field ((frame (body.write greeting)).set 11 1) 8 4 := by decide +kernel
  refine ⟨_, encoded, length, headerCut 3 (by decide), payloadCut 20 (by decide) (by decide),
    continued [0] (by decide), magic, version, flags, grown, ?_, sum⟩
  rcases size with ⟨-, refused⟩ | ⟨shrunk, -⟩
  · exact refused
  · exact absurd shrunk (Nat.lt_asymm grown)

end ModuleImport.Artifact
