import ModuleImport.Proofs.Artifact.Frame
import ModuleImport.Proofs.Artifact.Mixing

namespace ModuleImport.Artifact

/-- The bytes with the bits of the mask changed in one of them. -/
def flipped (bytes : List UInt8) (i : Nat) (mask : UInt8) : List UInt8 :=
  bytes.modify i (· ^^^ mask)

section Flipped

variable (bytes front rest : List UInt8) (i : Nat) (mask : UInt8)

theorem length_flipped : (flipped bytes i mask).length = bytes.length :=
  List.length_modify ..

theorem take_flipped : (flipped bytes i mask).take i = bytes.take i := by
  apply List.ext_getElem?
  intro j
  by_cases hj : j < i
  · have hne : i ≠ j := by omega
    simp [flipped, hj, hne]
  · rw [List.getElem?_take, List.getElem?_take, if_neg hj, if_neg hj]

theorem drop_flipped : (flipped bytes i mask).drop (i + 1) = bytes.drop (i + 1) := by
  apply List.ext_getElem?
  intro j
  have hne : i ≠ i + 1 + j := by omega
  simp [flipped, List.getElem?_drop, hne]

variable {bytes front rest i mask}

theorem flipped_ne (inside : i < bytes.length) (changed : mask ≠ 0) :
    flipped bytes i mask ≠ bytes := by
  intro h
  have hbyte : bytes[i] ^^^ mask = bytes[i] := by
    have hi := congrArg (fun l => l[i]?) h
    simpa [flipped, inside] using hi
  apply changed
  calc mask
      = bytes[i] ^^^ (bytes[i] ^^^ mask) := by
        rw [← UInt8.xor_assoc, UInt8.xor_self, UInt8.zero_xor]
    _ = 0 := by rw [hbyte, UInt8.xor_self]

theorem drop_flipped_of_lt {n : Nat} (h : i < n) :
    (flipped bytes i mask).drop n = bytes.drop n := by
  have hn : i + 1 ≤ n := h
  exact drop_eq_of_le (drop_flipped bytes i mask) hn

theorem flipped_append (h : front.length ≤ i) :
    flipped (front ++ rest) i mask = front ++ flipped rest (i - front.length) mask := by
  induction front generalizing i with
  | nil => rfl
  | cons b front ih =>
    rw [List.length_cons] at h
    obtain ⟨i, rfl⟩ : ∃ j, i = j + 1 := ⟨i - 1, by omega⟩
    have hi : front.length ≤ i := by omega
    have hsub : i + 1 - (front.length + 1) = i - front.length := by omega
    have hstep : flipped (b :: (front ++ rest)) (i + 1) mask =
        b :: flipped (front ++ rest) i mask := rfl
    rw [List.cons_append, List.cons_append, hstep, ih hi, List.length_cons, hsub]

end Flipped

/-- Behind the header of a payload, another payload of the same length passes if the mixing agrees. -/
theorem unframe_altered {payload altered : List UInt8} (fits : payload.length < capacity 4)
    (hlen : altered.length = payload.length) :
    unframe ((Header.ofPayload payload).write ++ altered) =
      if mixBytes altered = mixBytes payload then .ok altered
      else .error (.checksumMismatch (checksum payload) (checksum altered)) := by
  have hread := Header.read_write (Header.ofPayload payload) fits altered
  rw [unframe, hread]
  simp only [Header.drop_append, Header.ofPayload, hlen, Nat.lt_irrefl, if_false, ne_eq,
    checksum_eq_iff hlen]
  split <;> simp_all

theorem decode_flipped_header (payload : List UInt8) {i : Nat} {mask : UInt8}
    (hi : i < headerSize) (changed : mask ≠ 0) :
    ∃ e, decode (flipped (frame payload) i mask) = .error e := by
  cases h : decode (flipped (frame payload) i mask) with
  | error e => exact ⟨e, rfl⟩
  | ok other =>
    -- the payload is what it was, so only the header that was there fits it
    obtain ⟨ignored, -, hframe⟩ := decode_eq_ok_iff.1 h
    have hpayload := congrArg (List.drop headerSize) hframe
    rw [drop_flipped_of_lt hi, drop_frame, drop_frame] at hpayload
    rw [← hpayload] at hframe
    have inside : i < (frame payload).length := by
      rw [length_frame]
      omega
    exact absurd hframe (flipped_ne inside changed)

theorem decode_flipped_payload {payload : List UInt8} (fits : payload.length < capacity 4) {i : Nat}
    (hi : headerSize ≤ i) (mask : UInt8) :
    unframe (flipped (frame payload) i mask) =
      if mixBytes (flipped payload (i - headerSize) mask) = mixBytes payload then
        .ok (flipped payload (i - headerSize) mask)
      else .error (.checksumMismatch (checksum payload)
        (checksum (flipped payload (i - headerSize) mask))) := by
  have hfront : (Header.ofPayload payload).write.length ≤ i := by rwa [Header.length_write]
  rw [frame_eq, flipped_append hfront, Header.length_write]
  exact unframe_altered fits (length_flipped ..)

theorem ne_of_flipped {code other : Code} {j : Nat} {mask : UInt8} {ignored : List UInt8}
    (inside : j < (body.write code).length) (changed : mask ≠ 0)
    (h : flipped (body.write code) j mask = body.write other ++ ignored) : other ≠ code := by
  rintro rfl
  have hlen := congrArg List.length h
  rw [length_flipped, List.length_append] at hlen
  have hnil : ignored = [] := List.length_eq_zero_iff.1 (by omega)
  rw [hnil, List.append_nil] at h
  exact flipped_ne inside changed h

/-- What the artifact of a code is decoded to when one of its bytes is damaged: to nothing if the
byte is in the header, never to the code itself, and to another code exactly if the mixing does not
change and what is left of the body is the other's. A damaged byte that the mixing has forgotten by its
end does not change it. -/
theorem decode_flipped {code : Code} {bytes : List UInt8} (encoded : encode code = .ok bytes)
    {i : Nat} (inside : i < bytes.length) {mask : UInt8} (changed : mask ≠ 0) :
    (∀ other, decode (flipped bytes i mask) = .ok other ↔
      headerSize ≤ i ∧ other ≠ code ∧
        mixBytes (flipped (body.write code) (i - headerSize) mask) =
          mixBytes (body.write code) ∧
        ∃ ignored, flipped (body.write code) (i - headerSize) mask =
          body.write other ++ ignored) ∧
    (headerSize ≤ i →
      mixBytes (flipped (body.write code) (i - headerSize) mask) ≠ mixBytes (body.write code) →
      decode (flipped bytes i mask) = .error (.checksumMismatch (checksum (body.write code))
        (checksum (flipped (body.write code) (i - headerSize) mask)))) ∧
    (Forgotten (body.write code) (i - headerSize) →
      mixBytes (flipped (body.write code) (i - headerSize) mask) =
        mixBytes (body.write code)) := by
  obtain ⟨fits, rfl⟩ := encode_eq_ok_iff.1 encoded
  rw [length_frame] at inside
  have hdamaged : (flipped (body.write code) (i - headerSize) mask).length < capacity 4 := by
    rwa [length_flipped]
  refine ⟨fun other => ⟨fun h => ?_, ?_⟩, ?_, ?_⟩
  · by_cases hi : i < headerSize
    · obtain ⟨e, he⟩ := decode_flipped_header (body.write code) hi changed
      rw [he] at h
      cases h
    have hi : headerSize ≤ i := by omega
    have hunframe := decode_flipped_payload fits hi mask
    split at hunframe
    · rename_i hmix
      obtain ⟨ignored, hread⟩ := (decode_of_unframe hunframe).1 h
      have hbody := (body_read_eq_ok_iff hdamaged).1 hread
      exact ⟨hi, ne_of_flipped (by omega) changed hbody, hmix, ignored, hbody⟩
    · simp only [decode, hunframe] at h
      cases h
  · rintro ⟨hi, -, hmix, ignored, hbody⟩
    have hunframe := decode_flipped_payload fits hi mask
    rw [if_pos hmix] at hunframe
    exact (decode_of_unframe hunframe).2 ⟨ignored, (body_read_eq_ok_iff hdamaged).2 hbody⟩
  · intro hi hmix
    have hunframe := decode_flipped_payload fits hi mask
    rw [if_neg hmix] at hunframe
    simp only [decode, hunframe]
  · intro forgotten
    exact (mixBytes_of_forgotten (length_flipped ..).symm (take_flipped ..).symm
      (drop_flipped ..).symm forgotten).symm

/-- A body whose number is the constant of the mixing, at the place of a chunk's second word. -/
def heat (name : String) : Code where
  name := "m"
  filename := "m.py"
  instructions := [.store name (.int (-6626703657320631856)), .print "overheated"]

/-- One bit of the stored name is damaged, and the artifact is decoded all the same. -/
theorem decode_flipped_heat :
    ∃ bytes, encode (heat "temperature") = .ok bytes ∧ 71 < bytes.length ∧ (1 : UInt8) ≠ 0 ∧
      decode (flipped bytes 71 1) = .ok (heat "temperaturd") ∧
        heat "temperaturd" ≠ heat "temperature" := by
  have encoded : encode (heat "temperature") = .ok (frame (body.write (heat "temperature"))) :=
    encode_eq_ok_iff.2 ⟨by decide +kernel, rfl⟩
  have inside : 71 < (frame (body.write (heat "temperature"))).length := by decide +kernel
  have changed : (1 : UInt8) ≠ 0 := by decide
  have forgotten : Forgotten (body.write (heat "temperature")) (71 - headerSize) :=
    ⟨3, by decide +kernel, by decide +kernel, .inl rfl⟩
  have different : heat "temperaturd" ≠ heat "temperature" := by decide +kernel
  have hall := decode_flipped encoded inside changed
  refine ⟨_, encoded, inside, changed, (hall.1 _).2 ⟨by decide, different, ?_, [], ?_⟩, different⟩
  · exact hall.2.2 forgotten
  · decide +kernel

end ModuleImport.Artifact
