import ModuleImport.Artifact.LittleEndian
import ModuleImport.Artifact.Reader

namespace ModuleImport.Artifact

structure Codec (α : Type) where
  write : α → List UInt8
  read : Reader α

namespace Codec

/-- Whatever is written is read back, whatever follows it, as long as every length in it fits into
its eight bytes; and only what is written is read. -/
structure Faithful {α : Type} (c : Codec α) : Prop where
  read_write : ∀ a rest, (c.write a).length < capacity 8 → c.read (c.write a ++ rest) = .ok (a, rest)
  eq_write_of_read : ∀ {bytes a rest}, c.read bytes = .ok (a, rest) → bytes = c.write a ++ rest

def nat (width : Nat) : Codec Nat where
  write n := littleEndian width n
  read := ofLittleEndian <$> takeBytes width .unexpectedEnd

theorem nat_read_write {width n : Nat} (h : n < capacity width) (rest : List UInt8) :
    (nat width).read ((nat width).write n ++ rest) = .ok (n, rest) := by
  have taken := takeBytes_append (littleEndian width n) rest .unexpectedEnd
  rw [length_littleEndian] at taken
  refine (Reader.map_of_eq_ok _ taken).trans ?_
  rw [ofLittleEndian_littleEndian, Nat.mod_eq_of_lt h]

theorem eq_write_of_nat_read {width n : Nat} {bytes rest : List UInt8}
    (h : (nat width).read bytes = .ok (n, rest)) :
    bytes = (nat width).write n ++ rest ∧ n < capacity width := by
  obtain ⟨front, taken, rfl⟩ := Reader.map_eq_ok_iff.1 h
  obtain ⟨rfl, rfl⟩ := eq_append_of_takeBytes taken
  refine ⟨?_, ofLittleEndian_lt front⟩
  change front ++ rest = littleEndian front.length (ofLittleEndian front) ++ rest
  rw [littleEndian_ofLittleEndian]

/-- One of `count` alternatives by its index, in four bytes. -/
def alternative (count : Nat) : Codec (Fin count) where
  write i := (nat 4).write i
  read := do
    let found ← (nat 4).read
    if h : found < count then return ⟨found, h⟩
    else throw (.unknownAlternative found count)

theorem alternative_faithful {count : Nat} (small : count ≤ capacity 4) :
    (alternative count).Faithful where
  read_write i rest _ := by
    have lt : i.val < capacity 4 := Nat.lt_of_lt_of_le i.isLt small
    refine (Reader.bind_of_eq_ok _ (nat_read_write lt rest)).trans ?_
    simp only [i.isLt, dite_true]
    rfl
  eq_write_of_read {bytes i rest} h := by
    obtain ⟨found, left, hfound, h⟩ := Reader.bind_eq_ok_iff.1 h
    split at h
    · obtain ⟨rfl, rfl⟩ := Reader.pure_eq_ok_iff.1 h
      exact (eq_write_of_nat_read hfound).1
    · cases h

def bool : Codec Bool where
  write b := (nat 1).write b.toNat
  read := do
    match ← (nat 1).read with
    | 0 => return false
    | 1 => return true
    | byte => throw (.invalidBool byte)

theorem bool_faithful : bool.Faithful where
  read_write b rest _ := by
    have lt : b.toNat < capacity 1 := Nat.lt_of_le_of_lt b.toNat_le (by decide)
    refine (Reader.bind_of_eq_ok _ (nat_read_write lt rest)).trans ?_
    cases b <;> rfl
  eq_write_of_read {bytes b rest} h := by
    obtain ⟨found, left, hfound, h⟩ := Reader.bind_eq_ok_iff.1 h
    split at h
    · obtain ⟨rfl, rfl⟩ := Reader.pure_eq_ok_iff.1 h
      exact (eq_write_of_nat_read hfound).1
    · obtain ⟨rfl, rfl⟩ := Reader.pure_eq_ok_iff.1 h
      exact (eq_write_of_nat_read hfound).1
    · cases h

def int64 : Codec Int64 where
  write n := (nat 8).write n.toUInt64.toNat
  read := (fun n => (UInt64.ofNat n).toInt64) <$> (nat 8).read

theorem int64_faithful : int64.Faithful where
  read_write n rest _ := by
    have lt : n.toUInt64.toNat < capacity 8 := n.toUInt64.toNat_lt
    refine (Reader.map_of_eq_ok _ (nat_read_write lt rest)).trans ?_
    simp
  eq_write_of_read {bytes n rest} h := by
    obtain ⟨found, hfound, rfl⟩ := Reader.map_eq_ok_iff.1 h
    obtain ⟨hbytes, lt⟩ := eq_write_of_nat_read hfound
    have same : (UInt64.ofNat found).toNat = found := UInt64.toNat_ofNat_of_lt' lt
    simpa [int64, same] using hbytes

/-- The length is checked before the bytes are looked at. -/
def text : Codec String where
  write s := (nat 8).write (Text.utf8 s).length ++ Text.utf8 s
  read := do
    let length ← (nat 8).read
    let bytes ← takeBytes length .textTooLong
    match Text.ofUtf8 bytes with
    | .ok s => return s
    | .error fault => throw (.invalidText fault)

theorem text_faithful : text.Faithful where
  read_write s rest fits := by
    have lt : (Text.utf8 s).length < capacity 8 := by
      simp [text] at fits
      omega
    rw [text, List.append_assoc]
    refine (Reader.bind_of_eq_ok _ (nat_read_write lt _)).trans ?_
    refine (Reader.bind_of_eq_ok _ (takeBytes_append _ rest _)).trans ?_
    rw [Text.ofUtf8_utf8]
    rfl
  eq_write_of_read {bytes s rest} h := by
    obtain ⟨length, left, hlength, hafter⟩ := Reader.bind_eq_ok_iff.1 h
    obtain ⟨content, left', hcontent, hend⟩ := Reader.bind_eq_ok_iff.1 hafter
    obtain ⟨rfl, rfl⟩ := eq_append_of_takeBytes hcontent
    cases ht : Text.ofUtf8 content with
    | ok t =>
      rw [ht] at hend
      obtain ⟨rfl, rfl⟩ := Reader.pure_eq_ok_iff.1 hend
      have same := Text.utf8_of_ofUtf8 ht
      subst same
      rw [text, List.append_assoc]
      exact (eq_write_of_nat_read hlength).1
    | error fault =>
      rw [ht] at hend
      cases hend

def optional {α : Type} (c : Codec α) : Codec (Option α) where
  write
    | none => (nat 1).write 0
    | some a => (nat 1).write 1 ++ c.write a
  read := do
    match ← (nat 1).read with
    | 0 => return none
    | 1 => some <$> c.read
    | tag => throw (.invalidOption tag)

theorem optional_faithful {α : Type} {c : Codec α} (faithful : c.Faithful) :
    c.optional.Faithful where
  read_write a? rest fits := by
    cases a? with
    | none => exact Reader.bind_of_eq_ok _ (nat_read_write (by decide) rest)
    | some a =>
      have fits' : (c.write a).length < capacity 8 := by
        simp [optional] at fits
        omega
      rw [optional, List.append_assoc]
      refine (Reader.bind_of_eq_ok _ (nat_read_write (by decide) _)).trans ?_
      exact Reader.map_of_eq_ok _ (faithful.read_write a rest fits')
  eq_write_of_read {bytes a? rest} h := by
    obtain ⟨tag, left, htag, h⟩ := Reader.bind_eq_ok_iff.1 h
    have hbytes := (eq_write_of_nat_read htag).1
    split at h
    · obtain ⟨rfl, rfl⟩ := Reader.pure_eq_ok_iff.1 h
      exact hbytes
    · obtain ⟨a, ha, rfl⟩ := Reader.map_eq_ok_iff.1 h
      rw [hbytes, faithful.eq_write_of_read ha, optional, List.append_assoc]
    · cases h

def readMany {α : Type} (c : Codec α) : Nat → Reader (List α)
  | 0 => return []
  | count + 1 => do
    let a ← c.read
    let as ← c.readMany count
    return a :: as

theorem readMany_flatMap_write {α : Type} {c : Codec α} (faithful : c.Faithful) (as : List α)
    (rest : List UInt8) (fits : (as.flatMap c.write).length < capacity 8) :
    c.readMany as.length (as.flatMap c.write ++ rest) = .ok (as, rest) := by
  induction as with
  | nil => rfl
  | cons a as ih =>
    rw [List.flatMap_cons, List.length_append] at fits
    rw [List.flatMap_cons, List.append_assoc, List.length_cons, readMany]
    refine (Reader.bind_of_eq_ok _ (faithful.read_write a _ (by omega))).trans ?_
    exact Reader.bind_of_eq_ok _ (ih (by omega))

theorem eq_flatMap_write_of_readMany {α : Type} {c : Codec α} (faithful : c.Faithful)
    {count : Nat} {bytes rest : List UInt8} {as : List α}
    (h : c.readMany count bytes = .ok (as, rest)) :
    bytes = as.flatMap c.write ++ rest ∧ as.length = count := by
  induction count generalizing bytes as with
  | zero =>
    obtain ⟨rfl, rfl⟩ := Reader.pure_eq_ok_iff.1 h
    exact ⟨rfl, rfl⟩
  | succ count ih =>
    obtain ⟨a, left, ha, h⟩ := Reader.bind_eq_ok_iff.1 h
    obtain ⟨tail, left', htail, h⟩ := Reader.bind_eq_ok_iff.1 h
    obtain ⟨rfl, rfl⟩ := Reader.pure_eq_ok_iff.1 h
    obtain ⟨hleft, rfl⟩ := ih htail
    rw [faithful.eq_write_of_read ha, hleft, List.flatMap_cons, List.append_assoc]
    exact ⟨rfl, rfl⟩

def list {α : Type} (c : Codec α) : Codec (List α) where
  write as := (nat 8).write as.length ++ as.flatMap c.write
  read := do
    let count ← (nat 8).read
    c.readMany count

theorem length_le_of_nonempty {α : Type} {c : Codec α} (nonempty : ∀ a, c.write a ≠ [])
    (as : List α) : as.length ≤ (as.flatMap c.write).length := by
  induction as with
  | nil => simp
  | cons a as ih =>
    have := List.length_pos_iff.2 (nonempty a)
    rw [List.flatMap_cons, List.length_append, List.length_cons]
    omega

theorem list_faithful {α : Type} {c : Codec α} (faithful : c.Faithful)
    (nonempty : ∀ a, c.write a ≠ []) : c.list.Faithful where
  read_write as rest fits := by
    have many := length_le_of_nonempty nonempty as
    have fits' : (as.flatMap c.write).length < capacity 8 := by
      rw [list, List.length_append] at fits
      omega
    rw [list, List.append_assoc]
    refine (Reader.bind_of_eq_ok _ (nat_read_write (by omega) _)).trans ?_
    exact readMany_flatMap_write faithful as rest fits'
  eq_write_of_read {bytes as rest} h := by
    obtain ⟨count, left, hcount, h⟩ := Reader.bind_eq_ok_iff.1 h
    obtain ⟨rfl, rfl⟩ := eq_flatMap_write_of_readMany faithful h
    rw [list, List.append_assoc]
    exact (eq_write_of_nat_read hcount).1

end Codec

end ModuleImport.Artifact
