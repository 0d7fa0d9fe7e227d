import Mathlib.Algebra.Group.Nat.Defs
import ModuleImport.Artifact.Checksum

namespace ModuleImport.Artifact

theorem addWord_inj {hash x y : UInt64} (h : addWord hash x = addWord hash y) : x = y := by
  -- the multiplier is odd and so has an inverse
  have hinv : (0xf1357aea2e62a9c5 : UInt64) * 0x781494a55daaed0d = 1 := by decide
  have hmul := congrArg (· * 0x781494a55daaed0d) h
  simp only [addWord, UInt64.mul_assoc, hinv, UInt64.mul_one] at hmul
  exact (UInt64.add_right_inj hash).1 hmul

theorem toNat_rotateLeft (x : UInt64) :
    (rotateLeft x 26).toNat = x.toNat % 2 ^ 38 * 2 ^ 26 + x.toNat / 2 ^ 38 := by
  have hx := x.toNat_lt
  have hlow : x.toNat / 2 ^ 38 < 2 ^ 26 := by omega
  have hhigh : x.toNat * 2 ^ 26 % 2 ^ 64 = x.toNat % 2 ^ 38 * 2 ^ 26 := by omega
  have hor := Nat.shiftLeft_add_eq_or_of_lt hlow (x.toNat % 2 ^ 38)
  rw [Nat.shiftLeft_eq] at hor
  simp only [rotateLeft, UInt64.toNat_or, UInt64.toNat_shiftLeft, UInt64.toNat_shiftRight]
  change x.toNat <<< 26 % 2 ^ 64 ||| x.toNat >>> 38 = _
  rw [Nat.shiftLeft_eq, Nat.shiftRight_eq_div_pow, hhigh, hor]

theorem rotateLeft_inj {x y : UInt64} (h : rotateLeft x 26 = rotateLeft y 26) : x = y := by
  have hx := x.toNat_lt
  have hy := y.toNat_lt
  have hnat := congrArg UInt64.toNat h
  rw [toNat_rotateLeft, toNat_rotateLeft] at hnat
  apply UInt64.toNat_inj.1
  omega

theorem checksum_eq_iff {xs ys : List UInt8} (hlen : xs.length = ys.length) :
    checksum xs = checksum ys ↔ mixBytes xs = mixBytes ys := by
  simp only [checksum, hlen]
  constructor
  · intro h
    exact addWord_inj (rotateLeft_inj h)
  · intro h
    rw [h]

theorem drop_eq_of_le {α : Type} {xs ys : List α} {a b : Nat} (h : xs.drop a = ys.drop a) (hab : a ≤ b) :
    xs.drop b = ys.drop b := by
  have hb : b = a + (b - a) := by omega
  rw [hb, ← List.drop_drop, ← List.drop_drop, h]

theorem take_eq_of_le {α : Type} {xs ys : List α} {a b : Nat} (h : xs.take b = ys.take b) (hab : a ≤ b) :
    xs.take a = ys.take a := by
  have hx := List.take_take (l := xs) (i := a) (j := b)
  have hy := List.take_take (l := ys) (i := a) (j := b)
  rw [Nat.min_eq_left hab] at hx hy
  rw [← hx, h, hy]

theorem word_take (width : Nat) (bytes : List UInt8) {n : Nat} (hn : width ≤ n) :
    word width (bytes.take n) = word width bytes := by
  rw [word, word, List.take_take, Nat.min_eq_left hn]

theorem foldedProduct_zero (x : UInt64) : foldedProduct x 0 = 0 := by
  simp [foldedProduct]

namespace Mix

theorem chunks_add (m : Mix) (k n : Nat) (bytes : List UInt8) :
    m.chunks (k + n) bytes = (m.chunks k bytes).chunks n (bytes.drop (16 * k)) := by
  induction k generalizing m bytes with
  | zero => simp [chunks]
  | succ k ih =>
    rw [Nat.succ_add, chunks, chunks, ih, List.drop_drop, Nat.mul_succ, Nat.add_comm 16]

theorem chunks_take (m : Mix) (k : Nat) (bytes : List UInt8) :
    m.chunks k (bytes.take (16 * k)) = m.chunks k bytes := by
  induction k generalizing m bytes with
  | zero => rfl
  | succ k ih =>
    have hrest : (bytes.take (16 * (k + 1))).drop 16 = (bytes.drop 16).take (16 * k) := by
      rw [List.drop_take]
      congr 1
    have hword : word 8 ((bytes.take (16 * (k + 1))).drop 8) = word 8 (bytes.drop 8) := by
      rw [List.drop_take]
      exact word_take 8 _ (by omega)
    rw [chunks, chunks, hrest, ih, hword, word_take 8 bytes (by omega)]

theorem chunks_congr (m : Mix) {k : Nat} {xs ys : List UInt8}
    (h : xs.take (16 * k) = ys.take (16 * k)) : m.chunks k xs = m.chunks k ys := by
  rw [← chunks_take, h, chunks_take]

theorem chunk_second {m m' : Mix} (h : m.first = m'.first) (x y : UInt64) :
    (m.chunk x y).second = (m'.chunk x y).second := by
  simp [chunk, h]

/-- The words of the state swap places with every chunk: after two chunks, a difference in the first
word has not reached the second. -/
theorem chunks_second {m m' : Mix} (h : m.second = m'.second) (n : Nat) (bytes : List UInt8) :
    (m.chunks (2 * n) bytes).second = (m'.chunks (2 * n) bytes).second := by
  induction n generalizing m m' bytes with
  | zero => exact h
  | succ n ih =>
    rw [Nat.mul_succ, chunks, chunks, chunks, chunks]
    exact ih (chunk_second h _ _) _

/-- A chunk with the constant as its second word forgets the first word of the state. -/
theorem chunk_cancelled {m m' : Mix} (h : m.second = m'.second) (x x' : UInt64) :
    m.chunk x 0xa4093822299f31d0 = m'.chunk x' 0xa4093822299f31d0 := by
  simp only [chunk, h, UInt64.xor_self, foldedProduct_zero]

theorem chunks_at (m : Mix) (k r : Nat) (bytes : List UInt8) :
    m.chunks (k + (r + 1)) bytes =
      ((m.chunks k bytes).chunk (word 8 (bytes.drop (16 * k))) (word 8 (bytes.drop (16 * k + 8)))).chunks
        r (bytes.drop (16 * k + 16)) := by
  rw [chunks_add]
  generalize m.chunks k bytes = m'
  rw [chunks, List.drop_drop, List.drop_drop]

/-- Up to the first word of a cancelled chunk, only the second word of the state counts. -/
theorem chunks_cancelled {m m' : Mix} {k : Nat} (r : Nat) {xs ys : List UInt8}
    (hsecond : (m.chunks k xs).second = (m'.chunks k ys).second)
    (hrest : xs.drop (16 * k + 8) = ys.drop (16 * k + 8))
    (cancelled : word 8 (xs.drop (16 * k + 8)) = 0xa4093822299f31d0) :
    m.chunks (k + (r + 1)) xs = m'.chunks (k + (r + 1)) ys := by
  have hnext : xs.drop (16 * k + 16) = ys.drop (16 * k + 16) := drop_eq_of_le hrest (by omega)
  have cancelled' : word 8 (ys.drop (16 * k + 8)) = 0xa4093822299f31d0 := by
    rw [← hrest, cancelled]
  rw [chunks_at, chunks_at, cancelled, cancelled', hnext]
  exact congrArg (chunks · r _) (chunk_cancelled hsecond _ _)

/-- A difference within one chunk is not in the second word an even number of chunks later. -/
theorem chunks_second_of_chunk (m : Mix) {c : Nat} (n : Nat) {xs ys : List UInt8}
    (hfront : xs.take (16 * c) = ys.take (16 * c))
    (hrest : xs.drop (16 * c + 16) = ys.drop (16 * c + 16)) :
    (m.chunks (c + (2 * n + 1 + 1)) xs).second = (m.chunks (c + (2 * n + 1 + 1)) ys).second := by
  rw [chunks_at m c _ xs, chunks_at m c _ ys, m.chunks_congr hfront, hrest]
  -- the chunk next to the difference has it in the second word, all the others follow in pairs
  rw [Nat.add_comm (2 * n) 1, chunks_add _ 1, chunks_add _ 1]
  apply chunks_second
  exact chunk_second rfl _ _

end Mix

theorem mixBytes_eq {xs ys : List UInt8} (hlen : xs.length = ys.length) (long : 16 < xs.length)
    (hchunks : Mix.start.chunks ((xs.length - 1) / 16) xs =
      Mix.start.chunks ((xs.length - 1) / 16) ys)
    (hlast : xs.drop (xs.length - 16) = ys.drop (xs.length - 16)) : mixBytes xs = mixBytes ys := by
  have hlast' : xs.drop (xs.length - 8) = ys.drop (xs.length - 8) := by
    have hsplit : xs.length - 8 = xs.length - 16 + 8 := by omega
    rw [hsplit, ← List.drop_drop, ← List.drop_drop, hlast]
  simp only [mixBytes, ← hlen, if_pos long, hchunks, hlast, hlast']

/-- The byte at `j` is forgotten before the mixing of the payload ends: a chunk that is cancelled
follows at an even distance, or the byte is in the first word of that chunk. The last sixteen bytes
are taken in after all chunks and are no part of this. -/
def Forgotten (payload : List UInt8) (j : Nat) : Prop :=
  ∃ k, 16 * k + 24 ≤ payload.length ∧
    word 8 (payload.drop (16 * k + 8)) = 0xa4093822299f31d0 ∧
      (j / 8 = 2 * k ∨ ∃ n, j / 16 + 2 * (n + 1) = k)

theorem mixBytes_of_forgotten {xs ys : List UInt8} {j : Nat} (hlen : xs.length = ys.length)
    (before : xs.take j = ys.take j) (after : xs.drop (j + 1) = ys.drop (j + 1))
    (forgotten : Forgotten xs j) : mixBytes xs = mixBytes ys := by
  obtain ⟨k, inside, cancelled, place⟩ := forgotten
  have hrest : xs.drop (16 * k + 8) = ys.drop (16 * k + 8) := by
    apply drop_eq_of_le after
    omega
  have hsecond : (Mix.start.chunks k xs).second = (Mix.start.chunks k ys).second := by
    rcases place with near | ⟨n, far⟩
    · rw [Mix.start.chunks_congr (take_eq_of_le before (show 16 * k ≤ j by omega))]
    · have hfront := take_eq_of_le before (show 16 * (j / 16) ≤ j by omega)
      have hback := drop_eq_of_le after (show j + 1 ≤ 16 * (j / 16) + 16 by omega)
      have h := Mix.start.chunks_second_of_chunk n hfront hback
      have hk : j / 16 + (2 * n + 1 + 1) = k := by omega
      rwa [hk] at h
  obtain ⟨r, hr⟩ : ∃ r, (xs.length - 1) / 16 = k + (r + 1) :=
    ⟨(xs.length - 1) / 16 - k - 1, by omega⟩
  apply mixBytes_eq hlen
  · omega
  · rw [hr]
    exact Mix.chunks_cancelled r hsecond hrest cancelled
  · apply drop_eq_of_le hrest
    omega

end ModuleImport.Artifact
