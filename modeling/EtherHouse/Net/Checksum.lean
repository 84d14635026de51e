import EtherHouse.Lib.OnesComplement
import EtherHouse.Net.Wire

/-!
# Checksums

The sum that `fill_checksum` takes of a stretch of the buffer, in words of 16 bits whose carries go round, and what the receiver of a
frame finds: with the field filled in, a stretch sums to all ones. The fields of a frame are read off its bytes.
-/

namespace EtherHouse

open OnesComplement

/-! ## The fields of a frame -/

/-- `n` bytes of a frame. -/
def field (frame : List Byte) (off n : Nat) : List Byte := (frame.drop off).take n

/-- The word whose high and low byte these are. -/
def wordOf (h l : Byte) : Nat := h.toNat * 256 + l.toNat

/-- A word of the buffer, the high byte first. -/
def Buffer.word (b : Buffer) (i : Nat) : Nat := wordOf (b.get i) (b.get (i + 1))

/-- A word of a frame. -/
def wordAt (frame : List Byte) (i : Nat) : Nat := wordOf (frame.getD i 0) (frame.getD (i + 1) 0)

/-- A field of what is sent is the buffer's. -/
theorem field_slice (b : Buffer) {off n len : Nat} (h : off + n ≤ len) : field (b.slice 0 len) off n = b.slice off n := by
  apply List.ext_getElem
  · simp only [field, List.length_take, List.length_drop, Buffer.length_slice]
    omega
  · intro i hi hi'
    simp only [field, Buffer.slice, List.getElem_take, List.getElem_drop, List.getElem_map, List.getElem_range, Nat.zero_add]

/-- So is a word. -/
theorem wordAt_slice (b : Buffer) {i len : Nat} (h : i + 2 ≤ len) : wordAt (b.slice 0 len) i = b.word i := by
  rw [wordAt, Buffer.getD_slice b 0 (by omega), Buffer.getD_slice b 0 (by omega), Nat.zero_add, Nat.zero_add, Buffer.word]

/-- A number of sixteen bits from its two bytes. -/
theorem wordOf_hi_lo {n : Nat} (h : n < 65536) : wordOf (hi n) (lo n) = n := by
  simp only [wordOf, hi, lo, BitVec.toNat_ofNat, Nat.shiftRight_eq_div_pow]
  omega

/-- Two bytes make no more than sixteen bits. -/
theorem wordOf_lt (h l : Byte) : wordOf h l < 65536 := by
  unfold wordOf
  omega

/-! ## Stretches of the buffer -/

/-- A slice is read off the bytes that it covers. -/
theorem slice_congr {b b' : Buffer} {off n : Nat} (h : ∀ i, off ≤ i → i < off + n → b'.get i = b.get i) :
    b'.slice off n = b.slice off n := by
  refine List.map_congr_left fun i hi => h (off + i) (Nat.le_add_right _ _) ?_
  have := List.mem_range.mp hi
  omega

/-- A slice in two parts. -/
theorem slice_add (b : Buffer) (off m n : Nat) : b.slice off (m + n) = b.slice off m ++ b.slice (off + m) n := by
  simp only [Buffer.slice, List.range_add, List.map_append, List.map_map, Function.comp_def, Nat.add_assoc]

/-- A word's bytes. -/
theorem slice_two (b : Buffer) (i : Nat) : b.slice i 2 = [b.get i, b.get (i + 1)] := rfl

/-- A write leaves a stretch it does not reach. -/
theorem slice_put_of_disjoint (e : Ether) {p off n : Nat} {xs : List Byte} (h : p + xs.length ≤ off ∨ off + n ≤ p) :
    (e.put p xs).buffer.slice off n = e.buffer.slice off n :=
  slice_congr fun i hi hn => Buffer.get_write_of_not_mem (by omega)

/-- What is written is what stands there afterwards. -/
theorem slice_put (e : Ether) {off n : Nat} {xs : List Byte} (hn : n = xs.length) (h : off + xs.length ≤ BUFFER_SIZE) :
    (e.put off xs).buffer.slice off n = xs := by
  subst hn
  refine List.ext_getElem (Buffer.length_slice _ _ _) fun i hi hi' => ?_
  simp only [Buffer.slice, List.getElem_map, List.getElem_range, Ether.put, Buffer.get_write]
  rw [if_pos ⟨Nat.le_add_right _ _, by omega, by omega⟩, Nat.add_sub_cancel_left, List.getD_eq_getElem _ _ hi']

/-! ## Sums of words -/

/-- The source's way to put two bytes together. -/
theorem shiftLeft_or (h l : Byte) : h.toNat <<< 8 ||| l.toNat = wordOf h l := by
  rw [← Nat.shiftLeft_add_eq_or_of_lt l.isLt, Nat.shiftLeft_eq, wordOf]

/-- The first word of a sum. -/
@[simp] theorem sumWords_pair (h l : Byte) (rest : List Byte) : sumWords (h :: l :: rest) = wordOf h l + sumWords rest := by
  rw [sumWords, shiftLeft_or]

/-- A sum in two parts, the first of even length. -/
theorem sumWords_append {xs : List Byte} (h : xs.length % 2 = 0) (ys : List Byte) : sumWords (xs ++ ys) = sumWords xs + sumWords ys := by
  induction xs using sumWords.induct with
  | case1 => simp [sumWords]
  | case2 x => cases h
  | case3 x y rest ih =>
    have heven : rest.length % 2 = 0 := by
      simp only [List.length_cons] at h
      omega
    rw [List.cons_append, List.cons_append, sumWords_pair, sumWords_pair, ih heven, Nat.add_assoc]

/-- No sum is larger than all ones in each place. -/
theorem sumWords_le (xs : List Byte) : sumWords xs ≤ 65535 * xs.length := by
  induction xs using sumWords.induct with
  | case1 => exact Nat.le_refl 0
  | case2 x =>
    have := x.isLt
    simp only [sumWords, Nat.shiftLeft_eq, List.length_singleton]
    omega
  | case3 x y rest ih =>
    have := wordOf_lt x y
    rw [sumWords_pair, List.length_cons, List.length_cons]
    omega

/-- A stretch's sum, with one of its words taken out. -/
theorem sumWords_slice (b : Buffer) {off n p : Nat} (hoff : off ≤ p) (heven : (p - off) % 2 = 0) (hin : p + 2 ≤ off + n) :
    sumWords (b.slice off n) = sumWords (b.slice off (p - off)) + sumWords (b.slice (p + 2) (off + n - (p + 2))) + b.word p := by
  obtain ⟨k, rfl⟩ : ∃ k, p = off + k := ⟨p - off, by omega⟩
  obtain ⟨m, rfl⟩ : ∃ m, n = k + (2 + m) := ⟨n - k - 2, by omega⟩
  have hk : off + k - off = k := Nat.add_sub_cancel_left off k
  have hm : off + (k + (2 + m)) - (off + k + 2) = m := by omega
  rw [hk] at heven ⊢
  rw [hm, slice_add, slice_add, sumWords_append (by rw [Buffer.length_slice]; exact heven), slice_two, List.cons_append,
    List.cons_append, List.nil_append, sumWords_pair, ← Buffer.word]
  omega

/-! ## `fill_checksum` -/

/-- The carries of a 32-bit sum are folded away. -/
theorem foldCarries_eq {n : Nat} (h : n < 2 ^ 32) : foldCarries 4 n = wrap 16 n := by
  have hround : ∀ k n, foldCarries (k + 1) n = if n ≤ 65535 then n else foldCarries k (fold 16 n) := by
    intro k n
    rw [foldCarries, Nat.shiftRight_eq_div_pow, fold]
    by_cases hn : n ≤ 65535
    · rw [if_pos hn, if_pos (by omega)]
    · rw [if_neg hn, if_neg (by omega)]
      rfl
  have hdone : ∀ k n, n ≤ 65535 → foldCarries (k + 1) n = wrap 16 n := by
    intro k n hn
    rw [hround, if_pos hn, wrap_of_le hn]
  have hmore : ∀ k n, foldCarries k (fold 16 n) = wrap 16 (fold 16 n) → foldCarries (k + 1) n = wrap 16 n := by
    intro k n hk
    by_cases hn : n ≤ 65535
    · exact hdone k n hn
    · rw [hround, if_neg hn, hk, wrap_fold]
  -- the first round leaves 17 bits, the second 16
  have h₁ : fold 16 n ≤ 131070 := by unfold fold; omega
  have h₂ : fold 16 (fold 16 n) ≤ 65535 := by
    generalize fold 16 n = m at h₁
    unfold fold
    omega
  exact hmore 3 n (hmore 2 _ (hdone 1 _ h₂))

/-- What `fill_checksum` starts with: the pseudo header's protocol and length. -/
def pseudoSum (len type : Nat) : Nat :=
  if type = 1 then IP_PROTO_UDP_V.toNat + len - 8 else if type = 2 then IP_PROTO_TCP_V.toNat + len - 8 else 0

/-- The checksum that is filled in, from the pseudo header and the stretch. -/
theorem fillChecksum_eq (dest off len type : Nat) (e : Ether) : fillChecksum dest off len type e =
    e.put dest [hi (~~~(BitVec.ofNat 16 (foldCarries 4 (pseudoSum len type + sumWords (e.buffer.slice off len))))).toNat,
      lo (~~~(BitVec.ofNat 16 (foldCarries 4 (pseudoSum len type + sumWords (e.buffer.slice off len))))).toNat] := rfl

/-- A byte that has been written. -/
theorem get_put (e : Ether) {off i : Nat} {xs : List Byte} (h : off ≤ i ∧ i < off + xs.length ∧ i < BUFFER_SIZE) :
    (e.put off xs).buffer.get i = xs.getD (i - off) 0 := by
  rw [Ether.put, Buffer.get_write, if_pos h]

/-- A write leaves what lies in front of it. -/
theorem get_put_of_lt (e : Ether) {off i : Nat} {xs : List Byte} (h : i < off) : (e.put off xs).buffer.get i = e.buffer.get i :=
  Buffer.get_write_of_not_mem (Or.inl h)

/-- A write leaves what lies behind it. -/
theorem get_put_of_ge (e : Ether) {off i : Nat} {xs : List Byte} (h : off + xs.length ≤ i) :
    (e.put off xs).buffer.get i = e.buffer.get i := Buffer.get_write_of_not_mem (Or.inr h)

/-- A byte beside one that has been written. -/
theorem get_put_one_of_ne (e : Ether) {off i : Nat} (h : i ≠ off) (x : Byte) : (e.put off [x]).buffer.get i = e.buffer.get i :=
  Buffer.get_write_of_not_mem (by rw [List.length_singleton]; omega)

/-- One byte that is written. -/
theorem get_put_one (e : Ether) {off : Nat} (h : off < BUFFER_SIZE) (x : Byte) : (e.put off [x]).buffer.get off = x := by
  rw [get_put e ⟨le_rfl, Nat.lt_succ_self off, h⟩, Nat.sub_self, List.getD_cons_zero]

/-- A word that has been written. -/
theorem word_put (e : Ether) {off : Nat} (h : off + 2 ≤ BUFFER_SIZE) (x y : Byte) : (e.put off [x, y]).buffer.word off = wordOf x y := by
  have hx : (e.put off [x, y]).buffer.get off = x := by
    rw [get_put e ⟨le_rfl, by simp, by omega⟩, Nat.sub_self]
    rfl
  have hy : (e.put off [x, y]).buffer.get (off + 1) = y := by
    rw [get_put e ⟨Nat.le_add_right _ _, by simp, by omega⟩, Nat.add_sub_cancel_left]
    rfl
  rw [Buffer.word, hx, hy]

/-- A word that a write does not reach. -/
theorem word_put_of_disjoint (e : Ether) {off i : Nat} {xs : List Byte} (h : off + xs.length ≤ i ∨ i + 2 ≤ off) :
    (e.put off xs).buffer.word i = e.buffer.word i := by
  rw [Buffer.word, Buffer.word, Ether.put, Buffer.get_write_of_not_mem (by omega), Buffer.get_write_of_not_mem (by omega)]

/-- With its checksum filled in, a stretch sums to all ones. -/
theorem fillChecksum_sum {dest off len : Nat} (type : Nat) (e : Ether) (hoff : off ≤ dest) (heven : (dest - off) % 2 = 0)
    (hin : dest + 2 ≤ off + len) (hdest : dest + 2 ≤ BUFFER_SIZE) (hlen : len ≤ BUFFER_SIZE) (hzero : e.buffer.word dest = 0) :
    wrap 16 (pseudoSum len type + sumWords ((fillChecksum dest off len type e).buffer.slice off len)) = ones 16 := by
  -- `rest` is the sum without the field
  have hsum : pseudoSum len type + sumWords (e.buffer.slice off len) < 2 ^ 32 := by
    have h₁ := sumWords_le (e.buffer.slice off len)
    have h₂ : pseudoSum len type ≤ 17 + len := by
      unfold pseudoSum
      split
      · exact Nat.sub_le _ _
      split
      · have : IP_PROTO_TCP_V.toNat = 6 := rfl
        omega
      · exact Nat.zero_le _
    rw [Buffer.length_slice] at h₁
    unfold BUFFER_SIZE at hlen
    omega
  rw [fillChecksum_eq, foldCarries_eq hsum]
  have hbefore := sumWords_slice e.buffer hoff heven hin
  rw [hzero, Nat.add_zero] at hbefore
  have hle : wrap 16 (pseudoSum len type + sumWords (e.buffer.slice off len)) ≤ ones 16 := wrap_le (by decide)
  have hck : (~~~(BitVec.ofNat 16 (wrap 16 (pseudoSum len type + sumWords (e.buffer.slice off len))))).toNat =
      ones 16 - wrap 16 (pseudoSum len type + sumWords (e.buffer.slice off len)) := by
    rw [BitVec.toNat_not, BitVec.toNat_ofNat, Nat.mod_eq_of_lt (lt_of_le_of_lt hle (by decide))]
    rfl
  rw [hck]
  generalize hn : pseudoSum len type + sumWords (e.buffer.slice off len) = n at hle
  rw [sumWords_slice _ hoff heven hin, slice_put_of_disjoint e (Or.inr (by omega)), slice_put_of_disjoint e (Or.inl (by simp)),
    word_put e hdest, wordOf_hi_lo (by unfold ones; omega), ← Nat.add_assoc, ← hbefore, hn]
  exact wrap_add_complement (by decide) n

end EtherHouse
