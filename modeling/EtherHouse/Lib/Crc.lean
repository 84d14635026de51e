import Mathlib

/-!
# Reflected cyclic redundancy checks

A check of width `w` that takes bytes in at its low end, over any polynomial. Everything rests on two facts about one bit's step: it
is linear, and if the polynomial's top bit is set, a result whose top bit is clear tells what the step began with. From the second
come the residue (which bytes behind the data make the check zero) and that nothing but zero is taken to zero.
-/

namespace Crc

variable {w : Nat}

/-- One bit's step: shift right, and subtract the polynomial if a one fell out. -/
def step (poly crc : BitVec w) : BitVec w := if crc.getLsbD 0 then (crc >>> 1) ^^^ poly else crc >>> 1

/-- `n` bits' steps. -/
def steps (poly : BitVec w) (n : Nat) (crc : BitVec w) : BitVec w := Nat.iterate (step poly) n crc

/-- Take a byte in. -/
def update (poly crc : BitVec w) (b : BitVec 8) : BitVec w := steps poly 8 (crc ^^^ b.setWidth w)

/-- The check over a list of bytes, from any value. -/
def run (poly crc : BitVec w) (data : List (BitVec 8)) : BitVec w := data.foldl (update poly) crc

/-- Bytes as a number, the least significant first. -/
def ofBytes (w : Nat) : List (BitVec 8) → BitVec w
  | [] => 0#w
  | b :: rest => b.setWidth w ^^^ (ofBytes w rest <<< 8)

@[simp] theorem run_nil (poly crc : BitVec w) : run poly crc [] = crc := rfl

@[simp] theorem run_cons (poly crc : BitVec w) (b : BitVec 8) (data : List (BitVec 8)) :
    run poly crc (b :: data) = run poly (update poly crc b) data := rfl

/-- Data may be fed in two parts. -/
theorem run_append (poly crc : BitVec w) (xs ys : List (BitVec 8)) :
    run poly crc (xs ++ ys) = run poly (run poly crc xs) ys := List.foldl_append

/-! ## Linearity -/

/-- The polynomial cancels where both ones fall out. -/
theorem xor_cancel (a b p : BitVec w) : a ^^^ p ^^^ (b ^^^ p) = a ^^^ b := by
  rw [BitVec.xor_comm b p, ← BitVec.xor_assoc, BitVec.xor_assoc a p p, BitVec.xor_self, BitVec.xor_zero]

/-- One bit's step is linear. -/
theorem step_xor (poly a b : BitVec w) : step poly (a ^^^ b) = step poly a ^^^ step poly b := by
  unfold step
  rw [BitVec.getLsbD_xor, BitVec.ushiftRight_xor_distrib]
  cases a.getLsbD 0 <;> cases b.getLsbD 0 <;> simp only [Bool.xor_false, Bool.xor_true, Bool.not_true, Bool.not_false,
    Bool.false_eq_true, if_true, if_false]
  · exact BitVec.xor_assoc _ _ _
  · ac_rfl
  · exact (xor_cancel _ _ _).symm

/-- So are several. -/
theorem steps_xor (poly : BitVec w) (n : Nat) (a b : BitVec w) :
    steps poly n (a ^^^ b) = steps poly n a ^^^ steps poly n b := by
  induction n generalizing a b with
  | zero => rfl
  | succ n ih =>
    simp only [steps, Function.iterate_succ_apply, step_xor] at ih ⊢
    exact ih _ _

/-- So is one byte, in the register and the byte together. -/
theorem update_xor (poly a b : BitVec w) (x y : BitVec 8) :
    update poly (a ^^^ b) (x ^^^ y) = update poly a x ^^^ update poly b y := by
  unfold update
  rw [← steps_xor, BitVec.setWidth_xor]
  congr 1
  rw [BitVec.xor_assoc, BitVec.xor_assoc, ← BitVec.xor_assoc b, BitVec.xor_comm b, BitVec.xor_assoc]

/-- The check is linear: two lists of one length, combined byte by byte. -/
theorem run_xor (poly : BitVec w) {xs ys : List (BitVec 8)} (h : xs.length = ys.length) (a b : BitVec w) :
    run poly (a ^^^ b) (List.zipWith (· ^^^ ·) xs ys) = run poly a xs ^^^ run poly b ys := by
  induction xs generalizing ys a b with
  | nil => cases ys with
    | nil => rfl
    | cons y ys => simp at h
  | cons x xs ih => cases ys with
    | nil => simp at h
    | cons y ys =>
      rw [List.zipWith_cons_cons, run_cons, run_cons, run_cons, update_xor]
      exact ih (by simpa using h) _ _

/-! ## Steps back -/

/-- The top `n` bits are clear. -/
def HighClear (n : Nat) (x : BitVec w) : Prop := ∀ i, w ≤ i + n → x.getLsbD i = false

/-- A shift uses up one of the clear bits. -/
theorem HighClear.shiftLeft {n : Nat} {x : BitVec w} (h : HighClear (n + 1) x) : HighClear n (x <<< 1) := by
  intro i hi
  rw [BitVec.getLsbD_shiftLeft]
  by_cases hi1 : i < 1
  · simp [hi1]
  · rw [h (i - 1) (by omega)]
    simp

/-- A shift left and back, when nothing is lost at the top. -/
theorem shiftLeft_shiftRight {n : Nat} {x : BitVec w} (h : HighClear n x) : (x <<< n) >>> n = x := by
  apply BitVec.eq_of_getLsbD_eq
  intro i hi
  rw [BitVec.getLsbD_ushiftRight, BitVec.getLsbD_shiftLeft]
  by_cases hw : n + i < w
  · simp [hw]
  · rw [h i (by omega)]
    simp [hw]

/-- A step whose result has a clear top bit had nothing to subtract. -/
theorem step_eq_iff {poly : BitVec w} (hp : poly.getLsbD (w - 1) = true) {a z : BitVec w} (hz : HighClear 1 z) :
    step poly a = z ↔ a = z <<< 1 := by
  constructor
  · intro h
    have htop : (step poly a).getLsbD (w - 1) = false := by rw [h]; exact hz _ (by omega)
    have hbit : a.getLsbD 0 = false := by
      by_contra hne
      rw [step, if_pos (by simpa using hne), BitVec.getLsbD_xor, hp, BitVec.getLsbD_ushiftRight,
        BitVec.getLsbD_of_ge a _ (by omega)] at htop
      simp at htop
    rw [step, if_neg (by simp [hbit])] at h
    apply BitVec.eq_of_getLsbD_eq
    intro i hi
    rw [← h, BitVec.getLsbD_shiftLeft, BitVec.getLsbD_ushiftRight]
    by_cases hi0 : i = 0
    · rw [hi0, hbit]
      simp
    · have hi1 : 1 + (i - 1) = i := by omega
      simp [hi, hi0, hi1]
  · rintro rfl
    have hbit : (z <<< 1).getLsbD 0 = false := by simp
    rw [step, if_neg (by simp [hbit]), shiftLeft_shiftRight hz]

/-- As many steps as the result has clear bits at the top. -/
theorem steps_eq_iff {poly : BitVec w} (hp : poly.getLsbD (w - 1) = true) {n : Nat} {a z : BitVec w} (hz : HighClear n z) :
    steps poly n a = z ↔ a = z <<< n := by
  induction n generalizing z with
  | zero => simp [steps]
  | succ n ih =>
    have h1 : HighClear 1 z := fun i hi => hz i (by omega)
    rw [steps, Function.iterate_succ_apply', step_eq_iff hp h1]
    have h2 := ih (z := z <<< 1) hz.shiftLeft
    rw [steps] at h2
    rw [h2, ← BitVec.shiftLeft_add, Nat.add_comm 1 n]

/-! ## The residue -/

/-- A number of `n` bytes has no bits above them. -/
theorem getLsbD_ofBytes (t : List (BitVec 8)) {i : Nat} (hi : 8 * t.length ≤ i) : (ofBytes w t).getLsbD i = false := by
  induction t generalizing i with
  | nil => simp [ofBytes]
  | cons b t ih =>
    rw [List.length_cons] at hi
    rw [ofBytes, BitVec.getLsbD_xor, BitVec.getLsbD_setWidth, BitVec.getLsbD_of_ge b i (by omega), BitVec.getLsbD_shiftLeft,
      ih (i := i - 8) (by omega)]
    simp

/-- Few bytes leave the high bits clear. -/
theorem highClear_ofBytes {n : Nat} (t : List (BitVec 8)) (h : 8 * t.length + n ≤ w) : HighClear n (ofBytes w t) :=
  fun _ hi => getLsbD_ofBytes t (by omega)

/-- Bytes that fit into the width make the check zero from one value only: the number they are. -/
theorem run_eq_zero_iff {poly : BitVec w} (hp : poly.getLsbD (w - 1) = true) {t : List (BitVec 8)} (ht : 8 * t.length ≤ w)
    (crc : BitVec w) : run poly crc t = 0#w ↔ crc = ofBytes w t := by
  induction t generalizing crc with
  | nil => rfl
  | cons b t ih =>
    rw [List.length_cons] at ht
    rw [run_cons, ih (by omega), update, steps_eq_iff hp (highClear_ofBytes t (by omega)), ofBytes]
    constructor
    · intro h
      rw [← h, BitVec.xor_comm, BitVec.xor_assoc, BitVec.xor_self, BitVec.xor_zero]
    · rintro rfl
      rw [BitVec.xor_comm, ← BitVec.xor_assoc, BitVec.xor_self, BitVec.zero_xor]

/-- The residue: behind any data, the bytes that make the check zero are those of the data's own check. -/
theorem run_append_eq_zero_iff {poly : BitVec w} (hp : poly.getLsbD (w - 1) = true) (crc : BitVec w) (data : List (BitVec 8))
    {t : List (BitVec 8)} (ht : 8 * t.length ≤ w) : run poly crc (data ++ t) = 0#w ↔ run poly crc data = ofBytes w t := by
  rw [run_append, run_eq_zero_iff hp ht]

/-- The check of a list no longer than its width is zero for zero bytes only. -/
theorem eq_zero_of_run_eq_zero {poly : BitVec w} (hp : poly.getLsbD (w - 1) = true) {t : List (BitVec 8)}
    (ht : 8 * t.length ≤ w) (h : run poly 0#w t = 0#w) : ∀ b ∈ t, b = 0#8 := by
  rw [run_eq_zero_iff hp ht] at h
  induction t with
  | nil => intro b hb; cases hb
  | cons b t ih =>
    rw [List.length_cons] at ht
    have hbits : ∀ i < w, (ofBytes w (b :: t)).getLsbD i = false := by
      intro i _
      rw [← h]
      exact BitVec.getLsbD_zero
    have hb : b = 0#8 := by
      apply BitVec.eq_of_getLsbD_eq
      intro i hi
      have := hbits i (by omega)
      rw [ofBytes, BitVec.getLsbD_xor, BitVec.getLsbD_setWidth, BitVec.getLsbD_shiftLeft] at this
      simpa [hi, show i < w by omega] using this
    have ht0 : 0#w = ofBytes w t := by
      apply BitVec.eq_of_getLsbD_eq
      intro i hi
      rw [BitVec.getLsbD_zero]
      by_cases hi8 : i + 8 < w
      · have := hbits (i + 8) hi8
        rw [ofBytes, hb, BitVec.getLsbD_xor, BitVec.getLsbD_setWidth, BitVec.getLsbD_zero, BitVec.getLsbD_shiftLeft] at this
        simpa [hi8] using this.symm
      · exact (getLsbD_ofBytes t (by omega)).symm
    intro x hx
    rcases List.mem_cons.mp hx with rfl | hx
    · exact hb
    · exact ih (by omega) ht0 x hx

/-- Zero bytes take no value but zero to zero. -/
theorem run_zeros_eq_zero_iff {poly : BitVec w} (hp : poly.getLsbD (w - 1) = true) (crc : BitVec w) (n : Nat) :
    run poly crc (List.replicate n 0#8) = 0#w ↔ crc = 0#w := by
  have hz : ∀ c : BitVec w, update poly c 0#8 = 0#w ↔ c = 0#w := by
    intro c
    have hclear : HighClear 8 (0#w) := fun i _ => by simp
    rw [update, steps_eq_iff hp hclear]
    simp
  induction n generalizing crc with
  | zero => rfl
  | succ n ih =>
    rw [List.replicate_succ, run_cons]
    exact (ih _).trans (hz crc)

/-! ## One bit at a time

The same check as a fold over the bits, in the order in which they go in. -/

/-- Take a bit in. -/
def feed (poly crc : BitVec w) (b : Bool) : BitVec w := step poly (crc ^^^ (BitVec.ofBool b).setWidth w)

/-- Take bits in. -/
def feeds (poly crc : BitVec w) (bs : List Bool) : BitVec w := bs.foldl (feed poly) crc

/-- Bits as a number, the least significant first. -/
def ofBits (w : Nat) : List Bool → BitVec w
  | [] => 0#w
  | b :: rest => (BitVec.ofBool b).setWidth w ^^^ (ofBits w rest <<< 1)

/-- The bits of a byte, the least significant first. -/
def byteBits (b : BitVec 8) : List Bool := (List.range 8).map b.getLsbD

/-- The bits of a list of bytes, in the order in which they go in. -/
def bits (data : List (BitVec 8)) : List Bool := data.flatMap byteBits

@[simp] theorem length_byteBits (b : BitVec 8) : (byteBits b).length = 8 := by simp [byteBits]

/-- The bits of the first byte come first. -/
theorem bits_cons (b : BitVec 8) (data : List (BitVec 8)) : bits (b :: data) = byteBits b ++ bits data := rfl

/-- The first bit is fed first. -/
theorem feeds_cons (poly crc : BitVec w) (b : Bool) (bs : List Bool) :
    feeds poly crc (b :: bs) = feeds poly (feed poly crc b) bs := rfl

/-- Bits may be fed in two parts. -/
theorem feeds_append (poly crc : BitVec w) (xs ys : List Bool) :
    feeds poly crc (xs ++ ys) = feeds poly (feeds poly crc xs) ys := List.foldl_append

/-- The register that a list of bits makes up, bit by bit. -/
theorem getLsbD_ofBits (bs : List Bool) {i : Nat} (hi : i < w) : (ofBits w bs).getLsbD i = bs.getD i false := by
  induction bs generalizing i with
  | nil => simp [ofBits]
  | cons b bs ih =>
    rw [ofBits, BitVec.getLsbD_xor, BitVec.getLsbD_setWidth, BitVec.getLsbD_shiftLeft]
    cases i with
    | zero => simp [hi]
    | succ i =>
      rw [Nat.add_sub_cancel, ih (by omega), List.getD_cons_succ]
      simp [hi]

/-- Few bits leave the high ones clear. -/
theorem highClear_ofBits (bs : List Bool) {n : Nat} (h : bs.length + n ≤ w) : HighClear n (ofBits w bs) := by
  intro i hi
  by_cases hw : i < w
  · rw [getLsbD_ofBits bs hw, List.getD_eq_default _ _ (by omega)]
  · exact BitVec.getLsbD_of_ge _ _ (by omega)

/-- A step of a number that was shifted up shifts it down again. -/
theorem step_xor_shiftLeft {poly : BitVec w} (hp : poly.getLsbD (w - 1) = true) (a : BitVec w) {z : BitVec w}
    (hz : HighClear 1 z) : step poly (a ^^^ z <<< 1) = step poly a ^^^ z := by
  rw [step_xor, (step_eq_iff hp hz).mpr rfl]

/-- Bits that go in one by one, or all at once before the first step. -/
theorem feeds_eq {poly : BitVec w} (hp : poly.getLsbD (w - 1) = true) {bs : List Bool} (hl : bs.length ≤ w) (crc : BitVec w) :
    feeds poly crc bs = steps poly bs.length (crc ^^^ ofBits w bs) := by
  induction bs generalizing crc with
  | nil => simp [feeds, steps, ofBits]
  | cons b bs ih =>
    rw [List.length_cons] at hl
    have hz : HighClear 1 (ofBits w bs) := highClear_ofBits bs (by omega)
    have hstep := step_xor_shiftLeft hp (crc ^^^ (BitVec.ofBool b).setWidth w) hz
    rw [ofBits, List.length_cons, steps, Function.iterate_succ_apply, ← BitVec.xor_assoc, hstep]
    exact ih (by omega) _

/-- A byte's bits make up the byte. -/
theorem ofBits_byteBits (b : BitVec 8) : ofBits w (byteBits b) = b.setWidth w := by
  apply BitVec.eq_of_getLsbD_eq
  intro i hi
  rw [getLsbD_ofBits _ hi, BitVec.getLsbD_setWidth]
  by_cases h8 : i < 8
  · rw [List.getD_eq_getElem _ _ (by simpa using h8)]
    simp [byteBits, hi]
  · rw [List.getD_eq_default _ _ (by simpa using h8), BitVec.getLsbD_of_ge b i (by omega), Bool.and_false]

/-- The two views of the check. -/
theorem run_eq_feeds {poly : BitVec w} (hp : poly.getLsbD (w - 1) = true) (hw : 8 ≤ w) (crc : BitVec w)
    (data : List (BitVec 8)) : run poly crc data = feeds poly crc (bits data) := by
  induction data generalizing crc with
  | nil => rfl
  | cons b data ih =>
    have hlen : (byteBits b).length ≤ w := by simpa using hw
    have hb := feeds_eq hp hlen crc
    rw [run_cons, bits_cons, feeds_append, ih, hb, ofBits_byteBits, length_byteBits, update]

/-! ## Bursts -/

/-- Bits no more than the width take zero to zero only if all are clear. -/
theorem eq_false_of_feeds_eq_zero {poly : BitVec w} (hp : poly.getLsbD (w - 1) = true) {bs : List Bool} (hl : bs.length ≤ w)
    (h : feeds poly 0#w bs = 0#w) : ∀ b ∈ bs, b = false := by
  have hclear : HighClear bs.length (0#w) := fun i _ => BitVec.getLsbD_zero
  rw [feeds_eq hp hl, steps_eq_iff hp hclear, BitVec.zero_xor, BitVec.zero_shiftLeft] at h
  intro b hb
  obtain ⟨i, hi, rfl⟩ := List.getElem_of_mem hb
  have hbit := getLsbD_ofBits bs (w := w) (i := i) (by omega)
  rw [h, BitVec.getLsbD_zero, List.getD_eq_getElem _ _ hi] at hbit
  exact hbit.symm

/-- Clear bits take no value but zero to zero. -/
theorem feeds_clear_eq_zero_iff {poly : BitVec w} (hp : poly.getLsbD (w - 1) = true) {bs : List Bool} (hb : ∀ b ∈ bs, b = false)
    (crc : BitVec w) : feeds poly crc bs = 0#w ↔ crc = 0#w := by
  have hclear : HighClear 1 (0#w) := fun i _ => BitVec.getLsbD_zero
  induction bs generalizing crc with
  | nil => rfl
  | cons b bs ih =>
    have hfeed : feed poly crc b = step poly crc := by
      rw [hb b List.mem_cons_self]
      simp [feed]
    have hrest := ih (fun x hx => hb x (List.mem_cons_of_mem b hx)) (feed poly crc b)
    have hstep : feed poly crc b = 0#w ↔ crc = 0#w := by rw [hfeed, step_eq_iff hp hclear, BitVec.zero_shiftLeft]
    exact hrest.trans hstep

/-- A burst no longer than the width is found: if the set bits lie within `w` places, and there are some, the check is not zero. -/
theorem feeds_burst_ne_zero {poly : BitVec w} (hp : poly.getLsbD (w - 1) = true) {bs : List Bool} {s : Nat}
    (hs : ∀ i, bs[i]? = some true → s ≤ i ∧ i < s + w) (hne : true ∈ bs) : feeds poly 0#w bs ≠ 0#w := by
  intro h
  have hfront : ∀ b ∈ bs.take s, b = false := by
    intro b hb
    obtain ⟨i, hi, rfl⟩ := List.getElem_of_mem hb
    rw [List.length_take] at hi
    rw [List.getElem_take]
    by_contra htrue
    have := hs i (by rw [List.getElem?_eq_getElem (by omega)]; simpa using htrue)
    omega
  have hback : ∀ b ∈ (bs.drop s).drop w, b = false := by
    intro b hb
    obtain ⟨i, hi, rfl⟩ := List.getElem_of_mem hb
    rw [List.length_drop, List.length_drop] at hi
    rw [List.getElem_drop, List.getElem_drop]
    by_contra htrue
    have := hs (s + (w + i)) (by rw [List.getElem?_eq_getElem (by omega)]; simpa using htrue)
    omega
  have hsplit : bs = bs.take s ++ ((bs.drop s).take w ++ (bs.drop s).drop w) := by
    rw [List.take_append_drop, List.take_append_drop]
  rw [hsplit, feeds_append, feeds_append, (feeds_clear_eq_zero_iff hp hfront 0#w).mpr rfl,
    feeds_clear_eq_zero_iff hp hback] at h
  have hmid := eq_false_of_feeds_eq_zero hp (by rw [List.length_take]; omega) h
  rw [hsplit, List.mem_append, List.mem_append] at hne
  rcases hne with hmem | hmem | hmem
  · cases hfront true hmem
  · cases hmid true hmem
  · cases hback true hmem

/-! ## Parity -/

/-- The exclusive or of bits. -/
def parity (bs : List Bool) : Bool := bs.foldr Bool.xor false

/-- Is the number of set bits odd? -/
def parityOf (x : BitVec w) : Bool := parity ((List.range w).map x.getLsbD)

theorem parity_cons (b : Bool) (bs : List Bool) : parity (b :: bs) = (b ^^ parity bs) := rfl

/-- Parities add up over parts. -/
theorem parity_append (xs ys : List Bool) : parity (xs ++ ys) = (parity xs ^^ parity ys) := by
  induction xs with
  | nil => simp [parity]
  | cons x xs ih => rw [List.cons_append, parity_cons, parity_cons, ih, Bool.xor_assoc]

/-- The parity of bits tells whether the number of those set is odd. -/
theorem parity_eq_true_iff (bs : List Bool) : parity bs = true ↔ bs.count true % 2 = 1 := by
  induction bs with
  | nil => simp [parity]
  | cons b bs ih =>
    rw [parity_cons]
    cases b with
    | false => simpa using ih
    | true =>
      rw [List.count_cons_self, Bool.true_xor, Bool.not_eq_true', ← Bool.not_eq_true, ih]
      omega

/-- The parity of a sum, place by place, is the sum of the parities. -/
theorem parity_map_xor (f g : Nat → Bool) (is : List Nat) :
    parity (is.map fun i => f i ^^ g i) = (parity (is.map f) ^^ parity (is.map g)) := by
  induction is with
  | nil => rfl
  | cons i is ih =>
    rw [List.map_cons, List.map_cons, List.map_cons, parity_cons, parity_cons, parity_cons, ih]
    cases f i <;> cases g i <;> simp

/-- Parity is linear. -/
theorem parityOf_xor (a b : BitVec w) : parityOf (a ^^^ b) = (parityOf a ^^ parityOf b) := by
  have hbits : (a ^^^ b).getLsbD = fun i => a.getLsbD i ^^ b.getLsbD i := funext fun _ => BitVec.getLsbD_xor
  rw [parityOf, hbits, parity_map_xor]
  rfl

/-- A shift down loses the lowest bit. -/
theorem parityOf_eq_shift (a : BitVec w) : parityOf a = (a.getLsbD 0 ^^ parityOf (a >>> 1)) := by
  unfold parityOf
  cases w with
  | zero => simp [parity]
  | succ n =>
    have hlow : (List.range (n + 1)).map a.getLsbD = a.getLsbD 0 :: (List.range n).map fun i => a.getLsbD (i + 1) := by
      rw [List.range_succ_eq_map, List.map_cons, List.map_map]
      rfl
    have hhigh : (List.range (n + 1)).map (a >>> 1).getLsbD = ((List.range n).map fun i => a.getLsbD (i + 1)) ++ [false] := by
      have hbits : (a >>> 1).getLsbD = fun i => a.getLsbD (i + 1) := by
        funext i
        rw [BitVec.getLsbD_ushiftRight, Nat.add_comm 1 i]
      have htop : a.getLsbD (n + 1) = false := BitVec.getLsbD_of_ge a _ (Nat.le_refl _)
      rw [List.range_succ, List.map_append, List.map_singleton, hbits]
      simp only [htop]
    rw [hlow, hhigh, parity_append, parity_cons]
    simp [parity]

/-- An odd polynomial: a step keeps the parity. -/
theorem parityOf_step {poly : BitVec w} (hodd : parityOf poly = true) (a : BitVec w) : parityOf (step poly a) = parityOf a := by
  rw [parityOf_eq_shift a, step]
  cases a.getLsbD 0 with
  | false => simp
  | true => rw [if_pos rfl, parityOf_xor, hodd, Bool.xor_comm]

/-- A register that is clear has an even number of bits. -/
theorem parityOf_zero : parityOf 0#w = false := by
  have hxor := parityOf_xor 0#w 0#w
  rwa [BitVec.xor_self, Bool.xor_self] at hxor

/-- With an odd polynomial, feeding a bit adds it to the parity. -/
theorem parityOf_feed {poly : BitVec w} (hodd : parityOf poly = true) (hw : 0 < w) (crc : BitVec w) (b : Bool) :
    parityOf (feed poly crc b) = (parityOf crc ^^ b) := by
  have hbit : parityOf ((BitVec.ofBool b).setWidth w) = b := by
    have hshift : (BitVec.ofBool b).setWidth w >>> 1 = 0#w := by
      apply BitVec.eq_of_getLsbD_eq
      intro i hi
      rw [BitVec.getLsbD_ushiftRight, BitVec.getLsbD_setWidth, BitVec.getLsbD_of_ge _ _ (by omega)]
      simp
    rw [parityOf_eq_shift, hshift, parityOf_zero, BitVec.getLsbD_setWidth]
    simp [hw]
  rw [feed, parityOf_step hodd, parityOf_xor, hbit]

/-- The check's parity is that of all bits that went in. -/
theorem parityOf_feeds {poly : BitVec w} (hodd : parityOf poly = true) (hw : 0 < w) (crc : BitVec w) (bs : List Bool) :
    parityOf (feeds poly crc bs) = (parityOf crc ^^ parity bs) := by
  induction bs generalizing crc with
  | nil => simp [feeds, parity]
  | cons b bs ih =>
    have hrest := ih (feed poly crc b)
    rw [parityOf_feed hodd hw] at hrest
    rw [feeds_cons, hrest, parity_cons, Bool.xor_assoc]

/-- An odd number of set bits is found. -/
theorem feeds_odd_ne_zero {poly : BitVec w} (hodd : parityOf poly = true) (hw : 0 < w) {bs : List Bool}
    (hb : bs.count true % 2 = 1) : feeds poly 0#w bs ≠ 0#w := by
  intro h
  have hp := parityOf_feeds hodd hw 0#w bs
  rw [h, parityOf_zero, (parity_eq_true_iff bs).mpr hb] at hp
  cases hp

end Crc
