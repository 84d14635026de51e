import EtherHouse.Lib.Crc
import EtherHouse.Sketch.Eeprom

/-!
# The record in the EEPROM

What is saved is read back, what is read back needs no saving, and what a save that is cut short leaves behind.
-/

namespace EtherHouse

/-! ## The checksum -/

/-- The polynomial of `_crc16_update`. -/
def crcPoly : Word := 0xA001

/-- The polynomial's highest bit is set. -/
theorem crcPoly_top : crcPoly.getLsbD 15 = true := by decide

/-- `_crc16_update` is the general step, eight times over. -/
theorem crcBit_eq (crc : Word) : crcBit crc = Crc.step crcPoly crc := by
  unfold crcBit Crc.step
  have hbit : crc &&& 1 = 1 ↔ crc.getLsbD 0 = true := by
    constructor
    · intro h
      have h0 := congrArg (fun x : Word => x.getLsbD 0) h
      simpa using h0
    · intro h
      apply BitVec.eq_of_getLsbD_eq
      intro i hi
      rw [BitVec.getLsbD_and]
      by_cases hi0 : i = 0
      · rw [hi0, h]
        rfl
      · simp [BitVec.getLsbD_one, hi0]
  by_cases h : crc.getLsbD 0 = true
  · rw [if_pos (hbit.mpr h), if_pos h]
    rfl
  · rw [if_neg (fun hc => h (hbit.mp hc)), if_neg h]

/-- `crc_calc` is the general run from a register that is clear. -/
theorem crcCalc_eq (data : List Byte) : crcCalc data = Crc.run crcPoly 0#16 data := by
  have hbit : crcBit = Crc.step crcPoly := funext crcBit_eq
  have hupdate : crc16Update = Crc.update crcPoly := by
    funext crc a
    rw [crc16Update, Crc.update, Crc.steps, hbit]
  rw [crcCalc, Crc.run, hupdate]
  rfl

/-- Two bytes as a number: which bytes make which number. -/
theorem eq_ofBytes_pair (c : Word) (l h : Byte) :
    c = Crc.ofBytes 16 [l, h] ↔ l = c.setWidth 8 ∧ h = (c >>> 8).setWidth 8 := by
  constructor
  · rintro rfl
    constructor
    · apply BitVec.eq_of_getLsbD_eq
      intro i hi
      simp [Crc.ofBytes, hi]
    · apply BitVec.eq_of_getLsbD_eq
      intro i hi
      simp [Crc.ofBytes, hi, show 8 + i < 16 by omega]
  · rintro ⟨rfl, rfl⟩
    apply BitVec.eq_of_getLsbD_eq
    intro i hi
    by_cases hi8 : i < 8
    · simp [Crc.ofBytes, hi, hi8]
    · have h1 : 8 + (i - 8) = i := by omega
      simp [Crc.ofBytes, hi, hi8, h1, show i - 8 < 8 by omega]

/-- The residue of `crc_calc`: the trailer of `crc_write`, and no other, makes the checksum zero. -/
theorem crcCalc_append_eq_zero_iff (data : List Byte) (l h : Byte) :
    crcCalc (data ++ [l, h]) = 0 ↔ l = (crcCalc data).setWidth 8 ∧ h = (crcCalc data >>> 8).setWidth 8 := by
  rw [crcCalc_eq, crcCalc_eq, ← eq_ofBytes_pair]
  exact Crc.run_append_eq_zero_iff crcPoly_top 0#16 data (by simp)

/-- What `crc_write` completes has no residue. -/
theorem crcCalc_crcWrite (data : List Byte) : crcCalc (crcWrite data) = 0 :=
  (crcCalc_append_eq_zero_iff data _ _).mpr ⟨rfl, rfl⟩

/-! ## The writes of a save -/

/-- An EEPROM with other bytes in the cells from `i` on. -/
def overlay (i : Nat) (xs : List Byte) (eeprom : Nat → Byte) : Nat → Byte :=
  fun a => if i ≤ a ∧ a < i + xs.length then xs.getD (a - i) 0 else eeprom a

/-- Laying a byte over memory, then the others. -/
theorem overlay_cons (i : Nat) (x : Byte) (xs : List Byte) (eeprom : Nat → Byte) :
    overlay i (x :: xs) eeprom = overlay (i + 1) xs (Function.update eeprom i x) := by
  funext a
  unfold overlay
  rw [List.length_cons]
  by_cases hlow : i + 1 ≤ a ∧ a < i + 1 + xs.length
  · have hsub : a - i = a - (i + 1) + 1 := by omega
    rw [if_pos hlow, if_pos (by omega), hsub, List.getD_cons_succ]
  · rw [if_neg hlow]
    by_cases hai : a = i
    · subst hai
      simp
    · rw [if_neg (by omega), Function.update_of_ne hai]

/-- The write loop puts the new bytes in place, though it leaves the cells alone that hold them already. -/
theorem writeCells_cellWrites {new cur : List Byte} {i : Nat} {eeprom : Nat → Byte} (hl : new.length = cur.length)
    (hc : ∀ k < cur.length, eeprom (i + k) = cur.getD k 0) :
    writeCells eeprom (cellWrites i new cur) = overlay i new eeprom := by
  induction new generalizing cur i eeprom with
  | nil =>
    funext a
    simp only [cellWrites, writeCells, List.foldl_nil, overlay, List.length_nil, Nat.add_zero]
    rw [if_neg (by omega)]
  | cons n new ih =>
    cases cur with
    | nil => simp at hl
    | cons c cur =>
      have hi : eeprom i = c := by simpa using hc 0 (by simp)
      have hc' : ∀ k < cur.length, Function.update eeprom i n (i + 1 + k) = cur.getD k 0 := by
        intro k hk
        have := hc (k + 1) (by simpa using hk)
        rw [Function.update_of_ne (by omega), Nat.add_assoc, Nat.add_comm 1 k, this, List.getD_cons_succ]
      have hn := ih (i := i + 1) (by simpa using hl) hc'
      rw [overlay_cons, ← hn]
      by_cases hnc : n = c
      · have hsame : Function.update eeprom i n = eeprom := by rw [hnc, ← hi, Function.update_eq_self]
        rw [cellWrites, if_neg (by simpa using hnc), hsame]
      · rw [cellWrites, if_pos hnc]
        rfl

/-- A save that is cut short has done the writes of a shorter record. -/
theorem prefix_cellWrites {new cur : List Byte} {i : Nat} {ws : List (Nat × Byte)} (hl : new.length = cur.length)
    (h : ws <+: cellWrites i new cur) : ∃ j ≤ new.length, ws = cellWrites i (new.take j) (cur.take j) := by
  induction new generalizing cur i ws with
  | nil => exact ⟨0, le_refl _, by simpa [cellWrites] using h⟩
  | cons n new ih =>
    cases cur with
    | nil => simp at hl
    | cons c cur =>
      rw [cellWrites] at h
      by_cases hnc : n = c
      · rw [if_neg (by simpa using hnc)] at h
        obtain ⟨j, hj, hw⟩ := ih (by simpa using hl) h
        exact ⟨j + 1, by simpa using hj, by simp [cellWrites, hnc, hw]⟩
      · rw [if_pos hnc] at h
        rcases List.prefix_cons_iff.mp h with rfl | ⟨ws', rfl, h'⟩
        · exact ⟨0, Nat.zero_le _, by simp [cellWrites]⟩
        · obtain ⟨j, hj, hw⟩ := ih (by simpa using hl) h'
          exact ⟨j + 1, by simpa using hj, by simp [cellWrites, hnc, hw]⟩

/-- The writes of the first cells come first. -/
theorem cellWrites_take_initial (new cur : List Byte) (i j : Nat) :
    cellWrites i (new.take j) (cur.take j) <+: cellWrites i new cur := by
  induction new generalizing cur i j with
  | nil => simp [cellWrites]
  | cons n new ih =>
    cases cur with
    | nil => simp [cellWrites]
    | cons c cur =>
      cases j with
      | zero => simp [cellWrites]
      | succ j =>
        rw [List.take_succ_cons, List.take_succ_cons, cellWrites, cellWrites]
        by_cases hnc : n = c
        · rw [if_neg (by simpa using hnc), if_neg (by simpa using hnc)]
          exact ih cur (i + 1) j
        · rw [if_pos hnc, if_pos hnc, List.cons_prefix_cons]
          exact ⟨rfl, ih cur (i + 1) j⟩

/-- A record has seven cells. -/
@[simp] theorem length_readCells (eeprom : Nat → Byte) : (readCells eeprom).length = EEPROM_SIZE := by simp [readCells]

/-- What is saved has as many. -/
@[simp] theorem length_eepromRecord (state : Byte) (targetIp : Ip) : (eepromRecord state targetIp).length = EEPROM_SIZE := by
  simp [eepromRecord, crcWrite, crcTrailer, EEPROM_SIZE, CHECKSUM_ADDR, TARGET_IP_ADDR, STATE_ADDR, STATE_SIZE, TARGET_IP_SIZE,
    CHECKSUM_SIZE]

/-- The cells of a record are the memory's. -/
theorem getD_readCells (eeprom : Nat → Byte) {k : Nat} (hk : k < EEPROM_SIZE) : (readCells eeprom).getD k 0 = eeprom k := by
  rw [List.getD_eq_getElem?_getD, readCells, List.getElem?_map, List.getElem?_range hk]
  rfl

/-- A record laid over the cells, and what it leaves of them. -/
theorem readCells_overlay {xs : List Byte} (h : xs.length ≤ EEPROM_SIZE) (eeprom : Nat → Byte) :
    readCells (overlay 0 xs eeprom) = xs ++ (readCells eeprom).drop xs.length := by
  apply List.ext_getElem?
  intro k
  by_cases hk : k < EEPROM_SIZE
  · rw [readCells, List.getElem?_map, List.getElem?_range hk, Option.map_some, overlay]
    by_cases hx : k < xs.length
    · rw [if_pos (by omega), List.getElem?_append_left hx, Nat.sub_zero, List.getElem?_eq_getElem hx,
        List.getD_eq_getElem _ _ hx]
    · rw [if_neg (by omega), List.getElem?_append_right (by omega), List.getElem?_drop,
        Nat.add_sub_cancel' (by omega : xs.length ≤ k), readCells, List.getElem?_map, List.getElem?_range hk]
      rfl
  · rw [List.getElem?_eq_none (by simp; omega), List.getElem?_eq_none (by simp; omega)]

/-- What the cells hold after the writes that go to the first `j`: the new record as far as it got, the old one behind. -/
theorem writeCells_take (d : Device) {j : Nat} (hj : j ≤ EEPROM_SIZE) :
    writeCells d.eeprom (cellWrites 0 ((eepromRecord d.state d.targetIp).take j) ((readCells d.eeprom).take j)) =
      overlay 0 ((eepromRecord d.state d.targetIp).take j) d.eeprom := by
  apply writeCells_cellWrites
  · simp
  · intro k hk
    rw [List.length_take, length_readCells] at hk
    rw [Nat.zero_add, List.getD_eq_getElem?_getD, List.getElem?_take_of_lt (by omega), ← List.getD_eq_getElem?_getD,
      getD_readCells d.eeprom (by omega)]

/-- The writes of a save lay the record over the memory. -/
theorem writeCells_saveWrites (d : Device) :
    writeCells d.eeprom (saveWrites d) = overlay 0 (eepromRecord d.state d.targetIp) d.eeprom := by
  have h := writeCells_take d (le_refl EEPROM_SIZE)
  rwa [List.take_of_length_le (by simp), List.take_of_length_le (by simp)] at h

/-! ## Saving and reading -/

/-- After a save the cells hold the record. -/
theorem readCells_saveStateToEeprom (d : Device) :
    readCells (saveStateToEeprom d).eeprom = eepromRecord d.state d.targetIp := by
  simp only [saveStateToEeprom]
  rw [writeCells_saveWrites, readCells_overlay (by simp), length_eepromRecord, List.drop_of_length_le (by simp),
    List.append_nil]

/-- A save leaves the other cells alone. -/
theorem saveStateToEeprom_of_le (d : Device) {i : Nat} (hi : EEPROM_SIZE ≤ i) : (saveStateToEeprom d).eeprom i = d.eeprom i := by
  simp only [saveStateToEeprom]
  rw [writeCells_saveWrites, overlay, if_neg (by simp; omega)]

/-- A save that finds its record in place writes nothing, and only then. -/
theorem saveWrites_eq_nil_iff (d : Device) : saveWrites d = [] ↔ readCells d.eeprom = eepromRecord d.state d.targetIp := by
  have hnil : ∀ (new cur : List Byte) (i : Nat), new.length = cur.length → (cellWrites i new cur = [] ↔ cur = new) := by
    intro new
    induction new with
    | nil =>
      intro cur i hl
      cases cur with
      | nil => simp [cellWrites]
      | cons c cur => simp at hl
    | cons n new ih =>
      intro cur i hl
      cases cur with
      | nil => simp at hl
      | cons c cur =>
        rw [cellWrites]
        by_cases hnc : n = c
        · rw [if_neg (by simpa using hnc), ih cur (i + 1) (by simpa using hl), hnc]
          simp
        · rw [if_pos hnc]
          have : c ≠ n := fun hc => hnc hc.symm
          simp [this]
  exact hnil _ _ 0 (by simp)

/-- Every write of a save goes to one of the record's cells, and changes it. -/
theorem saveWrites_differ (d : Device) : ∀ w ∈ saveWrites d, w.1 < EEPROM_SIZE ∧ d.eeprom w.1 ≠ w.2 := by
  have hwrites : ∀ (new cur : List Byte) (i : Nat), ∀ w ∈ cellWrites i new cur,
      i ≤ w.1 ∧ w.1 < i + cur.length ∧ cur.getD (w.1 - i) 0 ≠ w.2 := by
    intro new
    induction new with
    | nil => intro cur i w hw; simp [cellWrites] at hw
    | cons n new ih =>
      intro cur i w hw
      cases cur with
      | nil => simp [cellWrites] at hw
      | cons c cur =>
        have htail : w ∈ cellWrites (i + 1) new cur →
            i ≤ w.1 ∧ w.1 < i + (c :: cur).length ∧ (c :: cur).getD (w.1 - i) 0 ≠ w.2 := by
          intro h
          obtain ⟨h1, h2, h3⟩ := ih cur (i + 1) w h
          have hsub : w.1 - i = w.1 - (i + 1) + 1 := by omega
          rw [List.length_cons, hsub, List.getD_cons_succ]
          exact ⟨by omega, by omega, h3⟩
        rw [cellWrites] at hw
        by_cases hnc : n = c
        · rw [if_neg (by simpa using hnc)] at hw
          exact htail hw
        · rw [if_pos hnc, List.mem_cons] at hw
          rcases hw with rfl | hw
          · refine ⟨le_refl _, by simp, ?_⟩
            simpa using fun hc : c = n => hnc hc.symm
          · exact htail hw
  intro w hw
  obtain ⟨_, h2, h3⟩ := hwrites _ _ 0 w hw
  rw [length_readCells, Nat.zero_add] at h2
  rw [Nat.sub_zero, getD_readCells _ h2] at h3
  exact ⟨h2, h3⟩

/-- A record has one state and one address. -/
theorem eepromRecord_inj {s s' : Byte} {ip ip' : Ip} (h : eepromRecord s ip = eepromRecord s' ip') : s = s' ∧ ip = ip' := by
  rw [eepromRecord, eepromRecord, crcWrite, crcWrite] at h
  obtain ⟨h1, _⟩ := List.append_inj h (by simp)
  rw [List.cons.injEq, Vector.toList_inj] at h1
  exact h1

/-- What boot finds in the cells: a bad checksum, and it loads the defaults, or the record of what it loads. -/
theorem readStateFromEeprom_cases (d : Device) :
    (crcCalc (readCells d.eeprom) ≠ 0 ∧ (readStateFromEeprom d).state = 0 ∧ (readStateFromEeprom d).targetIp = allOnes) ∨
      readCells d.eeprom = eepromRecord (readStateFromEeprom d).state (readStateFromEeprom d).targetIp := by
  by_cases hcrc : crcCalc (readCells d.eeprom) = 0
  · right
    have hcells : readCells d.eeprom =
        (d.eeprom 0 :: [d.eeprom 1, d.eeprom 2, d.eeprom 3, d.eeprom 4]) ++ [d.eeprom 5, d.eeprom 6] := rfl
    have hstate : (readStateFromEeprom d).state = d.eeprom 0 := by
      simp only [readStateFromEeprom, syncLeds, hcrc]
      rfl
    have hip : (readStateFromEeprom d).targetIp.toList = [d.eeprom 1, d.eeprom 2, d.eeprom 3, d.eeprom 4] := by
      simp only [readStateFromEeprom, syncLeds, hcrc]
      rfl
    rw [eepromRecord, hstate, hip, crcWrite, crcTrailer]
    rw [hcells] at hcrc ⊢
    obtain ⟨hl, hh⟩ := (crcCalc_append_eq_zero_iff _ _ _).mp hcrc
    rw [← hl, ← hh]
  · left
    refine ⟨hcrc, ?_, ?_⟩ <;> simp only [readStateFromEeprom, syncLeds] <;> rw [if_pos hcrc]

/-- A record has no residue. -/
theorem crcCalc_eepromRecord (s : Byte) (ip : Ip) : crcCalc (eepromRecord s ip) = 0 := crcCalc_crcWrite _

/-- Boot restores a record. -/
theorem readStateFromEeprom_record {d : Device} {s : Byte} {ip : Ip} (h : readCells d.eeprom = eepromRecord s ip) :
    (readStateFromEeprom d).state = s ∧ (readStateFromEeprom d).targetIp = ip := by
  rcases readStateFromEeprom_cases d with ⟨hbad, _, _⟩ | hok
  · rw [h] at hbad
    exact absurd (crcCalc_eepromRecord s ip) hbad
  · rw [h] at hok
    obtain ⟨h1, h2⟩ := eepromRecord_inj hok
    exact ⟨h1.symm, h2.symm⟩

/-- The record in the EEPROM as a code: a save leaves exactly the new record in its cells, touching only those that differ and
none behind, and boot restores what was saved, because the trailer and nothing else makes the checksum zero; and whatever the cells
hold, boot rejects it or loads what a save would find in place. -/
theorem record_codec :
    (∀ (data : List Byte) (l h : Byte),
      crcCalc (data ++ [l, h]) = 0 ↔ l = (crcCalc data).setWidth 8 ∧ h = (crcCalc data >>> 8).setWidth 8) ∧
    (∀ d : Device,
      readCells (saveStateToEeprom d).eeprom = eepromRecord d.state d.targetIp ∧
      (∀ w ∈ saveWrites d, w.1 < EEPROM_SIZE ∧ d.eeprom w.1 ≠ w.2) ∧
      (∀ i, EEPROM_SIZE ≤ i → (saveStateToEeprom d).eeprom i = d.eeprom i) ∧
      ∀ d' : Device, d'.eeprom = (saveStateToEeprom d).eeprom →
        (readStateFromEeprom d').state = d.state ∧ (readStateFromEeprom d').targetIp = d.targetIp) ∧
    (∀ d : Device,
      (crcCalc (readCells d.eeprom) ≠ 0 ∧ (readStateFromEeprom d).state = 0 ∧ (readStateFromEeprom d).targetIp = allOnes) ∨
      saveWrites (readStateFromEeprom d) = []) := by
  refine ⟨crcCalc_append_eq_zero_iff, ?_, ?_⟩
  · intro d
    refine ⟨readCells_saveStateToEeprom d, saveWrites_differ d, fun i hi => saveStateToEeprom_of_le d hi, ?_⟩
    intro d' hd'
    apply readStateFromEeprom_record
    rw [hd', readCells_saveStateToEeprom]
  · intro d
    rcases readStateFromEeprom_cases d with hbad | hok
    · exact Or.inl hbad
    · right
      rw [saveWrites_eq_nil_iff, readStateFromEeprom_eeprom]
      exact hok

/-! ## A save cut short -/

/-- The writes of a save that go to its first `j` cells. -/
def firstWrites (d : Device) (j : Nat) : List (Nat × Byte) :=
  cellWrites 0 ((eepromRecord d.state d.targetIp).take j) ((readCells d.eeprom).take j)

/-- Two records, byte by byte, as far as the save got. -/
def recordDiff (new old : List Byte) (j : Nat) : List Byte := List.zipWith (· ^^^ ·) (new.take j) (old.take j)

/-- A record over another, as far as the save got. -/
def mixture (new old : List Byte) (j : Nat) : List Byte := new.take j ++ old.drop j

/-- A record does not differ from itself. -/
theorem zipWith_xor_self (xs : List Byte) : List.zipWith (· ^^^ ·) xs xs = List.replicate xs.length 0#8 := by
  induction xs with
  | nil => rfl
  | cons x xs ih => rw [List.zipWith_cons_cons, ih, BitVec.xor_self, List.length_cons, List.replicate_succ]

/-- The checksum passes a mixture of two records exactly if it is zero on the bytes that were written over. -/
theorem crcCalc_mixture_eq_zero_iff {new old : List Byte} (hl : new.length = old.length) (hold : crcCalc old = 0) (j : Nat) :
    crcCalc (mixture new old j) = 0 ↔ crcCalc (recordDiff new old j) = 0 := by
  have hdiff : List.zipWith (· ^^^ ·) (mixture new old j) old =
      recordDiff new old j ++ List.replicate (old.drop j).length 0#8 := by
    calc List.zipWith (· ^^^ ·) (mixture new old j) old
        = List.zipWith (· ^^^ ·) (new.take j ++ old.drop j) (old.take j ++ old.drop j) := by rw [List.take_append_drop]; rfl
      _ = recordDiff new old j ++ List.zipWith (· ^^^ ·) (old.drop j) (old.drop j) :=
          List.zipWith_append (by rw [List.length_take, List.length_take, hl])
      _ = recordDiff new old j ++ List.replicate (old.drop j).length 0#8 := by rw [zipWith_xor_self]
  have hlen : (mixture new old j).length = old.length := by
    rw [mixture, List.length_append, List.length_take, List.length_drop]
    omega
  have hold' : Crc.run crcPoly 0#16 old = 0#16 := by rw [← crcCalc_eq]; exact hold
  have hxor := Crc.run_xor crcPoly hlen 0#16 0#16
  rw [hdiff, BitVec.xor_self, Crc.run_append, hold', BitVec.xor_zero] at hxor
  rw [crcCalc_eq, crcCalc_eq, ← hxor]
  exact Crc.run_zeros_eq_zero_iff crcPoly_top _ _

/-- The data of a record. -/
theorem take_eepromRecord (s : Byte) (ip : Ip) : (eepromRecord s ip).take EEPROM_DATA_SIZE = s :: ip.toList := by
  rw [eepromRecord, crcWrite]
  exact List.take_left' (by simp [EEPROM_DATA_SIZE, CHECKSUM_ADDR, TARGET_IP_ADDR, STATE_ADDR, STATE_SIZE, TARGET_IP_SIZE])

/-- If the first two cells at most are written, the checksum passes the old record only. -/
theorem mixture_eq_old {new old : List Byte} (hl : new.length = old.length) {j : Nat} (hj : j ≤ 2)
    (h : crcCalc (recordDiff new old j) = 0) : mixture new old j = old := by
  have hlen : (recordDiff new old j).length ≤ 2 := by
    rw [recordDiff, List.length_zipWith, List.length_take]
    omega
  rw [crcCalc_eq] at h
  have hzero := Crc.eq_zero_of_run_eq_zero crcPoly_top (by omega) h
  have htake : new.take j = old.take j := by
    apply List.ext_getElem (by rw [List.length_take, List.length_take, hl])
    intro k h1 h2
    have hk : k < (recordDiff new old j).length := by rw [recordDiff, List.length_zipWith]; omega
    have hx := hzero _ (List.getElem_mem hk)
    simp only [recordDiff, List.getElem_zipWith] at hx
    exact BitVec.xor_eq_zero_iff.mp hx
  rw [mixture, htake, List.take_append_drop]

/-- A record among the mixtures: its state is the new one, its address the new one as far as the save got. -/
theorem mixture_eq_record {s₀ s₁ s : Byte} {ip₀ ip₁ ip : Ip} {j : Nat} (hj : j + 1 ≤ EEPROM_SIZE)
    (h : mixture (eepromRecord s₁ ip₁) (eepromRecord s₀ ip₀) (j + 1) = eepromRecord s ip) :
    s = s₁ ∧ ip.toList = ip₁.toList.take j ++ ip₀.toList.drop j := by
  have hlen : ((eepromRecord s₁ ip₁).take (j + 1)).length = j + 1 := by
    rw [List.length_take, length_eepromRecord]
    omega
  have hdata : s :: ip.toList = s₁ :: (ip₁.toList.take j ++ ip₀.toList.drop j) := by
    calc s :: ip.toList
        = (mixture (eepromRecord s₁ ip₁) (eepromRecord s₀ ip₀) (j + 1)).take EEPROM_DATA_SIZE := by
          rw [h, take_eepromRecord]
      _ = ((eepromRecord s₁ ip₁).take EEPROM_DATA_SIZE).take (j + 1) ++
            ((eepromRecord s₀ ip₀).take EEPROM_DATA_SIZE).drop (j + 1) := by
          rw [mixture, List.take_append, hlen, List.take_take, List.take_take, Nat.min_comm, List.drop_take]
      _ = s₁ :: (ip₁.toList.take j ++ ip₀.toList.drop j) := by
          rw [take_eepromRecord, take_eepromRecord, List.take_succ_cons, List.drop_succ_cons, List.cons_append]
  rw [List.cons.injEq] at hdata
  exact hdata

/-- A save cut after some cells leaves a mixture. -/
theorem readCells_firstWrites (d : Device) {j : Nat} (hj : j ≤ EEPROM_SIZE) :
    readCells (writeCells d.eeprom (firstWrites d j)) = mixture (eepromRecord d.state d.targetIp) (readCells d.eeprom) j := by
  have hlen : ((eepromRecord d.state d.targetIp).take j).length = j := by
    rw [List.length_take, length_eepromRecord]
    omega
  rw [firstWrites, writeCells_take d hj, readCells_overlay (by omega), hlen, mixture]

/-- A save of a record over another that is cut short has done the writes of its first cells, and boot then finds what the checksum
decides: it loads the defaults, or the old pair if no more than two cells were written over, the new pair from the fifth on, and
after three or four cells the new state with an address that begins as the new one and ends as the old one. -/
theorem interrupted_save (d : Device) (s₀ : Byte) (ip₀ : Ip) (hold : readCells d.eeprom = eepromRecord s₀ ip₀) :
    (∀ ws, ws <+: saveWrites d ↔ ∃ j ≤ EEPROM_SIZE, ws = firstWrites d j) ∧
    ∀ j ≤ EEPROM_SIZE, ∀ d' : Device, d'.eeprom = writeCells d.eeprom (firstWrites d j) →
      let diff := recordDiff (eepromRecord d.state d.targetIp) (eepromRecord s₀ ip₀) j
      let r := readStateFromEeprom d'
      (crcCalc diff ≠ 0 ∧ r.state = 0 ∧ r.targetIp = allOnes) ∨
      (crcCalc diff = 0 ∧ j ≤ 2 ∧ r.state = s₀ ∧ r.targetIp = ip₀) ∨
      (crcCalc diff = 0 ∧ 5 ≤ j ∧ r.state = d.state ∧ r.targetIp = d.targetIp) ∨
      (crcCalc diff = 0 ∧ (j = 3 ∨ j = 4) ∧ r.state = d.state ∧
        r.targetIp.toList = d.targetIp.toList.take (j - 1) ++ ip₀.toList.drop (j - 1)) := by
  constructor
  · intro ws
    constructor
    · intro hws
      obtain ⟨j, hj, hw⟩ := prefix_cellWrites (by simp) hws
      exact ⟨j, by simpa using hj, hw⟩
    · rintro ⟨j, _, rfl⟩
      exact cellWrites_take_initial _ _ 0 j
  intro j hj d' hd'
  dsimp only
  have hcells : readCells d'.eeprom = mixture (eepromRecord d.state d.targetIp) (eepromRecord s₀ ip₀) j := by
    rw [hd', readCells_firstWrites d hj, hold]
  have hl : (eepromRecord d.state d.targetIp).length = (eepromRecord s₀ ip₀).length := by simp
  have hcrc := crcCalc_mixture_eq_zero_iff hl (crcCalc_eepromRecord s₀ ip₀) j
  rcases readStateFromEeprom_cases d' with ⟨hbad, hs, hip⟩ | hok
  · left
    rw [hcells, ne_eq, hcrc] at hbad
    exact ⟨hbad, hs, hip⟩
  right
  have hzero : crcCalc (recordDiff (eepromRecord d.state d.targetIp) (eepromRecord s₀ ip₀) j) = 0 := by
    rw [← hcrc, ← hcells, hok]
    exact crcCalc_eepromRecord _ _
  by_cases hj2 : j ≤ 2
  · left
    rw [hcells, mixture_eq_old hl hj2 hzero] at hok
    obtain ⟨hs, hip⟩ := eepromRecord_inj hok
    exact ⟨hzero, hj2, hs.symm, hip.symm⟩
  right
  obtain ⟨i, rfl⟩ : ∃ i, j = i + 1 := ⟨j - 1, by omega⟩
  rw [hcells] at hok
  obtain ⟨hs, hip⟩ := mixture_eq_record hj hok
  by_cases hi4 : 4 ≤ i
  · left
    rw [List.take_of_length_le (by simpa using hi4), List.drop_of_length_le (by simpa using hi4), List.append_nil,
      Vector.toList_inj] at hip
    exact ⟨hzero, by omega, hs, hip⟩
  · right
    exact ⟨hzero, by omega, hs, hip⟩

/-- A house that was on, with a target whose address began 62.63, is switched off and forgets the address. -/
def forgetting : Device :=
  { saveStateToEeprom { powerOn (fun _ => 0xFF) (fun _ => 0) with state := 1, targetIp := #v[62, 63, 1, 10] } with
    state := 0
    targetIp := allOnes }

set_option maxRecDepth 4000 in
/-- The saved record is the one before the address was forgotten. -/
theorem forgetting_cells : readCells forgetting.eeprom = eepromRecord 1 #v[62, 63, 1, 10] := by decide +kernel

set_option maxRecDepth 4000 in
/-- A mixture that the checksum passes: power is lost after the third write, and boot finds the old address's last two bytes behind
two bytes of the new one. -/
theorem interrupted_save_mixes :
    ¬ ∀ (d : Device) (s₀ : Byte) (ip₀ : Ip), readCells d.eeprom = eepromRecord s₀ ip₀ →
      ∀ ws, ws <+: saveWrites d → ∀ d' : Device, d'.eeprom = writeCells d.eeprom ws →
        let r := readStateFromEeprom d'
        (r.state = s₀ ∧ r.targetIp = ip₀) ∨ (r.state = d.state ∧ r.targetIp = d.targetIp) ∨
          (r.state = 0 ∧ r.targetIp = allOnes) := by
  intro h
  have hbad := h forgetting 1 #v[62, 63, 1, 10] forgetting_cells (firstWrites forgetting 3)
    (cellWrites_take_initial _ _ 0 3)
    { forgetting with eeprom := writeCells forgetting.eeprom (firstWrites forgetting 3) } rfl
  exact absurd hbad (by decide +kernel)

/-- What boot finds after each cut of such a save. -/
theorem interrupted_save_forgetting :
    (∀ ws, ws <+: saveWrites forgetting ↔ ∃ j ≤ EEPROM_SIZE, ws = firstWrites forgetting j) ∧
    ∀ j ≤ EEPROM_SIZE, ∀ d' : Device, d'.eeprom = writeCells forgetting.eeprom (firstWrites forgetting j) →
      let diff := recordDiff (eepromRecord 0 allOnes) (eepromRecord 1 #v[62, 63, 1, 10]) j
      let r := readStateFromEeprom d'
      (crcCalc diff ≠ 0 ∧ r.state = 0 ∧ r.targetIp = allOnes) ∨
      (crcCalc diff = 0 ∧ j ≤ 2 ∧ r.state = 1 ∧ r.targetIp = #v[62, 63, 1, 10]) ∨
      (crcCalc diff = 0 ∧ 5 ≤ j ∧ r.state = 0 ∧ r.targetIp = allOnes) ∨
      (crcCalc diff = 0 ∧ (j = 3 ∨ j = 4) ∧ r.state = 0 ∧
        r.targetIp.toList = allOnes.toList.take (j - 1) ++ [62, 63, 1, 10].drop (j - 1)) :=
  interrupted_save forgetting 1 #v[62, 63, 1, 10] forgetting_cells

/-! ## A record that is damaged -/

/-- The polynomial has an odd number of bits. -/
theorem crcPoly_odd : Crc.parityOf crcPoly = true := by decide

/-- An error pattern has a set bit. The bits of a pattern are numbered from the least significant one of the first byte. -/
def Damages (e : List Byte) : Prop := true ∈ Crc.bits e

/-- All set bits of a pattern lie within 16 consecutive places. -/
def Burst (e : List Byte) : Prop := ∃ s, ∀ i, (Crc.bits e)[i]? = some true → s ≤ i ∧ i < s + 16

/-- The number of set bits of a pattern is odd. -/
def OddWeight (e : List Byte) : Prop := (Crc.bits e).count true % 2 = 1

/-- Damage done to bytes. -/
def damage (e record : List Byte) : List Byte := List.zipWith (· ^^^ ·) record e

/-- What damage does to the checksum does not depend on the bytes. -/
theorem crcCalc_damage {e record : List Byte} (hl : e.length = record.length) (hr : crcCalc record = 0) :
    crcCalc (damage e record) = Crc.feeds crcPoly 0#16 (Crc.bits e) := by
  rw [crcCalc_eq] at hr ⊢
  have hxor := Crc.run_xor crcPoly hl.symm 0#16 0#16
  rw [BitVec.xor_self, hr] at hxor
  rw [damage, hxor, ← Crc.run_eq_feeds crcPoly_top (by decide)]
  exact BitVec.zero_xor

/-- The checksum finds a burst of up to 16 bits and an odd number of wrong bits. -/
theorem crcCalc_damage_ne_zero {e record : List Byte} (hd : Damages e) (hk : Burst e ∨ OddWeight e) (hl : e.length = record.length)
    (hr : crcCalc record = 0) : crcCalc (damage e record) ≠ 0 := by
  rw [crcCalc_damage hl hr]
  rcases hk with ⟨s, hs⟩ | hodd
  · exact Crc.feeds_burst_ne_zero crcPoly_top hs hd
  · exact Crc.feeds_odd_ne_zero crcPoly_odd (by decide) hodd

/-- Behind any data with its trailer, a burst of up to 16 bits and an odd number of wrong bits make the checksum nonzero; so boot
loads the defaults from a saved record that is damaged like that. -/
theorem damage_detected (e : List Byte) (hd : Damages e) (hk : Burst e ∨ OddWeight e) :
    (∀ data : List Byte, e.length = (crcWrite data).length → crcCalc (damage e (crcWrite data)) ≠ 0) ∧
    ∀ d d' : Device, e.length = EEPROM_SIZE → readCells d'.eeprom = damage e (readCells (saveStateToEeprom d).eeprom) →
      (readStateFromEeprom d').state = 0 ∧ (readStateFromEeprom d').targetIp = allOnes := by
  refine ⟨fun data hl => crcCalc_damage_ne_zero hd hk hl (crcCalc_crcWrite data), fun d d' hl hcells => ?_⟩
  have hrecord : crcCalc (readCells (saveStateToEeprom d).eeprom) = 0 := by
    rw [readCells_saveStateToEeprom]
    exact crcCalc_eepromRecord _ _
  have hne := crcCalc_damage_ne_zero hd hk (by rw [hl, length_readCells]) hrecord
  rw [← hcells] at hne
  rcases readStateFromEeprom_cases d' with ⟨_, hs, hip⟩ | hok
  · exact ⟨hs, hip⟩
  · rw [hok] at hne
    exact absurd (crcCalc_eepromRecord _ _) hne

/-- One wrong bit in the last cell, which is both. -/
theorem damage_detected_last :
    (∀ data : List Byte, [0, 0, 0, 0, 0, 0, 0x80].length = (crcWrite data).length →
      crcCalc (damage [0, 0, 0, 0, 0, 0, 0x80] (crcWrite data)) ≠ 0) ∧
    ∀ d d' : Device, [(0 : Byte), 0, 0, 0, 0, 0, 0x80].length = EEPROM_SIZE →
      readCells d'.eeprom = damage [0, 0, 0, 0, 0, 0, 0x80] (readCells (saveStateToEeprom d).eeprom) →
      (readStateFromEeprom d').state = 0 ∧ (readStateFromEeprom d').targetIp = allOnes :=
  damage_detected [0, 0, 0, 0, 0, 0, 0x80] (by unfold Damages; decide) (Or.inr (by unfold OddWeight; decide))

end EtherHouse
