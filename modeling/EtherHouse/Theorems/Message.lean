import EtherHouse.Net.Connection
import EtherHouse.Sketch.Response

/-!
# Syslog messages

`syslog.ino` with its memories: the string is read from program memory, put together in a local array in RAM, and sent from there. Both
overloads have one body, so the one for strings in RAM sends what program memory holds at the same address.
-/

namespace EtherHouse

/-! ## Memories -/

/-- The stores that put bytes into RAM one after the other, by address. -/
def bytesAt (dst : Nat) : List Byte → List (Nat × Byte)
  | [] => []
  | b :: bs => (dst, b) :: bytesAt (dst + 1) bs

/-- The stores of `strcpy_P`: the string and its zero. -/
def strcpyP (dst : Nat) (s : List Byte) : List (Nat × Byte) := bytesAt dst (s ++ [0])

/-- RAM after some stores. -/
def storeAll (ram : Nat → Byte) (stores : List (Nat × Byte)) : Nat → Byte :=
  stores.foldl (fun ram s => Function.update ram s.1 s.2) ram

/-- `n` bytes of a memory from an address on. -/
def memBytes (mem : Nat → Byte) (p n : Nat) : List Byte := (List.range n).map fun i => mem (p + i)

/-- A memory holds a string, with the zero at its end. -/
def HoldsString (mem : Nat → Byte) (p : Nat) (s : List Byte) : Prop :=
  (∀ i, (h : i < s.length) → mem (p + i) = s[i] ∧ s[i] ≠ 0) ∧ mem (p + s.length) = 0

/-- Stores may be done in two parts. -/
theorem storeAll_append (ram : Nat → Byte) (s t : List (Nat × Byte)) : storeAll ram (s ++ t) = storeAll (storeAll ram s) t :=
  List.foldl_append

/-- What memory holds after a copy. -/
theorem storeAll_bytesAt (ram : Nat → Byte) (dst : Nat) (xs : List Byte) (a : Nat) :
    storeAll ram (bytesAt dst xs) a = if dst ≤ a ∧ a < dst + xs.length then xs.getD (a - dst) 0 else ram a := by
  induction xs generalizing ram dst with
  | nil =>
    rw [if_neg (by simp only [List.length_nil]; omega)]
    rfl
  | cons b bs ih =>
    have hcons : storeAll ram (bytesAt dst (b :: bs)) a = storeAll (Function.update ram dst b) (bytesAt (dst + 1) bs) a := rfl
    rw [hcons, ih]
    by_cases ha : a = dst
    · subst ha
      rw [if_neg (by omega), if_pos (by simp), Function.update_self, Nat.sub_self, List.getD_cons_zero]
    · rw [Function.update_of_ne ha]
      by_cases hin : dst + 1 ≤ a ∧ a < dst + 1 + bs.length
      · obtain ⟨k, rfl⟩ : ∃ k, a = dst + 1 + k := ⟨a - (dst + 1), by omega⟩
        rw [if_pos hin, if_pos (by rw [List.length_cons]; omega), Nat.add_sub_cancel_left, Nat.add_assoc, Nat.add_sub_cancel_left,
          Nat.add_comm 1 k, List.getD_cons_succ]
      · rw [if_neg hin, if_neg (by rw [List.length_cons]; omega)]

/-- Stores one after the other stay where the bytes have room. -/
theorem mem_bytesAt {dst : Nat} {xs : List Byte} {s : Nat × Byte} (h : s ∈ bytesAt dst xs) : dst ≤ s.1 ∧ s.1 < dst + xs.length := by
  induction xs generalizing dst with
  | nil => exact absurd h List.not_mem_nil
  | cons b bs ih =>
    rw [bytesAt, List.mem_cons] at h
    rw [List.length_cons]
    rcases h with rfl | h
    · simp
    · have := ih h
      omega

/-- A stretch of memory in two parts. -/
theorem memBytes_append (mem : Nat → Byte) (p m n : Nat) : memBytes mem p (m + n) = memBytes mem p m ++ memBytes mem (p + m) n := by
  simp only [memBytes, List.range_add, List.map_append, List.map_map]
  congr 1
  refine List.map_congr_left fun i _ => ?_
  simp [Nat.add_assoc]

/-- A memory that agrees with a list on a stretch. -/
theorem memBytes_eq {mem : Nat → Byte} {p : Nat} {xs : List Byte} (h : ∀ i < xs.length, mem (p + i) = xs.getD i 0) :
    memBytes mem p xs.length = xs := by
  refine List.ext_getElem (by simp [memBytes]) fun i hi hi' => ?_
  have hget : (memBytes mem p xs.length)[i] = mem (p + i) := by simp [memBytes]
  rw [hget, h i hi', List.getD_eq_getElem?_getD, List.getElem?_eq_getElem hi', Option.getD_some]

/-- The first bytes of what was stored. -/
theorem memBytes_bytesAt (ram : Nat → Byte) (p : Nat) (xs ys : List Byte) :
    memBytes (storeAll ram (bytesAt p (xs ++ ys))) p xs.length = xs := by
  refine memBytes_eq fun i hi => ?_
  rw [storeAll_bytesAt, if_pos (by rw [List.length_append]; omega), Nat.add_sub_cancel_left, List.getD_append _ _ _ _ hi]

/-- A copy reads back. -/
theorem memBytes_bytesAt_self (ram : Nat → Byte) (p : Nat) (xs : List Byte) :
    memBytes (storeAll ram (bytesAt p xs)) p xs.length = xs := by
  simpa only [List.append_nil] using memBytes_bytesAt ram p xs []

/-- What lies in front of the stores stays. -/
theorem memBytes_bytesAt_of_le (ram : Nat → Byte) {p q n : Nat} (xs : List Byte) (h : q + n ≤ p) :
    memBytes (storeAll ram (bytesAt p xs)) q n = memBytes ram q n := by
  refine List.map_congr_left fun i hi => ?_
  rw [List.mem_range] at hi
  rw [storeAll_bytesAt, if_neg (by omega)]

/-- `strlen_P` finds the zero that ends a string. -/
theorem HoldsString.strlenP {mem : Nat → Byte} {p : Nat} {s : List Byte} (h : HoldsString mem p s) {n : Nat} (hn : s.length ≤ n) :
    strlenP mem n p = s.length := by
  induction s generalizing p n with
  | nil =>
    cases n with
    | zero => rfl
    | succ n => rw [EtherHouse.strlenP, if_pos (by simpa using h.2), List.length_nil]
  | cons b s ih =>
    obtain ⟨m, rfl⟩ : ∃ m, n = m + 1 := ⟨n - 1, by rw [List.length_cons] at hn; omega⟩
    have hb : mem p = b ∧ b ≠ 0 := h.1 0 (by simp)
    have htail : HoldsString mem (p + 1) s := by
      refine ⟨fun i hi => ?_, ?_⟩
      · have := h.1 (i + 1) (by simpa using hi)
        simpa [Nat.add_assoc, Nat.add_comm 1 i] using this
      · have := h.2
        rwa [List.length_cons, Nat.add_comm s.length 1, ← Nat.add_assoc] at this
    rw [EtherHouse.strlenP, if_neg (by rw [hb.1]; exact hb.2), ih htail (by rw [List.length_cons] at hn; omega), List.length_cons]

/-- The string in program memory is read in full. -/
theorem HoldsString.stringP {flash : Nat → Byte} {p : Nat} {s : List Byte} (h : HoldsString flash p s) (hs : s.length ≤ FLASH_SIZE) :
    stringP flash p = s := by
  rw [EtherHouse.stringP, h.strlenP hs]
  refine memBytes_eq fun i hi => ?_
  rw [(h.1 i hi).1, List.getD_eq_getElem?_getD, List.getElem?_eq_getElem hi, Option.getD_some]

/-! ## The overloads -/

def syslogPrefixLen : Nat := syslogPrefix.length

/-- `string_size`, computed with `strlen_P`. The source's is a 16-bit `int`, and would wrap from a string of 32751 bytes on: without a
zero among them, they would fill the flash to its last 17 bytes, and the program that calls lies there too. -/
def stringSize (flash : Nat → Byte) (logstring : Nat) : Nat := syslogPrefixLen + 1 + 1 + strlenP flash FLASH_SIZE logstring + 1

/-- The stores of a call, with its `buf` at an address of RAM. -/
def syslogStores (flash : Nat → Byte) (logstring buf : Nat) : List (Nat × Byte) :=
  strcpyP buf syslogPrefix ++ bytesAt (buf + syslogPrefixLen) [0x30 + BitVec.ofNat 8 MY_ID, 0x20] ++
    strcpyP (buf + syslogPrefixLen + 1 + 1) (stringP flash logstring)

/-- The body of `syslog`, from the stores to the frame. -/
def syslogIn (flash ram : Nat → Byte) (logstring buf : Nat) (e : Ether) : Ether :=
  let ram := storeAll ram (syslogStores flash logstring buf)
  let string_size := stringSize flash logstring
  _syslog (memBytes ram buf string_size) string_size e

/-- `syslog(const __FlashStringHelper *)`. -/
def syslogFlashString (flash ram : Nat → Byte) (logstring buf : Nat) (e : Ether) : Ether := syslogIn flash ram logstring buf e

/-- `syslog(const char *)`: the `_P` functions take its pointer for one into program memory. -/
def syslogConstChar (flash ram : Nat → Byte) (logstring buf : Nat) (e : Ether) : Ether := syslogIn flash ram logstring buf e

/-- The prefix is sixteen bytes. -/
theorem length_syslogBuf (s : List Byte) : (syslogBuf s).length = 16 + s.length := by
  rw [syslogBuf, List.length_append]
  rfl

/-- A string is as long as `strlen_P` says. -/
theorem length_stringP (flash : Nat → Byte) (p : Nat) : (stringP flash p).length = strlenP flash FLASH_SIZE p := by
  simp [stringP]

/-- Every store lies in `buf[0 .. string_size)`. -/
theorem syslogStores_bounded {flash : Nat → Byte} {logstring buf : Nat} {s : Nat × Byte}
    (h : s ∈ syslogStores flash logstring buf) : buf ≤ s.1 ∧ s.1 < buf + stringSize flash logstring := by
  have hp : syslogPrefixLen = 14 := rfl
  have hp' : syslogPrefix.length = 14 := rfl
  rw [syslogStores, List.mem_append, List.mem_append] at h
  rw [stringSize]
  rcases h with (h | h) | h
  · have := mem_bytesAt h
    rw [List.length_append, List.length_singleton] at this
    omega
  · have := mem_bytesAt h
    rw [List.length_cons, List.length_singleton] at this
    omega
  · have := mem_bytesAt h
    rw [List.length_append, List.length_singleton, length_stringP] at this
    omega

/-- What lies in `buf` when it is sent: the message and its zero. -/
theorem memBytes_syslogStores (flash ram : Nat → Byte) (logstring buf : Nat) :
    memBytes (storeAll ram (syslogStores flash logstring buf)) buf (stringSize flash logstring) =
      syslogBuf (stringP flash logstring) ++ [0] := by
  have hsize : stringSize flash logstring =
      syslogPrefixLen + ([0x30 + BitVec.ofNat 8 MY_ID, 0x20] : List Byte).length + (stringP flash logstring ++ [0]).length := by
    rw [List.length_append, length_stringP, stringSize]
    rfl
  rw [syslogStores, storeAll_append, storeAll_append, strcpyP, strcpyP, hsize, memBytes_append, syslogBuf,
    List.append_assoc (syslogPrefix ++ _)]
  congr 1
  · rw [memBytes_bytesAt_of_le _ _ (by simp only [List.length_cons, List.length_nil]; omega), memBytes_append]
    congr 1
    · rw [memBytes_bytesAt_of_le _ _ le_rfl]
      exact memBytes_bytesAt ram buf syslogPrefix [0]
    · exact memBytes_bytesAt_self _ _ _
  · exact memBytes_bytesAt_self _ _ _

/-! ## The frame -/

/-- The data of the UDP frame that was sent last. -/
def sentPayload (e : Ether) : Option (List Byte) :=
  match e.wire with
  | .sent frame :: _ => some (frame.drop UDP_DATA_P)
  | _ => none

/-- `udpTransmit` writes headers only. -/
theorem sentPayload_udpTransmit (datalen : Nat) (e : Ether) :
    sentPayload (udpTransmit datalen e) = some (memBytes e.gPB UDP_DATA_P datalen) := by
  have hdata : ∀ i, UDP_DATA_P ≤ i →
      (fillChecksum UDP_CHECKSUM_H_P IP_SRC_P (16 + datalen) 1
        ((fillIpHdrChecksum (e.put IP_TOTLEN_H_P [hi (IP_HEADER_LEN + UDP_HEADER_LEN + datalen),
          lo (IP_HEADER_LEN + UDP_HEADER_LEN + datalen)])).put UDP_LEN_H_P [hi (UDP_HEADER_LEN + datalen),
            lo (UDP_HEADER_LEN + datalen)])).gPB i = e.gPB i := by
    intro i hi
    unfold UDP_DATA_P at hi
    rw [gPB_fillChecksum _ (by unfold UDP_CHECKSUM_H_P; omega),
      gPB_put _ (by simp only [UDP_LEN_H_P, List.length_cons, List.length_nil]; omega),
      gPB_fillIpHdrChecksum _ (by unfold IP_SRC_P; omega),
      gPB_put _ (by simp only [IP_TOTLEN_H_P, List.length_cons, List.length_nil]; omega)]
  have hframe : UDP_HEADER_LEN + IP_HEADER_LEN + ETH_HEADER_LEN + datalen = UDP_DATA_P + datalen := rfl
  simp only [udpTransmit, packetSend, sentPayload, hframe, Option.some.injEq]
  refine List.ext_getElem (by simp [memBytes]) fun i hi hi' => ?_
  simp only [Buffer.slice, memBytes, List.getElem_drop, List.getElem_map, List.getElem_range, Nat.zero_add]
  exact hdata (UDP_DATA_P + i) (by omega)

/-- A datagram carries its data, up to 220 bytes. -/
theorem sentPayload_sendUdp {data : List Byte} {datalen : Byte} (h : min 220 datalen.toNat ≤ data.length) (sport : Nat) (dip : Ip)
    (dport : Nat) (e : Ether) : sentPayload (sendUdp data datalen sport dip dport e) = some (data.take (min 220 datalen.toNat)) := by
  have hmin : (if datalen.toNat > 220 then 220 else datalen.toNat) = min 220 datalen.toNat := by
    split <;> omega
  have hlen : (data.take (min 220 datalen.toNat)).length = min 220 datalen.toNat := List.length_take_of_le h
  rw [sendUdp, hmin, sentPayload_udpTransmit]
  generalize data.take (min 220 datalen.toNat) = xs at hlen
  rw [← hlen, memBytes_eq]
  intro i hi
  rw [Ether.gPB, Ether.put, Buffer.get_write, if_pos (by unfold UDP_DATA_P BUFFER_SIZE; omega), Nat.add_sub_cancel_left]

/-- What lies behind the data does not matter. -/
theorem sendUdp_append {data : List Byte} {datalen : Byte} (h : datalen.toNat ≤ data.length) (rest : List Byte) (sport : Nat) (dip : Ip)
    (dport : Nat) (e : Ether) : sendUdp (data ++ rest) datalen sport dip dport e = sendUdp data datalen sport dip dport e := by
  have hle : (if datalen.toNat > 220 then 220 else datalen.toNat) ≤ data.length := by
    split <;> omega
  simp only [sendUdp, List.take_append_of_le_length hle]

/-- How much of its message a call of `syslog` sends: the length is cut to eight bits before it is capped. -/
def sentLen (strlen : Nat) : Nat := min 220 ((16 + strlen) % 256)

/-- No more is sent than there is. -/
theorem sentLen_le (n : Nat) : sentLen n ≤ 16 + n := (Nat.min_le_right _ _).trans (Nat.mod_le _ _)

/-- The frame carries what the bytes in program memory make of the message, and of that what the eight bits let through. -/
theorem sentPayload_syslogIn (flash ram : Nat → Byte) (logstring buf : Nat) (e : Ether) :
    sentPayload (syslogIn flash ram logstring buf e) =
      some ((syslogBuf (stringP flash logstring)).take (sentLen (stringP flash logstring).length)) := by
  have hn : (BitVec.ofNat 8 (stringSize flash logstring - 1)).toNat = (16 + (stringP flash logstring).length) % 256 := by
    rw [BitVec.toNat_ofNat, length_stringP, stringSize, Nat.add_sub_cancel]
    rfl
  have hle := sentLen_le (stringP flash logstring).length
  rw [sentLen] at hle ⊢
  rw [syslogIn, _syslog, memBytes_syslogStores, sentPayload_sendUdp (by rw [hn, List.length_append, length_syslogBuf]; omega), hn,
    List.take_append_of_le_length (by rw [length_syslogBuf]; exact hle)]

/-- The memories are what the model's `syslogRam` stands for. -/
theorem syslogConstChar_eq (flash ram : Nat → Byte) (logstring buf : Nat) (e : Ether) :
    syslogConstChar flash ram logstring buf e = syslogRam flash logstring e := by
  have hsize : stringSize flash logstring = syslogPrefix.length + 1 + 1 + (stringP flash logstring).length + 1 := by
    rw [length_stringP]
    rfl
  have hle : (BitVec.ofNat 8 (stringSize flash logstring - 1)).toNat ≤ (syslogBuf (stringP flash logstring)).length := by
    rw [BitVec.toNat_ofNat, hsize, Nat.add_sub_cancel, length_syslogBuf]
    exact Nat.mod_le _ _
  rw [syslogConstChar, syslogIn, _syslog, memBytes_syslogStores, sendUdp_append hle, hsize]
  rfl

/-! ## What is sent -/

/-- The payload that a message should give. -/
def fullPayload (m : List Byte) : List Byte := (syslogBuf m).take (min 220 (16 + m.length))

/-- The length of the payload that a message should give. -/
theorem length_fullPayload (m : List Byte) : (fullPayload m).length = min 220 (16 + m.length) := by
  rw [fullPayload, List.length_take, length_syslogBuf, Nat.min_assoc, Nat.min_self]

/-- Two messages give the same bytes up to a length exactly when they agree up to there. -/
theorem take_syslogBuf (m : List Byte) (n : Nat) : (syslogBuf m).take (16 + n) = syslogBuf [] ++ m.take n := by
  have hbuf : syslogBuf m = syslogBuf [] ++ m := by simp [syslogBuf]
  have hlen : (syslogBuf []).length = 16 := length_syslogBuf []
  rw [hbuf, ← hlen, List.take_length_add_append]

/-- It is the prefix and the first 204 bytes of the message. -/
theorem fullPayload_eq (m : List Byte) : fullPayload m = syslogBuf [] ++ m.take 204 := by
  have hmin : min 220 (16 + m.length) = 16 + min 204 m.length := by omega
  rw [fullPayload, hmin, take_syslogBuf, ← List.take_take, List.take_length]

/-- `m'` is sent for `m`: as much of it as `m` has room for, and that much must be alike. -/
theorem take_sentLen_eq (m m' : List Byte) :
    (syslogBuf m').take (sentLen m'.length) = fullPayload m ↔
      m.take 204 <+: m' ∧ sentLen m'.length = min 220 (16 + m.length) := by
  have hle := sentLen_le m'.length
  have hmin : min 220 (16 + m.length) = 16 + (m.take 204).length := by
    rw [List.length_take]
    omega
  constructor
  · intro h
    have hl : sentLen m'.length = min 220 (16 + m.length) := by
      rw [← length_fullPayload, ← h, List.length_take_of_le (by rw [length_syslogBuf]; exact hle)]
    rw [hl, hmin, take_syslogBuf, fullPayload_eq] at h
    exact ⟨List.prefix_iff_eq_take.mpr (List.append_cancel_left h).symm, hl⟩
  · rintro ⟨hp, hl⟩
    rw [hl, hmin, take_syslogBuf, fullPayload_eq, ← List.prefix_iff_eq_take.mp hp]

/-- `syslog` stores nothing outside `buf[0 .. string_size)`. A message in program memory gives its payload exactly when its length loses
nothing by being cut to eight bits; one in RAM exactly when program memory holds, at the same address, a string that begins as it does
and whose length comes out the same. -/
theorem syslog_sends (flash ram : Nat → Byte) (logstring buf : Nat) (m : List Byte) (e : Ether) :
    (∀ s ∈ syslogStores flash logstring buf, buf ≤ s.1 ∧ s.1 < buf + stringSize flash logstring) ∧
    (HoldsString flash logstring m → logstring + m.length < FLASH_SIZE →
      (sentPayload (syslogFlashString flash ram logstring buf e) = some (fullPayload m) ↔
        m.length < 240 ∨ 220 ≤ (16 + m.length) % 256)) ∧
    (HoldsString ram logstring m →
      (sentPayload (syslogConstChar flash ram logstring buf e) = some (fullPayload m) ↔
        m.take 204 <+: stringP flash logstring ∧
          min 220 ((16 + (stringP flash logstring).length) % 256) = min 220 (16 + m.length))) := by
  refine ⟨fun s hs => syslogStores_bounded hs, fun hm hsize => ?_, fun _ => ?_⟩
  · rw [syslogFlashString, sentPayload_syslogIn, hm.stringP (by omega), Option.some.injEq, take_sentLen_eq, sentLen]
    constructor
    · rintro ⟨-, hl⟩
      omega
    · intro h
      exact ⟨List.take_prefix _ _, by omega⟩
  · rw [syslogConstChar, sentPayload_syslogIn, Option.some.injEq, take_sentLen_eq, sentLen]

/-- A message of 240 bytes in program memory is sent with length zero; one in RAM is not sent where program memory is empty. -/
theorem syslog_not_exact :
    (¬∀ (flash ram : Nat → Byte) (logstring buf : Nat) (m : List Byte) (e : Ether), HoldsString flash logstring m →
      logstring + m.length < FLASH_SIZE → sentPayload (syslogFlashString flash ram logstring buf e) = some (fullPayload m)) ∧
    ¬∀ (flash ram : Nat → Byte) (logstring buf : Nat) (m : List Byte) (e : Ether), HoldsString ram logstring m →
      sentPayload (syslogConstChar flash ram logstring buf e) = some (fullPayload m) := by
  constructor
  · intro h
    have hm : HoldsString (fun a => if a < 240 then 0x41 else 0) 0 (List.replicate 240 0x41) := by
      refine ⟨fun i hi => ?_, by rw [List.length_replicate]; rfl⟩
      rw [List.getElem_replicate, Nat.zero_add]
      rw [List.length_replicate] at hi
      exact ⟨if_pos hi, by decide⟩
    have hs := h _ (fun _ => 0) 0 0 _ etherStatics hm (by rw [List.length_replicate]; decide)
    rw [syslogFlashString, sentPayload_syslogIn, hm.stringP (by rw [List.length_replicate]; decide), Option.some.injEq,
      take_sentLen_eq, List.length_replicate] at hs
    exact absurd hs.2 (by decide)
  · intro h
    have hm : HoldsString (fun a => if a = 0x100 then 0x48 else 0) 0x100 [0x48] := by
      refine ⟨fun i hi => ?_, by simp⟩
      have hi0 : i = 0 := by simpa using hi
      subst hi0
      simp
    have hempty : stringP (fun _ => 0) 0x100 = [] := rfl
    have hs := h (fun _ => 0) _ 0x100 0x200 _ etherStatics hm
    rw [syslogConstChar, sentPayload_syslogIn, hempty, Option.some.injEq, take_sentLen_eq] at hs
    exact absurd hs.2 (by decide)

end EtherHouse
