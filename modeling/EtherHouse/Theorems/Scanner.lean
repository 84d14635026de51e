import EtherHouse.Lib.Access
import EtherHouse.Machine.Traffic

/-!
# What the scanners read

`find_response` and `snifferProcessPacket` look into the buffer at places that they compute. Both are given here once more, as programs
that read cells: what they return is what the model's functions return, and what they read lies in front of the length they are given.
-/

namespace EtherHouse

open Access

/-! ## The reply scanner -/

/-- `is_200`. -/
def is200Cells (length : Nat) : Access Nat Byte Bool := do
  let found ← search (fun i => do if ← memcmp i okNeedle then return some () else return none) (length - okNeedle.length) 0
  return found.isSome

/-- `find_response`. -/
def findResponseCells (length : Nat) : Access Nat Byte Int := do
  let found ← search
    (fun i => do
      if ← memcmp i headerEnd then
        if ← is200Cells length then return some (i + headerEnd.length : Int) else return some (-1)
      else
        return none)
    (length - headerEnd.length) 0
  return found.getD (-1)

/-- The cell-wise comparison is the model's. -/
theorem run_memcmp_eq (haystack : Nat → Byte) (needle : List Byte) (i : Nat) :
    (memcmp i needle).run haystack = matchesAt haystack i needle := by
  induction needle generalizing i with
  | nil => rfl
  | cons b needle ih => simp [memcmp, matchesAt, ih]

/-- A search that stops where `p` holds is one for the first such place. -/
theorem findSome?_ite {α γ : Type} (l : List α) (p : α → Bool) (g : α → γ) :
    (l.findSome? fun a => if p a = true then some (g a) else none) = (l.find? p).map g := by
  induction l with
  | nil => rfl
  | cons a l ih =>
    by_cases hp : p a = true
    · simp [hp]
    · simp [hp, ih]

/-- The cell-wise `is_200` is the model's. -/
theorem run_is200Cells (haystack : Nat → Byte) (length : Nat) : (is200Cells length).run haystack = is200 haystack length := by
  simp only [is200Cells, run_bind, run_pure, run_search, run_ite, run_memcmp_eq, ← List.range_eq_range']
  rw [findSome?_ite, is200, Option.isSome_map, Bool.eq_iff_iff, List.find?_isSome, List.any_eq_true]

/-- So is the cell-wise `find_response`. -/
theorem run_findResponseCells (haystack : Nat → Byte) (length : Nat) :
    (findResponseCells length).run haystack = findResponse haystack length := by
  have hbody : ∀ i, (do
      if ← memcmp i headerEnd then
        if ← is200Cells length then return some (i + headerEnd.length : Int) else return some (-1)
      else
        return none : Access Nat Byte (Option Int)).run haystack =
      if matchesAt haystack i headerEnd = true then
        some (if is200 haystack length = true then (i + headerEnd.length : Int) else -1)
      else none := by
    intro i
    simp only [run_bind, run_ite, run_pure, run_memcmp_eq, run_is200Cells]
    split
    · split <;> rfl
    · rfl
  rw [findResponseCells, run_bind, run_search]
  simp only [hbody, run_pure]
  rw [← List.range_eq_range', findSome?_ite, findResponse]
  cases (List.range (length - headerEnd.length)).find? fun i => matchesAt haystack i headerEnd with
  | none => rfl
  | some i => simp

/-- `is_200` reads in front of the length. -/
theorem within_is200Cells (length : Nat) : Within (· < length) (is200Cells length) := by
  refine .bind (within_search fun i _ hi => ?_) fun found => .pure _
  refine .bind (within_memcmp okNeedle fun j _ hj => ?_) fun same => .ite (fun _ => .pure _) fun _ => .pure _
  omega

/-- So does `find_response`. -/
theorem within_findResponseCells (length : Nat) : Within (· < length) (findResponseCells length) := by
  refine .bind (within_search fun i _ hi => ?_) fun found => .pure _
  refine .bind (within_memcmp headerEnd fun j _ hj => ?_) fun same => .ite (fun _ => ?_) fun _ => .pure _
  · omega
  · exact .bind (within_is200Cells length) fun ok => .ite (fun _ => .pure _) fun _ => .pure _

/-- The memory holds the pattern at a place. -/
def OccursAt (haystack : Nat → Byte) (needle : List Byte) (p : Nat) : Prop :=
  ∀ j (hj : j < needle.length), haystack (p + j) = needle[j]

/-- A match is an occurrence. -/
theorem matchesAt_iff_occursAt {haystack : Nat → Byte} {needle : List Byte} {p : Nat} :
    matchesAt haystack p needle = true ↔ OccursAt haystack needle p := by
  rw [← run_memcmp_eq]
  exact run_memcmp haystack needle p

/-- The first header end decides where the reply begins, if the status stands in front of it. -/
theorem findResponse_of_first {haystack : Nat → Byte} {n p q : Nat} (hp : p + headerEnd.length < n)
    (hend : OccursAt haystack headerEnd p) (hfirst : ∀ i < p, ¬OccursAt haystack headerEnd i) (hok : OccursAt haystack okNeedle q)
    (hq : q + okNeedle.length ≤ p) : findResponse haystack n = (p + headerEnd.length : Nat) := by
  have hfind : ((List.range (n - headerEnd.length)).find? fun i => matchesAt haystack i headerEnd) = some p := by
    rw [List.find?_range_eq_some]
    refine ⟨matchesAt_iff_occursAt.mpr hend, List.mem_range.mpr (by omega), fun i hi => ?_⟩
    rw [Bool.not_eq_true', ← Bool.not_eq_true]
    exact fun hm => hfirst i hi (matchesAt_iff_occursAt.mp hm)
  have h200 : is200 haystack n = true := by
    rw [is200, List.any_eq_true]
    -- the status ends in front of the header end, so the last window is not needed for it
    exact ⟨q, List.mem_range.mpr (by omega), matchesAt_iff_occursAt.mpr hok⟩
  simp only [findResponse, hfind, h200, if_true]

/-- Without a terminator there is no response. -/
theorem findResponse_of_none {haystack : Nat → Byte} {n : Nat} (h : ∀ p, p + headerEnd.length < n → ¬OccursAt haystack headerEnd p) :
    findResponse haystack n = -1 := by
  have hfind : ((List.range (n - headerEnd.length)).find? fun i => matchesAt haystack i headerEnd) = none := by
    rw [List.find?_eq_none]
    intro i hi hm
    have hlt := List.mem_range.mp hi
    exact h i (by omega) (matchesAt_iff_occursAt.mp hm)
  simp only [findResponse, hfind]

/-- On every memory and for every length: a reply whose status stands in front of its first header end is found behind that, and one
without a header end in front of the last place is not; and neither scan reads a cell at the length or behind it. -/
theorem findResponse_exact (haystack : Nat → Byte) (n : Nat) :
    (∀ p q, p + headerEnd.length < n → OccursAt haystack headerEnd p → (∀ i < p, ¬OccursAt haystack headerEnd i) →
        OccursAt haystack okNeedle q → q + okNeedle.length ≤ p →
        findResponse haystack n = (p + headerEnd.length : Nat) ∧ findResponse haystack n < n) ∧
      ((∀ p, p + headerEnd.length < n → ¬OccursAt haystack headerEnd p) → findResponse haystack n = -1) ∧
      ((findResponseCells n).run haystack = findResponse haystack n ∧ (is200Cells n).run haystack = is200 haystack n) ∧
      (∀ i ∈ (findResponseCells n).reads haystack, i < n) ∧ ∀ i ∈ (is200Cells n).reads haystack, i < n := by
  refine ⟨fun p q hp hend hfirst hok hq => ?_, findResponse_of_none, ⟨run_findResponseCells haystack n, run_is200Cells haystack n⟩,
    within_findResponseCells n haystack, within_is200Cells n haystack⟩
  have hfound := findResponse_of_first hp hend hfirst hok hq
  refine ⟨hfound, ?_⟩
  rw [hfound]
  exact_mod_cast hp

/-- A reply with a body of one byte. -/
example : findResponse (fun i => (okReply [0x81]).getD i 0) (okReply [0x81]).length = 19 := by decide

/-! ## The frame filter -/

/-- `gPB[i] == b && gPB[j] == c`. -/
def bothCells (i : Nat) (b : Byte) (j : Nat) (c : Byte) : Access Nat Byte Bool := do
  if (← cell i) = b then return decide ((← cell j) = c) else return false

/-- The loop over the listeners: the addresses that the callback is called with. -/
def listenerCells (srcIp : Nat) : List Mac → Access Nat Byte (List Nat)
  | [] => pure []
  | srcmacaddr :: macs => do
    let same ← memcmp ETH_SRC_MAC srcmacaddr.toList
    let rest ← listenerCells srcIp macs
    return if same then srcIp :: rest else rest

/-- `snifferProcessPacket`: the addresses that it calls the callback with. -/
def snifferCells (plen : Nat) (macs : List Mac) : Access Nat Byte (List Nat) := do
  if plen < ETH_HEADER_LEN then return []
  else if ← bothCells ETH_TYPE_H_P ETHTYPE_ARP_H_V ETH_TYPE_L_P ETHTYPE_ARP_L_V then
    if plen < ETH_ARP_DST_MAC_P then return []
    else if ← bothCells ETH_ARP_PROTO_TYPE_H_P ETH_ARP_PROTO_IPV4_H_V ETH_ARP_PROTO_TYPE_L_P ETH_ARP_PROTO_IPV4_L_V then
      listenerCells ETH_ARP_SRC_IP_P macs
    else return []
  else if ← bothCells ETH_TYPE_H_P ETHTYPE_IP_H_V ETH_TYPE_L_P ETHTYPE_IP_L_V then
    if plen < IP_DST_P then return [] else listenerCells IP_SRC_P macs
  else return []

/-- Two cells are read at most. -/
theorem within_bothCells {n i j : Nat} (hi : i < n) (hj : j < n) (b c : Byte) : Within (· < n) (bothCells i b j c) := by
  refine .bind (.cell hi) fun x => .ite (fun _ => ?_) fun _ => .pure _
  exact .bind (.cell hj) fun y => .pure _

/-- The listeners read the source address. -/
theorem within_listenerCells {n : Nat} (hn : ETH_HEADER_LEN ≤ n) (srcIp : Nat) (macs : List Mac) :
    Within (· < n) (listenerCells srcIp macs) := by
  induction macs with
  | nil => exact .pure _
  | cons mac macs ih =>
    refine .bind (within_memcmp mac.toList fun j _ hj => ?_) fun same => .bind ih fun rest => .pure _
    rw [Vector.length_toList] at hj
    unfold ETH_SRC_MAC at hj
    unfold ETH_HEADER_LEN at hn
    omega

/-- The filter reads in front of the frame's end. -/
theorem within_snifferCells (plen : Nat) (macs : List Mac) : Within (· < plen) (snifferCells plen macs) := by
  refine .ite (fun _ => .pure _) fun hlen => ?_
  rw [Nat.not_lt] at hlen
  have htype : ∀ h l, Within (· < plen) (bothCells ETH_TYPE_H_P h ETH_TYPE_L_P l) := fun h l =>
    within_bothCells (lt_of_lt_of_le (by decide) hlen) (lt_of_lt_of_le (by decide) hlen) h l
  refine .bind (htype _ _) fun arp => .ite (fun _ => ?_) fun _ => ?_
  · refine .ite (fun _ => .pure _) fun harp => ?_
    rw [Nat.not_lt] at harp
    refine .bind (within_bothCells (lt_of_lt_of_le (by decide) harp) (lt_of_lt_of_le (by decide) harp) _ _) fun ipv4 => ?_
    exact .ite (fun _ => within_listenerCells hlen _ macs) fun _ => .pure _
  · refine .bind (htype _ _) fun ip => .ite (fun _ => ?_) fun _ => .pure _
    exact .ite (fun _ => .pure _) fun _ => within_listenerCells hlen _ macs

/-- Both cells have to be as asked. -/
theorem run_bothCells (b : Nat → Byte) (i : Nat) (x : Byte) (j : Nat) (y : Byte) :
    (bothCells i x j y).run b = true ↔ b i = x ∧ b j = y := by
  have hrun : (bothCells i x j y).run b = if b i = x then decide (b j = y) else false := by
    rw [bothCells, run_bind]
    exact run_ite b (b i = x) _ _
  rw [hrun]
  split
  · next h => simp [h]
  · next h => simp [h]

/-- A link address, byte by byte. -/
theorem mac_eq_iff (e : Ether) (m : Mac) : e.buffer.mac ETH_SRC_MAC = m ↔ ∀ k (hk : k < 6), e.gPB (6 + k) = m[k] := by
  constructor
  · rintro rfl k hk
    exact (Buffer.getElem_mac _ _ hk).symm
  · intro h
    refine Vector.ext fun k hk => ?_
    rw [Buffer.getElem_mac _ _ hk]
    exact h k hk

/-- Bytes 6 to 11 are compared with a listener's address. -/
theorem run_memcmp_mac (e : Ether) (m : Mac) : (memcmp ETH_SRC_MAC m.toList).run e.gPB = true ↔ e.buffer.mac ETH_SRC_MAC = m := by
  rw [run_memcmp, mac_eq_iff]
  simp [ETH_SRC_MAC]

/-- With one listener: one call, or none. -/
theorem run_listenerCells (e : Ether) (srcIp : Nat) (m : Mac) :
    (listenerCells srcIp [m]).run e.gPB = if e.buffer.mac ETH_SRC_MAC = m then [srcIp] else [] := by
  simp only [listenerCells, run_bind, run_pure, run_memcmp_mac]

/-- The cell-wise sniffer is the model's. -/
theorem run_snifferCells (e : Ether) (plen : Nat) (m : Mac) : (snifferCells plen [m]).run e.gPB =
    match snifferSrcIp plen e with
    | none => []
    | some srcIp => if e.buffer.mac ETH_SRC_MAC = m then [srcIp] else [] := by
  simp only [snifferCells, snifferSrcIp, run_bind, run_ite, run_pure, run_bothCells, run_listenerCells]
  by_cases hlen : plen < ETH_HEADER_LEN
  · simp only [hlen, if_true]
  simp only [hlen, if_false]
  by_cases harp : e.gPB ETH_TYPE_H_P = ETHTYPE_ARP_H_V ∧ e.gPB ETH_TYPE_L_P = ETHTYPE_ARP_L_V
  · simp only [harp, and_self, if_true]
    by_cases hshort : plen < ETH_ARP_DST_MAC_P
    · simp only [hshort, if_true]
    · simp only [hshort, if_false]
      by_cases hv4 : e.gPB ETH_ARP_PROTO_TYPE_H_P = ETH_ARP_PROTO_IPV4_H_V ∧ e.gPB ETH_ARP_PROTO_TYPE_L_P = ETH_ARP_PROTO_IPV4_L_V
      · simp [hv4]
      · rw [if_neg hv4, if_pos (not_and_or.mp hv4)]
  · simp only [harp, if_false]
    by_cases hip : e.gPB ETH_TYPE_H_P = ETHTYPE_IP_H_V ∧ e.gPB ETH_TYPE_L_P = ETHTYPE_IP_L_V
    · simp only [hip, and_self, if_true]
      by_cases hshort : plen < IP_DST_P
      · simp only [hshort, if_true]
      · simp only [hshort, if_false]
    · simp only [hip, if_false]

/-- What the filter is for: a frame from `m`, ARP for IPv4 or IPv4, that is long enough to hold its sender's address, which begins at
`srcIp`. -/
def Classified (plen : Nat) (m : Mac) (b : Nat → Byte) (srcIp : Nat) : Prop :=
  14 ≤ plen ∧ (∀ k (hk : k < 6), b (6 + k) = m[k]) ∧
    ((b 12 = 0x08 ∧ b 13 = 0x06 ∧ 32 ≤ plen ∧ b 16 = 0x08 ∧ b 17 = 0x00 ∧ srcIp = 28) ∨
      (b 12 = 0x08 ∧ b 13 = 0x00 ∧ 30 ≤ plen ∧ srcIp = 26))

/-- Where the source address is, by type and length. -/
theorem snifferSrcIp_eq_some_iff {plen : Nat} {e : Ether} {srcIp : Nat} : snifferSrcIp plen e = some srcIp ↔
    14 ≤ plen ∧ ((e.gPB 12 = 0x08 ∧ e.gPB 13 = 0x06 ∧ 32 ≤ plen ∧ e.gPB 16 = 0x08 ∧ e.gPB 17 = 0x00 ∧ srcIp = 28) ∨
      (e.gPB 12 = 0x08 ∧ e.gPB 13 = 0x00 ∧ 30 ≤ plen ∧ srcIp = 26)) := by
  have hdef : snifferSrcIp plen e =
      if plen < 14 then none
      else if e.gPB 12 = 0x08 ∧ e.gPB 13 = 0x06 then
        if plen < 32 then none else if e.gPB 16 ≠ 0x08 ∨ e.gPB 17 ≠ 0x00 then none else some 28
      else if e.gPB 12 = 0x08 ∧ e.gPB 13 = 0x00 then if plen < 30 then none else some 26
      else none := rfl
  rw [hdef]
  split_ifs <;> grind

/-- With `m` as the only listener: the address is one that a call is made with. -/
theorem classified_iff {plen : Nat} {m : Mac} {e : Ether} {srcIp : Nat} :
    Classified plen m e.gPB srcIp ↔ snifferSrcIp plen e = some srcIp ∧ e.buffer.mac ETH_SRC_MAC = m := by
  rw [snifferSrcIp_eq_some_iff, mac_eq_iff, Classified]
  constructor
  · rintro ⟨hlen, hmac, hkind⟩
    exact ⟨⟨hlen, hkind⟩, hmac⟩
  · rintro ⟨⟨hlen, hkind⟩, hmac⟩
    exact ⟨hlen, hmac, hkind⟩

/-- The source address lies in the frame. -/
theorem Classified.bound {plen : Nat} {m : Mac} {b : Nat → Byte} {srcIp : Nat} (h : Classified plen m b srcIp) : srcIp + 4 ≤ plen := by
  rcases h.2.2 with ⟨_, _, hlen, _, _, rfl⟩ | ⟨_, _, hlen, rfl⟩
  · exact hlen
  · exact hlen

/-- The callback is called once, at the end of the filter. -/
theorem snifferProcessPacket_eq (callback : Nat → M Unit) (plen : Nat) {m : Mac} {w : World} (hm : w.dev.sniffers.macs = [m])
    (inp : List Input) : snifferProcessPacket callback plen w inp =
      match (snifferCells plen [m]).run w.dev.ether.gPB with
      | [] => .done () w inp
      | srcIp :: _ => callback srcIp w inp := by
  have hpure : ∀ p : M Unit, (p >>= fun _ => (pure () : M Unit)) w inp = p w inp := by
    intro p
    change Prog.bind p (fun _ => Prog.pure ()) w inp = p w inp
    unfold Prog.bind
    cases p w inp <;> rfl
  have hfilter : snifferProcessPacket callback plen w inp =
      (match snifferSrcIp plen w.dev.ether with
      | none => (pure () : M Unit)
      | some srcIp => [m].forM fun srcmacaddr => do
          if checkMacMessageIsFrom ((← dev).ether.buffer.mac ETH_SRC_MAC) srcmacaddr then callback srcIp) w inp := by
    rw [← hm]
    rfl
  rw [hfilter, run_snifferCells]
  cases snifferSrcIp plen w.dev.ether with
  | none => rfl
  | some srcIp =>
    have hone : ([m].forM fun srcmacaddr => do
        if checkMacMessageIsFrom ((← dev).ether.buffer.mac ETH_SRC_MAC) srcmacaddr then callback srcIp) w inp =
        (if checkMacMessageIsFrom (w.dev.ether.buffer.mac ETH_SRC_MAC) m then callback srcIp else pure ()) w inp := hpure _
    simp only
    rw [hone]
    by_cases hmac : w.dev.ether.buffer.mac ETH_SRC_MAC = m
    · simp [checkMacMessageIsFrom, hmac]
    · simp only [checkMacMessageIsFrom, hmac, decide_false, Bool.false_eq_true, if_false]
      rfl

/-- The device with one listener, for frames from `m`. -/
def listeningFor (m : Mac) (w : World) : World := w.update fun d => { d with sniffers := noSniffers.listen m }

/-- The callback is called once for a frame that is classified. -/
theorem run_snifferCells_iff (e : Ether) (plen : Nat) (m : Mac) (srcIp : Nat) :
    (snifferCells plen [m]).run e.gPB = [srcIp] ↔ Classified plen m e.gPB srcIp := by
  rw [classified_iff, run_snifferCells]
  cases snifferSrcIp plen e with
  | none => simp
  | some pos =>
    by_cases hmac : e.buffer.mac ETH_SRC_MAC = m
    · simp [hmac]
    · simp [hmac]

/-- It is not called for any other. -/
theorem run_snifferCells_nil (e : Ether) (plen : Nat) (m : Mac) (h : ∀ srcIp, ¬Classified plen m e.gPB srcIp) :
    (snifferCells plen [m]).run e.gPB = [] := by
  rw [run_snifferCells]
  cases hs : snifferSrcIp plen e with
  | none => rfl
  | some pos => exact if_neg fun hmac => h pos (classified_iff.mpr ⟨hs, hmac⟩)

/-- With one listener, for every buffer and every length: where the frame is classified the filter ends in one call of the callback, with the
place of the sender's address, which lies in the frame; elsewhere it calls nothing. It reads in front of the frame's end. -/
theorem classification_exact (callback : Nat → M Unit) (plen : Nat) (m : Mac) (w : World) (inp : List Input) :
    (∀ srcIp, Classified plen m w.dev.ether.gPB srcIp →
        snifferProcessPacket callback plen (listeningFor m w) inp = callback srcIp (listeningFor m w) inp ∧ srcIp + 4 ≤ plen) ∧
      ((∀ srcIp, ¬Classified plen m w.dev.ether.gPB srcIp) →
        snifferProcessPacket callback plen (listeningFor m w) inp = .done () (listeningFor m w) inp) ∧
      (∀ srcIp, (snifferCells plen (listeningFor m w).dev.sniffers.macs).run w.dev.ether.gPB = [srcIp] ↔
        Classified plen m w.dev.ether.gPB srcIp) ∧
      ∀ i ∈ (snifferCells plen (listeningFor m w).dev.sniffers.macs).reads w.dev.ether.gPB, i < plen := by
  have hm : (listeningFor m w).dev.sniffers.macs = [m] := rfl
  have he : (listeningFor m w).dev.ether = w.dev.ether := rfl
  have heq := snifferProcessPacket_eq callback plen hm inp
  rw [he] at heq
  rw [heq, hm]
  refine ⟨fun srcIp hc => ⟨?_, hc.bound⟩, fun hn => ?_, run_snifferCells_iff _ plen m, within_snifferCells plen [m] _⟩
  · rw [(run_snifferCells_iff _ plen m srcIp).mpr hc]
  · rw [run_snifferCells_nil _ plen m hn]

end EtherHouse
