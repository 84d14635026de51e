import EtherHouse.Net.Ports
import EtherHouse.Net.Sent

/-!
# Answers go back

Where the answer to a received frame goes, and which numbers a TCP answer carries. The answers are built in the buffer that holds the
frame: what is overwritten first decides what is still there to be copied.
-/

namespace EtherHouse

/-! ## Numbers -/

/-- A number with one byte more. -/
theorem numberOf_append (xs : List Byte) (x : Byte) : numberOf (xs ++ [x]) = numberOf xs * 256 + x.toNat := by
  unfold numberOf
  rw [List.foldl_append]
  rfl

theorem toList_mac (b : Buffer) (off : Nat) : (b.mac off).toList = b.slice off 6 := rfl

theorem toList_ip (b : Buffer) (off : Nat) : (b.ip off).toList = b.slice off 4 := rfl

/-- A slice with one byte more. -/
theorem slice_succ (b : Buffer) (off n : Nat) : b.slice off (n + 1) = b.slice off n ++ [b.get (off + n)] := by
  rw [slice_add]
  rfl

/-- Adding to a number byte by byte, from the last byte on: `s` is the last byte with what is added. -/
theorem add_carry (v s m : Nat) : (v + s / 256) % m * 256 + s % 256 = (v * 256 + s) % (m * 256) := by
  have hlow : (v * 256 + s) % 256 = s % 256 := by omega
  have hhigh : (v * 256 + s) / 256 = v + s / 256 := by omega
  rw [Nat.mul_comm m, Nat.mod_mul, hlow, hhigh]
  omega

/-! ## `step_seq` -/

section

variable {e e' : Ether}

/-- The bytes of the acknowledgement that the loop does not come to. -/
theorem get_stepSeqLoop_of_le (cpSeq : Bool) {n j : Nat} (hj : n ≤ j) (_ : j < 4) (relAckNum : Nat) (e : Ether) :
    (stepSeqLoop cpSeq n relAckNum e).buffer.get (TCP_SEQACK_H_P + j) = e.buffer.get (TCP_SEQACK_H_P + j) := by
  induction n generalizing relAckNum e with
  | zero => rfl
  | succ n ih =>
    rw [stepSeqLoop, ih (by omega)]
    unfold TCP_SEQ_H_P TCP_SEQACK_H_P
    rw [get_put_one_of_ne _ (by omega), get_put_one_of_ne _ (by omega)]

/-- The first `n` bytes: what is acknowledged is the sequence number and what is added. -/
theorem numberOf_stepSeqLoop (cpSeq : Bool) {n : Nat} (hn : n ≤ 4) {relAckNum : Nat} (hr : relAckNum ≤ 65280) (e : Ether) :
    numberOf ((stepSeqLoop cpSeq n relAckNum e).buffer.slice TCP_SEQACK_H_P n) =
      (numberOf (e.buffer.slice TCP_SEQ_H_P n) + relAckNum) % 256 ^ n := by
  induction n generalizing relAckNum e with
  | zero => exact (Nat.mod_one _).symm
  | succ n ih =>
    rw [stepSeqLoop]
    have hbyte := (e.gPB (TCP_SEQ_H_P + n)).isLt
    have hcut : ((e.gPB (TCP_SEQ_H_P + n)).toNat + relAckNum) % 65536 = (e.gPB (TCP_SEQ_H_P + n)).toNat + relAckNum := by omega
    rw [hcut, Nat.shiftRight_eq_div_pow]
    generalize hs : (e.gPB (TCP_SEQ_H_P + n)).toNat + relAckNum = s
    generalize he : (e.put (TCP_SEQACK_H_P + n) [lo s]).put (TCP_SEQ_H_P + n) _ = e'
    have hack := ih (Nat.le_of_succ_le hn) (show s / 2 ^ 8 ≤ 65280 by omega) e'
    have hend := get_stepSeqLoop_of_le cpSeq le_rfl (Nat.lt_of_succ_le hn) (s / 2 ^ 8) e'
    have hfront : e'.buffer.slice TCP_SEQ_H_P n = e.buffer.slice TCP_SEQ_H_P n := by
      rw [← he]
      unfold TCP_SEQ_H_P TCP_SEQACK_H_P
      rw [slice_put_of_disjoint _ (Or.inr (by omega)), slice_put_of_disjoint _ (Or.inr (by omega))]
    have hlast : e'.buffer.get (TCP_SEQACK_H_P + n) = lo s := by
      rw [← he, get_put_one_of_ne _ (by unfold TCP_SEQ_H_P TCP_SEQACK_H_P; omega), get_put_one _ (by unfold TCP_SEQACK_H_P BUFFER_SIZE; omega)]
    have hlow : (lo s).toNat = s % 256 := by simp only [lo, BitVec.toNat_ofNat]
    have hadded : (e.buffer.get (TCP_SEQ_H_P + n)).toNat + relAckNum = s := hs
    rw [slice_succ, slice_succ, numberOf_append, numberOf_append, hack, hend, hfront, hlast, hlow, Nat.pow_succ, Nat.add_assoc, hadded]
    exact add_carry _ _ _

/-! ## Addresses -/

/-- The buffer holds an IP packet for the sender of the one that another buffer held. -/
structure Returned (b₀ : Buffer) (myip : Ip) (b : Buffer) : Prop where
  link : b.slice ETH_DST_MAC 6 = b₀.slice ETH_SRC_MAC 6
  etype : b.word ETH_TYPE_H_P = 0x0800
  target : b.slice IP_DST_P 4 = b₀.slice IP_SRC_P 4
  source : b.slice IP_SRC_P 4 = myip.toList

/-- A frame goes to the sender of the one that a buffer holds. -/
structure ReturnsTo (b : Buffer) (myip : Ip) (frame : List Byte) : Prop where
  link : field frame ETH_DST_MAC 6 = b.slice ETH_SRC_MAC 6
  etype : wordAt frame ETH_TYPE_H_P = b.word ETH_TYPE_H_P
  arp : wordAt frame ETH_TYPE_H_P = 0x0806 → field frame ETH_ARP_DST_MAC_P 6 = b.slice ETH_ARP_SRC_MAC_P 6 ∧
    field frame ETH_ARP_DST_IP_P 4 = b.slice ETH_ARP_SRC_IP_P 4 ∧ field frame ETH_ARP_SRC_IP_P 4 = myip.toList
  ip : wordAt frame ETH_TYPE_H_P = 0x0800 → field frame IP_DST_P 4 = b.slice IP_SRC_P 4 ∧ field frame IP_SRC_P 4 = myip.toList

variable {b₀ b b' : Buffer} {myip : Ip}

/-- Where a packet goes is read off its first fields and its addresses. -/
theorem Returned.congr (h : Returned b₀ myip b)
    (hs : ∀ i, i < IP_P ∨ IP_SRC_P ≤ i ∧ i < TCP_SRC_PORT_H_P → b'.get i = b.get i) : Returned b₀ myip b' where
  link := (slice_congr fun i _ hi => hs i (Or.inl (by unfold ETH_DST_MAC at hi; unfold IP_P; omega))).trans h.link
  etype := (word_congr (hs _ (Or.inl (by decide))) (hs _ (Or.inl (by decide)))).trans h.etype
  target := (slice_congr fun i hlo hi =>
    hs i (Or.inr (by unfold IP_DST_P at hlo hi; unfold IP_SRC_P TCP_SRC_PORT_H_P; omega))).trans h.target
  source := (slice_congr fun i hlo hi =>
    hs i (Or.inr (by unfold IP_SRC_P at hlo hi; unfold IP_SRC_P TCP_SRC_PORT_H_P; omega))).trans h.source

/-- What is written behind the header leaves the addresses. -/
theorem Returned.put (h : Returned b₀ myip e.buffer) {off : Nat} (hoff : TCP_SRC_PORT_H_P ≤ off) (xs : List Byte) :
    Returned b₀ myip (e.put off xs).buffer :=
  h.congr fun i hi => get_put_of_lt e (by unfold IP_P IP_SRC_P at hi; unfold TCP_SRC_PORT_H_P at hi hoff; omega)

/-- The header's checksum leaves the addresses. -/
theorem Returned.fillIpHdrChecksum (h : Returned b₀ myip e.buffer) : Returned b₀ myip (fillIpHdrChecksum e).buffer := by
  refine h.congr fun i hi => gPB_fillIpHdrChecksum e ?_
  rcases hi with hi | hi
  · exact Or.inl (lt_trans hi (by decide))
  · exact Or.inr hi.1

/-- The buffer that an answer is built in need only have the sender's addresses. -/
theorem Returned.of_same (h : Returned b myip b') (hlink : b.slice ETH_SRC_MAC 6 = b₀.slice ETH_SRC_MAC 6)
    (hip : b.slice IP_SRC_P 4 = b₀.slice IP_SRC_P 4) : Returned b₀ myip b' where
  link := h.link.trans hlink
  etype := h.etype
  target := h.target.trans hip
  source := h.source

/-- A packet in the buffer that goes back, as it goes out. -/
theorem ReturnsTo.of_returned (h : Returned b₀ myip b) (ht : b₀.word ETH_TYPE_H_P = 0x0800) {len : Nat} (hlen : TCP_SRC_PORT_H_P ≤ len) :
    ReturnsTo b₀ myip (b.slice 0 len) := by
  unfold TCP_SRC_PORT_H_P at hlen
  have htype : wordAt (b.slice 0 len) ETH_TYPE_H_P = 0x0800 := by rw [wordAt_slice b (by unfold ETH_TYPE_H_P; omega), h.etype]
  constructor
  · rw [field_slice b (by unfold ETH_DST_MAC; omega)]
    exact h.link
  · rw [htype, ht]
  · intro harp
    rw [htype] at harp
    cases harp
  · intro _
    rw [field_slice b (by unfold IP_DST_P; omega), field_slice b (by unfold IP_SRC_P; omega)]
    exact ⟨h.target, h.source⟩

/-- `make_eth_ip` turns the addresses round. -/
theorem returned_makeEthIp (ht : e.buffer.word ETH_TYPE_H_P = 0x0800) : Returned e.buffer e.cfg.myip (makeEthIp e).buffer := by
  unfold makeEthIp
  dsimp only
  refine Returned.fillIpHdrChecksum ?_
  have hset : (setMACs (e.buffer.mac ETH_SRC_MAC) e).buffer.slice IP_SRC_P 4 = e.buffer.slice IP_SRC_P 4 :=
    slice_congr fun i hi _ => get_setMACs _ e (le_trans (by decide) hi)
  have hlink : (setMACs (e.buffer.mac ETH_SRC_MAC) e).buffer.slice ETH_DST_MAC 6 = e.buffer.slice ETH_SRC_MAC 6 := by
    rw [setMACs, Ether.copyMac, slice_put_of_disjoint _ (Or.inr (by decide)), slice_copyMac ETH_DST_MAC _ e (by decide), toList_mac]
  have htype : (setMACs (e.buffer.mac ETH_SRC_MAC) e).buffer.word ETH_TYPE_H_P = 0x0800 :=
    (word_congr (get_setMACs _ e le_rfl) (get_setMACs _ e (Nat.le_succ _))).trans ht
  have hcfg : (setMACs (e.buffer.mac ETH_SRC_MAC) e).cfg = e.cfg := cfg_of_statics (statics_setMACs e _)
  generalize setMACs (e.buffer.mac ETH_SRC_MAC) e = g at hset hlink htype hcfg
  unfold Ether.copyIp
  constructor
  · rw [slice_put_of_disjoint _ (Or.inr (by decide)), slice_put_of_disjoint _ (Or.inr (by decide)), hlink]
  · rw [word_put_of_disjoint _ (Or.inr (by decide)), word_put_of_disjoint _ (Or.inr (by decide)), htype]
  · rw [slice_put_of_disjoint _ (Or.inl (by rw [Vector.length_toList]; decide)),
      slice_put _ Vector.length_toList.symm (by rw [Vector.length_toList]; decide), toList_ip, hset]
  · rw [Ether.put_cfg, hcfg]
    exact slice_put _ Vector.length_toList.symm (by rw [Vector.length_toList]; decide)

/-! ## Answers to segments -/

/-- ... with its ports exchanged, and `n` more than its sequence number acknowledged. -/
structure SegmentReturned (b₀ : Buffer) (myip : Ip) (n : Nat) (b : Buffer) : Prop extends Returned b₀ myip b where
  sourcePort : b.word TCP_SRC_PORT_H_P = b₀.word TCP_DST_PORT_H_P
  targetPort : b.word TCP_DST_PORT_H_P = b₀.word TCP_SRC_PORT_H_P
  ack : numberOf (b.slice TCP_SEQACK_H_P 4) = (numberOf (b₀.slice TCP_SEQ_H_P 4) + n) % 2 ^ 32

/-- A frame answers the segment that a buffer holds. -/
structure AnswersSegment (b : Buffer) (n : Nat) (frame : List Byte) : Prop where
  sourcePort : wordAt frame TCP_SRC_PORT_H_P = b.word TCP_DST_PORT_H_P
  targetPort : wordAt frame TCP_DST_PORT_H_P = b.word TCP_SRC_PORT_H_P
  ack : numberOf (field frame TCP_SEQACK_H_P 4) = (numberOf (b.slice TCP_SEQ_H_P 4) + n) % 2 ^ 32

/-- How a segment answers is read off its addresses, ports and acknowledgement. -/
theorem SegmentReturned.congr {n : Nat} (h : SegmentReturned b₀ myip n b)
    (hs : ∀ i, i < IP_P ∨ IP_SRC_P ≤ i ∧ i < TCP_SEQ_H_P ∨ TCP_SEQACK_H_P ≤ i ∧ i < TCP_HEADER_LEN_P → b'.get i = b.get i) :
    SegmentReturned b₀ myip n b' where
  toReturned := h.toReturned.congr fun i hi => hs i (by
    rcases hi with hi | hi
    · exact Or.inl hi
    · exact Or.inr (Or.inl ⟨hi.1, lt_trans hi.2 (by decide)⟩))
  sourcePort := (word_congr (hs _ (by decide)) (hs _ (by decide))).trans h.sourcePort
  targetPort := (word_congr (hs _ (by decide)) (hs _ (by decide))).trans h.targetPort
  ack := by
    have hsame : b'.slice TCP_SEQACK_H_P 4 = b.slice TCP_SEQACK_H_P 4 := slice_congr fun i hlo hi => hs i (Or.inr (Or.inr ⟨hlo, hi⟩))
    rw [hsame]
    exact h.ack

/-- What is written behind the numbers. -/
theorem SegmentReturned.put {n : Nat} (h : SegmentReturned b₀ myip n e.buffer) {off : Nat} (hoff : TCP_HEADER_LEN_P ≤ off) (xs : List Byte) :
    SegmentReturned b₀ myip n (e.put off xs).buffer :=
  h.congr fun i hi => get_put_of_lt e (by
    unfold IP_P IP_SRC_P TCP_SEQ_H_P TCP_SEQACK_H_P at hi
    unfold TCP_HEADER_LEN_P at hi hoff
    omega)

/-- A segment in the buffer that answers, as it goes out. -/
theorem AnswersSegment.of_returned {n : Nat} (h : SegmentReturned b₀ myip n b) {len : Nat} (hlen : TCP_HEADER_LEN_P ≤ len) :
    AnswersSegment b₀ n (b.slice 0 len) := by
  unfold TCP_HEADER_LEN_P at hlen
  constructor
  · rw [wordAt_slice b (by unfold TCP_SRC_PORT_H_P; omega)]
    exact h.sourcePort
  · rw [wordAt_slice b (by unfold TCP_DST_PORT_H_P; omega)]
    exact h.targetPort
  · rw [field_slice b (by unfold TCP_SEQACK_H_P; omega)]
    exact h.ack

/-! ### Building them -/

/-- A new header acknowledges what the old one's sequence number comes to. -/
theorem ack_makeTcphead (cpSeq : Bool) {n : Nat} (hn : n ≤ 65280) (e : Ether) :
    numberOf ((makeTcphead n cpSeq e).buffer.slice TCP_SEQACK_H_P 4) = (numberOf (e.buffer.slice TCP_SEQ_H_P 4) + n) % 2 ^ 32 := by
  have hports : ∀ (g : Ether) (off : Nat) (x : Byte), off < TCP_SEQ_H_P → (g.put off [x]).buffer.slice TCP_SEQ_H_P 4 =
      g.buffer.slice TCP_SEQ_H_P 4 := fun g off x h => slice_put_of_disjoint g (Or.inl h)
  unfold makeTcphead
  dsimp only
  rw [slice_put_of_disjoint _ (Or.inr (by decide)), slice_put_of_disjoint _ (Or.inr (by decide)), stepSeq,
    numberOf_stepSeqLoop cpSeq le_rfl hn, hports _ _ _ (by decide), hports _ _ _ (by decide), hports _ _ _ (by decide), hports _ _ _ (by decide)]
  rfl

/-- A segment's header that has been answered in place, under addresses still to be turned round. -/
theorem SegmentReturned.of_head {n : Nat} (hmac : e.buffer.slice ETH_SRC_MAC 6 = b₀.slice ETH_SRC_MAC 6)
    (hip : e.buffer.slice IP_SRC_P 4 = b₀.slice IP_SRC_P 4) (ht : e.buffer.word ETH_TYPE_H_P = 0x0800)
    (hsource : e.buffer.word TCP_SRC_PORT_H_P = b₀.word TCP_DST_PORT_H_P) (htarget : e.buffer.word TCP_DST_PORT_H_P = b₀.word TCP_SRC_PORT_H_P)
    (hack : numberOf (e.buffer.slice TCP_SEQACK_H_P 4) = (numberOf (b₀.slice TCP_SEQ_H_P 4) + n) % 2 ^ 32) :
    SegmentReturned b₀ e.cfg.myip n (makeEthIp e).buffer where
  toReturned := (returned_makeEthIp ht).of_same hmac hip
  sourcePort := (word_makeEthIp (by decide) e).trans hsource
  targetPort := (word_makeEthIp (by decide) e).trans htarget
  ack := by
    have hsame : (makeEthIp e).buffer.slice TCP_SEQACK_H_P 4 = e.buffer.slice TCP_SEQACK_H_P 4 :=
      slice_congr fun i hi _ => get_makeEthIp (le_trans (by decide) hi) e
    rw [hsame]
    exact hack

/-- The ports of a segment that is answered in place. -/
theorem words_of_answers (h : Answers e' e) : e'.buffer.word TCP_SRC_PORT_H_P = e.buffer.word TCP_DST_PORT_H_P ∧
    e'.buffer.word TCP_DST_PORT_H_P = e.buffer.word TCP_SRC_PORT_H_P := by
  have h₁ : e'.buffer.get TCP_SRC_PORT_H_P = e.buffer.get TCP_DST_PORT_H_P := h.srcH
  have h₂ : e'.buffer.get TCP_SRC_PORT_L_P = e.buffer.get TCP_DST_PORT_L_P := h.srcL
  have h₃ : e'.buffer.get TCP_DST_PORT_H_P = e.buffer.get TCP_SRC_PORT_H_P := h.dstH
  have h₄ : e'.buffer.get TCP_DST_PORT_L_P = e.buffer.get TCP_SRC_PORT_L_P := h.dstL
  constructor
  · exact congrArg₂ wordOf h₁ h₂
  · exact congrArg₂ wordOf h₃ h₄

/-- The length that an answer without data acknowledges. -/
def acked (n : Nat) (addflags : Byte) : Nat := if addflags ≠ TCP_FLAGS_RST_V ∧ n = 0 then 1 else n

/-- The head of an acknowledgment answers. -/
theorem segmentReturned_ackHead (ht : e.buffer.word ETH_TYPE_H_P = 0x0800) {n : Nat} (hn : n ≤ 65280) (addflags : Byte) :
    SegmentReturned e.buffer e.cfg.myip (acked n addflags) (ackHead n addflags e).buffer := by
  have hle : acked n addflags ≤ 65280 := by
    unfold acked
    split
    · decide
    · exact hn
  unfold ackHead
  dsimp only
  change SegmentReturned e.buffer e.cfg.myip (acked n addflags) ((makeEthIp ((makeTcphead (acked n addflags) true
    (e.put TCP_FLAGS_P [TCP_FLAGS_ACK_V ||| addflags])).put IP_TOTLEN_H_P [_, _])).put TCP_WIN_SIZE [0x4, 0]).buffer
  generalize acked n addflags = m at hle
  have hflags : (e.put TCP_FLAGS_P [TCP_FLAGS_ACK_V ||| addflags]).buffer.slice TCP_SEQ_H_P 4 = e.buffer.slice TCP_SEQ_H_P 4 :=
    slice_put_of_disjoint e (Or.inr (by decide))
  have hack := ack_makeTcphead true hle (e.put TCP_FLAGS_P [TCP_FLAGS_ACK_V ||| addflags])
  obtain ⟨hsource, htarget⟩ := words_of_answers ((answers_makeTcphead (e.put TCP_FLAGS_P [TCP_FLAGS_ACK_V ||| addflags]) m true).of_same
    (sameHead_put e (Or.inr (by decide))).ports)
  have hlow : ∀ i < TCP_SRC_PORT_H_P, (makeTcphead m true (e.put TCP_FLAGS_P [TCP_FLAGS_ACK_V ||| addflags])).buffer.get i = e.buffer.get i :=
    fun i hi => by rw [get_makeTcphead hi, get_put_of_lt _ (lt_trans hi (by decide))]
  have hcfg : (makeTcphead m true (e.put TCP_FLAGS_P [TCP_FLAGS_ACK_V ||| addflags])).cfg = e.cfg := by
    rw [cfg_of_statics (statics_makeTcphead _ _ _), Ether.put_cfg]
  rw [hflags] at hack
  generalize makeTcphead m true (e.put TCP_FLAGS_P [TCP_FLAGS_ACK_V ||| addflags]) = g at hack hsource htarget hlow hcfg
  refine SegmentReturned.put ?_ (by decide) _
  rw [← hcfg, ← Ether.put_cfg g IP_TOTLEN_H_P [hi (IP_HEADER_LEN + TCP_HEADER_LEN_PLAIN), lo (IP_HEADER_LEN + TCP_HEADER_LEN_PLAIN)]]
  refine SegmentReturned.of_head ?_ ?_ ?_ ?_ ?_ ?_
  · rw [slice_put_of_disjoint _ (Or.inr (by decide))]
    exact slice_congr fun i _ hi => hlow i (lt_of_lt_of_le hi (by decide))
  · rw [slice_put_of_disjoint _ (Or.inl (show IP_TOTLEN_H_P + 2 ≤ IP_SRC_P by decide))]
    exact slice_congr fun i _ hi => hlow i (lt_of_lt_of_le hi (by decide))
  · rw [word_put_of_disjoint _ (Or.inr (by decide)), word_congr (hlow _ (by decide)) (hlow _ (by decide)), ht]
  · rw [word_put_of_disjoint _ (Or.inl (show IP_TOTLEN_H_P + 2 ≤ TCP_SRC_PORT_H_P by decide)), hsource]
  · rw [word_put_of_disjoint _ (Or.inl (show IP_TOTLEN_H_P + 2 ≤ TCP_DST_PORT_H_P by decide)), htarget]
  · rw [slice_put_of_disjoint _ (Or.inl (show IP_TOTLEN_H_P + 2 ≤ TCP_SEQACK_H_P by decide)), hack]

/-! ## What a received frame is answered with -/

/-- What a segment counts: its data, and one for each end of the stream. -/
def segLen (e : Ether) : Nat :=
  getTcpDataLen e + (if hasFlag e TCP_FLAGS_SYN_V then 1 else 0) + if hasFlag e TCP_FLAGS_FIN_V then 1 else 0

/-- A segment does one thing only: it opens a connection, carries data or closes. -/
def Alone (e : Ether) : Prop :=
  (hasFlag e TCP_FLAGS_SYN_V = true → getTcpDataLen e = 0 ∧ hasFlag e TCP_FLAGS_FIN_V = false) ∧
    (hasFlag e TCP_FLAGS_FIN_V = true → getTcpDataLen e = 0)

/-- Data comes without a SYN then, -/
theorem Alone.not_syn (ha : Alone e) (hpos : 0 < getTcpDataLen e) : hasFlag e TCP_FLAGS_SYN_V = false := by
  by_contra hsyn
  have hzero := (ha.1 (by simpa using hsyn)).1
  omega

/-- and without a FIN; -/
theorem Alone.not_fin (ha : Alone e) (hpos : 0 < getTcpDataLen e) : hasFlag e TCP_FLAGS_FIN_V = false := by
  by_contra hfin
  have hzero := ha.2 (by simpa using hfin)
  omega

/-- a FIN comes without a SYN. -/
theorem Alone.not_syn_of_fin (ha : Alone e) (hfin : hasFlag e TCP_FLAGS_FIN_V = true) : hasFlag e TCP_FLAGS_SYN_V = false := by
  by_contra hsyn
  rw [(ha.1 (by simpa using hsyn)).2] at hfin
  cases hfin

/-- A frame answers the one in the buffer: it goes to its sender, and if it is a segment, it acknowledges what that counts, unless it
is a reset. Of a segment that carries data and closes, the client acknowledges the data only. -/
def AnswerTo (e : Ether) (frame : List Byte) : Prop :=
  ReturnsTo e.buffer e.cfg.myip frame ∧
    (wordAt frame ETH_TYPE_H_P = 0x0800 → frame.getD IP_PROTO_P 0 = IP_PROTO_TCP_V → ∃ n, AnswersSegment e.buffer n frame ∧
      (frame.getD TCP_FLAGS_P 0 &&& TCP_FLAGS_RST_V = 0 → Alone e → n = segLen e))

/-- The length of the data is a positive `int`. -/
theorem getTcpDataLen_le (e : Ether) : getTcpDataLen e ≤ 32767 := by
  unfold getTcpDataLen
  dsimp only
  generalize ((e.gPB IP_TOTLEN_H_P).setWidth 16 <<< 8 ||| (e.gPB IP_TOTLEN_L_P).setWidth 16 - BitVec.ofNat 16 IP_HEADER_LEN -
    BitVec.ofNat 16 (tcpHeaderLen e) : Word) = i
  split
  · exact Nat.zero_le _
  · next hpos =>
    rw [BitVec.toInt_eq_toNat_cond] at hpos
    split at hpos <;> omega

variable {n : Nat}

/-- A segment in the buffer that answers, as it goes out. -/
theorem AnswerTo.of_returned (ht : e.buffer.word ETH_TYPE_H_P = 0x0800) (h : SegmentReturned e.buffer e.cfg.myip n e'.buffer)
    (hn : e'.buffer.get TCP_FLAGS_P &&& TCP_FLAGS_RST_V = 0 → Alone e → n = segLen e) {len : Nat} (hlen : TCP_FLAGS_P < len) :
    AnswerTo e (e'.buffer.slice 0 len) := by
  refine ⟨ReturnsTo.of_returned h.toReturned ht (le_trans (by decide) (le_of_lt hlen)), fun _ _ => ⟨n, AnswersSegment.of_returned h ?_, ?_⟩⟩
  · exact le_trans (by decide) (le_of_lt hlen)
  · rw [Buffer.getD_slice _ _ hlen, Nat.zero_add]
    exact hn

/-- So does the acknowledgment. -/
theorem segmentReturned_makeTcpAckFromAny (ht : e.buffer.word ETH_TYPE_H_P = 0x0800) (hn : n ≤ 65280) (addflags : Byte) :
    SegmentReturned e.buffer e.cfg.myip (acked n addflags) (makeTcpAckFromAny n addflags e).buffer :=
  (segmentReturned_ackHead ht hn addflags).put (show TCP_HEADER_LEN_P ≤ TCP_CHECKSUM_H_P by decide) _

/-- Its flags are those that are asked for. -/
theorem flags_makeTcpAckFromAny (n : Nat) (addflags : Byte) (e : Ether) :
    (makeTcpAckFromAny n addflags e).buffer.get TCP_FLAGS_P = TCP_FLAGS_ACK_V ||| addflags := by
  have hsent : (makeTcpAckFromAny n addflags e).buffer.get TCP_FLAGS_P = (ackHead n addflags e).buffer.get TCP_FLAGS_P :=
    get_put_of_lt _ (by decide)
  have hthrough : ∀ r : Nat, (makeTcphead r true (e.put TCP_FLAGS_P [TCP_FLAGS_ACK_V ||| addflags])).buffer.get TCP_FLAGS_P =
      TCP_FLAGS_ACK_V ||| addflags := by
    intro r
    unfold makeTcphead
    dsimp only
    rw [get_put_one_of_ne _ (by decide), get_put_of_lt _ (by decide), stepSeq, get_stepSeqLoop (Or.inr (by decide)) _ le_rfl,
      get_put_one_of_ne _ (by decide), get_put_one_of_ne _ (by decide), get_put_one_of_ne _ (by decide), get_put_one_of_ne _ (by decide),
      get_put_one _ (by decide)]
  rw [hsent, ackHead, get_put_of_lt _ (by decide), get_makeEthIp (by decide), get_put_of_ge _ (show IP_TOTLEN_H_P + 2 ≤ TCP_FLAGS_P by decide), hthrough]

/-- An acknowledgment answers if it counts right. -/
theorem answerTo_ack (ht : e.buffer.word ETH_TYPE_H_P = 0x0800) (hn : n ≤ 65280) {addflags : Byte}
    (hcount : addflags &&& TCP_FLAGS_RST_V = 0 → Alone e → acked n addflags = segLen e) :
    Adds (AnswerTo e) e (makeTcpAckFromAny n addflags e) := by
  have hbit : ∀ f : Byte, (TCP_FLAGS_ACK_V ||| f) &&& TCP_FLAGS_RST_V = 0 → f &&& TCP_FLAGS_RST_V = 0 := by decide
  have hanswer : AnswerTo e ((makeTcpAckFromAny n addflags e).buffer.slice 0 (ETH_HEADER_LEN + (IP_HEADER_LEN + TCP_HEADER_LEN_PLAIN))) := by
    refine AnswerTo.of_returned ht (segmentReturned_makeTcpAckFromAny ht hn addflags) (fun hf => hcount (hbit _ ?_)) (by decide)
    rwa [flags_makeTcpAckFromAny] at hf
  rw [makeTcpAckFromAny_eq] at hanswer ⊢
  refine Adds.send ?_ hanswer
  rw [wire_fillChecksum, wire_ackHead]

/-- The rest of the header leaves what is answered. -/
theorem SegmentReturned.header (h : SegmentReturned b₀ myip n b) (hs : ∀ i, i < IP_P ∨ IP_SRC_P ≤ i → b'.get i = b.get i) :
    SegmentReturned b₀ myip n b' :=
  h.congr fun i hi => hs i (by
    rcases hi with hi | hi | hi
    · exact Or.inl hi
    · exact Or.inr hi.1
    · exact Or.inr (le_trans (by decide) hi.1))

/-- Data that follows goes to the same place. -/
theorem SegmentReturned.makeTcpAckWithDataNoflags (h : SegmentReturned b₀ myip n e.buffer) (dlen : Nat) :
    SegmentReturned b₀ myip n (makeTcpAckWithDataNoflags dlen e).buffer ∧
      (EtherHouse.makeTcpAckWithDataNoflags dlen e).buffer.get TCP_FLAGS_P = e.buffer.get TCP_FLAGS_P := by
  have hlen : ∀ (xs : List Byte), xs.length = 2 → ∀ i, i < IP_P ∨ IP_SRC_P ≤ i → (e.put IP_TOTLEN_H_P xs).buffer.get i = e.buffer.get i := by
    intro xs hxs i hi
    unfold IP_P IP_SRC_P at hi
    exact Buffer.get_write_of_not_mem (by unfold IP_TOTLEN_H_P; omega)
  have hip : ∀ (g : Ether) i, i < IP_P ∨ IP_SRC_P ≤ i → (fillIpHdrChecksum g).buffer.get i = g.buffer.get i := fun g i hi =>
    gPB_fillIpHdrChecksum g (hi.imp_left fun hlow => lt_trans hlow (by decide))
  unfold EtherHouse.makeTcpAckWithDataNoflags
  dsimp only
  generalize hg : e.put IP_TOTLEN_H_P [hi (IP_HEADER_LEN + TCP_HEADER_LEN_PLAIN + dlen), lo (IP_HEADER_LEN + TCP_HEADER_LEN_PLAIN + dlen)] = g
  have hg' : ∀ i, i < IP_P ∨ IP_SRC_P ≤ i → g.buffer.get i = e.buffer.get i := hg ▸ hlen _ rfl
  constructor
  · exact (((h.header hg').header (hip g)).put (show TCP_HEADER_LEN_P ≤ TCP_CHECKSUM_H_P by decide) [0, 0]).put
      (show TCP_HEADER_LEN_P ≤ TCP_CHECKSUM_H_P by decide) _
  · have hsum : ∀ g off len type, (fillChecksum TCP_CHECKSUM_H_P off len type g).buffer.get TCP_FLAGS_P = g.buffer.get TCP_FLAGS_P :=
      fun g _ _ _ => get_put_of_lt g (by decide)
    have hsent : ∀ g len, (packetSend len g).buffer = g.buffer := fun _ _ => rfl
    rw [hsent, hsum, get_put_of_lt _ (by decide), hip _ _ (Or.inr (by decide)), hg' _ (Or.inr (by decide))]

/-- The ports and numbers of a SYN-ACK. -/
theorem segmentReturned_synackPorts (h : Returned b₀ myip e.buffer) (hbehind : ∀ i, TCP_SRC_PORT_H_P ≤ i → e.buffer.get i = b₀.get i) :
    SegmentReturned b₀ myip 1 (synackPorts e).buffer := by
  have hseq : (e.put TCP_FLAGS_P [TCP_FLAGS_SYNACK_V]).buffer.slice TCP_SEQ_H_P 4 = b₀.slice TCP_SEQ_H_P 4 := by
    rw [slice_put_of_disjoint _ (Or.inr (by decide))]
    exact slice_congr fun i hi _ => hbehind i (le_trans (by decide) hi)
  have hack := ack_makeTcphead false (show 1 ≤ 65280 by decide) (e.put TCP_FLAGS_P [TCP_FLAGS_SYNACK_V])
  obtain ⟨hsource, htarget⟩ := words_of_answers ((answers_makeTcphead (e.put TCP_FLAGS_P [TCP_FLAGS_SYNACK_V]) 1 false).of_same
    (sameHead_put e (Or.inr (by decide))).ports)
  rw [word_congr (hbehind _ (by decide)) (hbehind _ (by decide))] at hsource htarget
  rw [hseq] at hack
  have hlow : ∀ i < TCP_SRC_PORT_H_P, (synackPorts e).buffer.get i = e.buffer.get i := fun i hi => by
    rw [synackPorts, get_makeTcphead hi, get_put_of_lt _ (lt_trans hi (by decide))]
  refine { toReturned := h.congr fun i hi => hlow i ?_, sourcePort := hsource, targetPort := htarget, ack := hack }
  rcases hi with hi | hi
  · exact lt_trans hi (by decide)
  · exact hi.2

/-- The head of a SYN-ACK goes back, and leaves the segment. -/
theorem returned_synackHead (ht : e.buffer.word ETH_TYPE_H_P = 0x0800) : Returned e.buffer e.cfg.myip (synackHead e).buffer ∧
    ∀ i, TCP_SRC_PORT_H_P ≤ i → (synackHead e).buffer.get i = e.buffer.get i := by
  have hput : ∀ i, i < IP_P ∨ IP_SRC_P ≤ i → (e.put IP_TOTLEN_H_P [0, lo (IP_HEADER_LEN + TCP_HEADER_LEN_PLAIN + 4)]).buffer.get i =
      e.buffer.get i := by
    intro i hi
    unfold IP_P IP_SRC_P at hi
    exact Buffer.get_write_of_not_mem (by simp only [IP_TOTLEN_H_P, List.length_cons, List.length_nil]; omega)
  have hcfg : (e.put IP_TOTLEN_H_P [0, lo (IP_HEADER_LEN + TCP_HEADER_LEN_PLAIN + 4)]).cfg = e.cfg := Ether.put_cfg _ _ _
  unfold synackHead
  generalize e.put IP_TOTLEN_H_P [0, lo (IP_HEADER_LEN + TCP_HEADER_LEN_PLAIN + 4)] = g at hput hcfg
  have hword : g.buffer.word ETH_TYPE_H_P = 0x0800 := (word_congr (hput _ (Or.inl (by decide))) (hput _ (Or.inl (by decide)))).trans ht
  rw [← hcfg]
  constructor
  · refine Returned.of_same (returned_makeEthIp hword) ?_ ?_
    · exact slice_congr fun i _ hi => hput i (Or.inl (lt_of_lt_of_le hi (by decide)))
    · exact slice_congr fun i hi _ => hput i (Or.inr hi)
  · intro i hi
    rw [get_makeEthIp hi, hput i (Or.inr (le_trans (by decide) hi))]

/-- A SYN-ACK goes out, its ports and numbers being done. -/
theorem answerTo_synackTail (hw : e'.wire = e.wire) (ht : e.buffer.word ETH_TYPE_H_P = 0x0800)
    (h : SegmentReturned e.buffer e.cfg.myip n e'.buffer) (hn : Alone e → n = segLen e) :
    Adds (AnswerTo e) e (packetSend (ETH_HEADER_LEN + (IP_HEADER_LEN + (TCP_HEADER_LEN_PLAIN + 4)))
      (fillChecksum TCP_CHECKSUM_H_P IP_SRC_P (8 + (TCP_HEADER_LEN_PLAIN + 4)) 2 (synackTail e'))) := by
  have htail : SegmentReturned e.buffer e.cfg.myip n (synackTail e').buffer := ((h.put (by decide) _).put (by decide) _).put (by decide) _
  have hdone := htail.put (show TCP_HEADER_LEN_P ≤ TCP_CHECKSUM_H_P by decide)
  refine Adds.send ?_ (AnswerTo.of_returned ht (hdone _) (fun _ => hn) (by decide))
  exact hw

/-- A SYN-ACK answers a SYN. -/
theorem answerTo_synack (ht : e.buffer.word ETH_TYPE_H_P = 0x0800) (hsyn : hasFlag e TCP_FLAGS_SYN_V = true) :
    Adds (AnswerTo e) e (makeTcpSynackFromSyn e) := by
  obtain ⟨hhead, hbehind⟩ := returned_synackHead ht
  have hports := segmentReturned_synackPorts hhead hbehind
  have hwire := wire_synackPorts e
  rw [makeTcpSynackFromSyn_eq]
  generalize synackPorts (synackHead e) = g at hports hwire
  have hnumber : SegmentReturned e.buffer e.cfg.myip 1 (g.put TCP_SEQ_H_P [0, 0, g.tcp.seqnum, 0]).buffer :=
    hports.congr fun i hi => Buffer.get_write_of_not_mem (by
      unfold IP_P IP_SRC_P TCP_SEQ_H_P TCP_SEQACK_H_P TCP_HEADER_LEN_P at hi
      simp only [TCP_SEQ_H_P, List.length_cons, List.length_nil]
      omega)
  have hcount : Alone e → 1 = segLen e := by
    intro ha
    obtain ⟨hlen, hfin⟩ := ha.1 hsyn
    rw [segLen, hlen, hsyn, hfin]
    rfl
  refine answerTo_synackTail ?_ ht hnumber hcount
  exact hwire

/-- A packet of another protocol has no numbers. -/
theorem AnswerTo.of_other {len : Nat} (ht : e.buffer.word ETH_TYPE_H_P = 0x0800) (h : Returned e.buffer e.cfg.myip b)
    (hp : b.get IP_PROTO_P ≠ IP_PROTO_TCP_V) (hlen : TCP_SRC_PORT_H_P ≤ len) : AnswerTo e (b.slice 0 len) := by
  refine ⟨ReturnsTo.of_returned h ht hlen, fun _ hproto => absurd ?_ hp⟩
  rwa [Buffer.getD_slice _ _ (lt_of_lt_of_le (by decide) hlen), Nat.zero_add] at hproto

/-- An echo reply goes back. -/
theorem answerTo_echo (ht : e.buffer.word ETH_TYPE_H_P = 0x0800) (hv : e.buffer.get IP_HEADER_LEN_VER_P = 0x45)
    (hp : e.buffer.get IP_PROTO_P = IP_PROTO_ICMP_V) {len : Nat} (hlen : TCP_SRC_PORT_H_P ≤ len) :
    Adds (AnswerTo e) e (makeEchoReplyFromRequest len e) := by
  have hhead := returned_makeEthIp ht
  have hproto := (headed_makeEthIp ht hv).proto
  have hwire := wire_makeEthIp e
  rw [hp] at hproto
  unfold makeEchoReplyFromRequest
  dsimp only
  generalize makeEthIp e = g at hhead hproto hwire
  have hsend : ∀ g : Ether, g.wire = e.wire → Returned e.buffer e.cfg.myip g.buffer → g.buffer.get IP_PROTO_P = IP_PROTO_ICMP_V → ∀ x,
      Adds (AnswerTo e) e (packetSend len (g.put ICMP_CHECKSUM_P [x])) := by
    intro g hw hr hg x
    have hproto' : (g.put ICMP_CHECKSUM_P [x]).buffer.get IP_PROTO_P = IP_PROTO_ICMP_V := by rw [get_put_of_lt _ (by decide), hg]
    have hw' : (g.put ICMP_CHECKSUM_P [x]).wire = e.wire := hw
    exact Adds.send hw' (AnswerTo.of_other ht (hr.put (by decide) [x]) (by rw [hproto']; decide) hlen)
  have hw' : (g.put ICMP_TYPE_P [ICMP_TYPE_ECHOREPLY_V]).wire = e.wire := hwire
  have hr := hhead.put (show TCP_SRC_PORT_H_P ≤ ICMP_TYPE_P by decide) [ICMP_TYPE_ECHOREPLY_V]
  have hg : (g.put ICMP_TYPE_P [ICMP_TYPE_ECHOREPLY_V]).buffer.get IP_PROTO_P = IP_PROTO_ICMP_V := by
    rw [get_put_of_lt _ (by decide), hproto]
  generalize g.put ICMP_TYPE_P [ICMP_TYPE_ECHOREPLY_V] = g' at hw' hr hg
  split
  · refine hsend (g'.put _ _) ?_ (hr.put (by decide) _) ?_ _
    · exact hw'
    · rw [get_put_of_lt _ (by decide), hg]
  · exact hsend _ hw' hr hg _

theorem length_mac (a : Mac) : a.toList.length = 6 := Vector.length_toList

theorem length_ip (a : Ip) : a.toList.length = 4 := Vector.length_toList

/-- The addresses of an ARP answer, in the order in which they are written: the sender's are copied before they are overwritten. -/
theorem AnswerTo.of_arp {g : Ether} (ht : e.buffer.word ETH_TYPE_H_P = 0x0806) (htype : g.buffer.word ETH_TYPE_H_P = 0x0806)
    (hlink : g.buffer.slice ETH_DST_MAC 6 = e.buffer.slice ETH_SRC_MAC 6) (mine : Mac) {hw : Mac} {pr : Ip}
    (hhw : hw.toList = e.buffer.slice ETH_ARP_SRC_MAC_P 6) (hpr : pr.toList = e.buffer.slice ETH_ARP_SRC_IP_P 4) :
    AnswerTo e (((((g.copyMac ETH_ARP_DST_MAC_P hw).copyMac ETH_ARP_SRC_MAC_P mine).copyIp ETH_ARP_DST_IP_P pr).copyIp
      ETH_ARP_SRC_IP_P e.cfg.myip).buffer.slice 0 42) := by
  have harp : wordAt (((((g.copyMac ETH_ARP_DST_MAC_P hw).copyMac ETH_ARP_SRC_MAC_P mine).copyIp ETH_ARP_DST_IP_P pr).copyIp
      ETH_ARP_SRC_IP_P e.cfg.myip).buffer.slice 0 42) ETH_TYPE_H_P = 0x0806 := by
    unfold Ether.copyMac Ether.copyIp
    rw [wordAt_slice _ (by decide), word_put_of_disjoint _ (Or.inr (by decide)), word_put_of_disjoint _ (Or.inr (by decide)),
      word_put_of_disjoint _ (Or.inr (by decide)), word_put_of_disjoint _ (Or.inr (by decide)), htype]
  refine ⟨⟨?_, ?_, fun _ => ⟨?_, ?_, ?_⟩, fun hip => absurd (harp.symm.trans hip) (by decide)⟩, fun hip => absurd (harp.symm.trans hip) (by decide)⟩
  · rw [field_slice _ (by decide)]
    unfold Ether.copyMac Ether.copyIp
    rw [slice_put_of_disjoint _ (Or.inr (by decide)), slice_put_of_disjoint _ (Or.inr (by decide)),
      slice_put_of_disjoint _ (Or.inr (by decide)), slice_put_of_disjoint _ (Or.inr (by decide)), hlink]
  · rw [harp, ht]
  · rw [field_slice _ (by decide)]
    unfold Ether.copyMac Ether.copyIp
    rw [slice_put_of_disjoint _ (Or.inl (by rw [length_ip]; decide)), slice_put_of_disjoint _ (Or.inr (by decide)),
      slice_put_of_disjoint _ (Or.inl (by rw [length_mac]; decide)), slice_put g (length_mac hw).symm (by rw [length_mac]; decide), hhw]
  · rw [field_slice _ (by decide)]
    unfold Ether.copyMac Ether.copyIp
    rw [slice_put_of_disjoint _ (Or.inl (by rw [length_ip]; decide)), slice_put _ (length_ip pr).symm (by rw [length_ip]; decide), hpr]
  · rw [field_slice _ (by decide)]
    exact slice_put _ (length_ip e.cfg.myip).symm (by rw [length_ip]; decide)

/-- The answer to an ARP request goes back. -/
theorem answerTo_arp (ht : e.buffer.word ETH_TYPE_H_P = 0x0806) : Adds (AnswerTo e) e (makeArpAnswerFromRequest e) := by
  have hlink : (setMACs (e.buffer.mac ETH_SRC_MAC) e).buffer.slice ETH_DST_MAC 6 = e.buffer.slice ETH_SRC_MAC 6 := by
    rw [setMACs, Ether.copyMac, slice_put_of_disjoint _ (Or.inr (by decide)), slice_copyMac ETH_DST_MAC _ e (by decide), toList_mac]
  have hwire := wire_setMACs e (e.buffer.mac ETH_SRC_MAC)
  have hcfg : (setMACs (e.buffer.mac ETH_SRC_MAC) e).cfg = e.cfg := cfg_of_statics (statics_setMACs e _)
  have hkept : ∀ i, ETH_TYPE_H_P ≤ i → (setMACs (e.buffer.mac ETH_SRC_MAC) e).buffer.get i = e.buffer.get i := fun i hi => get_setMACs _ e hi
  unfold makeArpAnswerFromRequest
  dsimp only
  generalize setMACs (e.buffer.mac ETH_SRC_MAC) e = g at hlink hwire hcfg hkept
  -- the opcode lies before the sender's addresses
  have hput : ∀ i, ETH_TYPE_H_P ≤ i ∧ i < ETH_ARP_OPCODE_H_P ∨ ETH_ARP_SRC_MAC_P ≤ i → (g.put ETH_ARP_OPCODE_H_P
      [ETH_ARP_OPCODE_REPLY_H_V, ETH_ARP_OPCODE_REPLY_L_V]).buffer.get i = e.buffer.get i := by
    intro i hi
    rcases hi with ⟨hlo, hhi⟩ | hi
    · rw [get_put_of_lt g hhi, hkept i hlo]
    · rw [get_put_of_ge g (show ETH_ARP_OPCODE_H_P + 2 ≤ i from hi), hkept i (le_trans (by decide) hi)]
  have hfront : (g.put ETH_ARP_OPCODE_H_P [ETH_ARP_OPCODE_REPLY_H_V, ETH_ARP_OPCODE_REPLY_L_V]).buffer.slice ETH_DST_MAC 6 =
      e.buffer.slice ETH_SRC_MAC 6 := by rw [slice_put_of_disjoint _ (Or.inr (by decide)), hlink]
  have hw' : (g.put ETH_ARP_OPCODE_H_P [ETH_ARP_OPCODE_REPLY_H_V, ETH_ARP_OPCODE_REPLY_L_V]).wire = e.wire := hwire
  have hc' : (g.put ETH_ARP_OPCODE_H_P [ETH_ARP_OPCODE_REPLY_H_V, ETH_ARP_OPCODE_REPLY_L_V]).cfg = e.cfg := hcfg
  generalize g.put ETH_ARP_OPCODE_H_P [ETH_ARP_OPCODE_REPLY_H_V, ETH_ARP_OPCODE_REPLY_L_V] = g at hput hfront hw' hc'
  have htype : g.buffer.word ETH_TYPE_H_P = 0x0806 := (word_congr (hput _ (by decide)) (hput _ (by decide))).trans ht
  have hhw : (g.buffer.mac ETH_ARP_SRC_MAC_P).toList = e.buffer.slice ETH_ARP_SRC_MAC_P 6 := by
    rw [toList_mac]
    exact slice_congr fun i hi _ => hput i (Or.inr hi)
  have hpr : ∀ (a m : Mac), (((g.copyMac ETH_ARP_DST_MAC_P a).copyMac ETH_ARP_SRC_MAC_P m).buffer.ip ETH_ARP_SRC_IP_P).toList =
      e.buffer.slice ETH_ARP_SRC_IP_P 4 := by
    intro a m
    unfold Ether.copyMac
    rw [toList_ip, slice_put_of_disjoint _ (Or.inl (by rw [length_mac]; decide)), slice_put_of_disjoint _ (Or.inr (by decide))]
    exact slice_congr fun i hi _ => hput i (Or.inr (le_trans (by decide) hi))
  have hanswer := AnswerTo.of_arp ht htype hfront g.cfg.mymac hhw (hpr (g.buffer.mac ETH_ARP_SRC_MAC_P) g.cfg.mymac)
  rw [← hc'] at hanswer
  refine Adds.send ?_ hanswer
  exact hw'

/-- Nothing else is sent for an ARP message. -/
theorem answerTo_serviceArp (ht : e.buffer.word ETH_TYPE_H_P = 0x0806) : Adds (AnswerTo e) e (serviceArp e) := by
  have hanswer : Adds (AnswerTo e) e (if e.gPB ETH_ARP_OPCODE_L_P = ETH_ARP_OPCODE_REQ_L_V then makeArpAnswerFromRequest e else e) :=
    Adds.ite (fun _ => answerTo_arp ht) fun _ => Adds.refl e
  refine hanswer.trans (Adds.of_wire ?_)
  rw [serviceArp, wire_arpDest, wire_arpDns, wire_arpGateway]

/-- A segment with data goes out as it stands in the buffer. -/
theorem wire_makeTcpAckWithDataNoflags (dlen : Nat) (e : Ether) : (makeTcpAckWithDataNoflags dlen e).wire =
    .sent ((makeTcpAckWithDataNoflags dlen e).buffer.slice 0 (IP_HEADER_LEN + TCP_HEADER_LEN_PLAIN + dlen + ETH_HEADER_LEN)) :: e.wire := by
  have hsent : ∀ g len, (packetSend len g).buffer = g.buffer := fun _ _ => rfl
  unfold makeTcpAckWithDataNoflags
  dsimp only
  rw [wire_packetSend, wire_fillChecksum, Ether.put_wire, wire_fillIpHdrChecksum, Ether.put_wire, hsent]

/-- A segment with data goes to where the header in the buffer says. -/
theorem answerTo_data (ht : e.buffer.word ETH_TYPE_H_P = 0x0800) (h : SegmentReturned e.buffer e.cfg.myip n e'.buffer)
    (hn : Alone e → n = segLen e) (dlen : Nat) : Adds (AnswerTo e) e' (makeTcpAckWithDataNoflags dlen e') := by
  have hdone := (h.makeTcpAckWithDataNoflags dlen).1
  have hanswer := AnswerTo.of_returned ht hdone (fun _ => hn)
    (show TCP_FLAGS_P < IP_HEADER_LEN + TCP_HEADER_LEN_PLAIN + dlen + ETH_HEADER_LEN by
      unfold TCP_FLAGS_P IP_HEADER_LEN TCP_HEADER_LEN_PLAIN ETH_HEADER_LEN
      omega)
  exact Adds.of_sent (wire_makeTcpAckWithDataNoflags dlen e') hanswer

/-- The acknowledgement of a SYN-ACK and the request behind it, or a reset. -/
theorem answerTo_clientSynSent (ht : e.buffer.word ETH_TYPE_H_P = 0x0800) {len : Nat} (hlen : len ≤ 32767) :
    Adds (AnswerTo e) e (clientSynSent len e).1 := by
  unfold clientSynSent
  split
  · next hsa =>
    dsimp only
    have hcount : Alone e → acked 0 0 = segLen e := by
      intro ha
      obtain ⟨hl, hfin⟩ := ha.1 hsa.1
      rw [segLen, hl, hsa.1, hfin]
      rfl
    have hack : Adds (AnswerTo e) e (makeTcpAckFromAny 0 0 e) := answerTo_ack ht (by decide) fun _ => hcount
    have hret := segmentReturned_makeTcpAckFromAny ht (show 0 ≤ 65280 by decide) 0
    generalize makeTcpAckFromAny 0 0 e = g at hack hret
    -- the request goes out under the header of the acknowledgement
    have hsend : ∀ (g' : Ether) (m : Nat), g'.wire = g.wire → SegmentReturned e.buffer e.cfg.myip (acked 0 0) g'.buffer →
        Adds (AnswerTo e) e (makeTcpAckWithDataNoflags m { g' with tcp := { g'.tcp with tcpClientState := 3 } }) := by
      intro g' m hw hr
      have hw' : ({ g' with tcp := { g'.tcp with tcpClientState := 3 } } : Ether).wire = g.wire := hw
      exact (hack.trans (Adds.of_wire hw')).trans (answerTo_data ht hr hcount m)
    have hflags := hret.put (show TCP_HEADER_LEN_P ≤ TCP_FLAGS_P by decide) [TCP_FLAGS_ACK_V ||| TCP_FLAGS_PUSH_V]
    have hw : (g.put TCP_FLAGS_P [TCP_FLAGS_ACK_V ||| TCP_FLAGS_PUSH_V]).wire = g.wire := rfl
    generalize g.put TCP_FLAGS_P [TCP_FLAGS_ACK_V ||| TCP_FLAGS_PUSH_V] = g' at hflags hw ⊢
    split
    · unfold wwwClientInternalDatafillCb
      split
      · exact hsend (g'.put _ _) _ hw (hflags.put (by decide) _)
      · exact hsend g' 0 hw hflags
    · exact hsend g' 0 hw hflags
  · have hreset : ∀ m ≤ 65280, Adds (AnswerTo e) e (makeTcpAckFromAny m TCP_FLAGS_RST_V { e with tcp := { e.tcp with tcpClientState := 1 } }) :=
      fun m hm => answerTo_ack (e := { e with tcp := { e.tcp with tcpClientState := 1 } }) ht hm fun hf => absurd hf (by decide)
    refine hreset _ ?_
    split <;> omega

/-- What an open connection sends answers. -/
theorem answerTo_clientOther (ht : e.buffer.word ETH_TYPE_H_P = 0x0800) :
    Adds (AnswerTo e) e (clientOther (getTcpDataLen e) e) := by
  have hle := getTcpDataLen_le e
  unfold clientOther
  dsimp only
  split
  · split
    · next hfin =>
      split
      · exact Adds.refl e
      · have hcount : Alone e → acked (getTcpDataLen e + 1) (TCP_FLAGS_PUSH_V ||| TCP_FLAGS_FIN_V) = segLen e := by
          intro ha
          rw [segLen, ha.not_syn_of_fin hfin, hfin]
          rfl
        have hack : Adds (AnswerTo e) e (makeTcpAckFromAny (getTcpDataLen e + 1) (TCP_FLAGS_PUSH_V ||| TCP_FLAGS_FIN_V) e) :=
          answerTo_ack ht (by omega) fun _ => hcount
        exact hack.trans (Adds.of_wire rfl)
    · next hfin =>
      split
      · next hpos =>
        refine answerTo_ack ht (by omega) fun _ ha => ?_
        rw [segLen, ha.not_syn hpos, Bool.not_eq_true _ |>.mp hfin, acked, if_neg (by omega)]
        rfl
      · exact Adds.refl e
  · exact Adds.refl e

/-- What the client sends answers. -/
theorem answerTo_clientSegment (ht : e.buffer.word ETH_TYPE_H_P = 0x0800) (plen : Nat) : Adds (AnswerTo e) e (clientSegment plen e).1 := by
  unfold clientSegment
  dsimp only
  split
  · exact Adds.refl e
  split
  · split
    · exact Adds.refl e
    · exact Adds.of_wire rfl
  split
  · exact answerTo_clientSynSent ht (getTcpDataLen_le e)
  split
  · exact Adds.refl e
  · exact answerTo_clientOther ht

/-- What the server port sends answers. -/
theorem answerTo_accept (ht : e.buffer.word ETH_TYPE_H_P = 0x0800) (port plen : Nat) : Adds (AnswerTo e) e (accept port plen e).1 := by
  unfold accept
  split
  · split
    · next hsyn => exact answerTo_synack ht hsyn
    · next hsyn =>
      split
      · dsimp only
        split
        · exact Adds.of_wire rfl
        · next hlen =>
          split
          · next hfin =>
            have hcount : Alone e → acked 0 0 = segLen e := by
              intro _
              have hzero : getTcpDataLen e = 0 := Nat.eq_zero_of_not_pos hlen
              have hfin' : hasFlag e TCP_FLAGS_FIN_V = true := hfin
              rw [segLen, hzero, Bool.not_eq_true _ |>.mp hsyn, hfin']
              rfl
            exact answerTo_ack (e := { e with tcp := { e.tcp with infoDataLen := getTcpDataLen e } }) ht (by decide) fun _ => hcount
          · exact Adds.of_wire rfl
      · exact Adds.refl e
  · exact Adds.refl e

/-- Every frame that the packet loop answers the one in the buffer with. -/
theorem answerTo_packetLoopReceived (plen : Nat) (e : Ether) : Adds (AnswerTo e) e (packetLoopReceived plen e).1 := by
  unfold packetLoopReceived
  split
  · next harp =>
    simp only [ethTypeIsArpAndMyIp, Bool.and_eq_true, beq_iff_eq] at harp
    exact answerTo_serviceArp (word_of_bytes harp.1.1.2 harp.1.2)
  split
  · exact Adds.refl e
  next hip =>
  simp only [ethTypeIsIpAndMyIp, Bool.not_eq_false, Bool.and_eq_true, decide_eq_true_eq, beq_iff_eq] at hip
  have ht : e.buffer.word ETH_TYPE_H_P = 0x0800 := word_of_bytes hip.1.1.1.2 hip.1.1.2
  split
  · next hecho => exact answerTo_echo ht hip.1.2 hecho.1 (le_trans (by decide) hip.1.1.1.1)
  split
  · exact Adds.refl e
  split
  · exact answerTo_clientSegment ht plen
  · exact answerTo_accept ht e.cfg.hisport plen

/-- Data that is handed to the result callback came in an IP packet; it is what is acknowledged. -/
theorem packetLoopReceived_ackLen {plen : Nat} {fd : Byte} {datapos len ackLen : Nat} (h : (packetLoopReceived plen e).2 = .data fd datapos len ackLen) :
    e.buffer.word ETH_TYPE_H_P = 0x0800 ∧ ackLen = getTcpDataLen e ∧ 0 < ackLen := by
  have hip : ethTypeIsIpAndMyIp plen e = true := by
    by_contra hip
    rw [packetLoopReceived] at h
    split at h
    · cases h
    · rw [if_pos (by simpa using hip)] at h
      cases h
  simp only [ethTypeIsIpAndMyIp, Bool.and_eq_true, decide_eq_true_eq, beq_iff_eq] at hip
  refine ⟨word_of_bytes hip.1.1.1.2 hip.1.1.2, ?_⟩
  rcases packetLoopReceived_step plen e with ⟨_, hs⟩ | ⟨⟨pos, hpos⟩, _⟩
  · generalize packetLoopReceived plen e = r at hs h
    cases hs with
    | data _ hpos =>
      cases h
      exact ⟨rfl, hpos⟩
    | opened _ _ hu =>
      dsimp only at h
      rw [hu] at h
      split at h <;> cases h
    | _ => cases h
  · rw [hpos] at h
    cases h

/-- What follows the result callback, if that is not called, answers too. -/
theorem answerTo_packetLoopAfter {plen : Nat} {u : Upcall} (h : packetLoopReceived plen e = (e', u)) :
    Adds (AnswerTo e) e (packetLoopAfter u e') := by
  have hadds := answerTo_packetLoopReceived plen e
  have hu : (packetLoopReceived plen e).2 = u := by rw [h]
  rw [h] at hadds
  cases u with
  | data fd datapos len ackLen =>
    obtain ⟨ht, hlen, hpos⟩ := packetLoopReceived_ackLen hu
    obtain ⟨_, hsame, _⟩ := packetLoopReceived_data plen e hu
    rw [h] at hsame
    change e' = e at hsame
    subst hsame
    have hcount : ∀ addflags : Byte, Alone e' → acked ackLen addflags = segLen e' := by
      intro addflags ha
      rw [hlen] at hpos
      rw [segLen, ha.not_syn hpos, ha.not_fin hpos, acked, if_neg (by omega), hlen]
      rfl
    have hack : ∀ addflags : Byte, Adds (AnswerTo e') e' (makeTcpAckFromAny ackLen addflags e') := fun addflags =>
      answerTo_ack ht (hlen ▸ le_trans (getTcpDataLen_le e') (by decide)) fun _ => hcount addflags
    rw [packetLoopAfter]
    split
    · exact hack TCP_FLAGS_PUSH_V
    · exact (hack (TCP_FLAGS_PUSH_V ||| TCP_FLAGS_FIN_V)).trans (Adds.of_wire rfl)
  | reset => exact hadds.trans (Adds.of_wire rfl)
  | ret => exact hadds
  | requested => exact hadds

end

end EtherHouse
