import EtherHouse.Net.Checksum

/-!
# Frames that go out

What a frame of the device's is: from its own link address, no longer than the buffer, and either an ARP message or an IP packet whose
checksums are right. A header is finished by its checksum, and what is written behind it leaves it.
-/

namespace EtherHouse

open OnesComplement

/-! ## The receiver's checks -/

/-- The header's words sum to all ones. -/
def HeaderVerifies (frame : List Byte) : Prop := wrap 16 (sumWords (field frame IP_P IP_HEADER_LEN)) = ones 16

/-- What an IP packet carries, in bytes. -/
def payloadLen (frame : List Byte) : Nat := wordAt frame IP_TOTLEN_H_P - IP_HEADER_LEN

/-- The packet ends where the frame does. -/
def Fills (frame : List Byte) : Prop := ETH_HEADER_LEN + wordAt frame IP_TOTLEN_H_P = frame.length

/-- The addresses, the protocol's number, the length and the words of what is carried sum to all ones. -/
def SegmentVerifies (proto : Byte) (frame : List Byte) : Prop :=
  wrap 16 (proto.toNat + payloadLen frame + sumWords (field frame IP_SRC_P (8 + payloadLen frame))) = ones 16

/-- The words of an ICMP message sum to all ones. -/
def MessageVerifies (frame : List Byte) : Prop := wrap 16 (sumWords (field frame ICMP_TYPE_P (payloadLen frame))) = ones 16

/-- The ports of the stack's UDP clients, DHCP and DNS. The log's is none of them: where a parse callback logs, the packet loop answers
the datagram that this leaves in the buffer, as if it were the segment. -/
def UdpPort (h l : Byte) : Prop := wordOf h l = DHCP_DEST_PORT ∨ h = DNSCLIENT_SRC_PORT_H

/-- The ports from which the TCP side answers: none of theirs, nor one that begins like an echo request. -/
def AnswerPort (h l : Byte) : Prop := ¬UdpPort h l ∧ h ≠ ICMP_TYPE_ECHOREQUEST_V

instance UdpPort.decidable (h l : Byte) : Decidable (UdpPort h l) :=
  inferInstanceAs (Decidable (wordOf h l = DHCP_DEST_PORT ∨ h = DNSCLIENT_SRC_PORT_H))

instance AnswerPort.decidable (h l : Byte) : Decidable (AnswerPort h l) :=
  inferInstanceAs (Decidable (¬UdpPort h l ∧ h ≠ ICMP_TYPE_ECHOREQUEST_V))

/-- An ARP message from the link address. -/
structure ArpFrame (mac : Mac) (frame : List Byte) : Prop where
  length : frame.length = 42
  etype : wordAt frame ETH_TYPE_H_P = 0x0806
  sender : field frame ETH_ARP_SRC_MAC_P 6 = mac.toList

/-- An IP packet whose checksums are right. Datagrams count from a `UdpPort` only: what comes for a port of the TCP
side is answered as a segment, whatever its protocol. -/
structure IpFrame (frame : List Byte) : Prop where
  etype : wordAt frame ETH_TYPE_H_P = 0x0800
  version : frame.getD IP_HEADER_LEN_VER_P 0 = 0x45
  header : HeaderVerifies frame
  tcp : frame.getD IP_PROTO_P 0 = IP_PROTO_TCP_V → Fills frame ∧ SegmentVerifies IP_PROTO_TCP_V frame
  udp : frame.getD IP_PROTO_P 0 = IP_PROTO_UDP_V → UdpPort (frame.getD UDP_SRC_PORT_H_P 0) (frame.getD UDP_SRC_PORT_L_P 0) →
    Fills frame ∧ wordAt frame UDP_LEN_H_P = payloadLen frame ∧ SegmentVerifies IP_PROTO_UDP_V frame
  icmp : frame.getD IP_PROTO_P 0 = IP_PROTO_ICMP_V → frame.getD ICMP_TYPE_P 0 = ICMP_TYPE_ECHOREQUEST_V →
    Fills frame ∧ MessageVerifies frame

/-- A frame of the device's. -/
structure OwnFrame (mac : Mac) (frame : List Byte) : Prop where
  bounded : frame.length ≤ BUFFER_SIZE
  source : field frame ETH_SRC_MAC 6 = mac.toList
  kind : ArpFrame mac frame ∨ IpFrame frame

/-! ## The header in the buffer -/

/-- The buffer holds a frame from this link address that is an IP packet. -/
structure Sourced (mac : Mac) (b : Buffer) : Prop where
  source : b.slice ETH_SRC_MAC 6 = mac.toList
  etype : b.word ETH_TYPE_H_P = 0x0800
  version : b.get IP_HEADER_LEN_VER_P = 0x45

/-- ... of this protocol and length, and the header is finished. -/
structure Headed (mac : Mac) (proto : Byte) (total : Nat) (b : Buffer) : Prop extends Sourced mac b where
  proto : b.get IP_PROTO_P = proto
  total : b.word IP_TOTLEN_H_P = total
  sum : wrap 16 (sumWords (b.slice IP_P IP_HEADER_LEN)) = ones 16

section

variable {mac : Mac} {proto : Byte} {total : Nat} {b b' : Buffer} {e : Ether}

/-- A word is read off its two bytes. -/
theorem word_congr {i : Nat} (h₁ : b'.get i = b.get i) (h₂ : b'.get (i + 1) = b.get (i + 1)) : b'.word i = b.word i := by
  rw [Buffer.word, Buffer.word, h₁, h₂]

/-- Where a frame comes from is read off its first fields. -/
theorem Sourced.congr (h : Sourced mac b) (hs : ∀ i, ETH_SRC_MAC ≤ i → i ≤ IP_HEADER_LEN_VER_P → b'.get i = b.get i) :
    Sourced mac b' where
  source := (slice_congr fun i h₁ h₂ => hs i h₁ (by unfold ETH_SRC_MAC at h₂; unfold IP_HEADER_LEN_VER_P; omega)).trans h.source
  etype := (word_congr (hs _ (by decide) (by decide)) (hs _ (by decide) (by decide))).trans h.etype
  version := (hs _ (by decide) le_rfl).trans h.version

/-- A header is read off its bytes. -/
theorem Headed.congr (h : Headed mac proto total b) (hs : ∀ i < TCP_SRC_PORT_H_P, b'.get i = b.get i) :
    Headed mac proto total b' where
  toSourced := h.toSourced.congr fun i _ hi => hs i (by unfold IP_HEADER_LEN_VER_P at hi; unfold TCP_SRC_PORT_H_P; omega)
  proto := (hs _ (by decide)).trans h.proto
  total := (word_congr (hs _ (by decide)) (hs _ (by decide))).trans h.total
  sum := by
    have hsame : b'.slice IP_P IP_HEADER_LEN = b.slice IP_P IP_HEADER_LEN :=
      slice_congr fun i _ hi => hs i (by unfold IP_P IP_HEADER_LEN at hi; unfold TCP_SRC_PORT_H_P; omega)
    rw [hsame]
    exact h.sum

/-- What is written behind the version leaves the addresses. -/
theorem Sourced.put (h : Sourced mac e.buffer) {off : Nat} (hoff : IP_HEADER_LEN_VER_P < off) (xs : List Byte) :
    Sourced mac (e.put off xs).buffer :=
  h.congr fun _ _ hi => Buffer.get_write_of_not_mem (Or.inl (by omega))

/-- What is written behind the header leaves it. -/
theorem Headed.put (h : Headed mac proto total e.buffer) {off : Nat} (hoff : TCP_SRC_PORT_H_P ≤ off) (xs : List Byte) :
    Headed mac proto total (e.put off xs).buffer :=
  h.congr fun _ hi => Buffer.get_write_of_not_mem (Or.inl (by omega))

/-- A checksum behind the header leaves it. -/
theorem Headed.fillChecksum (h : Headed mac proto total e.buffer) {dest : Nat} (hdest : TCP_SRC_PORT_H_P ≤ dest) (off len type : Nat) :
    Headed mac proto total (fillChecksum dest off len type e).buffer := h.put hdest _

/-- The header is finished by its checksum. -/
theorem Sourced.fillIpHdrChecksum (h : Sourced mac e.buffer) :
    Headed mac (e.buffer.get IP_PROTO_P) (e.buffer.word IP_TOTLEN_H_P) (fillIpHdrChecksum e).buffer := by
  have hkept : ∀ i, i < IP_FLAGS_P ∨ i = IP_PROTO_P → (EtherHouse.fillIpHdrChecksum e).buffer.get i = e.buffer.get i := by
    intro i hi
    unfold IP_FLAGS_P IP_PROTO_P at hi
    unfold EtherHouse.fillIpHdrChecksum
    dsimp only
    rw [fillChecksum_eq]
    unfold Ether.put IP_CHECKSUM_P IP_FLAGS_P IP_TTL_P
    iterate 4 rw [Buffer.get_write_of_not_mem (by simp only [List.length_cons, List.length_nil]; omega)]
  refine { toSourced := h.congr fun i _ hi => hkept i (Or.inl ?_), proto := hkept _ (Or.inr rfl), total := ?_, sum := ?_ }
  · unfold IP_HEADER_LEN_VER_P at hi
    unfold IP_FLAGS_P
    omega
  · exact word_congr (hkept _ (by decide)) (hkept _ (by decide))
  · have hzero : (((e.put IP_CHECKSUM_P [0, 0]).put IP_FLAGS_P [0x40, 0]).put IP_TTL_P [64]).buffer.word IP_CHECKSUM_P = 0 := by
      have hword : (e.put IP_CHECKSUM_P [0, 0]).buffer.word IP_CHECKSUM_P = 0 := word_put e (by decide) 0 0
      refine (word_congr ?_ ?_).trans hword
      · exact (Buffer.get_write_of_not_mem (Or.inr (by decide))).trans (Buffer.get_write_of_not_mem (Or.inr (by decide)))
      · exact (Buffer.get_write_of_not_mem (Or.inr (by decide))).trans (Buffer.get_write_of_not_mem (Or.inr (by decide)))
    have hsum := fillChecksum_sum 0 _ (show IP_P ≤ IP_CHECKSUM_P by decide) (by decide) (show IP_CHECKSUM_P + 2 ≤ IP_P + IP_HEADER_LEN by decide)
      (by decide) (by decide) hzero
    rwa [show pseudoSum IP_HEADER_LEN 0 = 0 from rfl, Nat.zero_add] at hsum

/-! ### Setting up -/

/-- The source is the device's link address. -/
theorem source_setMACs (dstMac : Mac) (e : Ether) : (setMACs dstMac e).buffer.slice ETH_SRC_MAC 6 = e.cfg.mymac.toList :=
  slice_put _ Vector.length_toList.symm (by rw [Vector.length_toList]; decide)

/-- The link addresses leave what lies behind them. -/
theorem get_setMACs (dstMac : Mac) (e : Ether) {i : Nat} (hi : ETH_TYPE_H_P ≤ i) : (setMACs dstMac e).buffer.get i = e.buffer.get i := by
  unfold ETH_TYPE_H_P at hi
  unfold setMACs Ether.copyMac Ether.put ETH_DST_MAC ETH_SRC_MAC
  iterate 2 rw [Buffer.get_write_of_not_mem (Or.inr (by rw [Vector.length_toList]; omega))]

/-- The source is the device's link address here too. -/
theorem source_setMACandIPs (dstMac : Mac) (dst : Ip) (e : Ether) :
    (setMACandIPs dstMac dst e).buffer.slice ETH_SRC_MAC 6 = e.cfg.mymac.toList := by
  rw [← source_setMACs dstMac e]
  refine slice_congr fun i _ hi => ?_
  unfold ETH_SRC_MAC at hi
  unfold setMACandIPs Ether.copyIp Ether.put IP_DST_P IP_SRC_P
  iterate 2 rw [Buffer.get_write_of_not_mem (by rw [Vector.length_toList]; omega)]

/-- The start of every packet that the device makes up: addresses, type, and the first bytes of the header. -/
theorem sourced_iphdr (h : e.buffer.slice ETH_SRC_MAC 6 = mac.toList) :
    Sourced mac ((e.put ETH_TYPE_H_P [ETHTYPE_IP_H_V, ETHTYPE_IP_L_V]).put IP_P iphdr).buffer where
  source := by
    rw [slice_put_of_disjoint _ (Or.inr (by decide)), slice_put_of_disjoint _ (Or.inr (by decide))]
    exact h
  etype := by
    rw [word_put_of_disjoint _ (Or.inr (by decide))]
    exact word_put e (by decide) _ _
  version := get_put _ (by decide)

/-- The start of an answer: the frame's type and version stay those of the packet it answers. -/
theorem headed_makeEthIp (ht : e.buffer.word ETH_TYPE_H_P = 0x0800) (hv : e.buffer.get IP_HEADER_LEN_VER_P = 0x45) :
    Headed e.cfg.mymac (e.buffer.get IP_PROTO_P) (e.buffer.word IP_TOTLEN_H_P) (makeEthIp e).buffer := by
  -- the addresses are all that is written before the header is finished
  have hkept : ∀ i, ETH_TYPE_H_P ≤ i → i < IP_SRC_P →
      (((setMACs (e.buffer.mac ETH_SRC_MAC) e).copyIp IP_DST_P ((setMACs (e.buffer.mac ETH_SRC_MAC) e).buffer.ip IP_SRC_P)).copyIp
        IP_SRC_P e.cfg.myip).buffer.get i = e.buffer.get i := by
    intro i hi hsrc
    rw [← get_setMACs (e.buffer.mac ETH_SRC_MAC) e hi]
    unfold Ether.copyIp Ether.put
    iterate 2 rw [Buffer.get_write_of_not_mem (Or.inl (by unfold IP_SRC_P at hsrc; first | unfold IP_SRC_P; omega | unfold IP_DST_P; omega))]
  have hsourced : Sourced e.cfg.mymac (((setMACs (e.buffer.mac ETH_SRC_MAC) e).copyIp IP_DST_P
      ((setMACs (e.buffer.mac ETH_SRC_MAC) e).buffer.ip IP_SRC_P)).copyIp IP_SRC_P e.cfg.myip).buffer := by
    refine ⟨?_, ?_, ?_⟩
    · rw [Ether.copyIp, Ether.copyIp, slice_put_of_disjoint _ (Or.inr (by decide)), slice_put_of_disjoint _ (Or.inr (by decide))]
      exact source_setMACs _ e
    · exact (word_congr (hkept _ (by decide) (by decide)) (hkept _ (by decide) (by decide))).trans ht
    · exact (hkept _ (by decide) (by decide)).trans hv
  have hfinished := hsourced.fillIpHdrChecksum
  rw [hkept _ (by decide) (by decide), word_congr (hkept _ (by decide) (by decide)) (hkept _ (by decide) (by decide))] at hfinished
  exact hfinished

end

/-! ## What is added to the cable -/

/-- Every frame that goes out between two states satisfies `P`. -/
def Adds (P : List Byte → Prop) (e e' : Ether) : Prop := ∃ new : List Wire, e'.wire = new ++ e.wire ∧ ∀ frame, .sent frame ∈ new → P frame

section

variable {P : List Byte → Prop} {e e₁ e₂ : Ether}

/-- What sends nothing adds nothing. -/
theorem Adds.of_wire (h : e₁.wire = e.wire) : Adds P e e₁ := ⟨[], h, fun _ hf => absurd hf List.not_mem_nil⟩

/-- Nothing done adds nothing. -/
theorem Adds.refl (e : Ether) : Adds P e e := Adds.of_wire rfl

/-- What two steps add. -/
theorem Adds.trans (h₁ : Adds P e e₁) (h₂ : Adds P e₁ e₂) : Adds P e e₂ := by
  obtain ⟨new₁, hw₁, hp₁⟩ := h₁
  obtain ⟨new₂, hw₂, hp₂⟩ := h₂
  refine ⟨new₂ ++ new₁, by rw [hw₂, hw₁, List.append_assoc], fun frame hf => ?_⟩
  rcases List.mem_append.mp hf with hf | hf
  · exact hp₂ frame hf
  · exact hp₁ frame hf

/-- One frame that satisfies it. -/
theorem Adds.of_sent {frame : List Byte} (hw : e₁.wire = .sent frame :: e.wire) (h : P frame) : Adds P e e₁ := by
  refine ⟨[.sent frame], hw, fun frame' hf => ?_⟩
  obtain rfl : frame' = frame := by injection List.mem_singleton.mp hf
  exact h

/-- Sending a frame that satisfies it, when nothing else has gone out. -/
theorem Adds.send (hw : e₁.wire = e.wire) {len : Nat} (h : P (e₁.buffer.slice 0 len)) : Adds P e (packetSend len e₁) :=
  Adds.of_sent (by rw [wire_packetSend, hw]) h

/-- What is on the cable then was there, or satisfies it. -/
theorem Adds.sent (h : Adds P e e₁) {frame : List Byte} (hf : .sent frame ∈ e₁.wire) : .sent frame ∈ e.wire ∨ P frame := by
  obtain ⟨new, hw, hp⟩ := h
  rw [hw] at hf
  exact (List.mem_append.mp hf).symm.imp_right (hp frame)

/-- What a branch adds, under its condition. -/
theorem Adds.ite {c : Prop} [Decidable c] (h₁ : c → Adds P e e₁) (h₂ : ¬c → Adds P e e₂) : Adds P e (if c then e₁ else e₂) := by
  split
  · next hc => exact h₁ hc
  · next hc => exact h₂ hc

end

/-! ## Functions that send -/

section

variable {mac : Mac} {proto : Byte} {total len : Nat} {b : Buffer} {e : Ether}

/-- What follows the header is what the header says. -/
structure Transport (proto : Byte) (total len : Nat) (b : Buffer) : Prop where
  tcp : proto = IP_PROTO_TCP_V → ETH_HEADER_LEN + total = len ∧
    wrap 16 (IP_PROTO_TCP_V.toNat + (total - IP_HEADER_LEN) + sumWords (b.slice IP_SRC_P (8 + (total - IP_HEADER_LEN)))) = ones 16
  udp : proto = IP_PROTO_UDP_V → UdpPort (b.get UDP_SRC_PORT_H_P) (b.get UDP_SRC_PORT_L_P) → ETH_HEADER_LEN + total = len ∧
    b.word UDP_LEN_H_P = total - IP_HEADER_LEN ∧
    wrap 16 (IP_PROTO_UDP_V.toNat + (total - IP_HEADER_LEN) + sumWords (b.slice IP_SRC_P (8 + (total - IP_HEADER_LEN)))) = ones 16
  icmp : proto = IP_PROTO_ICMP_V → b.get ICMP_TYPE_P = ICMP_TYPE_ECHOREQUEST_V → ETH_HEADER_LEN + total = len ∧
    wrap 16 (sumWords (b.slice ICMP_TYPE_P (total - IP_HEADER_LEN))) = ones 16

/-- A finished packet, as the receiver sees it. -/
theorem OwnFrame.of_headed (h : Headed mac proto total b) (hc : Transport proto total len b) (hlen : UDP_DATA_P ≤ len)
    (hmax : len ≤ BUFFER_SIZE) : OwnFrame mac (b.slice 0 len) := by
  unfold UDP_DATA_P at hlen
  have hword : ∀ i, i + 2 ≤ 42 → wordAt (b.slice 0 len) i = b.word i := fun i hi => wordAt_slice b (by omega)
  have hbyte : ∀ i, i < 42 → (b.slice 0 len).getD i 0 = b.get i := fun i hi => by
    rw [Buffer.getD_slice b 0 (by omega), Nat.zero_add]
  have htotal : wordAt (b.slice 0 len) IP_TOTLEN_H_P = total := (hword _ (by decide)).trans h.total
  have hproto : (b.slice 0 len).getD IP_PROTO_P 0 = proto := (hbyte _ (by decide)).trans h.proto
  have hfills : ETH_HEADER_LEN + total = len → Fills (b.slice 0 len) := fun hf => by rw [Fills, htotal, Buffer.length_slice, hf]
  have hcut : ∀ off n, ETH_HEADER_LEN + total = len → off + n ≤ ETH_HEADER_LEN + total → field (b.slice 0 len) off n = b.slice off n :=
    fun off n hf hin => field_slice b (hf ▸ hin)
  refine ⟨by rwa [Buffer.length_slice], ?_, Or.inr ?_⟩
  · rw [field_slice b (by unfold ETH_SRC_MAC; omega)]
    exact h.source
  constructor
  case etype => exact (hword _ (by decide)).trans h.etype
  case version => exact (hbyte _ (by decide)).trans h.version
  case header =>
    rw [HeaderVerifies, field_slice b (by unfold IP_P IP_HEADER_LEN; omega)]
    exact h.sum
  case tcp =>
    intro hp
    obtain ⟨hf, hsum⟩ := hc.tcp (hproto.symm.trans hp)
    refine ⟨hfills hf, ?_⟩
    rw [SegmentVerifies, payloadLen, htotal, hcut _ _ hf (by unfold IP_SRC_P IP_HEADER_LEN; unfold ETH_HEADER_LEN at hf ⊢; omega)]
    exact hsum
  case udp =>
    intro hp hport
    rw [hbyte _ (by decide), hbyte _ (by decide)] at hport
    obtain ⟨hf, hl, hsum⟩ := hc.udp (hproto.symm.trans hp) hport
    refine ⟨hfills hf, ?_, ?_⟩
    · rw [hword _ (by decide), payloadLen, htotal]
      exact hl
    · rw [SegmentVerifies, payloadLen, htotal, hcut _ _ hf (by unfold IP_SRC_P IP_HEADER_LEN; unfold ETH_HEADER_LEN at hf ⊢; omega)]
      exact hsum
  case icmp =>
    intro hp ht
    obtain ⟨hf, hsum⟩ := hc.icmp (hproto.symm.trans hp) ((hbyte _ (by decide)).symm.trans ht)
    refine ⟨hfills hf, ?_⟩
    rw [MessageVerifies, payloadLen, htotal, hcut _ _ hf (by unfold ICMP_TYPE_P IP_HEADER_LEN; unfold ETH_HEADER_LEN at hf ⊢; omega)]
    exact hsum

/-- A segment whose checksum has been filled in sums to all ones. -/
theorem sum_segment {n : Nat} (hzero : e.buffer.word TCP_CHECKSUM_H_P = 0) (hn : TCP_HEADER_LEN_PLAIN ≤ n) (hmax : 8 + n ≤ BUFFER_SIZE) :
    wrap 16 (IP_PROTO_TCP_V.toNat + n + sumWords ((fillChecksum TCP_CHECKSUM_H_P IP_SRC_P (8 + n) 2 e).buffer.slice IP_SRC_P (8 + n))) =
      ones 16 := by
  unfold TCP_HEADER_LEN_PLAIN at hn
  have hsum := fillChecksum_sum 2 e (show IP_SRC_P ≤ TCP_CHECKSUM_H_P by decide) (by decide)
    (show TCP_CHECKSUM_H_P + 2 ≤ IP_SRC_P + (8 + n) by unfold TCP_CHECKSUM_H_P IP_SRC_P; omega) (by decide) hmax hzero
  have hpseudo : pseudoSum (8 + n) 2 = IP_PROTO_TCP_V.toNat + n := by
    rw [pseudoSum, if_neg (by decide), if_pos rfl]
    omega
  rwa [hpseudo] at hsum

/-- A segment goes out, its checksum filled in last. Its protocol is that of the packet it answers. -/
theorem adds_segment {e₀ : Ether} (hw : e.wire = e₀.wire) {n : Nat} (h : Headed mac proto (IP_HEADER_LEN + n) e.buffer)
    (hport : AnswerPort (e.buffer.get TCP_SRC_PORT_H_P) (e.buffer.get TCP_SRC_PORT_L_P)) (hzero : e.buffer.word TCP_CHECKSUM_H_P = 0)
    (hn : TCP_HEADER_LEN_PLAIN ≤ n) (hmax : ETH_HEADER_LEN + (IP_HEADER_LEN + n) ≤ BUFFER_SIZE) :
    Adds (OwnFrame mac) e₀
      (packetSend (ETH_HEADER_LEN + (IP_HEADER_LEN + n)) (fillChecksum TCP_CHECKSUM_H_P IP_SRC_P (8 + n) 2 e)) := by
  refine Adds.send ((wire_fillChecksum e _ _ _ _).trans hw) ?_
  have hport' : AnswerPort ((fillChecksum TCP_CHECKSUM_H_P IP_SRC_P (8 + n) 2 e).buffer.get TCP_SRC_PORT_H_P)
      ((fillChecksum TCP_CHECKSUM_H_P IP_SRC_P (8 + n) 2 e).buffer.get TCP_SRC_PORT_L_P) := by
    rw [fillChecksum_eq, get_put_of_lt e (by decide), get_put_of_lt e (by decide)]
    exact hport
  refine OwnFrame.of_headed (h.fillChecksum (by decide) _ _ _) ⟨fun _ => ⟨rfl, ?_⟩, fun _ hudp => absurd hudp hport'.1,
    fun _ ht => absurd ht hport'.2⟩ ?_ hmax
  · rw [Nat.add_sub_cancel_left]
    refine sum_segment hzero hn ?_
    unfold ETH_HEADER_LEN IP_HEADER_LEN at hmax
    omega
  · unfold TCP_HEADER_LEN_PLAIN at hn
    unfold UDP_DATA_P ETH_HEADER_LEN IP_HEADER_LEN
    omega

end

end EtherHouse
