import EtherHouse.Net.Packet

/-!
# Building frames

Each function that builds a frame and sends it, split where the header and the checksums are done: what it sends is the device's own
frame, whatever the buffer held before.
-/

namespace EtherHouse

open OnesComplement

section

variable {mac : Mac} {proto : Byte} {total : Nat} {b : Buffer} {e : Ether}

/-! ## TCP -/

/-- `step_seq` writes the sequence numbers. -/
theorem get_stepSeqLoop {i : Nat} (hi : i < TCP_SEQ_H_P ∨ TCP_HEADER_LEN_P ≤ i) (cpSeq : Bool) {n : Nat} (hn : n ≤ 4) (relAckNum : Nat)
    (e : Ether) : (stepSeqLoop cpSeq n relAckNum e).buffer.get i = e.buffer.get i := by
  unfold TCP_SEQ_H_P TCP_HEADER_LEN_P at hi
  induction n generalizing relAckNum e with
  | zero => rfl
  | succ n ih =>
    rw [stepSeqLoop, ih (by omega)]
    unfold Ether.put
    iterate 2 rw [Buffer.get_write_of_not_mem (by
      simp only [TCP_SEQ_H_P, TCP_SEQACK_H_P, List.length_cons, List.length_nil]
      omega)]

/-- A TCP header leaves what lies in front of it. -/
theorem get_makeTcphead {i : Nat} (hi : i < TCP_SRC_PORT_H_P) (relAckNum : Nat) (cpSeq : Bool) (e : Ether) :
    (makeTcphead relAckNum cpSeq e).buffer.get i = e.buffer.get i := by
  unfold TCP_SRC_PORT_H_P at hi
  unfold makeTcphead stepSeq
  dsimp only
  rw [get_put_of_lt _ (by unfold TCP_HEADER_LEN_P; omega), get_put_of_lt _ (by unfold TCP_CHECKSUM_H_P; omega),
    get_stepSeqLoop (Or.inl (by unfold TCP_SEQ_H_P; omega)) _ le_rfl, get_put_of_lt _ (by unfold TCP_SRC_PORT_L_P; omega),
    get_put_of_lt _ (by unfold TCP_DST_PORT_L_P; omega), get_put_of_lt _ (by unfold TCP_SRC_PORT_H_P; omega),
    get_put_of_lt _ (by unfold TCP_DST_PORT_H_P; omega)]

/-- `make_tcphead` swaps the ports. -/
theorem port_makeTcphead (relAckNum : Nat) (cpSeq : Bool) (e : Ether) :
    (makeTcphead relAckNum cpSeq e).buffer.get TCP_SRC_PORT_H_P = e.buffer.get TCP_DST_PORT_H_P ∧
      (makeTcphead relAckNum cpSeq e).buffer.get TCP_SRC_PORT_L_P = e.buffer.get TCP_DST_PORT_L_P := by
  have hthrough : ∀ i e, i < TCP_SEQ_H_P → (((stepSeq relAckNum cpSeq e).put TCP_CHECKSUM_H_P [0, 0]).put TCP_HEADER_LEN_P
      [0x50]).buffer.get i = e.buffer.get i := by
    intro i e hi
    rw [get_put_of_lt _ (lt_trans hi (by decide)), get_put_of_lt _ (lt_trans hi (by decide)), stepSeq,
      get_stepSeqLoop (Or.inl hi) _ le_rfl]
  unfold makeTcphead
  dsimp only
  rw [hthrough _ _ (by decide), hthrough _ _ (by decide)]
  constructor
  · rw [get_put_one_of_ne _ (by decide), get_put_one_of_ne _ (by decide), get_put_one _ (by decide)]
    rfl
  · rw [get_put_one _ (by decide), Ether.gPB, get_put_one_of_ne _ (by decide), get_put_one_of_ne _ (by decide)]

/-- `make_tcphead` clears the checksum. -/
theorem word_makeTcphead (relAckNum : Nat) (cpSeq : Bool) (e : Ether) :
    (makeTcphead relAckNum cpSeq e).buffer.word TCP_CHECKSUM_H_P = 0 := by
  unfold makeTcphead
  dsimp only
  rw [word_put_of_disjoint _ (Or.inl (by decide))]
  exact word_put _ (by decide) 0 0

/-- An IP header's checksum leaves what lies behind it. -/
theorem get_fillIpHdrChecksum {i : Nat} (hi : IP_SRC_P ≤ i) (e : Ether) : (fillIpHdrChecksum e).buffer.get i = e.buffer.get i :=
  gPB_fillIpHdrChecksum e (Or.inr hi)

/-- `make_eth_ip` leaves what is behind the header. -/
theorem get_makeEthIp {i : Nat} (hi : TCP_SRC_PORT_H_P ≤ i) (e : Ether) : (makeEthIp e).buffer.get i = e.buffer.get i := by
  unfold TCP_SRC_PORT_H_P at hi
  unfold makeEthIp
  dsimp only
  rw [get_fillIpHdrChecksum (by unfold IP_SRC_P; omega), Ether.copyIp, get_put_of_ge _ (by rw [Vector.length_toList]; unfold IP_SRC_P; omega), Ether.copyIp,
    get_put_of_ge _ (by rw [Vector.length_toList]; unfold IP_DST_P; omega), get_setMACs _ _ (by unfold ETH_TYPE_H_P; omega)]

/-- Turning a packet round leaves what it carries. -/
theorem word_makeEthIp {i : Nat} (hi : TCP_SRC_PORT_H_P ≤ i) (e : Ether) : (makeEthIp e).buffer.word i = e.buffer.word i :=
  word_congr (get_makeEthIp hi e) (get_makeEthIp (le_trans hi (Nat.le_succ i)) e)

/-- The buffer holds what the TCP side may answer: an IP packet, to a port it answers from. -/
structure Answerable (b : Buffer) : Prop where
  etype : b.word ETH_TYPE_H_P = 0x0800
  version : b.get IP_HEADER_LEN_VER_P = 0x45
  port : AnswerPort (b.get TCP_DST_PORT_H_P) (b.get TCP_DST_PORT_L_P)

/-- An answer without data, up to its checksum. -/
def ackHead (datlentoack : Nat) (addflags : Byte) (e : Ether) : Ether :=
  let datlentoack := if addflags ≠ TCP_FLAGS_RST_V ∧ datlentoack = 0 then 1 else datlentoack
  ((makeEthIp ((makeTcphead datlentoack true (e.put TCP_FLAGS_P [TCP_FLAGS_ACK_V ||| addflags])).put IP_TOTLEN_H_P
    [hi (IP_HEADER_LEN + TCP_HEADER_LEN_PLAIN), lo (IP_HEADER_LEN + TCP_HEADER_LEN_PLAIN)])).put TCP_WIN_SIZE [0x4, 0])

/-- An acknowledgment is a head with its checksum. -/
theorem makeTcpAckFromAny_eq (datlentoack : Nat) (addflags : Byte) (e : Ether) : makeTcpAckFromAny datlentoack addflags e =
    packetSend (ETH_HEADER_LEN + (IP_HEADER_LEN + TCP_HEADER_LEN_PLAIN))
      (fillChecksum TCP_CHECKSUM_H_P IP_SRC_P (8 + TCP_HEADER_LEN_PLAIN) 2 (ackHead datlentoack addflags e)) := rfl

/-- The head has sent nothing. -/
theorem wire_ackHead (datlentoack : Nat) (addflags : Byte) (e : Ether) : (ackHead datlentoack addflags e).wire = e.wire := by
  simp only [ackHead, Ether.put_wire, wire_makeEthIp, wire_makeTcphead]

/-- The head is that of an IP packet of the device's. -/
theorem headed_ackHead (h : Answerable e.buffer) (datlentoack : Nat) (addflags : Byte) :
    Headed e.cfg.mymac (e.buffer.get IP_PROTO_P) (IP_HEADER_LEN + TCP_HEADER_LEN_PLAIN) (ackHead datlentoack addflags e).buffer := by
  unfold ackHead
  dsimp only
  generalize (if addflags ≠ TCP_FLAGS_RST_V ∧ datlentoack = 0 then 1 else datlentoack) = n
  generalize hprep : (makeTcphead n true (e.put TCP_FLAGS_P [TCP_FLAGS_ACK_V ||| addflags])).put IP_TOTLEN_H_P
    [hi (IP_HEADER_LEN + TCP_HEADER_LEN_PLAIN), lo (IP_HEADER_LEN + TCP_HEADER_LEN_PLAIN)] = e'
  have hkept : ∀ i, i < IP_TOTLEN_H_P ∨ i = IP_PROTO_P → e'.buffer.get i = e.buffer.get i := by
    intro i hi
    unfold IP_TOTLEN_H_P IP_PROTO_P at hi
    rw [← hprep, Ether.put, Buffer.get_write_of_not_mem (by
      simp only [IP_TOTLEN_H_P, List.length_cons, List.length_nil]
      omega), get_makeTcphead (by unfold TCP_SRC_PORT_H_P; omega), get_put_of_lt _ (by unfold TCP_FLAGS_P; omega)]
  have htotal : e'.buffer.word IP_TOTLEN_H_P = IP_HEADER_LEN + TCP_HEADER_LEN_PLAIN := by
    rw [← hprep, word_put _ (by decide), wordOf_hi_lo (by decide)]
  have hcfg : e'.cfg = e.cfg := by rw [← hprep, Ether.put_cfg, cfg_of_statics (statics_makeTcphead _ _ _), Ether.put_cfg]
  have hdone := headed_makeEthIp (e := e') ((word_congr (hkept _ (by decide)) (hkept _ (by decide))).trans h.etype)
    ((hkept _ (by decide)).trans h.version)
  rw [hcfg, hkept _ (Or.inr rfl), htotal] at hdone
  exact hdone.put (by decide) _

/-- Its checksum starts from zero. -/
theorem word_ackHead (datlentoack : Nat) (addflags : Byte) (e : Ether) :
    (ackHead datlentoack addflags e).buffer.word TCP_CHECKSUM_H_P = 0 := by
  unfold ackHead
  dsimp only
  rw [word_put_of_disjoint _ (Or.inl (by decide)), word_makeEthIp (by decide), word_put_of_disjoint _ (Or.inl (by decide))]
  exact word_makeTcphead _ true _

/-- An answer goes back to the port it came from. -/
theorem port_ackHead (datlentoack : Nat) (addflags : Byte) (e : Ether) :
    (ackHead datlentoack addflags e).buffer.get TCP_SRC_PORT_H_P = e.buffer.get TCP_DST_PORT_H_P ∧
      (ackHead datlentoack addflags e).buffer.get TCP_SRC_PORT_L_P = e.buffer.get TCP_DST_PORT_L_P := by
  have hthrough : ∀ i, TCP_SRC_PORT_H_P ≤ i → i < TCP_WIN_SIZE → (ackHead datlentoack addflags e).buffer.get i =
      (makeTcphead (if addflags ≠ TCP_FLAGS_RST_V ∧ datlentoack = 0 then 1 else datlentoack) true
        (e.put TCP_FLAGS_P [TCP_FLAGS_ACK_V ||| addflags])).buffer.get i := by
    intro i hi hwin
    unfold ackHead
    dsimp only
    rw [get_put_of_lt _ hwin, get_makeEthIp hi, get_put_of_ge _ (le_trans (by decide) hi)]
  obtain ⟨hh, hl⟩ := port_makeTcphead (if addflags ≠ TCP_FLAGS_RST_V ∧ datlentoack = 0 then 1 else datlentoack) true
    (e.put TCP_FLAGS_P [TCP_FLAGS_ACK_V ||| addflags])
  rw [hthrough _ (by decide) (by decide), hthrough _ (by decide) (by decide), hh, hl, get_put_of_lt _ (by decide),
    get_put_of_lt _ (by decide)]
  exact ⟨rfl, rfl⟩

/-- What an acknowledgment sends is the device's. -/
theorem adds_makeTcpAckFromAny (h : Answerable e.buffer) (datlentoack : Nat) (addflags : Byte) :
    Adds (OwnFrame e.cfg.mymac) e (makeTcpAckFromAny datlentoack addflags e) := by
  rw [makeTcpAckFromAny_eq]
  refine adds_segment (wire_ackHead _ _ e) (headed_ackHead h _ _) ?_ (word_ackHead _ _ e) le_rfl (by decide)
  rw [(port_ackHead _ _ e).1, (port_ackHead _ _ e).2]
  exact h.port

/-- So is what goes out with data behind it. -/
theorem adds_makeTcpAckWithDataNoflags (h : Sourced mac e.buffer) (hport : AnswerPort (e.buffer.get TCP_SRC_PORT_H_P) (e.buffer.get TCP_SRC_PORT_L_P))
    {dlen : Nat} (hmax : TCP_OPTIONS_P + dlen ≤ BUFFER_SIZE) : Adds (OwnFrame mac) e (makeTcpAckWithDataNoflags dlen e) := by
  have hlen : IP_HEADER_LEN + TCP_HEADER_LEN_PLAIN + dlen < 65536 := by
    unfold TCP_OPTIONS_P BUFFER_SIZE at hmax
    unfold IP_HEADER_LEN TCP_HEADER_LEN_PLAIN
    omega
  have hput := h.put (show IP_HEADER_LEN_VER_P < IP_TOTLEN_H_P by decide)
    [hi (IP_HEADER_LEN + TCP_HEADER_LEN_PLAIN + dlen), lo (IP_HEADER_LEN + TCP_HEADER_LEN_PLAIN + dlen)]
  have hdone := hput.fillIpHdrChecksum
  rw [word_put e (by decide), wordOf_hi_lo hlen, Nat.add_assoc] at hdone
  have hframe : IP_HEADER_LEN + TCP_HEADER_LEN_PLAIN + dlen + ETH_HEADER_LEN =
      ETH_HEADER_LEN + (IP_HEADER_LEN + (TCP_HEADER_LEN_PLAIN + dlen)) := by omega
  unfold makeTcpAckWithDataNoflags
  dsimp only
  rw [hframe, Nat.add_assoc 8, Nat.add_assoc IP_HEADER_LEN]
  refine adds_segment ?_ (hdone.put (by decide) [0, 0]) ?_ (word_put _ (by decide) 0 0) (Nat.le_add_right _ _) ?_
  · rw [Ether.put_wire, wire_fillIpHdrChecksum, Ether.put_wire]
  · rw [get_put_of_lt _ (by decide), get_put_of_lt _ (by decide), get_fillIpHdrChecksum (by decide), get_fillIpHdrChecksum (by decide),
      get_put_of_ge _ (show IP_TOTLEN_H_P + 2 ≤ TCP_SRC_PORT_H_P by decide),
      get_put_of_ge _ (show IP_TOTLEN_H_P + 2 ≤ TCP_SRC_PORT_L_P by decide)]
    exact hport
  · unfold TCP_OPTIONS_P at hmax
    unfold ETH_HEADER_LEN IP_HEADER_LEN TCP_HEADER_LEN_PLAIN
    omega

/-- The header of a packet that the device makes up. -/
def ipHead (dst : Ip) (proto l : Byte) (e : Ether) : Ether :=
  fillIpHdrChecksum (((((setMACandIPs (routeMac e dst) dst e).put ETH_TYPE_H_P [ETHTYPE_IP_H_V, ETHTYPE_IP_L_V]).put IP_P iphdr).put
    IP_TOTLEN_L_P [l]).put IP_PROTO_P [proto])

/-- A header of the device's own making has sent nothing. -/
theorem wire_ipHead (dst : Ip) (proto l : Byte) (e : Ether) : (ipHead dst proto l e).wire = e.wire := by
  rw [ipHead, wire_fillIpHdrChecksum, Ether.put_wire, Ether.put_wire, Ether.put_wire, Ether.put_wire, wire_setMACandIPs]

/-- It is that of an IP packet of the device's. -/
theorem headed_ipHead (dst : Ip) (proto l : Byte) (e : Ether) : Headed e.cfg.mymac proto l.toNat (ipHead dst proto l e).buffer := by
  have h := source_setMACandIPs (routeMac e dst) dst e
  unfold ipHead
  generalize setMACandIPs (routeMac e dst) dst e = g at h
  have hdone := (((sourced_iphdr h).put (show IP_HEADER_LEN_VER_P < IP_TOTLEN_L_P by decide) [l]).put
    (show IP_HEADER_LEN_VER_P < IP_PROTO_P by decide) [proto]).fillIpHdrChecksum
  have htotal : ((((g.put ETH_TYPE_H_P [ETHTYPE_IP_H_V, ETHTYPE_IP_L_V]).put IP_P iphdr).put IP_TOTLEN_L_P [l]).put
      IP_PROTO_P [proto]).buffer.word IP_TOTLEN_H_P = l.toNat := by
    have hhigh : ((g.put ETH_TYPE_H_P [ETHTYPE_IP_H_V, ETHTYPE_IP_L_V]).put IP_P iphdr).buffer.get IP_TOTLEN_H_P = 0 :=
      get_put _ (by decide)
    rw [Buffer.word, get_put_one_of_ne _ (by decide), get_put_one_of_ne _ (by decide), get_put_one_of_ne _ (by decide), hhigh,
      show IP_TOTLEN_H_P + 1 = IP_TOTLEN_L_P from rfl, get_put_one _ (by decide)]
    exact (congrArg (· + l.toNat) (Nat.zero_mul 256)).trans (Nat.zero_add _)
  rw [get_put_one _ (by decide), htotal] at hdone
  exact hdone

/-- A SYN, up to its checksum, over the finished header. -/
def synBody (srcport dstportH dstportL seqnum : Byte) (e : Ether) : Ether :=
  (((((((e.put TCP_DST_PORT_H_P [dstportH, dstportL]).put TCP_SRC_PORT_H_P [TCPCLIENT_SRC_PORT_H, srcport]).put TCP_SEQ_H_P
    [0, 0, seqnum, 0, 0, 0, 0, 0]).put TCP_HEADER_LEN_P [0x60]).put TCP_FLAGS_P [TCP_FLAGS_SYN_V]).put TCP_WIN_SIZE [0x3, 0x0]).put
    TCP_CHECKSUM_H_P [0, 0, 0, 0]).put TCP_OPTIONS_P [2, 4, hi CLIENTMSS.toNat, lo CLIENTMSS.toNat]

/-- A SYN is a header, its body and a checksum. -/
theorem clientSyn_eq (srcport dstportH dstportL : Byte) (e : Ether) : clientSyn srcport dstportH dstportL e =
    packetSend (ETH_HEADER_LEN + (IP_HEADER_LEN + (TCP_HEADER_LEN_PLAIN + 4))) (fillChecksum TCP_CHECKSUM_H_P IP_SRC_P
      (8 + (TCP_HEADER_LEN_PLAIN + 4)) 2 (synBody srcport dstportH dstportL (ipHead e.cfg.hisip IP_PROTO_TCP_V 44 e).tcp.seqnum
        { ipHead e.cfg.hisip IP_PROTO_TCP_V 44 e with tcp :=
          { (ipHead e.cfg.hisip IP_PROTO_TCP_V 44 e).tcp with seqnum := (ipHead e.cfg.hisip IP_PROTO_TCP_V 44 e).tcp.seqnum + 3 } })) := rfl

/-- The body leaves the header. -/
theorem Headed.synBody (h : Headed mac proto total e.buffer) (srcport dstportH dstportL seqnum : Byte) :
    Headed mac proto total (synBody srcport dstportH dstportL seqnum e).buffer :=
  (((((((h.put (by decide) _).put (by decide) _).put (by decide) _).put (by decide) _).put (by decide) _).put (by decide) _).put
    (by decide) _).put (by decide) _

/-- Its checksum starts from zero. -/
theorem word_synBody (srcport dstportH dstportL seqnum : Byte) (e : Ether) :
    (EtherHouse.synBody srcport dstportH dstportL seqnum e).buffer.word TCP_CHECKSUM_H_P = 0 := by
  have hclear : ∀ e : Ether, (e.put TCP_CHECKSUM_H_P [0, 0, 0, 0]).buffer.word TCP_CHECKSUM_H_P = 0 := by
    intro e
    rw [Buffer.word, get_put e (by decide), get_put e (by decide)]
    rfl
  unfold EtherHouse.synBody
  rw [word_put_of_disjoint _ (Or.inr (by decide)), hclear]

/-- It comes from the client's ports. -/
theorem port_synBody (srcport dstportH dstportL seqnum : Byte) (e : Ether) :
    (EtherHouse.synBody srcport dstportH dstportL seqnum e).buffer.get TCP_SRC_PORT_H_P = TCPCLIENT_SRC_PORT_H := by
  unfold EtherHouse.synBody
  iterate 6 rw [get_put_of_lt _ (by decide)]
  rw [get_put _ (show _ ∧ _ < TCP_SRC_PORT_H_P + 2 ∧ _ by decide)]
  rfl

/-- The client's ports are such ports. -/
theorem answerPort_client {h l : Byte} (hh : h = TCPCLIENT_SRC_PORT_H) : AnswerPort h l := by
  subst hh
  refine ⟨?_, by decide⟩
  rintro (hp | hp)
  · have : TCPCLIENT_SRC_PORT_H.toNat = 11 := rfl
    unfold wordOf DHCP_DEST_PORT at hp
    omega
  · exact absurd hp (by decide)

/-- What a SYN sends is the device's. -/
theorem adds_clientSyn (srcport dstportH dstportL : Byte) (e : Ether) :
    Adds (OwnFrame e.cfg.mymac) e (clientSyn srcport dstportH dstportL e) := by
  have hhead : Headed e.cfg.mymac IP_PROTO_TCP_V (IP_HEADER_LEN + (TCP_HEADER_LEN_PLAIN + 4)) (ipHead e.cfg.hisip IP_PROTO_TCP_V 44 e).buffer :=
    headed_ipHead e.cfg.hisip IP_PROTO_TCP_V 44 e
  have hwire := wire_ipHead e.cfg.hisip IP_PROTO_TCP_V 44 e
  rw [clientSyn_eq]
  generalize ipHead e.cfg.hisip IP_PROTO_TCP_V 44 e = g at hhead hwire
  refine adds_segment ?_ (Headed.synBody hhead _ _ _ _) ?_ (word_synBody _ _ _ _ _) (by decide) (by decide)
  · exact hwire
  · exact answerPort_client (port_synBody _ _ _ _ _)

/-- The header of a SYN-ACK. -/
def synackHead (e : Ether) : Ether := makeEthIp (e.put IP_TOTLEN_H_P [0, lo (IP_HEADER_LEN + TCP_HEADER_LEN_PLAIN + 4)])

/-- Its ports and numbers, over the finished header. -/
def synackPorts (e : Ether) : Ether := makeTcphead 1 false (e.put TCP_FLAGS_P [TCP_FLAGS_SYNACK_V])

/-- The rest, up to its checksum. -/
def synackTail (e : Ether) : Ether :=
  ((e.put TCP_OPTIONS_P [2, 4, 0x05, 0x0]).put TCP_HEADER_LEN_P [0x60]).put TCP_WIN_SIZE [0x5, 0x78]

/-- A SYN-ACK is a head, ports, a number, its tail and a checksum. -/
theorem makeTcpSynackFromSyn_eq (e : Ether) : makeTcpSynackFromSyn e =
    packetSend (ETH_HEADER_LEN + (IP_HEADER_LEN + (TCP_HEADER_LEN_PLAIN + 4))) (fillChecksum TCP_CHECKSUM_H_P IP_SRC_P
      (8 + (TCP_HEADER_LEN_PLAIN + 4)) 2 (synackTail { (synackPorts (synackHead e)).put TCP_SEQ_H_P
        [0, 0, (synackPorts (synackHead e)).tcp.seqnum, 0] with
          tcp := { (synackPorts (synackHead e)).tcp with seqnum := (synackPorts (synackHead e)).tcp.seqnum + 3 } })) := rfl

/-- The head is that of an IP packet of the device's. -/
theorem headed_synackHead (h : Answerable e.buffer) :
    Headed e.cfg.mymac (e.buffer.get IP_PROTO_P) (IP_HEADER_LEN + (TCP_HEADER_LEN_PLAIN + 4)) (synackHead e).buffer := by
  have hkept : ∀ i, i < IP_TOTLEN_H_P ∨ i = IP_PROTO_P → (e.put IP_TOTLEN_H_P
      [0, lo (IP_HEADER_LEN + TCP_HEADER_LEN_PLAIN + 4)]).buffer.get i = e.buffer.get i := by
    intro i hi
    unfold IP_TOTLEN_H_P IP_PROTO_P at hi
    refine Buffer.get_write_of_not_mem ?_
    simp only [IP_TOTLEN_H_P, List.length_cons, List.length_nil]
    omega
  have hdone := headed_makeEthIp ((word_congr (hkept _ (by decide)) (hkept _ (by decide))).trans h.etype)
    ((hkept _ (by decide)).trans h.version)
  rw [hkept _ (Or.inr rfl), word_put e (by decide)] at hdone
  exact hdone

/-- The ports leave it. -/
theorem headed_synackPorts (h : Headed mac proto total e.buffer) : Headed mac proto total (synackPorts e).buffer :=
  h.congr fun i hi => by rw [synackPorts, get_makeTcphead hi, get_put_of_lt _ (lt_trans hi (by decide))]

/-- The ports are those that the SYN was for. -/
theorem port_synackPorts (h : Answerable e.buffer) : AnswerPort ((synackPorts (synackHead e)).buffer.get TCP_SRC_PORT_H_P)
    ((synackPorts (synackHead e)).buffer.get TCP_SRC_PORT_L_P) := by
  obtain ⟨hh, hl⟩ := port_makeTcphead 1 false ((synackHead e).put TCP_FLAGS_P [TCP_FLAGS_SYNACK_V])
  rw [synackPorts, hh, hl, get_put_of_lt _ (by decide), get_put_of_lt _ (by decide), synackHead, get_makeEthIp (by decide),
    get_makeEthIp (by decide), get_put_of_ge _ (by decide), get_put_of_ge _ (by decide)]
  exact h.port

/-- Nothing has been sent by then. -/
theorem wire_synackPorts (e : Ether) : (synackPorts (synackHead e)).wire = e.wire := by
  rw [synackPorts, wire_makeTcphead, Ether.put_wire, synackHead, wire_makeEthIp, Ether.put_wire]

/-- A SYN-ACK goes out, its ports and the header being done. -/
theorem adds_synackTail {e₀ : Ether} (hw : e.wire = e₀.wire) (h : Headed mac proto (IP_HEADER_LEN + (TCP_HEADER_LEN_PLAIN + 4)) e.buffer)
    (hport : AnswerPort (e.buffer.get TCP_SRC_PORT_H_P) (e.buffer.get TCP_SRC_PORT_L_P)) (hzero : e.buffer.word TCP_CHECKSUM_H_P = 0) :
    Adds (OwnFrame mac) e₀ (packetSend (ETH_HEADER_LEN + (IP_HEADER_LEN + (TCP_HEADER_LEN_PLAIN + 4)))
      (fillChecksum TCP_CHECKSUM_H_P IP_SRC_P (8 + (TCP_HEADER_LEN_PLAIN + 4)) 2 (synackTail e))) := by
  have hhead : Headed mac proto (IP_HEADER_LEN + (TCP_HEADER_LEN_PLAIN + 4)) (synackTail e).buffer :=
    ((h.put (by decide) _).put (by decide) _).put (by decide) _
  have hkept : ∀ i < TCP_HEADER_LEN_P, (synackTail e).buffer.get i = e.buffer.get i := by
    intro i hi
    rw [synackTail, get_put_of_lt _ (lt_trans hi (by decide)), get_put_of_lt _ hi, get_put_of_lt _ (lt_trans hi (by decide))]
  have hzero' : (synackTail e).buffer.word TCP_CHECKSUM_H_P = 0 := by
    rw [synackTail, word_put_of_disjoint _ (Or.inl (by decide)), word_put_of_disjoint _ (Or.inl (by decide)),
      word_put_of_disjoint _ (Or.inr (by decide)), hzero]
  refine adds_segment ?_ hhead ?_ hzero' (by decide) (by decide)
  · exact hw
  · rw [hkept _ (by decide), hkept _ (by decide)]
    exact hport

/-- What a SYN-ACK sends is the device's. -/
theorem adds_makeTcpSynackFromSyn (h : Answerable e.buffer) : Adds (OwnFrame e.cfg.mymac) e (makeTcpSynackFromSyn e) := by
  have hhead := headed_synackPorts (headed_synackHead h)
  have hport := port_synackPorts h
  have hzero : (synackPorts (synackHead e)).buffer.word TCP_CHECKSUM_H_P = 0 := word_makeTcphead _ _ _
  have hwire := wire_synackPorts e
  rw [makeTcpSynackFromSyn_eq]
  generalize synackPorts (synackHead e) = g at hhead hport hzero hwire
  refine adds_synackTail ?_ (hhead.put (show TCP_SRC_PORT_H_P ≤ TCP_SEQ_H_P by decide) [0, 0, g.tcp.seqnum, 0]) ?_ ?_
  · exact hwire
  · change AnswerPort ((g.put TCP_SEQ_H_P [0, 0, g.tcp.seqnum, 0]).buffer.get TCP_SRC_PORT_H_P)
      ((g.put TCP_SEQ_H_P [0, 0, g.tcp.seqnum, 0]).buffer.get TCP_SRC_PORT_L_P)
    rw [get_put_of_lt _ (by decide), get_put_of_lt _ (by decide)]
    exact hport
  · change (g.put TCP_SEQ_H_P [0, 0, g.tcp.seqnum, 0]).buffer.word TCP_CHECKSUM_H_P = 0
    rw [word_put_of_disjoint _ (Or.inl (show TCP_SEQ_H_P + 4 ≤ TCP_CHECKSUM_H_P by decide))]
    exact hzero

/-! ## ICMP -/

/-- An echo request, up to its checksum, over the finished header. -/
def echoBody (e : Ether) : Ether :=
  (((e.put ICMP_TYPE_P [ICMP_TYPE_ECHOREQUEST_V, 0]).put ICMP_CHECKSUM_H_P [0, 0]).put ICMP_IDENT_H_P [5, e.cfg.myip.get 3, 0, 1]).put
    ICMP_DATA_P (List.replicate 56 PINGPATTERN)

/-- An echo request is a header, its body and a checksum. -/
theorem clientIcmpRequest_eq (destip : Ip) (e : Ether) : clientIcmpRequest destip e =
    packetSend 98 (fillChecksum ICMP_CHECKSUM_H_P ICMP_TYPE_P (56 + 8) 0 (echoBody (ipHead destip IP_PROTO_ICMP_V 0x54 e))) := rfl

/-- The body has sent nothing. -/
theorem wire_echoBody (e : Ether) : (echoBody e).wire = e.wire := rfl

/-- Its checksum starts from zero. -/
theorem word_echoBody (e : Ether) : (echoBody e).buffer.word ICMP_CHECKSUM_H_P = 0 := by
  rw [echoBody, word_put_of_disjoint _ (Or.inr (by decide)), word_put_of_disjoint _ (Or.inr (by decide))]
  exact word_put _ (by decide) 0 0

/-- What an echo request sends is the device's. -/
theorem adds_clientIcmpRequest (destip : Ip) (e : Ether) : Adds (OwnFrame e.cfg.mymac) e (clientIcmpRequest destip e) := by
  have hhead := headed_ipHead destip IP_PROTO_ICMP_V 0x54 e
  have hwire := wire_ipHead destip IP_PROTO_ICMP_V 0x54 e
  rw [clientIcmpRequest_eq]
  generalize ipHead destip IP_PROTO_ICMP_V 0x54 e = g at hhead hwire
  have hbody : Headed e.cfg.mymac IP_PROTO_ICMP_V 84 (echoBody g).buffer :=
    (((hhead.put (by decide) _).put (by decide) _).put (by decide) _).put (by decide) _
  have hsum := fillChecksum_sum 0 (echoBody g) (show ICMP_TYPE_P ≤ ICMP_CHECKSUM_H_P by decide) (by decide)
    (show ICMP_CHECKSUM_H_P + 2 ≤ ICMP_TYPE_P + (56 + 8) by decide) (by decide) (by decide) (word_echoBody g)
  rw [show pseudoSum (56 + 8) 0 = 0 from rfl, Nat.zero_add] at hsum
  have htransport : Transport IP_PROTO_ICMP_V 84 98 (fillChecksum ICMP_CHECKSUM_H_P ICMP_TYPE_P (56 + 8) 0 (echoBody g)).buffer :=
    ⟨fun hp => absurd hp (by decide), fun hp => absurd hp (by decide), fun _ _ => ⟨rfl, hsum⟩⟩
  have hframe := OwnFrame.of_headed (hbody.fillChecksum (by decide) _ _ _) htransport (by decide) (by decide)
  refine Adds.send ?_ hframe
  rw [wire_fillChecksum, wire_echoBody, hwire]

/-- An echo reply: its message is the request's, with another type and the checksum moved on. -/
theorem adds_makeEchoReplyFromRequest (ht : e.buffer.word ETH_TYPE_H_P = 0x0800) (hv : e.buffer.get IP_HEADER_LEN_VER_P = 0x45)
    (hp : e.buffer.get IP_PROTO_P = IP_PROTO_ICMP_V) {len : Nat} (hlen : UDP_DATA_P ≤ len) (hmax : len ≤ BUFFER_SIZE) :
    Adds (OwnFrame e.cfg.mymac) e (makeEchoReplyFromRequest len e) := by
  have hhead := headed_makeEthIp ht hv
  have hwire := wire_makeEthIp e
  rw [hp] at hhead
  unfold makeEchoReplyFromRequest
  dsimp only
  generalize makeEthIp e = g at hhead hwire
  have hreply : Headed e.cfg.mymac IP_PROTO_ICMP_V (e.buffer.word IP_TOTLEN_H_P) (g.put ICMP_TYPE_P [ICMP_TYPE_ECHOREPLY_V]).buffer :=
    hhead.put le_rfl _
  have htype : (g.put ICMP_TYPE_P [ICMP_TYPE_ECHOREPLY_V]).buffer.get ICMP_TYPE_P = ICMP_TYPE_ECHOREPLY_V := get_put_one _ (by decide) _
  have hwire' : (g.put ICMP_TYPE_P [ICMP_TYPE_ECHOREPLY_V]).wire = e.wire := hwire
  generalize g.put ICMP_TYPE_P [ICMP_TYPE_ECHOREPLY_V] = g at hreply htype hwire'
  have hsend : ∀ g : Ether, g.wire = e.wire → Headed e.cfg.mymac IP_PROTO_ICMP_V (e.buffer.word IP_TOTLEN_H_P) g.buffer →
      g.buffer.get ICMP_TYPE_P = ICMP_TYPE_ECHOREPLY_V → ∀ x, Adds (OwnFrame e.cfg.mymac) e (packetSend len (g.put ICMP_CHECKSUM_P [x])) := by
    intro g hw hh ht x
    have ht' : (g.put ICMP_CHECKSUM_P [x]).buffer.get ICMP_TYPE_P = ICMP_TYPE_ECHOREPLY_V := by rw [get_put_one_of_ne _ (by decide), ht]
    have hnone : Transport IP_PROTO_ICMP_V (e.buffer.word IP_TOTLEN_H_P) len (g.put ICMP_CHECKSUM_P [x]).buffer :=
      ⟨fun h => absurd h (by decide), fun h => absurd h (by decide), fun _ h => absurd (ht'.symm.trans h) (by decide)⟩
    have hframe := OwnFrame.of_headed (hh.put (by decide) [x]) hnone hlen hmax
    have hw' : (g.put ICMP_CHECKSUM_P [x]).wire = e.wire := hw
    exact Adds.send hw' hframe
  split
  · refine hsend (g.put _ _) ?_ (hreply.put (by decide) _) ?_ _
    · exact hwire'
    · rw [get_put_one_of_ne _ (by decide), htype]
  · exact hsend _ hwire' hreply htype _

/-! ## UDP -/

/-- The buffer holds a datagram that lacks its lengths and checksums. -/
structure Prepared (mac : Mac) (b : Buffer) : Prop extends Sourced mac b where
  proto : b.get IP_PROTO_P = IP_PROTO_UDP_V
  cleared : b.word UDP_CHECKSUM_H_P = 0

/-- A prepared datagram is one by its header. -/
theorem Prepared.congr {b' : Buffer} (h : Prepared mac b) (hs : ∀ i, ETH_SRC_MAC ≤ i → i < UDP_DATA_P → b'.get i = b.get i) :
    Prepared mac b' where
  toSourced := h.toSourced.congr fun i h₁ h₂ => hs i h₁ (lt_of_le_of_lt h₂ (by decide))
  proto := (hs _ (by decide) (by decide)).trans h.proto
  cleared := (word_congr (hs _ (by decide) (by decide)) (hs _ (by decide) (by decide))).trans h.cleared

/-- The payload leaves the headers. -/
theorem Prepared.put (h : Prepared mac e.buffer) {off : Nat} (hoff : UDP_DATA_P ≤ off) (xs : List Byte) :
    Prepared mac (e.put off xs).buffer := h.congr fun _ _ hi => get_put_of_lt e (lt_of_lt_of_le hi hoff)

/-- So does another destination. -/
theorem Prepared.copyMac (h : Prepared mac e.buffer) (dstMac : Mac) : Prepared mac (e.copyMac ETH_DST_MAC dstMac).buffer :=
  h.congr fun _ hi _ => get_put_of_ge e (by rw [Vector.length_toList]; exact hi)

/-- `udpPrepare` prepares one. -/
theorem prepared_udpPrepare (sport : Nat) (dip : Ip) (dport : Nat) (e : Ether) : Prepared e.cfg.mymac (udpPrepare sport dip dport e).buffer := by
  have hsource : ∀ g : Ether, g.buffer.slice ETH_SRC_MAC 6 = e.cfg.mymac.toList → Prepared e.cfg.mymac ((((((((g.put ETH_TYPE_H_P
      [ETHTYPE_IP_H_V, ETHTYPE_IP_L_V]).put IP_P iphdr).put IP_TOTLEN_H_P [0]).put IP_PROTO_P [IP_PROTO_UDP_V]).put UDP_DST_PORT_H_P
      [hi dport, lo dport]).put UDP_SRC_PORT_H_P [hi sport, lo sport]).put UDP_LEN_H_P [0]).put UDP_CHECKSUM_H_P [0, 0]).buffer := by
    intro g hg
    have hsourced := ((((((sourced_iphdr hg).put (show _ < IP_TOTLEN_H_P by decide) [0]).put (show _ < IP_PROTO_P by decide)
      [IP_PROTO_UDP_V]).put (show _ < UDP_DST_PORT_H_P by decide) [hi dport, lo dport]).put (show _ < UDP_SRC_PORT_H_P by decide)
      [hi sport, lo sport]).put (show _ < UDP_LEN_H_P by decide) [0]).put (show _ < UDP_CHECKSUM_H_P by decide) [0, 0]
    refine ⟨hsourced, ?_, word_put _ (by decide) 0 0⟩
    iterate 4 rw [get_put_of_lt _ (by decide)]
    exact get_put_one _ (by decide) _
  unfold udpPrepare
  dsimp only
  refine hsource _ ?_
  split
  · rw [Ether.copyMac, slice_put_of_disjoint _ (Or.inl (by rw [Vector.length_toList]; decide))]
    exact source_setMACandIPs _ dip e
  · exact source_setMACandIPs _ dip e

/-- A datagram up to its checksum. -/
def datagram (datalen : Nat) (e : Ether) : Ether :=
  (fillIpHdrChecksum (e.put IP_TOTLEN_H_P [hi (IP_HEADER_LEN + UDP_HEADER_LEN + datalen), lo (IP_HEADER_LEN + UDP_HEADER_LEN + datalen)])).put
    UDP_LEN_H_P [hi (UDP_HEADER_LEN + datalen), lo (UDP_HEADER_LEN + datalen)]

/-- A datagram is its headers with a checksum. -/
theorem udpTransmit_eq (datalen : Nat) (e : Ether) : udpTransmit datalen e =
    packetSend (UDP_HEADER_LEN + IP_HEADER_LEN + ETH_HEADER_LEN + datalen)
      (fillChecksum UDP_CHECKSUM_H_P IP_SRC_P (16 + datalen) 1 (datagram datalen e)) := rfl

/-- The first of these is that of an IP packet of the device's. -/
theorem headed_datagram (h : Prepared mac e.buffer) {datalen : Nat} (hmax : datalen < 65000) :
    Headed mac IP_PROTO_UDP_V (IP_HEADER_LEN + UDP_HEADER_LEN + datalen) (datagram datalen e).buffer := by
  have hput := (h.toSourced.put (show IP_HEADER_LEN_VER_P < IP_TOTLEN_H_P by decide)
    [hi (IP_HEADER_LEN + UDP_HEADER_LEN + datalen), lo (IP_HEADER_LEN + UDP_HEADER_LEN + datalen)]).fillIpHdrChecksum
  rw [word_put e (by decide), wordOf_hi_lo (by unfold IP_HEADER_LEN UDP_HEADER_LEN; omega),
    get_put_of_ge e (show IP_TOTLEN_H_P + 2 ≤ IP_PROTO_P by decide), h.proto] at hput
  exact hput.put (by decide) _

/-- The second has the length, and a checksum that starts from zero. -/
theorem word_datagram (h : Prepared mac e.buffer) {datalen : Nat} (hmax : datalen < 65000) :
    (datagram datalen e).buffer.word UDP_LEN_H_P = UDP_HEADER_LEN + datalen ∧ (datagram datalen e).buffer.word UDP_CHECKSUM_H_P = 0 := by
  unfold datagram
  constructor
  · rw [word_put _ (by decide), wordOf_hi_lo (by unfold UDP_HEADER_LEN; omega)]
  · rw [word_put_of_disjoint _ (Or.inl (show UDP_LEN_H_P + 2 ≤ UDP_CHECKSUM_H_P by decide)),
      word_congr (get_fillIpHdrChecksum (by decide) _) (get_fillIpHdrChecksum (by decide) _),
      word_put_of_disjoint _ (Or.inl (show IP_TOTLEN_H_P + 2 ≤ UDP_CHECKSUM_H_P by decide))]
    exact h.cleared

/-- What a datagram sends is the device's. -/
theorem adds_udpTransmit (h : Prepared mac e.buffer) {datalen : Nat} (hmax : UDP_DATA_P + datalen ≤ BUFFER_SIZE) :
    Adds (OwnFrame mac) e (udpTransmit datalen e) := by
  unfold UDP_DATA_P BUFFER_SIZE at hmax
  have hshort : datalen < 65000 := by omega
  have hhead := headed_datagram h hshort
  obtain ⟨hlen, hzero⟩ := word_datagram h hshort
  have hwire : (datagram datalen e).wire = e.wire := rfl
  rw [udpTransmit_eq]
  generalize datagram datalen e = g at hhead hlen hzero hwire
  have hsum := fillChecksum_sum 1 g (show IP_SRC_P ≤ UDP_CHECKSUM_H_P by decide) (by decide)
    (show UDP_CHECKSUM_H_P + 2 ≤ IP_SRC_P + (16 + datalen) by unfold UDP_CHECKSUM_H_P IP_SRC_P; omega) (by decide)
    (by unfold BUFFER_SIZE; omega) hzero
  have hpayload : IP_HEADER_LEN + UDP_HEADER_LEN + datalen - IP_HEADER_LEN = UDP_HEADER_LEN + datalen := by
    rw [Nat.add_assoc, Nat.add_sub_cancel_left]
  have hpseudo : pseudoSum (16 + datalen) 1 = IP_PROTO_UDP_V.toNat + (UDP_HEADER_LEN + datalen) := by
    rw [pseudoSum, if_pos rfl]
    unfold UDP_HEADER_LEN
    omega
  have hstretch : 16 + datalen = 8 + (UDP_HEADER_LEN + datalen) := by
    unfold UDP_HEADER_LEN
    omega
  rw [hpseudo] at hsum
  have htransport : Transport IP_PROTO_UDP_V (IP_HEADER_LEN + UDP_HEADER_LEN + datalen) (UDP_HEADER_LEN + IP_HEADER_LEN + ETH_HEADER_LEN + datalen)
      (fillChecksum UDP_CHECKSUM_H_P IP_SRC_P (16 + datalen) 1 g).buffer := by
    refine ⟨fun hp => absurd hp (by decide), fun _ _ => ⟨by omega, ?_, ?_⟩, fun hp => absurd hp (by decide)⟩
    · rw [fillChecksum_eq, word_put_of_disjoint _ (Or.inr (by decide)), hlen, hpayload]
    · rw [hpayload, ← hstretch]
      exact hsum
  have hframe := OwnFrame.of_headed (hhead.fillChecksum (by decide) _ _ _) htransport
    (by unfold UDP_DATA_P UDP_HEADER_LEN IP_HEADER_LEN ETH_HEADER_LEN; omega)
    (by unfold UDP_HEADER_LEN IP_HEADER_LEN ETH_HEADER_LEN BUFFER_SIZE; omega)
  refine Adds.send ?_ hframe
  exact hwire

/-- So is what `sendUdp` sends. -/
theorem adds_sendUdp (data : List Byte) (datalen : Byte) (sport : Nat) (dip : Ip) (dport : Nat) (e : Ether) :
    Adds (OwnFrame e.cfg.mymac) e (sendUdp data datalen sport dip dport e) := by
  have hprep := prepared_udpPrepare sport dip dport e
  have hwire := wire_udpPrepare e sport dip dport
  unfold sendUdp
  dsimp only
  generalize udpPrepare sport dip dport e = g at hprep hwire
  have hn : (if datalen.toNat > 220 then 220 else datalen.toNat) ≤ 220 := by split <;> omega
  generalize (if datalen.toNat > 220 then 220 else datalen.toNat) = n at hn
  have hwire' : (g.put UDP_DATA_P (data.take n)).wire = e.wire := hwire
  refine Adds.trans (Adds.of_wire hwire') (adds_udpTransmit (hprep.put le_rfl _) ?_)
  unfold UDP_DATA_P BUFFER_SIZE
  omega

/-- What a datagram leaves in the buffer may be answered too, if its port may. -/
theorem answerable_udpTransmit (h : Prepared mac e.buffer) (hport : AnswerPort (e.buffer.get TCP_DST_PORT_H_P) (e.buffer.get TCP_DST_PORT_L_P))
    {datalen : Nat} (hmax : datalen < 65000) : Answerable (udpTransmit datalen e).buffer := by
  have hhead := headed_datagram h hmax
  have hkept : ∀ i, TCP_SRC_PORT_H_P ≤ i → i < UDP_LEN_H_P → (datagram datalen e).buffer.get i = e.buffer.get i := by
    intro i hi hlen
    rw [datagram, get_put_of_lt _ hlen, get_fillIpHdrChecksum (le_trans (by decide) hi),
      get_put_of_ge _ (le_trans (show IP_TOTLEN_H_P + 2 ≤ TCP_SRC_PORT_H_P by decide) hi)]
  have h₁ := hkept TCP_DST_PORT_H_P (by decide) (by decide)
  have h₂ := hkept TCP_DST_PORT_L_P (by decide) (by decide)
  rw [udpTransmit_eq]
  generalize datagram datalen e = g at hhead h₁ h₂
  have hsent : ∀ len, (packetSend len (fillChecksum UDP_CHECKSUM_H_P IP_SRC_P (16 + datalen) 1 g)).buffer =
      (fillChecksum UDP_CHECKSUM_H_P IP_SRC_P (16 + datalen) 1 g).buffer := fun _ => rfl
  have hdone := hhead.fillChecksum (show TCP_SRC_PORT_H_P ≤ UDP_CHECKSUM_H_P by decide) IP_SRC_P (16 + datalen) 1
  rw [hsent]
  refine ⟨hdone.etype, hdone.version, ?_⟩
  rw [fillChecksum_eq, get_put_of_lt _ (by decide), get_put_of_lt _ (by decide), h₁, h₂]
  exact hport

/-- A datagram's port of destination, as it is asked for. -/
theorem port_udpPrepare (sport : Nat) (dip : Ip) (dport : Nat) (e : Ether) :
    (udpPrepare sport dip dport e).buffer.get TCP_DST_PORT_H_P = hi dport ∧
      (udpPrepare sport dip dport e).buffer.get TCP_DST_PORT_L_P = lo dport := by
  have hlast : ∀ (g : Ether) (i : Nat), (i = TCP_DST_PORT_H_P ∨ i = TCP_DST_PORT_L_P) → ((((g.put UDP_DST_PORT_H_P [hi dport, lo dport]).put
      UDP_SRC_PORT_H_P [hi sport, lo sport]).put UDP_LEN_H_P [0]).put UDP_CHECKSUM_H_P [0, 0]).buffer.get i =
      (g.put UDP_DST_PORT_H_P [hi dport, lo dport]).buffer.get i := by
    intro g i hi
    have hlow : i < UDP_LEN_H_P := by rcases hi with rfl | rfl <;> decide
    have hhigh : UDP_SRC_PORT_H_P + 2 ≤ i := by rcases hi with rfl | rfl <;> decide
    rw [get_put_of_lt _ (lt_trans hlow (by decide)), get_put_of_lt _ hlow, get_put_of_ge _ hhigh]
  unfold udpPrepare
  dsimp only
  rw [hlast _ _ (Or.inl rfl), hlast _ _ (Or.inr rfl), get_put _ (show _ ∧ _ < UDP_DST_PORT_H_P + 2 ∧ _ by decide),
    get_put _ (show _ ∧ _ < UDP_DST_PORT_H_P + 2 ∧ _ by decide)]
  exact ⟨rfl, rfl⟩

/-- What `sendUdp` leaves in the buffer may be answered, if its port may. -/
theorem answerable_sendUdp (data : List Byte) (datalen : Byte) (sport : Nat) (dip : Ip) {dport : Nat} (hport : AnswerPort (hi dport) (lo dport))
    (e : Ether) : Answerable (sendUdp data datalen sport dip dport e).buffer := by
  have hprep := prepared_udpPrepare sport dip dport e
  obtain ⟨h₁, h₂⟩ := port_udpPrepare sport dip dport e
  unfold sendUdp
  dsimp only
  generalize udpPrepare sport dip dport e = g at hprep h₁ h₂
  have hn : (if datalen.toNat > 220 then 220 else datalen.toNat) ≤ 220 := by split <;> omega
  generalize (if datalen.toNat > 220 then 220 else datalen.toNat) = n at hn
  refine answerable_udpTransmit (hprep.put le_rfl (data.take n)) ?_ (lt_of_le_of_lt hn (by decide))
  rw [get_put_of_lt _ (by decide), get_put_of_lt _ (by decide), h₁, h₂]
  exact hport

/-- The options of a DHCP message are few. -/
theorem length_dhcpOptions_le (e : Ether) : (dhcpOptions e).length ≤ 46 := by
  unfold dhcpOptions
  simp only [List.length_append, List.length_cons, List.length_nil, Vector.length_toList, List.length_take]
  split
  · simp only [List.length_append, List.length_cons, List.length_nil, Vector.length_toList]
    omega
  · simp only [List.length_nil]
    omega

/-- An address among the data leaves the headers. -/
theorem Prepared.copyIp (h : Prepared mac e.buffer) {off : Nat} (hoff : UDP_DATA_P ≤ off) (ip : Ip) :
    Prepared mac (e.copyIp off ip).buffer := h.put hoff _

/-- What a DHCP message sends is the device's. -/
theorem adds_sendDhcpMessage (e : Ether) : Adds (OwnFrame e.cfg.mymac) e (sendDhcpMessage e) := by
  have hprep : ∀ (g : Ether) (dip : Ip), Prepared g.cfg.mymac
      ((udpPrepare DHCP_DEST_PORT dip DHCP_SRC_PORT g).copyMac ETH_DST_MAC broadcastMac).buffer := fun g dip =>
    (prepared_udpPrepare DHCP_DEST_PORT dip DHCP_SRC_PORT g).copyMac broadcastMac
  have hwire : ∀ (g : Ether) (dip : Ip), ((udpPrepare DHCP_DEST_PORT dip DHCP_SRC_PORT g).copyMac ETH_DST_MAC broadcastMac).wire = g.wire :=
    fun g dip => by rw [wire_copyMac, wire_udpPrepare]
  unfold sendDhcpMessage
  dsimp only
  -- the buffer is cleared first
  have hmac : (e.put 0 (List.replicate (UDP_DATA_P + DHCP_DATA_SIZE) 0)).cfg.mymac = e.cfg.mymac := by
    rw [Ether.put_cfg]
  have hw : (e.put 0 (List.replicate (UDP_DATA_P + DHCP_DATA_SIZE) 0)).wire = e.wire := Ether.put_wire _ _ _
  generalize e.put 0 (List.replicate (UDP_DATA_P + DHCP_DATA_SIZE) 0) = g at hmac hw
  replace hprep := hprep g (if g.dhcp.dhcpState = .bound then g.cfg.dhcpip else allOnes)
  replace hwire := (hwire g (if g.dhcp.dhcpState = .bound then g.cfg.dhcpip else allOnes)).trans hw
  rw [hmac] at hprep
  generalize Ether.copyMac _ ETH_DST_MAC broadcastMac = g at hprep hwire
  have hfilled := (hprep.put (le_refl _) [1, 1, 6]).put (show UDP_DATA_P ≤ DHCP_XID_P by decide) (littleEndian (g.put UDP_DATA_P [1, 1, 6]).dhcp.currentXid)
  have hwire' : ((g.put UDP_DATA_P [1, 1, 6]).put DHCP_XID_P (littleEndian (g.put UDP_DATA_P [1, 1, 6]).dhcp.currentXid)).wire = e.wire := hwire
  generalize (g.put UDP_DATA_P [1, 1, 6]).put DHCP_XID_P _ = g at hfilled hwire'
  have hsend : ∀ g : Ether, g.wire = e.wire → Prepared e.cfg.mymac g.buffer → Adds (OwnFrame e.cfg.mymac) e
      (udpTransmit (DHCP_DATA_SIZE + (dhcpOptions (g.put (UDP_DATA_P + DHCP_DATA_SIZE) (dhcpOptions g))).length)
        (g.put (UDP_DATA_P + DHCP_DATA_SIZE) (dhcpOptions g))) := by
    intro g hw hg
    have hopts := length_dhcpOptions_le (g.put (UDP_DATA_P + DHCP_DATA_SIZE) (dhcpOptions g))
    have hw' : (g.put (UDP_DATA_P + DHCP_DATA_SIZE) (dhcpOptions g)).wire = e.wire := hw
    refine Adds.trans (Adds.of_wire hw') (adds_udpTransmit (hg.put (by decide) _) ?_)
    unfold UDP_DATA_P DHCP_DATA_SIZE BUFFER_SIZE at *
    omega
  split
  · exact hsend _ hwire' ((hfilled.copyIp (by decide) _).put (by decide) _)
  · exact hsend _ hwire' (hfilled.put (by decide) _)

/-- So is what a DNS query sends. -/
theorem adds_dnsRequest (hostname : List Byte) (e : Ether) : Adds (OwnFrame e.cfg.mymac) e (dnsRequest hostname e) := by
  unfold dnsRequest
  dsimp only
  generalize hlen : BitVec.ofNat 8 (12 + (encodeName hostname ++ [0, 1, 0, 1]).length) = i
  have hsend : ∀ (g : Ether) (sport : Nat), g.wire = e.wire → g.cfg.mymac = e.cfg.mymac → Adds (OwnFrame e.cfg.mymac) e (udpTransmit i.toNat
      (((((udpPrepare sport g.cfg.dnsip 53 g).put UDP_DATA_P (List.replicate 12 0)).put (UDP_DATA_P + 12)
        (encodeName hostname ++ [0, 1, 0, 1])).put UDP_DATA_P [i, (((udpPrepare sport g.cfg.dnsip 53 g).put UDP_DATA_P (List.replicate 12 0)).put
          (UDP_DATA_P + 12) (encodeName hostname ++ [0, 1, 0, 1])).dnstidL, 1]).put (UDP_DATA_P + 5) [1])) := by
    intro g sport hw hm
    have hprep := prepared_udpPrepare sport g.cfg.dnsip 53 g
    have hwire := wire_udpPrepare g sport g.cfg.dnsip 53
    rw [hm] at hprep
    generalize udpPrepare sport g.cfg.dnsip 53 g = g' at hprep hwire
    have hdone := (((hprep.put (le_refl _) (List.replicate 12 0)).put (show _ ≤ UDP_DATA_P + 12 by decide)
      (encodeName hostname ++ [0, 1, 0, 1])).put (le_refl _) [i, ((g'.put UDP_DATA_P (List.replicate 12 0)).put (UDP_DATA_P + 12)
        (encodeName hostname ++ [0, 1, 0, 1])).dnstidL, 1]).put (show _ ≤ UDP_DATA_P + 5 by decide) [1]
    refine Adds.trans (Adds.of_wire ?_) (adds_udpTransmit hdone ?_)
    · exact hwire.trans hw
    · have := i.isLt
      unfold UDP_DATA_P BUFFER_SIZE
      omega
  split
  · exact hsend _ _ rfl rfl
  · exact hsend _ _ rfl rfl

/-! ## ARP -/

/-- An ARP message of the device's, by its three fields. -/
theorem OwnFrame.of_arp {b : Buffer} (hs : b.slice ETH_SRC_MAC 6 = mac.toList) (ht : b.word ETH_TYPE_H_P = 0x0806)
    (ha : b.slice ETH_ARP_SRC_MAC_P 6 = mac.toList) : OwnFrame mac (b.slice 0 42) where
  bounded := by rw [Buffer.length_slice]; decide
  source := by rw [field_slice b (by decide)]; exact hs
  kind := Or.inl
    { length := Buffer.length_slice _ _ _
      etype := by rw [wordAt_slice b (by decide)]; exact ht
      sender := by rw [field_slice b (by decide)]; exact ha }

/-- A link address stands where it is copied to. -/
theorem slice_copyMac (off : Nat) (a : Mac) (e : Ether) (h : off + 6 ≤ BUFFER_SIZE) : (e.copyMac off a).buffer.slice off 6 = a.toList :=
  slice_put e Vector.length_toList.symm (by rw [Vector.length_toList]; exact h)

/-- What an ARP request sends is the device's. -/
theorem adds_clientArpWhohas (ip : Ip) (e : Ether) : Adds (OwnFrame e.cfg.mymac) e (clientArpWhohas ip e) := by
  have hsource := source_setMACs broadcastMac e
  have hwire := wire_setMACs e broadcastMac
  have hcfg : (setMACs broadcastMac e).cfg = e.cfg := cfg_of_statics (statics_setMACs e broadcastMac)
  unfold clientArpWhohas
  dsimp only
  generalize setMACs broadcastMac e = g at hsource hwire hcfg
  have htype : (g.put ETH_TYPE_H_P [ETHTYPE_ARP_H_V, ETHTYPE_ARP_L_V]).buffer.word ETH_TYPE_H_P = 0x0806 := word_put g (by decide) _ _
  have hmac : (((g.put ETH_TYPE_H_P [ETHTYPE_ARP_H_V, ETHTYPE_ARP_L_V]).put ETH_ARP_P arpreqhdr).put ETH_ARP_DST_MAC_P
      (List.replicate 6 0)).cfg.mymac = e.cfg.mymac := congrArg Config.mymac hcfg
  refine Adds.send ?_ (OwnFrame.of_arp ?_ ?_ ?_)
  · exact hwire
  · unfold Ether.copyIp Ether.copyMac
    rw [slice_put_of_disjoint _ (Or.inr (by decide)), slice_put_of_disjoint _ (Or.inr (by decide)),
      slice_put_of_disjoint _ (Or.inr (by decide)), slice_put_of_disjoint _ (Or.inr (by decide)),
      slice_put_of_disjoint _ (Or.inr (by decide)), slice_put_of_disjoint _ (Or.inr (by decide))]
    exact hsource
  · unfold Ether.copyIp Ether.copyMac
    rw [word_put_of_disjoint _ (Or.inr (by decide)), word_put_of_disjoint _ (Or.inr (by decide)),
      word_put_of_disjoint _ (Or.inr (by decide)), word_put_of_disjoint _ (Or.inr (by decide)),
      word_put_of_disjoint _ (Or.inr (by decide))]
    exact htype
  · rw [hmac, Ether.copyIp, slice_put_of_disjoint _ (Or.inr (by decide)), Ether.copyIp,
      slice_put_of_disjoint _ (Or.inr (by decide)), slice_copyMac _ _ _ (by decide)]

/-- So is what the answer to one sends. -/
theorem adds_makeArpAnswerFromRequest (ht : e.buffer.word ETH_TYPE_H_P = 0x0806) :
    Adds (OwnFrame e.cfg.mymac) e (makeArpAnswerFromRequest e) := by
  have hsource := source_setMACs (e.buffer.mac ETH_SRC_MAC) e
  have hwire := wire_setMACs e (e.buffer.mac ETH_SRC_MAC)
  have hcfg : (setMACs (e.buffer.mac ETH_SRC_MAC) e).cfg = e.cfg := cfg_of_statics (statics_setMACs e _)
  have htype : (setMACs (e.buffer.mac ETH_SRC_MAC) e).buffer.word ETH_TYPE_H_P = 0x0806 :=
    (word_congr (get_setMACs _ e le_rfl) (get_setMACs _ e (Nat.le_succ _))).trans ht
  unfold makeArpAnswerFromRequest
  dsimp only
  generalize setMACs (e.buffer.mac ETH_SRC_MAC) e = g at hsource hwire hcfg htype
  have hmac : ((g.put ETH_ARP_OPCODE_H_P [ETH_ARP_OPCODE_REPLY_H_V, ETH_ARP_OPCODE_REPLY_L_V]).copyMac ETH_ARP_DST_MAC_P
      ((g.put ETH_ARP_OPCODE_H_P [ETH_ARP_OPCODE_REPLY_H_V, ETH_ARP_OPCODE_REPLY_L_V]).buffer.mac ETH_ARP_SRC_MAC_P)).cfg.mymac = e.cfg.mymac :=
    congrArg Config.mymac hcfg
  refine Adds.send ?_ (OwnFrame.of_arp ?_ ?_ ?_)
  · exact hwire
  · unfold Ether.copyIp Ether.copyMac
    rw [slice_put_of_disjoint _ (Or.inr (by decide)), slice_put_of_disjoint _ (Or.inr (by decide)),
      slice_put_of_disjoint _ (Or.inr (by decide)), slice_put_of_disjoint _ (Or.inr (by decide)),
      slice_put_of_disjoint _ (Or.inr (by decide))]
    exact hsource
  · unfold Ether.copyIp Ether.copyMac
    rw [word_put_of_disjoint _ (Or.inr (by decide)), word_put_of_disjoint _ (Or.inr (by decide)),
      word_put_of_disjoint _ (Or.inr (by decide)), word_put_of_disjoint _ (Or.inr (by decide)),
      word_put_of_disjoint _ (Or.inr (by decide))]
    exact htype
  · rw [hmac, Ether.copyIp, slice_put_of_disjoint _ (Or.inr (by decide)), Ether.copyIp,
      slice_put_of_disjoint _ (Or.inr (by decide)), slice_copyMac _ _ _ (by decide)]

end

end EtherHouse
