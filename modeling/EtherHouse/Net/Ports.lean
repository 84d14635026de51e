import EtherHouse.Net.Connection

/-!
# Ports, numbers and sessions

The client tells its connections apart by three bits of its port, the session, and takes any segment from the server's address to one
of its ports for the current connection's; it looks at no sequence number, and its ports come round again. Here: which segments are the
connection's own, by ports and numbers, and what becomes of those that are not.
-/

namespace EtherHouse

section

variable (plen : Nat) (e : Ether)

/-! ## Segments of the connection and others -/

/-- The packet loop takes the frame for a segment from the server to one of the client's ports. -/
def isClientSegment : Bool :=
  !ethTypeIsArpAndMyIp plen e && ethTypeIsIpAndMyIp plen e &&
    !(e.gPB IP_PROTO_P == IP_PROTO_ICMP_V && e.gPB ICMP_TYPE_P == ICMP_TYPE_ECHOREQUEST_V) &&
    !(decide (plen < 54) && e.gPB IP_PROTO_P != IP_PROTO_TCP_V) && e.gPB TCP_DST_PORT_H_P == TCPCLIENT_SRC_PORT_H &&
    checkIpMessageIsFrom e e.cfg.hisip

/-- Bytes as a number, the high byte first. -/
def numberOf (xs : List Byte) : Nat := xs.foldl (fun n x => n * 256 + x.toNat) 0

/-- The sequence number of the segment in the buffer, and the number that it acknowledges. -/
def seqNumber : Nat := numberOf (e.buffer.slice TCP_SEQ_H_P 4)

def ackNumber : Nat := numberOf (e.buffer.slice TCP_SEQACK_H_P 4)

/-- What tells the segments of a connection from those of another one with the same ports: the number of its SYN; and once its request
is out, the number that this acknowledges, the window that it announces, and its length. -/
structure Numbers where
  iss : Nat
  rcv : Nat
  window : Nat
  sent : Nat

/-- Among the `n` numbers from `lo` on, which go round at 2^32. -/
def inWindow (lo n x : Nat) : Bool := decide ((x + 2 ^ 32 - lo) % 2 ^ 32 < n)

/-- The segment comes from the server's port and goes to the one of the last SYN. -/
def onPorts : Bool :=
  e.gPB TCP_SRC_PORT_H_P == e.tcp.tcpClientPortH && e.gPB TCP_SRC_PORT_L_P == e.tcp.tcpClientPortL &&
    e.gPB TCP_DST_PORT_L_P == e.tcp.portL

/-- The segment answers the last SYN: it acknowledges that. -/
def answersSyn (c : Numbers) : Bool := onPorts e && ackNumber e == (c.iss + 1) % 2 ^ 32

/-- The segment is of the connection that the request went out on: its data lies in the window that the request announced, and it
acknowledges the SYN, or that and some of the request. -/
def ofConnection (c : Numbers) : Bool :=
  onPorts e && inWindow c.rcv c.window (seqNumber e) && inWindow (c.iss + 1) (c.sent + 1) (ackNumber e)

/-- The segment is not of the connection, and the client takes it for one that is: the callback is told of the reset, the connection is
held to be open, or its data is delivered. -/
def strays (c : Numbers) : Bool :=
  isClientSegment plen e &&
    if hasFlag e TCP_FLAGS_RST_V then sessionId (e.gPB TCP_DST_PORT_L_P) != e.tcp.wwwFd
    else
      decide (e.tcp.tcpClientState = 2) && hasFlag e TCP_FLAGS_SYN_V && hasFlag e TCP_FLAGS_ACK_V && !answersSyn e c ||
        decide (e.tcp.tcpClientState = 3) && decide (0 < getTcpDataLen e) && !ofConnection e c

/-- The request in the buffer is sent on the connection that the last SYN asked for: on its ports, and with the number behind it. -/
def sentOnConnection (c : Numbers) : Bool :=
  e.gPB TCP_SRC_PORT_H_P == TCPCLIENT_SRC_PORT_H && e.gPB TCP_SRC_PORT_L_P == e.tcp.portL &&
    e.gPB TCP_DST_PORT_H_P == e.tcp.tcpClientPortH && e.gPB TCP_DST_PORT_L_P == e.tcp.tcpClientPortL &&
      seqNumber e == (c.iss + 1) % 2 ^ 32

/-- A segment for the client is classified as one. -/
theorem packetLoopReceived_of_isClientSegment (h : isClientSegment plen e = true) :
    packetLoopReceived plen e = clientSegment plen e := by
  simp only [isClientSegment, Bool.and_eq_true, Bool.not_eq_true', Bool.and_eq_false_iff, beq_iff_eq, beq_eq_false_iff_ne,
    decide_eq_false_iff_not, bne_eq_false_iff_eq] at h
  obtain ⟨⟨⟨⟨⟨harp, hip⟩, hicmp⟩, hshort⟩, hport⟩, _⟩ := h
  unfold packetLoopReceived
  rw [if_neg (by rw [harp]; exact Bool.false_ne_true), if_neg (by rw [hip]; exact Bool.noConfusion), if_neg (by tauto), if_neg (by tauto),
    if_pos hport]

/-- Any other frame leaves the connection alone. -/
theorem packetLoopReceived_of_not_isClientSegment (h : isClientSegment plen e = false) :
    (∃ pos, (packetLoopReceived plen e).2 = .ret pos) ∧ (packetLoopReceived plen e).1.tcp.connection = e.tcp.connection := by
  unfold packetLoopReceived
  split
  · exact ⟨⟨0, rfl⟩, connection_serviceArp e⟩
  split
  · exact ⟨⟨0, rfl⟩, rfl⟩
  split
  · exact ⟨⟨0, rfl⟩, by rw [tcp_of_statics (statics_makeEchoReplyFromRequest _ _)]⟩
  split
  · exact ⟨⟨0, rfl⟩, rfl⟩
  split
  · next harp hip hicmp hshort hport =>
    have hfrom : checkIpMessageIsFrom e e.cfg.hisip = false := by
      by_contra hfrom
      have htrue : isClientSegment plen e = true := by
        simp only [isClientSegment, Bool.and_eq_true, Bool.not_eq_true', Bool.and_eq_false_iff, beq_iff_eq, beq_eq_false_iff_ne,
          decide_eq_false_iff_not, bne_eq_false_iff_eq]
        refine ⟨⟨⟨⟨⟨by simpa using harp, by simpa using hip⟩, by tauto⟩, by tauto⟩, hport⟩, by simpa using hfrom⟩
      rw [h] at htrue
      cases htrue
    unfold clientSegment
    rw [if_pos hfrom]
    exact ⟨⟨0, rfl⟩, rfl⟩
  · exact ⟨⟨_, rfl⟩, connection_accept plen e _⟩

/-! ## The ports and numbers of an answer -/

/-- The place lies in the ports or the numbers of a segment. -/
def HeadPlace (i : Nat) : Prop := TCP_SRC_PORT_H_P ≤ i ∧ i < TCP_HEADER_LEN_P

/-- Another packet has the ports and numbers of a segment. -/
def SameHead (e' e : Ether) : Prop := ∀ i, HeadPlace i → e'.gPB i = e.gPB i

/-- Another packet has its ports. -/
def SamePorts (e' e : Ether) : Prop := ∀ i, TCP_SRC_PORT_H_P ≤ i → i < TCP_SEQ_H_P → e'.gPB i = e.gPB i

/-- It has them exchanged. -/
structure Answers (e' e : Ether) : Prop where
  srcH : e'.gPB TCP_SRC_PORT_H_P = e.gPB TCP_DST_PORT_H_P
  srcL : e'.gPB TCP_SRC_PORT_L_P = e.gPB TCP_DST_PORT_L_P
  dstH : e'.gPB TCP_DST_PORT_H_P = e.gPB TCP_SRC_PORT_H_P
  dstL : e'.gPB TCP_DST_PORT_L_P = e.gPB TCP_SRC_PORT_L_P

/-- Its sequence number is the one that the segment acknowledges. -/
def Continues (e' e : Ether) : Prop := ∀ k < 4, e'.gPB (TCP_SEQ_H_P + k) = e.gPB (TCP_SEQACK_H_P + k)

/-- Two steps that leave a segment's head alone. -/
theorem SameHead.trans {e e' e'' : Ether} (h : SameHead e'' e') (h' : SameHead e' e) : SameHead e'' e :=
  fun i hi => (h i hi).trans (h' i hi)

/-- Its ports are part of the head. -/
theorem SameHead.ports {e e' : Ether} (h : SameHead e' e) : SamePorts e' e :=
  fun i hlo hhi => h i ⟨hlo, lt_trans hhi (by decide)⟩

/-- An answer stays one if its ports are left alone. -/
theorem Answers.then {e e' e'' : Ether} (h : Answers e' e) (hs : SamePorts e'' e') : Answers e'' e where
  srcH := (hs _ (by decide) (by decide)).trans h.srcH
  srcL := (hs _ (by decide) (by decide)).trans h.srcL
  dstH := (hs _ (by decide) (by decide)).trans h.dstH
  dstL := (hs _ (by decide) (by decide)).trans h.dstL

/-- What answers a packet answers any with the same ports. -/
theorem Answers.of_same {e e' e'' : Ether} (h : Answers e'' e') (hs : SamePorts e' e) : Answers e'' e where
  srcH := h.srcH.trans (hs _ (by decide) (by decide))
  srcL := h.srcL.trans (hs _ (by decide) (by decide))
  dstH := h.dstH.trans (hs _ (by decide) (by decide))
  dstL := h.dstL.trans (hs _ (by decide) (by decide))

/-- A place of a sequence number, and one of an acknowledgement. -/
theorem headPlace_seq {k : Nat} (hk : k < 4) : HeadPlace (TCP_SEQ_H_P + k) := by
  unfold HeadPlace TCP_SRC_PORT_H_P TCP_SEQ_H_P TCP_HEADER_LEN_P
  omega

/-- The acknowledgement is part of the head. -/
theorem headPlace_ack {k : Nat} (hk : k < 4) : HeadPlace (TCP_SEQACK_H_P + k) := by
  unfold HeadPlace TCP_SRC_PORT_H_P TCP_SEQACK_H_P TCP_HEADER_LEN_P
  omega

/-- What continues a connection still does if the head is left alone. -/
theorem Continues.then {e e' e'' : Ether} (h : Continues e' e) (hs : SameHead e'' e') : Continues e'' e :=
  fun k hk => (hs _ (headPlace_seq hk)).trans (h k hk)

/-- What continues one packet continues any with the same head. -/
theorem Continues.of_same {e e' e'' : Ether} (h : Continues e'' e') (hs : SameHead e' e) : Continues e'' e :=
  fun k hk => (h k hk).trans (hs _ (headPlace_ack hk))

/-- The number that an answer carries. -/
theorem Continues.seqNumber {e e' : Ether} (h : Continues e' e) : seqNumber e' = ackNumber e := by
  unfold EtherHouse.seqNumber ackNumber Buffer.slice
  refine congrArg numberOf (List.map_congr_left fun k hk => ?_)
  exact h k (List.mem_range.mp hk)

/-- A write that reaches neither the ports nor the numbers. -/
theorem sameHead_put {off : Nat} {xs : List Byte} (h : off + xs.length ≤ TCP_SRC_PORT_H_P ∨ TCP_HEADER_LEN_P ≤ off) :
    SameHead (e.put off xs) e := by
  intro i ⟨hlo, hhi⟩
  exact gPB_put e (by omega)

/-- Sending leaves the head alone. -/
theorem sameHead_packetSend (len : Nat) : SameHead (packetSend len e) e := fun _ _ => rfl

/-- So does a checksum outside of it. -/
theorem sameHead_fillChecksum {dest : Nat} (h : dest + 2 ≤ TCP_SRC_PORT_H_P ∨ TCP_HEADER_LEN_P ≤ dest) (off len type : Nat) :
    SameHead (fillChecksum dest off len type e) e := sameHead_put e h

/-- So does that of the IP header. -/
theorem sameHead_fillIpHdrChecksum : SameHead (fillIpHdrChecksum e) e := by
  intro i ⟨hlo, _⟩
  unfold TCP_SRC_PORT_H_P at hlo
  exact gPB_fillIpHdrChecksum e (by unfold IP_SRC_P; omega)

/-- `step_seq` leaves the ports alone. -/
theorem samePorts_stepSeq (relAckNum : Nat) (cpSeq : Bool) : SamePorts (stepSeq relAckNum cpSeq e) e := by
  have hloop : ∀ (n relAckNum : Nat) (e : Ether), SamePorts (stepSeqLoop cpSeq n relAckNum e) e := by
    intro n
    induction n with
    | zero => exact fun _ _ _ _ _ => rfl
    | succ n ih =>
      intro relAckNum e i hlo hhi
      rw [stepSeqLoop, ih _ _ i hlo hhi, gPB_put _ (by omega), gPB_put _ (by unfold TCP_SEQACK_H_P; unfold TCP_SEQ_H_P at hhi; omega)]
  exact hloop _ _ _

/-- It copies the number that is acknowledged, byte by byte: what the loop has not come to is as it was. -/
theorem continues_stepSeq (relAckNum : Nat) : Continues (stepSeq relAckNum true e) e := by
  have hloop : ∀ n ≤ 4, ∀ (relAckNum : Nat) (e : Ether), ∀ k < 4, (stepSeqLoop true n relAckNum e).gPB (TCP_SEQ_H_P + k) =
      if k < n then e.gPB (TCP_SEQACK_H_P + k) else e.gPB (TCP_SEQ_H_P + k) := by
    intro n
    induction n with
    | zero =>
      intro _ relAckNum e k _
      rw [if_neg (Nat.not_lt_zero k)]
      rfl
    | succ n ih =>
      intro hn relAckNum e k hk
      have hput : ∀ (e : Ether) (x : Byte), (e.put (TCP_SEQ_H_P + n) [x]).gPB (TCP_SEQ_H_P + n) = x := by
        intro e x
        rw [Ether.gPB, Ether.put, Buffer.get_write, if_pos ⟨le_rfl, Nat.lt_add_one _, by unfold TCP_SEQ_H_P BUFFER_SIZE; omega⟩,
          Nat.sub_self]
        rfl
      rw [stepSeqLoop, ih (Nat.le_of_succ_le hn) _ _ k hk]
      by_cases hkn : k < n
      · rw [if_pos hkn, if_pos (Nat.lt_succ_of_lt hkn), gPB_put _ (by unfold TCP_SEQ_H_P TCP_SEQACK_H_P; simp only [List.length_singleton]; omega),
          gPB_put _ (by omega)]
      · rw [if_neg hkn]
        by_cases heq : k = n
        · subst heq
          rw [if_pos (Nat.lt_succ_self k), hput, if_pos rfl]
        · rw [if_neg (show ¬k < n + 1 by omega), gPB_put _ (by simp only [List.length_singleton]; omega),
            gPB_put _ (by unfold TCP_SEQ_H_P TCP_SEQACK_H_P; omega)]
  intro k hk
  rw [stepSeq, hloop 4 le_rfl relAckNum e k hk, if_pos hk]

/-- So does turning the packet round. -/
theorem sameHead_makeEthIp : SameHead (makeEthIp e) e := by
  unfold makeEthIp setMACs Ether.copyIp Ether.copyMac
  refine (sameHead_fillIpHdrChecksum _).trans ((sameHead_put _ ?_).trans ((sameHead_put _ ?_).trans ((sameHead_put _ ?_).trans
    (sameHead_put _ ?_)))) <;> simp [IP_SRC_P, IP_DST_P, ETH_SRC_MAC, ETH_DST_MAC, TCP_SRC_PORT_H_P]

/-- A new header goes back to the ports that the old one came from. -/
theorem answers_makeTcphead (relAckNum : Nat) (cpSeq : Bool) : Answers (makeTcphead relAckNum cpSeq e) e := by
  have hget : ∀ (e : Ether) (off i : Nat) (x : Byte), i < BUFFER_SIZE → (e.put off [x]).gPB i = if i = off then x else e.gPB i := by
    intro e off i x hi
    rw [Ether.gPB, Ether.put, Buffer.get_write]
    by_cases h : i = off
    · subst h
      simp [hi]
    · rw [if_neg (by simp only [List.length_singleton]; omega), if_neg h, Ether.gPB]
  have hsrcH := fun e off x => hget e off TCP_SRC_PORT_H_P x (by decide)
  have hsrcL := fun e off x => hget e off TCP_SRC_PORT_L_P x (by decide)
  have hdstH := fun e off x => hget e off TCP_DST_PORT_H_P x (by decide)
  have hdstL := fun e off x => hget e off TCP_DST_PORT_L_P x (by decide)
  unfold makeTcphead
  refine Answers.then (Answers.then ?_ (samePorts_stepSeq _ _ _)) ((sameHead_put _ (by simp [TCP_HEADER_LEN_P])).trans
    (sameHead_put _ (by simp [TCP_CHECKSUM_H_P, TCP_HEADER_LEN_P]))).ports
  constructor <;> simp only [hsrcH, hsrcL, hdstH, hdstL] <;>
    simp [TCP_SRC_PORT_H_P, TCP_SRC_PORT_L_P, TCP_DST_PORT_H_P, TCP_DST_PORT_L_P]

/-- Exchanging the ports leaves the numbers alone. -/
theorem continues_makeTcphead (relAckNum : Nat) : Continues (makeTcphead relAckNum true e) e := by
  have hport : ∀ (g : Ether) (off : Nat) (x : Byte), off < TCP_SEQ_H_P → ∀ k, (g.put off [x]).gPB (TCP_SEQACK_H_P + k) =
      g.gPB (TCP_SEQACK_H_P + k) := fun g off x hoff k =>
    gPB_put g (by unfold TCP_SEQ_H_P at hoff; unfold TCP_SEQACK_H_P; simp only [List.length_singleton]; omega)
  unfold makeTcphead
  refine Continues.then (fun k hk => ?_) ((sameHead_put _ (by simp [TCP_HEADER_LEN_P])).trans
    (sameHead_put _ (by simp [TCP_CHECKSUM_H_P, TCP_HEADER_LEN_P])))
  rw [continues_stepSeq _ _ k hk, hport _ _ _ (by decide), hport _ _ _ (by decide), hport _ _ _ (by decide), hport _ _ _ (by decide)]

/-- What follows the TCP header's first part in an acknowledgement. -/
theorem sameHead_ackTail (e : Ether) (totlen win : List Byte) (ht : totlen.length = 2) :
    SameHead (packetSend (IP_HEADER_LEN + TCP_HEADER_LEN_PLAIN + ETH_HEADER_LEN) (fillChecksum TCP_CHECKSUM_H_P IP_SRC_P
      (8 + TCP_HEADER_LEN_PLAIN) 2 ((makeEthIp (e.put IP_TOTLEN_H_P totlen)).put TCP_WIN_SIZE win))) e := by
  refine (sameHead_packetSend _ _).trans ((sameHead_fillChecksum _ ?_ _ _ _).trans ((sameHead_put _ ?_).trans
    ((sameHead_makeEthIp _).trans (sameHead_put _ ?_))))
  · simp [TCP_CHECKSUM_H_P, TCP_HEADER_LEN_P]
  · simp [TCP_WIN_SIZE, TCP_HEADER_LEN_P]
  · simp [IP_TOTLEN_H_P, TCP_SRC_PORT_H_P, ht]

/-- So does an acknowledgment. -/
theorem answers_makeTcpAckFromAny (n : Nat) (flags : Byte) : Answers (makeTcpAckFromAny n flags e) e := by
  unfold makeTcpAckFromAny
  have hhead := fun r => (answers_makeTcphead (e.put TCP_FLAGS_P [TCP_FLAGS_ACK_V ||| flags]) r true).of_same
    (sameHead_put e (by simp [TCP_FLAGS_P, TCP_HEADER_LEN_P])).ports
  exact (hhead _).then (sameHead_ackTail _ _ _ rfl).ports

/-- It continues where the packet's acknowledgement was. -/
theorem continues_makeTcpAckFromAny (n : Nat) (flags : Byte) : Continues (makeTcpAckFromAny n flags e) e := by
  unfold makeTcpAckFromAny
  have hhead := fun r => (continues_makeTcphead (e.put TCP_FLAGS_P [TCP_FLAGS_ACK_V ||| flags]) r).of_same
    (sameHead_put e (by simp [TCP_FLAGS_P, TCP_HEADER_LEN_P]))
  exact (hhead _).then (sameHead_ackTail _ _ _ rfl)

/-- Data behind the head leaves it alone. -/
theorem sameHead_makeTcpAckWithDataNoflags (dlen : Nat) : SameHead (makeTcpAckWithDataNoflags dlen e) e := by
  unfold makeTcpAckWithDataNoflags
  refine (sameHead_packetSend _ _).trans ((sameHead_fillChecksum _ ?_ _ _ _).trans ((sameHead_put _ ?_).trans
    ((sameHead_fillIpHdrChecksum _).trans (sameHead_put _ ?_))))
  · simp [TCP_CHECKSUM_H_P, TCP_HEADER_LEN_P]
  · simp [TCP_CHECKSUM_H_P, TCP_HEADER_LEN_P]
  · simp [IP_TOTLEN_H_P, TCP_SRC_PORT_H_P]

/-- So do the flags. -/
theorem sameHead_synAckFlags (g : Ether) : SameHead (g.put TCP_FLAGS_P [TCP_FLAGS_ACK_V ||| TCP_FLAGS_PUSH_V]) g :=
  sameHead_put g (by simp [TCP_FLAGS_P, TCP_HEADER_LEN_P])

/-- The answer to a SYN-ACK goes back to its ports. -/
theorem answers_synAckAnswer : Answers (synAckAnswer e) e := (answers_makeTcpAckFromAny e 0 0).then (sameHead_synAckFlags _).ports

/-- What the answer to a SYN-ACK goes out with: the acknowledgement's ports and numbers, with or without the request. -/
theorem sameHead_clientSynSent (len : Nat) (h : hasFlag e TCP_FLAGS_SYN_V ∧ hasFlag e TCP_FLAGS_ACK_V) :
    SameHead (clientSynSent len e).1 (synAckAnswer e) := by
  have hfill : ∀ (a : Ether) (fd : Byte), SameHead (if a.tcp.clientTcpCb then wwwClientInternalDatafillCb fd a else (a, 0)).1 a := by
    intro a fd
    split
    · unfold wwwClientInternalDatafillCb
      split
      · exact sameHead_put _ (by simp [TCP_OPTIONS_P, TCP_HEADER_LEN_P])
      · exact fun _ _ => rfl
    · exact fun _ _ => rfl
  unfold clientSynSent
  rw [if_pos h]
  refine (sameHead_makeTcpAckWithDataNoflags _ _).trans ?_
  exact hfill (synAckAnswer e) _

/-- The answer to a SYN-ACK. -/
theorem answers_clientSynSent (len : Nat) (h : hasFlag e TCP_FLAGS_SYN_V ∧ hasFlag e TCP_FLAGS_ACK_V) :
    Answers (clientSynSent len e).1 e := (answers_synAckAnswer e).then (sameHead_clientSynSent e len h).ports

/-- The request continues the connection that the SYN-ACK answers. -/
theorem continues_clientSynSent (len : Nat) (h : hasFlag e TCP_FLAGS_SYN_V ∧ hasFlag e TCP_FLAGS_ACK_V) :
    Continues (clientSynSent len e).1 e :=
  ((continues_makeTcpAckFromAny e 0 0).then (sameHead_synAckFlags _)).then (sameHead_clientSynSent e len h)

/-- The session of the client's port is the one that `clientTcpReq` counted. -/
theorem sessionId_portL (t : TcpClient) : sessionId t.portL = t.tcpFd &&& 7 := by
  unfold sessionId TcpClient.portL
  refine BitVec.eq_of_getLsbD_eq fun i hi => ?_
  have hi' : i = 0 ∨ i = 1 ∨ i = 2 ∨ i = 3 ∨ i = 4 ∨ i = 5 ∨ i = 6 ∨ i = 7 := by omega
  rcases hi' with rfl | rfl | rfl | rfl | rfl | rfl | rfl | rfl <;> simp

/-! ## What becomes of a segment -/

variable (c : Numbers)

/-- What a frame does to a connection that a server call waits on, and whether it strays. -/
inductive Taken : Ether × Upcall → Prop where
  | kept {e' : Ether} (pos : Nat) (h : e'.tcp.connection = e.tcp.connection) (hs : strays plen e c = false) : Taken (e', .ret pos)
  | closed {e' : Ether} {s : Nat} (h : e'.tcp = { e.tcp with tcpClientState := s }) (h1 : s ≠ 1) (h2 : s ≠ 2) (h3 : s ≠ 3) :
      Taken (e', .ret 0)
  | refused {e' : Ether} (h : e'.tcp = { e.tcp with tcpClientState := 1 }) (h2 : e.tcp.tcpClientState = 2)
      (hs : strays plen e c = false) : Taken (e', .ret 0)
  /-- the connection is held to be open, and no request goes out -/
  | mute {e' : Ether} (h : e'.tcp = { e.tcp with tcpClientState := 3 }) (h2 : e.tcp.tcpClientState = 2)
      (hs : strays plen e c = true) : Taken (e', .ret 0)
  | opened {e' : Ether} (url : List Byte) (h : e'.tcp = { e.tcp with tcpClientState := 3 }) (h2 : e.tcp.tcpClientState = 2)
      (hs : strays plen e c = !sentOnConnection e' c) : Taken (e', .requested url)
  | reset {fd : Byte} (hs : strays plen e c = (fd != e.tcp.wwwFd)) : Taken (e, .reset fd)
  | data {fd : Byte} (datapos len ackLen : Nat) (h3 : e.tcp.tcpClientState = 3) (hfd : fd = sessionId (e.gPB TCP_DST_PORT_L_P))
      (hs : strays plen e c = !ofConnection e c) : Taken (e, .data fd datapos len ackLen)

/-- A SYN-ACK is answered on the connection exactly if it answers the SYN. -/
theorem sentOnConnection_clientSynSent {len : Nat} (hf : hasFlag e TCP_FLAGS_SYN_V ∧ hasFlag e TCP_FLAGS_ACK_V)
    (htcp : (clientSynSent len e).1.tcp = { e.tcp with tcpClientState := 3 }) (hport : e.gPB TCP_DST_PORT_H_P = TCPCLIENT_SRC_PORT_H) :
    sentOnConnection (clientSynSent len e).1 c = answersSyn e c := by
  have hans := answers_clientSynSent e len hf
  have hseq := (continues_clientSynSent e len hf).seqNumber
  unfold sentOnConnection answersSyn onPorts
  rw [hans.srcH, hans.srcL, hans.dstH, hans.dstL, hseq, htcp, hport, beq_self_eq_true, Bool.true_and]
  have hportL : ({ e.tcp with tcpClientState := 3 } : TcpClient).portL = e.tcp.portL := rfl
  rw [hportL]
  cases e.gPB TCP_SRC_PORT_H_P == e.tcp.tcpClientPortH <;> cases e.gPB TCP_SRC_PORT_L_P == e.tcp.tcpClientPortL <;>
    cases e.gPB TCP_DST_PORT_L_P == e.tcp.portL <;> rfl

/-- A client segment that is no reset strays in one of two ways. -/
theorem strays_of_isClientSegment (hc : isClientSegment plen e = true) (hrst : ¬hasFlag e TCP_FLAGS_RST_V = true) : strays plen e c =
    (decide (e.tcp.tcpClientState = 2) && hasFlag e TCP_FLAGS_SYN_V && hasFlag e TCP_FLAGS_ACK_V && !answersSyn e c ||
      decide (e.tcp.tcpClientState = 3) && decide (0 < getTcpDataLen e) && !ofConnection e c) := by
  unfold strays
  rw [hc, if_neg hrst, Bool.true_and]

/-- While the SYN is unanswered: a SYN-ACK opens the connection, of its own session with the request; anything else is refused. -/
theorem clientSynSent_taken (hc : isClientSegment plen e = true) (hrst : ¬hasFlag e TCP_FLAGS_RST_V = true) (h2 : e.tcp.tcpClientState = 2)
    (hcb : e.tcp.clientTcpCb = true) (hown : sessionId e.tcp.portL = e.tcp.wwwFd) (hport : e.gPB TCP_DST_PORT_H_P = TCPCLIENT_SRC_PORT_H) :
    Taken plen e c (clientSynSent (getTcpDataLen e) e) := by
  have hstrays := strays_of_isClientSegment plen e c hc hrst
  rcases clientSynSent_cases e (getTcpDataLen e) with ⟨hsyn, hack, htcp, hu⟩ | ⟨hf, htcp, hu⟩
  · have hsent := sentOnConnection_clientSynSent e c ⟨hsyn, hack⟩ htcp hport
    have hstray : strays plen e c = !answersSyn e c := by
      rw [hstrays, hsyn, hack, h2]
      simp
    by_cases hfd : sessionId ((synAckAnswer e).gPB TCP_SRC_PORT_L_P) = e.tcp.wwwFd
    · rw [if_pos ⟨hcb, hfd⟩] at hu
      have ho : Taken plen e c ((clientSynSent (getTcpDataLen e) e).1, .requested e.tcp.clientUrlbuf) :=
        .opened _ htcp h2 (by rw [hstray, hsent])
      rwa [← hu] at ho
    · rw [if_neg fun h => hfd h.2] at hu
      rw [(answers_synAckAnswer e).srcL] at hfd
      have hne : answersSyn e c = false := by
        by_contra hof
        simp only [answersSyn, onPorts, Bool.not_eq_false, Bool.and_eq_true, beq_iff_eq] at hof
        rw [hof.1.2, hown] at hfd
        exact hfd rfl
      have hm : Taken plen e c ((clientSynSent (getTcpDataLen e) e).1, .ret 0) := .mute htcp h2 (by rw [hstray, hne]; rfl)
      rwa [← hu] at hm
  · have hr : Taken plen e c ((clientSynSent (getTcpDataLen e) e).1, .ret 0) := by
      have hflags : (hasFlag e TCP_FLAGS_SYN_V && hasFlag e TCP_FLAGS_ACK_V) = false := by simpa using hf
      refine .refused htcp h2 ?_
      rw [hstrays, h2, Bool.and_assoc (decide (2 = 2)), hflags]
      simp
    rwa [← hu] at hr

/-- No data of an open connection, and no SYN unanswered: the segment is left, or ends the connection. -/
theorem clientOther_taken (hc : isClientSegment plen e = true) (hrst : ¬hasFlag e TCP_FLAGS_RST_V = true) (h2 : e.tcp.tcpClientState ≠ 2)
    (h3 : ¬(e.tcp.tcpClientState = 3 ∧ 0 < getTcpDataLen e)) : Taken plen e c (clientOther (getTcpDataLen e) e, .ret 0) := by
  have hs : strays plen e c = false := by
    have hopen : (decide (e.tcp.tcpClientState = 3) && decide (0 < getTcpDataLen e)) = false := by simpa using h3
    rw [strays_of_isClientSegment plen e c hc hrst, hopen]
    simp [h2]
  have hstep := clientOther_step plen e (getTcpDataLen e) h2
  generalize clientOther (getTcpDataLen e) e = e' at hstep ⊢
  cases hstep with
  | none h => exact .kept 0 (congrArg TcpClient.connection h) hs
  | finished h => exact .closed h (by decide) (by decide) (by decide)
  | aborted h => exact .closed h (by decide) (by decide) (by decide)
  | refused h hs2 => exact absurd hs2 h2
  | opened h hs2 => exact absurd hs2 h2

/-- Every frame is taken in one of these ways while a call waits. -/
theorem packetLoopReceived_taken (hcb : e.tcp.clientTcpCb = true) (hown : sessionId e.tcp.portL = e.tcp.wwwFd) :
    Taken plen e c (packetLoopReceived plen e) := by
  by_cases hc : isClientSegment plen e = true
  · have hc' := hc
    simp only [isClientSegment, Bool.and_eq_true, beq_iff_eq] at hc'
    obtain ⟨⟨_, hport⟩, hfrom⟩ := hc'
    rw [packetLoopReceived_of_isClientSegment plen e hc]
    unfold clientSegment
    dsimp only
    rw [if_neg (by rw [hfrom]; nofun)]
    by_cases hrst : hasFlag e TCP_FLAGS_RST_V = true
    · rw [if_pos hrst, if_pos hcb]
      exact .reset (by unfold strays; rw [hc, hrst]; rfl)
    rw [if_neg hrst]
    by_cases h2 : e.tcp.tcpClientState = 2
    · rw [if_pos h2]
      exact clientSynSent_taken plen e c hc hrst h2 hcb hown hport
    rw [if_neg h2]
    by_cases h3 : e.tcp.tcpClientState = 3 ∧ 0 < getTcpDataLen e
    · rw [if_pos ⟨h3.1, h3.2, hcb⟩]
      exact .data _ _ _ h3.1 rfl (by rw [strays_of_isClientSegment plen e c hc hrst]; simp [h3])
    · rw [if_neg fun h => h3 ⟨h.1, h.2.1⟩]
      exact clientOther_taken plen e c hc hrst h2 h3
  · have hc' : isClientSegment plen e = false := by simpa using hc
    obtain ⟨⟨pos, hpos⟩, hconn⟩ := packetLoopReceived_of_not_isClientSegment plen e hc'
    have hs : strays plen e c = false := by
      unfold strays
      rw [hc', Bool.false_and]
    have hk : Taken plen e c ((packetLoopReceived plen e).1, .ret pos) := .kept pos hconn hs
    rwa [← hpos] at hk

end

end EtherHouse
