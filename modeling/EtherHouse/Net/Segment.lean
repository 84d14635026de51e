import EtherHouse.Net.Frame

/-!
# Segments for the client

Which frames lead the packet loop to the client's result callback, what they must be, and where a frame that does not leaves the
connection.
-/

namespace EtherHouse

/-- The client's connection: the statics that the packet loop's server side does not write. -/
def TcpClient.connection (t : TcpClient) : TcpClient := { t with infoDataLen := 0, seqnum := 0 }

section

variable (plen : Nat) (e : Ether)

/-- An ARP message leaves the connection alone. -/
theorem connection_serviceArp : (serviceArp e).tcp.connection = e.tcp.connection := by
  have hgw : ∀ e : Ether, (arpGateway e).tcp = e.tcp := by
    intro e
    unfold arpGateway
    split
    · split <;> rfl
    · rfl
  have hdns : ∀ e : Ether, (arpDns e).tcp = e.tcp := by
    intro e
    unfold arpDns
    split
    · split <;> rfl
    · rfl
  have hdest : ∀ e : Ether, (arpDest e).tcp = e.tcp := by
    intro e
    unfold arpDest
    split
    · split <;> rfl
    · rfl
  rw [serviceArp, hdest, hdns, hgw]
  split
  · rw [tcp_of_statics (statics_makeArpAnswerFromRequest e)]
  · rfl

/-- So does a SYN-ACK of the device's. -/
theorem connection_makeTcpSynackFromSyn : (makeTcpSynackFromSyn e).tcp.connection = e.tcp.connection := by
  unfold makeTcpSynackFromSyn
  dsimp only
  rw [tcp_of_statics (statics_packetSend _ _), tcp_of_statics (statics_fillChecksum _ _ _ _ _)]
  simp only [Ether.put_tcp, TcpClient.connection]
  rw [tcp_of_statics (statics_makeTcphead _ _ _), Ether.put_tcp, tcp_of_statics (statics_makeEthIp _), Ether.put_tcp]

/-- So does whatever the server port is sent. -/
theorem connection_accept (port : Nat) : (accept port plen e).1.tcp.connection = e.tcp.connection := by
  unfold accept
  dsimp only
  split
  · split
    · exact connection_makeTcpSynackFromSyn e
    · split
      · split
        · rfl
        · split
          · rw [tcp_of_statics (statics_makeTcpAckFromAny _ _ _)]
            rfl
          · rfl
      · rfl
  · rfl

/-- A frame is taken for a segment of the client's, or the packet loop returns and leaves the connection alone. -/
theorem packetLoopReceived_cases :
    (42 ≤ plen ∧ packetLoopReceived plen e = clientSegment plen e) ∨
      (∃ pos, (packetLoopReceived plen e).2 = .ret pos) ∧ (packetLoopReceived plen e).1.tcp.connection = e.tcp.connection := by
  unfold packetLoopReceived
  split
  · exact Or.inr ⟨⟨0, rfl⟩, connection_serviceArp e⟩
  · split
    · exact Or.inr ⟨⟨0, rfl⟩, rfl⟩
    · next hip =>
      split
      · exact Or.inr ⟨⟨0, rfl⟩, by rw [tcp_of_statics (statics_makeEchoReplyFromRequest _ _)]⟩
      · split
        · exact Or.inr ⟨⟨0, rfl⟩, rfl⟩
        · split
          · left
            simp only [ethTypeIsIpAndMyIp, Bool.not_eq_false, Bool.and_eq_true, decide_eq_true_eq] at hip
            exact ⟨hip.1.1.1.1, rfl⟩
          · exact Or.inr ⟨⟨_, rfl⟩, connection_accept plen e _⟩

/-- The answer to a SYN-ACK, before the request is put into it. -/
def synAckAnswer : Ether := (makeTcpAckFromAny 0 0 e).put TCP_FLAGS_P [TCP_FLAGS_ACK_V ||| TCP_FLAGS_PUSH_V]

/-- The answer to a SYN-ACK leaves the client to its caller. -/
theorem tcp_synAckAnswer : (synAckAnswer e).tcp = e.tcp := by
  rw [synAckAnswer, Ether.put_tcp, tcp_of_statics (statics_makeTcpAckFromAny _ _ _)]

/-- A segment that answers the SYN: the connection is open, and the request goes out if a session of its number waits for it; or the
segment is refused, and the SYN will be sent again. -/
theorem clientSynSent_cases (len : Nat) :
    (hasFlag e TCP_FLAGS_SYN_V = true ∧ hasFlag e TCP_FLAGS_ACK_V = true ∧
      (clientSynSent len e).1.tcp = { e.tcp with tcpClientState := 3 } ∧
      (clientSynSent len e).2 =
        if e.tcp.clientTcpCb = true ∧ sessionId ((synAckAnswer e).gPB TCP_SRC_PORT_L_P) = e.tcp.wwwFd then
          .requested e.tcp.clientUrlbuf else .ret 0) ∨
    (¬(hasFlag e TCP_FLAGS_SYN_V = true ∧ hasFlag e TCP_FLAGS_ACK_V = true) ∧
      (clientSynSent len e).1.tcp = { e.tcp with tcpClientState := 1 } ∧ (clientSynSent len e).2 = .ret 0) := by
  unfold clientSynSent
  by_cases hf : hasFlag e TCP_FLAGS_SYN_V = true ∧ hasFlag e TCP_FLAGS_ACK_V = true
  · left
    rw [if_pos hf]
    have hsend : ∀ (a : Ether) (fd : Byte), a.tcp = e.tcp →
        let x := if a.tcp.clientTcpCb then wwwClientInternalDatafillCb fd a else (a, 0)
        let e' := makeTcpAckWithDataNoflags x.2 { x.1 with tcp := { x.1.tcp with tcpClientState := 3 } }
        e'.tcp = { e.tcp with tcpClientState := 3 } ∧
          (if e'.tcp.clientTcpCb ∧ fd = e'.tcp.wwwFd then Upcall.requested e'.tcp.clientUrlbuf else .ret 0) =
            if e.tcp.clientTcpCb = true ∧ fd = e.tcp.wwwFd then .requested e.tcp.clientUrlbuf else .ret 0 := by
      intro a fd ha x e'
      have hx : x.1.tcp = e.tcp := by
        change (if a.tcp.clientTcpCb then wwwClientInternalDatafillCb fd a else (a, 0)).1.tcp = e.tcp
        split
        · rw [tcp_of_statics (statics_wwwClientInternalDatafillCb _ _), ha]
        · exact ha
      have he' : e'.tcp = { e.tcp with tcpClientState := 3 } := by
        change (makeTcpAckWithDataNoflags _ _).tcp = _
        rw [tcp_of_statics (statics_makeTcpAckWithDataNoflags _ _), hx]
      exact ⟨he', by rw [he']⟩
    obtain ⟨htcp, hup⟩ := hsend (synAckAnswer e) _ (tcp_synAckAnswer e)
    exact ⟨hf.1, hf.2, htcp, hup⟩
  · right
    rw [if_neg hf]
    exact ⟨hf, by rw [tcp_of_statics (statics_makeTcpAckFromAny _ _ _)], rfl⟩

/-- Where the data of a segment begins, and how much of it the frame holds. -/
def dataStart : Nat := if tcpDataStart e > plen - 8 then plen - 8 else tcpDataStart e

def dataLen : Nat := if dataStart plen e + getTcpDataLen e > plen then plen - dataStart plen e else getTcpDataLen e

/-- What a segment for the client does: to the connection, and which callback it leads to. -/
inductive SegmentStep : Ether × Upcall → Prop where
  | none {e' : Ether} (h : e'.tcp = e.tcp) : SegmentStep (e', .ret 0)
  | finished {e' : Ether} (h : e'.tcp = { e.tcp with tcpClientState := 6 })
      (hs : e.tcp.tcpClientState ≠ 2 ∧ e.tcp.tcpClientState ≠ 3 ∧ e.tcp.tcpClientState ≠ 5) : SegmentStep (e', .ret 0)
  | aborted {e' : Ether} (h : e'.tcp = { e.tcp with tcpClientState := 5 }) (hcb : e.tcp.clientTcpCb = false) :
      SegmentStep (e', .ret 0)
  | refused {e' : Ether} (h : e'.tcp = { e.tcp with tcpClientState := 1 }) (hs : e.tcp.tcpClientState = 2) :
      SegmentStep (e', .ret 0)
  | opened {e' : Ether} (h : e'.tcp = { e.tcp with tcpClientState := 3 }) (hs : e.tcp.tcpClientState = 2) {u : Upcall}
      (hu : u = if e.tcp.clientTcpCb = true ∧ sessionId ((synAckAnswer e).gPB TCP_SRC_PORT_L_P) = e.tcp.wwwFd then
        .requested e.tcp.clientUrlbuf else .ret 0) : SegmentStep (e', u)
  | reset (hrst : hasFlag e TCP_FLAGS_RST_V = true) (hcb : e.tcp.clientTcpCb = true) :
      SegmentStep (e, .reset (sessionId (e.gPB TCP_DST_PORT_L_P)))
  | data (hs : e.tcp.tcpClientState = 3) (hlen : 0 < getTcpDataLen e) (hcb : e.tcp.clientTcpCb = true) :
      SegmentStep (e, .data (sessionId (e.gPB TCP_DST_PORT_L_P)) (dataStart plen e) (dataLen plen e) (getTcpDataLen e))

/-- A segment of an open connection without data. -/
theorem clientOther_step (len : Nat) (h2 : e.tcp.tcpClientState ≠ 2) : SegmentStep plen e (clientOther len e, .ret 0) := by
  unfold clientOther
  dsimp only
  split
  · next h5 =>
    split
    · split
      · exact .none rfl
      · next h3 => exact .finished (by rw [tcp_of_statics (statics_makeTcpAckFromAny _ _ _)]) ⟨h2, h3, h5⟩
    · split
      · exact .none (tcp_of_statics (statics_makeTcpAckFromAny _ _ _))
      · exact .none rfl
  · exact .none rfl

/-- Every segment for the client is one of these steps. -/
theorem clientSegment_step : SegmentStep plen e (clientSegment plen e) := by
  unfold clientSegment
  dsimp only
  split
  · exact .none rfl
  split
  · next hrst =>
    split
    · next hcb => exact .reset hrst hcb
    · next hcb => exact .aborted rfl (by simpa using hcb)
  split
  · next hs =>
    rcases clientSynSent_cases e (getTcpDataLen e) with ⟨_, _, htcp, hu⟩ | ⟨_, htcp, hu⟩
    · exact .opened htcp hs hu
    · have hret : SegmentStep plen e ((clientSynSent (getTcpDataLen e) e).1, .ret 0) := .refused htcp hs
      rwa [← hu] at hret
  · next hs =>
    split
    · next hd => exact .data hd.1 hd.2.1 hd.2.2
    · exact clientOther_step plen e _ hs

/-- What any frame does to the connection. -/
theorem packetLoopReceived_step :
    (42 ≤ plen ∧ SegmentStep plen e (packetLoopReceived plen e)) ∨
      (∃ pos, (packetLoopReceived plen e).2 = .ret pos) ∧ (packetLoopReceived plen e).1.tcp.connection = e.tcp.connection := by
  rcases packetLoopReceived_cases plen e with ⟨hlen, heq⟩ | hret
  · rw [heq]
    exact Or.inl ⟨hlen, clientSegment_step plen e⟩
  · exact Or.inr hret

/-- A reset that reaches the callback. -/
theorem packetLoopReceived_reset {fd : Byte} (h : (packetLoopReceived plen e).2 = .reset fd) :
    (packetLoopReceived plen e).1 = e ∧ fd = sessionId (e.gPB TCP_DST_PORT_L_P) := by
  rcases packetLoopReceived_step plen e with ⟨_, hs⟩ | ⟨⟨pos, hpos⟩, _⟩
  · generalize packetLoopReceived plen e = r at hs h ⊢
    cases hs with
    | reset => cases h; exact ⟨rfl, rfl⟩
    | opened _ _ hu =>
      dsimp only at h
      rw [hu] at h
      split at h <;> cases h
    | _ => cases h
  · rw [hpos] at h
    cases h

/-- Data that reaches the callback. -/
theorem packetLoopReceived_data {fd : Byte} {datapos len ackLen : Nat}
    (h : (packetLoopReceived plen e).2 = .data fd datapos len ackLen) :
    42 ≤ plen ∧ (packetLoopReceived plen e).1 = e ∧ e.tcp.tcpClientState = 3 ∧ fd = sessionId (e.gPB TCP_DST_PORT_L_P) ∧
      datapos = dataStart plen e ∧ len = dataLen plen e := by
  rcases packetLoopReceived_step plen e with ⟨hlen, hs⟩ | ⟨⟨pos, hpos⟩, _⟩
  · generalize packetLoopReceived plen e = r at hs h ⊢
    cases hs with
    | data hs => cases h; exact ⟨hlen, rfl, hs, rfl, rfl, rfl⟩
    | opened _ _ hu =>
      dsimp only at h
      rw [hu] at h
      split at h <;> cases h
    | _ => cases h
  · rw [hpos] at h
    cases h

/-- What the callback is handed lies in the frame. -/
theorem wwwClientInternalResultCb_le {u : Upcall} (hu : (packetLoopReceived plen e).2 = u) {status : Byte} {off len : Nat}
    (h : wwwClientInternalResultCb (packetLoopReceived plen e).1 u = some (status, off, len)) : off + len ≤ plen := by
  cases u with
  | ret pos => cases h
  | requested url => cases h
  | reset fd =>
    simp only [wwwClientInternalResultCb] at h
    split at h
    · cases h; exact Nat.zero_le plen
    · cases h
  | data fd datapos len' ackLen =>
    obtain ⟨hplen, heq, _, _, hpos, hlen⟩ := packetLoopReceived_data plen e hu
    rw [heq] at h
    simp only [wwwClientInternalResultCb] at h
    split at h
    · cases h; exact Nat.zero_le plen
    · split at h
      · next hlong =>
        -- more than twelve bytes: the data begins where the header says
        cases h
        rw [hlen]
        rw [hlen] at hlong
        unfold dataLen dataStart at hlong ⊢
        split at hlong <;> split at hlong <;> (repeat' split) <;> omega
      · cases h

end

end EtherHouse
