import EtherHouse.Net.LinkCache

/-!
# What goes out

The library's functions only ever add to what has passed over the cable; and the frame that an address resolution broadcasts.
-/

namespace EtherHouse

section

variable (e : Ether)

/-! ## Functions that send -/

/-- What is sent comes last on the cable. -/
theorem wire_packetSend (len : Nat) : (packetSend len e).wire = .sent (e.buffer.slice 0 len) :: e.wire := rfl

theorem wire_copyIp (off : Nat) (a : Ip) : (e.copyIp off a).wire = e.wire := rfl

theorem wire_copyMac (off : Nat) (a : Mac) : (e.copyMac off a).wire = e.wire := rfl

/-- A branch in a step of the library. -/
theorem wire_ite (c : Prop) [Decidable c] (e₁ e₂ : Ether) : (if c then e₁ else e₂).wire = if c then e₁.wire else e₂.wire := by
  split <;> rfl

/-- A checksum sends nothing. -/
theorem wire_fillChecksum (dest off len type : Nat) : (fillChecksum dest off len type e).wire = e.wire := rfl

/-- Nor do the addresses. -/
theorem wire_setMACs (mac : Mac) : (setMACs mac e).wire = e.wire := rfl

theorem wire_setMACandIPs (mac : Mac) (dst : Ip) : (setMACandIPs mac dst e).wire = e.wire := rfl

/-- Nor does the header's checksum. -/
theorem wire_fillIpHdrChecksum : (fillIpHdrChecksum e).wire = e.wire := rfl

/-- Nor does turning a packet round. -/
theorem wire_makeEthIp : (makeEthIp e).wire = e.wire := by
  rw [makeEthIp, wire_fillIpHdrChecksum, wire_copyIp, wire_copyIp, wire_setMACs]

/-- Nor do the numbers of an answer. -/
theorem wire_stepSeqLoop (cpSeq : Bool) (i relAckNum : Nat) : (stepSeqLoop cpSeq i relAckNum e).wire = e.wire := by
  induction i generalizing relAckNum e with
  | zero => rfl
  | succ i ih => rw [stepSeqLoop, ih, Ether.put_wire, Ether.put_wire]

/-- Nor does a TCP header. -/
theorem wire_makeTcphead (relAckNum : Nat) (cpSeq : Bool) : (makeTcphead relAckNum cpSeq e).wire = e.wire := by
  simp only [makeTcphead, stepSeq, Ether.put_wire, wire_stepSeqLoop]

/-- An acknowledgment takes nothing back from the cable. -/
theorem sends_makeTcpAckFromAny (datlentoack : Nat) (addflags : Byte) :
    e.wire <:+ (makeTcpAckFromAny datlentoack addflags e).wire := by
  simp only [makeTcpAckFromAny, wire_packetSend, wire_fillChecksum, wire_makeEthIp, wire_makeTcphead, Ether.put_wire]
  exact List.suffix_cons _ _

/-- Nor does one with data. -/
theorem sends_makeTcpAckWithDataNoflags (dlen : Nat) : e.wire <:+ (makeTcpAckWithDataNoflags dlen e).wire := by
  simp only [makeTcpAckWithDataNoflags, wire_packetSend, wire_fillChecksum, wire_fillIpHdrChecksum, Ether.put_wire]
  exact List.suffix_cons _ _

/-- Nor does a SYN-ACK. -/
theorem sends_makeTcpSynackFromSyn : e.wire <:+ (makeTcpSynackFromSyn e).wire := by
  simp only [makeTcpSynackFromSyn, wire_packetSend, wire_fillChecksum, wire_makeEthIp, wire_makeTcphead, Ether.put_wire]
  exact List.suffix_cons _ _

/-- Nor does an echo reply. -/
theorem sends_makeEchoReplyFromRequest (len : Nat) : e.wire <:+ (makeEchoReplyFromRequest len e).wire := by
  simp only [makeEchoReplyFromRequest, wire_packetSend, wire_makeEthIp, Ether.put_wire, wire_ite, ite_self]
  exact List.suffix_cons _ _

/-- Nor does the answer to an ARP request. -/
theorem sends_makeArpAnswerFromRequest : e.wire <:+ (makeArpAnswerFromRequest e).wire := by
  simp only [makeArpAnswerFromRequest, wire_packetSend, wire_copyIp, wire_copyMac, wire_setMACs, Ether.put_wire]
  exact List.suffix_cons _ _

/-- Nor does an echo request. -/
theorem sends_clientIcmpRequest (destip : Ip) : e.wire <:+ (clientIcmpRequest destip e).wire := by
  simp only [clientIcmpRequest, wire_packetSend, wire_fillChecksum, wire_fillIpHdrChecksum, wire_setMACandIPs, Ether.put_wire]
  exact List.suffix_cons _ _

/-- The start of a datagram sends nothing. -/
theorem wire_udpPrepare (sport : Nat) (dip : Ip) (dport : Nat) : (udpPrepare sport dip dport e).wire = e.wire := by
  simp only [udpPrepare, Ether.put_wire, wire_copyMac, wire_setMACandIPs, wire_ite, ite_self]

/-- Its end takes nothing back. -/
theorem sends_udpTransmit (datalen : Nat) : e.wire <:+ (udpTransmit datalen e).wire := by
  simp only [udpTransmit, wire_packetSend, wire_fillChecksum, wire_fillIpHdrChecksum, Ether.put_wire]
  exact List.suffix_cons _ _

/-- Nor does a whole datagram. -/
theorem sends_sendUdp (data : List Byte) (datalen : Byte) (sport : Nat) (dip : Ip) (dport : Nat) :
    e.wire <:+ (sendUdp data datalen sport dip dport e).wire := by
  have hbody : ((udpPrepare sport dip dport e).put UDP_DATA_P (data.take (if datalen.toNat > 220 then 220 else datalen.toNat))).wire =
      e.wire := by rw [Ether.put_wire, wire_udpPrepare]
  have h := sends_udpTransmit
    ((udpPrepare sport dip dport e).put UDP_DATA_P (data.take (if datalen.toNat > 220 then 220 else datalen.toNat)))
    (if datalen.toNat > 220 then 220 else datalen.toNat)
  rw [hbody] at h
  exact h

/-- Nor does a SYN. -/
theorem sends_clientSyn (a b c : Byte) : e.wire <:+ (clientSyn a b c e).wire := by
  simp only [clientSyn, wire_packetSend, wire_fillChecksum, wire_fillIpHdrChecksum, wire_setMACandIPs, Ether.put_wire]
  exact List.suffix_cons _ _

/-- Nor does a DHCP message. -/
theorem sends_sendDhcpMessage : e.wire <:+ (sendDhcpMessage e).wire := by
  unfold sendDhcpMessage
  dsimp only
  refine List.IsSuffix.trans ?_ (sends_udpTransmit _ _)
  simp only [Ether.put_wire, wire_copyMac, wire_copyIp, wire_ite, ite_self, wire_udpPrepare]
  exact List.suffix_rfl

/-! ## Address resolution -/

/-- Nor does an ARP request. -/
theorem sends_clientArpWhohas (ip : Ip) : e.wire <:+ (clientArpWhohas ip e).wire := by
  simp only [clientArpWhohas, wire_packetSend, wire_copyIp, wire_copyMac, wire_setMACs, Ether.put_wire]
  exact List.suffix_cons _ _

/-! ## The packet loop -/

/-- Nor does the question for the gateway. -/
theorem sends_idleGateway (up : Bool) : e.wire <:+ (idleGateway up e).wire := by
  unfold idleGateway
  dsimp only
  split
  · exact sends_clientArpWhohas e e.cfg.gwip
  · exact List.suffix_rfl

/-- Nor does the pending connection. -/
theorem sends_idleSyn : e.wire <:+ (idleSyn e).wire := by
  rw [idleSyn_eq]
  split
  · exact sends_clientSyn (synSent e) _ _ _
  · exact List.suffix_rfl

/-- Nor does the question for the name server. -/
theorem sends_idleDns : e.wire <:+ (idleDns e).wire := by
  unfold idleDns
  split
  · exact sends_clientArpWhohas e e.cfg.dnsip
  · exact List.suffix_rfl

/-- Nor does the question for the destination. -/
theorem sends_idleDest : e.wire <:+ (idleDest e).wire := by
  unfold idleDest
  split
  · exact sends_clientArpWhohas e e.cfg.hisip
  · exact List.suffix_rfl

/-- So an idle round takes nothing back. -/
theorem sends_packetLoopIdle (up : Bool) : e.wire <:+ (packetLoopIdle up e).wire :=
  (sends_idleGateway e up).trans ((sends_idleSyn _).trans ((sends_idleDns _).trans (sends_idleDest _)))

/-- Nor does a frame that is received. -/
theorem sends_packetReceiveInto (a : Arrival) : e.wire <:+ (packetReceiveInto a e).wire := by
  cases a with
  | nothing => exact List.suffix_rfl
  | damaged => exact List.suffix_rfl
  | frame bytes => exact List.suffix_cons _ _

/-- Taking in the gateway's address sends nothing. -/
theorem wire_arpGateway : (arpGateway e).wire = e.wire := by
  unfold arpGateway
  split
  · split <;> rfl
  · rfl

/-- Nor does taking in the name server's. -/
theorem wire_arpDns : (arpDns e).wire = e.wire := by
  unfold arpDns
  split
  · split <;> rfl
  · rfl

/-- Nor does taking in the destination's. -/
theorem wire_arpDest : (arpDest e).wire = e.wire := by
  unfold arpDest
  split
  · split <;> rfl
  · rfl

/-- An ARP message takes nothing back. -/
theorem sends_serviceArp : e.wire <:+ (serviceArp e).wire := by
  rw [serviceArp, wire_arpDest, wire_arpDns, wire_arpGateway]
  split
  · exact sends_makeArpAnswerFromRequest e
  · exact List.suffix_rfl

/-- Nor does a SYN-ACK. -/
theorem sends_clientSynSent (len : Nat) : e.wire <:+ (clientSynSent len e).1.wire := by
  unfold clientSynSent
  split
  · dsimp only
    refine List.IsSuffix.trans ?_ (sends_makeTcpAckWithDataNoflags _ _)
    have hanswer := sends_makeTcpAckFromAny e 0 0
    split
    · unfold wwwClientInternalDatafillCb
      split
      · exact hanswer
      · exact hanswer
    · exact hanswer
  · exact sends_makeTcpAckFromAny { e with tcp := { e.tcp with tcpClientState := 1 } } _ _

/-- Nor does a segment of an open connection. -/
theorem sends_clientOther (len : Nat) : e.wire <:+ (clientOther len e).wire := by
  unfold clientOther
  dsimp only
  split
  · split
    · split
      · exact List.suffix_rfl
      · exact sends_makeTcpAckFromAny e (len + 1) (TCP_FLAGS_PUSH_V ||| TCP_FLAGS_FIN_V)
    · split
      · exact sends_makeTcpAckFromAny e len 0
      · exact List.suffix_rfl
  · exact List.suffix_rfl

/-- Nor does any segment for the client. -/
theorem sends_clientSegment (plen : Nat) : e.wire <:+ (clientSegment plen e).1.wire := by
  unfold clientSegment
  dsimp only
  split
  · exact List.suffix_rfl
  split
  · split <;> exact List.suffix_rfl
  split
  · exact sends_clientSynSent e _
  split
  · exact List.suffix_rfl
  · exact sends_clientOther e _

/-- Nor does one for the server port. -/
theorem sends_accept (port plen : Nat) : e.wire <:+ (accept port plen e).1.wire := by
  unfold accept
  split
  · split
    · exact sends_makeTcpSynackFromSyn e
    split
    · dsimp only
      split
      · exact List.suffix_rfl
      split
      · exact sends_makeTcpAckFromAny { e with tcp := { e.tcp with infoDataLen := getTcpDataLen e } } _ _
      · exact List.suffix_rfl
    · exact List.suffix_rfl
  · exact List.suffix_rfl

/-- So no classification takes anything back. -/
theorem sends_packetLoopReceived (plen : Nat) : e.wire <:+ (packetLoopReceived plen e).1.wire := by
  unfold packetLoopReceived
  split
  · exact sends_serviceArp e
  split
  · exact List.suffix_rfl
  split
  · exact sends_makeEchoReplyFromRequest e plen
  split
  · exact List.suffix_rfl
  split
  · exact sends_clientSegment e plen
  · exact sends_accept e e.cfg.hisport plen

/-- Nor does what follows the result callback. -/
theorem sends_packetLoopAfter (u : Upcall) : e.wire <:+ (packetLoopAfter u e).wire := by
  cases u with
  | data fd datapos len ackLen =>
    rw [packetLoopAfter]
    split
    · exact sends_makeTcpAckFromAny e ackLen TCP_FLAGS_PUSH_V
    · exact sends_makeTcpAckFromAny e ackLen (TCP_FLAGS_PUSH_V ||| TCP_FLAGS_FIN_V)
  | _ => exact List.suffix_rfl

/-- Another destination sends nothing. -/
theorem wire_selectDestAddr (destip : Ip) : (selectDestAddr destip e).wire = e.wire := by
  unfold selectDestAddr
  split
  · split <;> rfl
  · rfl

/-- Nor does a DHCP option. -/
theorem wire_applyDhcpOption (option : Byte) (ptr : Nat) : (applyDhcpOption option ptr e).wire = e.wire := by
  unfold applyDhcpOption
  repeat' split
  all_goals rfl

/-- Nor do all options of a message. -/
theorem wire_processDhcpOptions (len n ptr : Nat) : (processDhcpOptions len n ptr e).wire = e.wire := by
  induction n generalizing ptr e with
  | zero => rfl
  | succ n ih =>
    rw [processDhcpOptions]
    split
    · rw [ih, wire_applyDhcpOption]
    · rw [wire_applyDhcpOption]

/-- The DHCP client's turn takes nothing back. -/
theorem sends_dhcpStateMachine (t₁ t₂ : Long) (len : Nat) : e.wire <:+ (dhcpStateMachine t₁ t₂ len e).wire := by
  have hack : ∀ e : Ether, (let e := { e with dhcp := { e.dhcp with leaseStart := t₁ } }
      let e := if e.cfg.gwip.get 0 ≠ 0 then setGwIp e.cfg.gwip e else e
      enterDhcpState .bound none e).wire = e.wire := by
    intro e
    dsimp only
    split <;> rfl
  unfold dhcpStateMachine
  split
  · split
    · exact sends_sendDhcpMessage e
    · exact List.suffix_rfl
  · exact sends_sendDhcpMessage { e with
      cfg := { e.cfg with myip := allZeros }
      dhcp := { e.dhcp with currentXid := t₁ } }
  · split
    · have hoffer : (processDhcpOffer len e).wire = e.wire := wire_processDhcpOptions _ _ _ _
      have hsend := sends_sendDhcpMessage (processDhcpOffer len e)
      rw [hoffer] at hsend
      exact hsend
    · split <;> exact List.suffix_rfl
  · split
    · rw [hack e]
    · split <;> exact List.suffix_rfl
  · split
    · rw [hack e]
    · split <;> exact List.suffix_rfl

/-! ## The destination -/

/-- The destination is this address, and its link address is neither held nor waited for. -/
structure Unasked (ip : Ip) (e : Ether) : Prop where
  hisip : e.cfg.hisip = ip
  notHeld : e.arp.hasDestMac = false
  notAwaited : e.arp.waitingForDestMac = false

variable {e} {ip : Ip}

/-- Whether an address has been asked for depends on the entry. -/
theorem Unasked.of_entry {e' : Ether} (h : Unasked ip e) (he : e'.entry = e.entry) : Unasked ip e' where
  hisip := (congrArg (·.1) he).trans h.hisip
  notHeld := (congrArg (·.2.2.1) he).trans h.notHeld
  notAwaited := (congrArg (·.2.2.2.1) he).trans h.notAwaited

/-- So it depends on the statics. -/
theorem Unasked.of_statics {e' : Ether} (h : Unasked ip e) (he : e'.statics = e.statics) : Unasked ip e' :=
  h.of_entry (entry_of_statics he)

/-- It depends on who is waited for. -/
theorem Unasked.of_awaited {e' : Ether} (h : Unasked ip e) (he : e'.awaited = e.awaited) : Unasked ip e' where
  hisip := (congrArg (·.2.1.hisip) he).trans h.hisip
  notHeld := (congrArg (·.2.2.1) he).trans h.notHeld
  notAwaited := (congrArg (·.2.2.2) he).trans h.notAwaited

/-- An ARP message asks for no one. -/
theorem Unasked.serviceArp (h : Unasked ip e) : Unasked ip (serviceArp e) := by
  have hanswered : Unasked ip (arpAnswered e) := by
    unfold arpAnswered
    split
    · exact h.of_statics (statics_makeArpAnswerFromRequest e)
    · exact h
  have hothers := (hanswered.of_awaited (awaited_arpGateway _)).of_awaited (awaited_arpDns _)
  have hserve : EtherHouse.serviceArp e = arpDest (arpDns (arpGateway (arpAnswered e))) := rfl
  rw [hserve, arpDest, if_neg]
  · exact hothers
  · rw [hothers.notAwaited]
    exact fun hw => Bool.false_ne_true hw.2

/-- A frame does not change that: nothing is waited for. -/
theorem Unasked.received (h : Unasked ip e) (plen : Nat) : Unasked ip (packetLoopReceived plen e).1 := by
  by_cases harp : ethTypeIsArpAndMyIp plen e = true
  · rw [packetLoopReceived, if_pos harp]
    exact h.serviceArp
  · have harp' : ethTypeIsArpAndMyIp plen e = false := by simpa using harp
    exact h.of_entry (entry_of_routing (routing_packetLoopReceived e harp'))

/-- Choosing a destination on the local network drops what is held of another one. -/
theorem Unasked.select (hl : isLan e e.cfg.myip ip = true)
    (hc : ¬(e.cfg.hisip = ip ∧ (e.arp.hasDestMac = true ∨ e.arp.waitingForDestMac = true))) :
    Unasked ip (selectDestAddr ip e) := by
  rw [selectDestAddr, if_pos hl]
  split
  · exact ⟨rfl, rfl, rfl⟩
  · next hip =>
    have hip' : e.cfg.hisip = ip := by simpa using hip
    refine ⟨hip', ?_, ?_⟩
    · exact Bool.eq_false_iff.mpr fun hh => hc ⟨hip', .inl hh⟩
    · exact Bool.eq_false_iff.mpr fun hw => hc ⟨hip', .inr hw⟩

/-- A poll without a packet asks for it. -/
theorem Unasked.asks (h : Unasked ip e) (up : Bool) (hl : isLan e e.cfg.myip ip = true) :
    ∃ g : Ether, e.wire <:+ g.wire ∧ (packetLoopIdle up e).wire = (clientArpWhohas ip g).wire := by
  have hcfg : (idleDns (idleSyn (idleGateway up e))).cfg = { e.cfg with delaycnt := e.cfg.delaycnt + 1 } := by
    rw [cfg_idleDns, cfg_idleSyn, cfg_idleGateway]
  have hbefore : Unasked ip (idleDns (idleSyn (idleGateway up e))) :=
    ((h.of_entry (entry_idleGateway e up)).of_entry (entry_idleSyn _)).of_entry (entry_idleDns _)
  have hgrown : e.wire <:+ (idleDns (idleSyn (idleGateway up e))).wire :=
    (sends_idleGateway e up).trans ((sends_idleSyn _).trans (sends_idleDns _))
  rw [packetLoopIdle]
  generalize idleDns (idleSyn (idleGateway up e)) = g at hcfg hbefore hgrown
  have hlan : isLan g g.cfg.myip g.cfg.hisip = true := by
    rw [hbefore.hisip]
    unfold isLan at hl ⊢
    rw [hcfg]
    exact hl
  refine ⟨g, hgrown, ?_⟩
  unfold idleDest
  rw [if_pos ⟨hlan, by rw [hbefore.notHeld]; rfl, by rw [hbefore.notAwaited]; rfl⟩, hbefore.hisip]

end

end EtherHouse
