import EtherHouse.Net.PacketLoop

/-!
# What the library's functions leave alone

Most functions only write into the buffer and send: they leave the statics as they are (`statics`). The others keep what a sketch's
request consists of and the settings that nothing changes once the device runs (`held`).
-/

namespace EtherHouse

/-! ## Functions that only send -/

/-- The statics beside the buffer, the cable and the last DNS query's number. -/
def Ether.statics (e : Ether) : Config × ArpCache × TcpClient × DhcpClient := (e.cfg, e.arp, e.tcp, e.dhcp)

section statics

variable (e : Ether)

/-- The settings are statics. -/
theorem cfg_of_statics {e e' : Ether} (h : e'.statics = e.statics) : e'.cfg = e.cfg := congrArg (·.1) h

/-- So is the client. -/
theorem tcp_of_statics {e e' : Ether} (h : e'.statics = e.statics) : e'.tcp = e.tcp := congrArg (·.2.2.1) h

/-- The buffer is none of them. -/
@[simp] theorem statics_put (off : Nat) (xs : List Byte) : (e.put off xs).statics = e.statics := rfl

@[simp] theorem statics_copyIp (off : Nat) (a : Ip) : (e.copyIp off a).statics = e.statics := rfl

@[simp] theorem statics_copyMac (off : Nat) (a : Mac) : (e.copyMac off a).statics = e.statics := rfl

/-- Nor is the cable. -/
@[simp] theorem statics_packetSend (len : Nat) : (packetSend len e).statics = e.statics := rfl

/-- A branch in a step of the library. -/
@[simp] theorem statics_ite (c : Prop) [Decidable c] (e₁ e₂ : Ether) :
    (if c then e₁ else e₂).statics = if c then e₁.statics else e₂.statics := by split <;> rfl

/-- A checksum changes the buffer only. -/
@[simp] theorem statics_fillChecksum (dest off len type : Nat) : (fillChecksum dest off len type e).statics = e.statics := rfl

@[simp] theorem statics_setMACs (mac : Mac) : (setMACs mac e).statics = e.statics := rfl

@[simp] theorem statics_setMACandIPs (mac : Mac) (dst : Ip) : (setMACandIPs mac dst e).statics = e.statics := rfl

@[simp] theorem statics_fillIpHdrChecksum : (fillIpHdrChecksum e).statics = e.statics := rfl

/-- So does turning a packet round. -/
@[simp] theorem statics_makeEthIp : (makeEthIp e).statics = e.statics := by simp [makeEthIp]

/-- So do the numbers of an answer. -/
@[simp] theorem statics_stepSeqLoop (cpSeq : Bool) (i relAckNum : Nat) :
    (stepSeqLoop cpSeq i relAckNum e).statics = e.statics := by
  induction i generalizing relAckNum e with
  | zero => rfl
  | succ i ih => rw [stepSeqLoop, ih, statics_put, statics_put]

/-- So does a TCP header. -/
@[simp] theorem statics_makeTcphead (relAckNum : Nat) (cpSeq : Bool) : (makeTcphead relAckNum cpSeq e).statics = e.statics := by
  simp only [makeTcphead, stepSeq, statics_put, statics_stepSeqLoop]

/-- The answer to an ARP request changes buffer and cable only. -/
@[simp] theorem statics_makeArpAnswerFromRequest : (makeArpAnswerFromRequest e).statics = e.statics := by
  simp only [makeArpAnswerFromRequest, statics_packetSend, statics_copyIp, statics_copyMac, statics_put, statics_setMACs]

/-- So does an acknowledgment. -/
@[simp] theorem statics_makeTcpAckFromAny (datlentoack : Nat) (addflags : Byte) :
    (makeTcpAckFromAny datlentoack addflags e).statics = e.statics := by
  simp only [makeTcpAckFromAny, statics_packetSend, statics_fillChecksum, statics_makeEthIp, statics_makeTcphead, statics_put]

/-- So does one with data. -/
@[simp] theorem statics_makeTcpAckWithDataNoflags (dlen : Nat) : (makeTcpAckWithDataNoflags dlen e).statics = e.statics := by
  simp only [makeTcpAckWithDataNoflags, statics_packetSend, statics_fillChecksum, statics_fillIpHdrChecksum, statics_put]

/-- So does an echo reply. -/
@[simp] theorem statics_makeEchoReplyFromRequest (len : Nat) : (makeEchoReplyFromRequest len e).statics = e.statics := by
  simp only [makeEchoReplyFromRequest, statics_packetSend, statics_makeEthIp, statics_put, statics_ite, ite_self]

/-- So does an echo request. -/
@[simp] theorem statics_clientIcmpRequest (destip : Ip) : (clientIcmpRequest destip e).statics = e.statics := by
  simp only [clientIcmpRequest, statics_packetSend, statics_fillChecksum, statics_fillIpHdrChecksum, statics_setMACandIPs,
    statics_put]

/-- So does the start of a datagram. -/
@[simp] theorem statics_udpPrepare (sport : Nat) (dip : Ip) (dport : Nat) : (udpPrepare sport dip dport e).statics = e.statics := by
  simp only [udpPrepare, statics_put, statics_copyMac, statics_setMACandIPs, statics_ite, ite_self]

/-- So does its end. -/
@[simp] theorem statics_udpTransmit (datalen : Nat) : (udpTransmit datalen e).statics = e.statics := by
  simp only [udpTransmit, statics_packetSend, statics_fillChecksum, statics_fillIpHdrChecksum, statics_put]

/-- So does a whole datagram. -/
@[simp] theorem statics_sendUdp (data : List Byte) (datalen : Byte) (sport : Nat) (dip : Ip) (dport : Nat) :
    (sendUdp data datalen sport dip dport e).statics = e.statics := by
  simp only [sendUdp, statics_udpTransmit, statics_put, statics_udpPrepare]

/-- So does an ARP request. -/
@[simp] theorem statics_clientArpWhohas (ipWeSearch : Ip) : (clientArpWhohas ipWeSearch e).statics = e.statics := by
  simp only [clientArpWhohas, statics_packetSend, statics_copyIp, statics_copyMac, statics_put, statics_setMACs]

/-- So does a DHCP message. -/
@[simp] theorem statics_sendDhcpMessage : (sendDhcpMessage e).statics = e.statics := by
  simp only [sendDhcpMessage, statics_udpTransmit, statics_udpPrepare, statics_put, statics_copyIp, statics_copyMac, statics_ite,
    ite_self]

/-- Writing the request changes the buffer only. -/
@[simp] theorem statics_wwwClientInternalDatafillCb (fd : Byte) :
    (wwwClientInternalDatafillCb fd e).1.statics = e.statics := by
  unfold wwwClientInternalDatafillCb
  split <;> rfl

/-- So does a frame that is received, but for the cable. -/
@[simp] theorem statics_packetReceiveInto (a : Arrival) : (packetReceiveInto a e).statics = e.statics := by
  cases a <;> rfl

end statics

/-! ## What is held -/

/-- The client's statics without those that a connection moves. -/
def TcpClient.atRest (t : TcpClient) : TcpClient :=
  { t with tcpclientSrcPortL := 0, tcpClientState := 0, infoDataLen := 0, seqnum := 0 }

/-- What nothing but a new request changes. -/
def heldOf (s : Config × ArpCache × TcpClient × DhcpClient) : Nat × Bool × TcpClient :=
  (s.1.hisport, s.1.persistTcpConnection, s.2.2.1.atRest)

def Ether.held (e : Ether) : Nat × Bool × TcpClient := heldOf e.statics

section held

variable (e : Ether)

/-- What a connection keeps is among the statics. -/
theorem held_of_statics {e e' : Ether} (h : e'.statics = e.statics) : e'.held = e.held := congrArg heldOf h

/-- An update of anything but the settings and the client. -/
@[simp] theorem heldOf_rest (b : Buffer) (w : List Wire) (a : ArpCache) (d : DhcpClient) (n : Byte) :
    heldOf (Ether.mk b w e.cfg a e.tcp d n).statics = heldOf e.statics := rfl

/-- An update of the settings that may change. -/
@[simp] theorem heldOf_cfg (b : Buffer) (w : List Wire) (a : ArpCache) (d : DhcpClient) (n : Byte) (mymac : Mac)
    (myip netmask broadcastip gwip dhcpip dnsip hisip : Ip) (usingDhcp : Bool) (delaycnt : Word) :
    heldOf (Ether.mk b w ⟨mymac, myip, netmask, broadcastip, gwip, dhcpip, dnsip, hisip, e.cfg.hisport, usingDhcp,
      e.cfg.persistTcpConnection, delaycnt⟩ a e.tcp d n).statics = heldOf e.statics := rfl

/-- An update of what a connection moves. -/
@[simp] theorem heldOf_tcp (b : Buffer) (w : List Wire) (a : ArpCache) (d : DhcpClient) (n : Byte) (srcPort : Byte)
    (state dataLen : Nat) (seqnum : Byte) :
    heldOf (Ether.mk b w e.cfg a { e.tcp with
      tcpclientSrcPortL := srcPort, tcpClientState := state, infoDataLen := dataLen, seqnum := seqnum } d n).statics =
    heldOf e.statics := rfl

theorem held_ite (c : Prop) [Decidable c] (e₁ e₂ : Ether) : (if c then e₁ else e₂).held = if c then e₁.held else e₂.held := by
  split <;> rfl

/-! ### The packet loop -/

/-- A SYN-ACK of the device's moves a number only. -/
theorem held_makeTcpSynackFromSyn : (makeTcpSynackFromSyn e).held = e.held := by
  simp [Ether.held, makeTcpSynackFromSyn]

/-- So does a SYN. -/
theorem held_clientSyn (a b c : Byte) : (clientSyn a b c e).held = e.held := by
  simp [Ether.held, clientSyn]

/-- Asking for the gateway moves no connection. -/
theorem held_idleGateway (up : Bool) : (idleGateway up e).held = e.held := by
  unfold idleGateway
  dsimp only
  split <;> simp [Ether.held]

/-- Opening the pending connection keeps what it was asked for. -/
theorem held_idleSyn : (idleSyn e).held = e.held := by
  unfold idleSyn
  split
  · rw [held_clientSyn]
    exact heldOf_tcp e e.buffer e.wire e.arp e.dhcp e.dnstidL (e.tcp.tcpclientSrcPortL + 1) 2 e.tcp.infoDataLen e.tcp.seqnum
  · rfl

/-- Asking for the name server moves no connection. -/
theorem held_idleDns : (idleDns e).held = e.held := by
  unfold idleDns
  split <;> simp [Ether.held]

/-- Nor does asking for the destination. -/
theorem held_idleDest : (idleDest e).held = e.held := by
  unfold idleDest
  split <;> simp [Ether.held]

/-- So an idle round keeps what the connection was asked for. -/
theorem held_packetLoopIdle (up : Bool) : (packetLoopIdle up e).held = e.held := by
  rw [packetLoopIdle, held_idleDest, held_idleDns, held_idleSyn, held_idleGateway]

/-- The gateway's link address is none of it. -/
theorem held_arpGateway : (arpGateway e).held = e.held := by
  unfold arpGateway
  split
  · split <;> rfl
  · rfl

/-- Nor is the name server's. -/
theorem held_arpDns : (arpDns e).held = e.held := by
  unfold arpDns
  split
  · split <;> rfl
  · rfl

/-- Nor is the destination's. -/
theorem held_arpDest : (arpDest e).held = e.held := by
  unfold arpDest
  split
  · split <;> rfl
  · rfl

/-- So an ARP message keeps it. -/
theorem held_serviceArp : (serviceArp e).held = e.held := by
  rw [serviceArp, held_arpDest, held_arpDns, held_arpGateway, held_ite, held_of_statics (statics_makeArpAnswerFromRequest e),
    ite_self]

/-- A SYN-ACK keeps it. -/
theorem held_clientSynSent (len : Nat) : (clientSynSent len e).1.held = e.held := by
  unfold clientSynSent
  split
  · simp only [Ether.held, statics_makeTcpAckWithDataNoflags, heldOf_tcp]
    split <;> simp
  · simp [Ether.held]

/-- So does a segment of an open connection. -/
theorem held_clientOther (len : Nat) : (clientOther len e).held = e.held := by
  unfold clientOther
  dsimp only
  split
  · split
    · split <;> simp [Ether.held]
    · split <;> simp [Ether.held]
  · rfl

/-- So does any segment for the client. -/
theorem held_clientSegment (plen : Nat) : (clientSegment plen e).1.held = e.held := by
  unfold clientSegment
  dsimp only
  split
  · rfl
  split
  · split <;> rfl
  split
  · exact held_clientSynSent e _
  split
  · rfl
  · exact held_clientOther e _

/-- So does any other segment. -/
theorem held_accept (port plen : Nat) : (accept port plen e).1.held = e.held := by
  unfold accept
  split
  · split
    · exact held_makeTcpSynackFromSyn e
    split
    · dsimp only
      split
      · rfl
      split
      · simp [Ether.held]
      · rfl
    · rfl
  · rfl

/-- So does the classification of any frame. -/
theorem held_packetLoopReceived (plen : Nat) : (packetLoopReceived plen e).1.held = e.held := by
  unfold packetLoopReceived
  split
  · exact held_serviceArp e
  split
  · rfl
  split
  · exact held_of_statics (statics_makeEchoReplyFromRequest e plen)
  split
  · rfl
  split
  · exact held_clientSegment e plen
  · exact held_accept e e.cfg.hisport plen

/-- So does what follows the result callback. -/
theorem held_packetLoopAfter (u : Upcall) : (packetLoopAfter u e).held = e.held := by
  unfold packetLoopAfter
  split
  · rfl
  · split
    · exact held_of_statics (statics_makeTcpAckFromAny _ _ _)
    · simp [Ether.held]
  · rfl

/-- So does a link address that is forced. -/
theorem held_forceDestMac (destmac : Mac) : (forceDestMac destmac e).held = e.held := rfl

/-- So does another destination. -/
theorem held_selectDestAddr (destip : Ip) : (selectDestAddr destip e).held = e.held := by
  unfold selectDestAddr
  split
  · split <;> rfl
  · rfl

/-! ### DHCP and DNS -/

/-- So does a DHCP option. -/
theorem held_applyDhcpOption (option : Byte) (ptr : Nat) : (applyDhcpOption option ptr e).held = e.held := by
  unfold applyDhcpOption
  repeat' split
  all_goals rfl

/-- So do all options of a message. -/
theorem held_processDhcpOptions (len n ptr : Nat) : (processDhcpOptions len n ptr e).held = e.held := by
  induction n generalizing ptr e with
  | zero => rfl
  | succ n ih =>
    rw [processDhcpOptions]
    split
    · rw [ih, held_applyDhcpOption]
    · rw [held_applyDhcpOption]

/-- So does an offer. -/
theorem held_processDhcpOffer (len : Nat) : (processDhcpOffer len e).held = e.held := by
  rw [processDhcpOffer, held_processDhcpOptions]
  rfl

/-- So does a new state of the DHCP client. -/
theorem held_enterDhcpState (s : DhcpState) (t : Option Long) : (enterDhcpState s t e).held = e.held := rfl

/-- So does a DHCP message that is sent. -/
theorem held_sendDhcpMessage : (sendDhcpMessage e).held = e.held := held_of_statics (statics_sendDhcpMessage e)

/-- So does the DHCP client's turn. -/
theorem held_dhcpStateMachine (t₁ t₂ : Long) (len : Nat) : (dhcpStateMachine t₁ t₂ len e).held = e.held := by
  have hack : ∀ e : Ether, (let e := { e with dhcp := { e.dhcp with leaseStart := t₁ } }
      let e := if e.cfg.gwip.get 0 ≠ 0 then setGwIp e.cfg.gwip e else e
      enterDhcpState .bound none e).held = e.held := by
    intro e
    simp only [held_enterDhcpState, held_ite]
    split <;> rfl
  unfold dhcpStateMachine
  split
  · split
    · rw [held_enterDhcpState, held_sendDhcpMessage]
    · rfl
  · rw [held_enterDhcpState, held_sendDhcpMessage]
    rfl
  · split
    · rw [held_enterDhcpState, held_sendDhcpMessage, held_processDhcpOffer]
    · split <;> rfl
  · split
    · exact hack e
    · split <;> rfl
  · split
    · exact hack e
    · split <;> rfl

/-- So does a DNS query. -/
theorem held_dnsRequest (hostname : List Byte) : (dnsRequest hostname e).held = e.held := by
  unfold dnsRequest
  dsimp only
  split <;> simp [Ether.held]

/-- So does the search for an answer. -/
theorem held_findDnsAnswer (plen n p : Nat) : (findDnsAnswer plen n p e).held = e.held := by
  induction n generalizing p with
  | zero => rfl
  | succ n ih =>
    rw [findDnsAnswer]
    dsimp only
    split <;> split
    · rfl
    · split
      · rfl
      · exact ih _
    · rfl
    · split
      · rfl
      · exact ih _

/-- So does the answer. -/
theorem held_checkForDnsAnswer (plen : Nat) : (checkForDnsAnswer plen e).1.held = e.held := by
  unfold checkForDnsAnswer
  dsimp only
  split
  · rfl
  split
  · rfl
  · exact held_findDnsAnswer e plen _ _

end held

end EtherHouse
