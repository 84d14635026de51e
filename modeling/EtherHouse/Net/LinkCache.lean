import EtherHouse.Net.Connection

/-!
# The ARP cache

What writes `destmacaddr`, the link address that packets to the local network are sent to: an ARP message that is waited for, and
`forceDestMac`; and what writes `gwmacaddr`, the one that all others are sent to: a reply of the gateway's. Nothing else does.
-/

namespace EtherHouse

section

variable (e : Ether)

/-! ## ARP messages -/

/-- The message as the cache sees it: a request has been turned into its answer by then. -/
def arpAnswered : Ether := if e.gPB ETH_ARP_OPCODE_L_P = ETH_ARP_OPCODE_REQ_L_V then makeArpAnswerFromRequest e else e

/-- The address of the DNS server is waited for, or that of the destination, and this is who the message in the buffer is from. -/
def awaitsSender : Bool :=
  (!e.arp.hasDnsMac && e.arp.waitingForDnsMac && e.buffer.ip ETH_ARP_SRC_IP_P == e.cfg.dnsip) ||
    (!e.arp.hasDestMac && e.arp.waitingForDestMac && e.buffer.ip ETH_ARP_SRC_IP_P == e.cfg.hisip)

/-- The packet loop takes a link address from this message into the cache. -/
def fillsCache (plen : Nat) : Bool := ethTypeIsArpAndMyIp plen e && awaitsSender (arpAnswered e)

/-- A reply from the gateway is waited for, and this is one in the buffer. -/
def acceptsGateway : Bool :=
  e.arp.waitgwmac &&& WGW_ACCEPT_ARP_REPLY != 0 && e.gPB ETH_ARP_OPCODE_L_P == ETH_ARP_OPCODE_REPLY_L_V &&
    e.buffer.ip ETH_ARP_SRC_IP_P == e.cfg.gwip

/-- The packet loop takes the gateway's link address from this message. -/
def fillsGateway (plen : Nat) : Bool := ethTypeIsArpAndMyIp plen e && acceptsGateway (arpAnswered e)

/-- A link address is taken in from the message of one sender only. -/
theorem clientStoreMac_eq (ip : Ip) :
    clientStoreMac e ip = if e.buffer.ip ETH_ARP_SRC_IP_P = ip then some (e.buffer.mac ETH_ARP_SRC_MAC_P) else none := rfl

/-- The gateway's address is kept elsewhere. -/
theorem destmacaddr_arpGateway : (arpGateway e).arp.destmacaddr = e.arp.destmacaddr := by
  unfold arpGateway
  split
  · split <;> rfl
  · rfl

/-- The name server's is taken in where it is waited for. -/
theorem destmacaddr_arpDns : (arpDns e).arp.destmacaddr =
    if !e.arp.hasDnsMac && e.arp.waitingForDnsMac && e.buffer.ip ETH_ARP_SRC_IP_P == e.cfg.dnsip then
      e.buffer.mac ETH_ARP_SRC_MAC_P else e.arp.destmacaddr := by
  unfold arpDns
  rw [clientStoreMac_eq]
  by_cases hw : (!e.arp.hasDnsMac) = true ∧ e.arp.waitingForDnsMac = true
  · by_cases hip : e.buffer.ip ETH_ARP_SRC_IP_P = e.cfg.dnsip <;> simp [hw, hip]
  · rw [if_neg hw, if_neg]
    simp only [Bool.and_eq_true, not_and] at hw ⊢
    exact fun h _ => hw h.1 h.2

/-- So is the destination's. -/
theorem destmacaddr_arpDest : (arpDest e).arp.destmacaddr =
    if !e.arp.hasDestMac && e.arp.waitingForDestMac && e.buffer.ip ETH_ARP_SRC_IP_P == e.cfg.hisip then
      e.buffer.mac ETH_ARP_SRC_MAC_P else e.arp.destmacaddr := by
  unfold arpDest
  rw [clientStoreMac_eq]
  by_cases hw : (!e.arp.hasDestMac) = true ∧ e.arp.waitingForDestMac = true
  · by_cases hip : e.buffer.ip ETH_ARP_SRC_IP_P = e.cfg.hisip <;> simp [hw, hip]
  · rw [if_neg hw, if_neg]
    simp only [Bool.and_eq_true, not_and] at hw ⊢
    exact fun h _ => hw h.1 h.2

/-- What the message and the addresses waited for are: taking in another address changes none of it. -/
def Ether.awaited : Buffer × Config × Bool × Bool := (e.buffer, e.cfg, e.arp.hasDestMac, e.arp.waitingForDestMac)

/-- Who is waited for is not changed by the gateway's answer. -/
theorem awaited_arpGateway : (arpGateway e).awaited = e.awaited := by
  unfold arpGateway
  split
  · split <;> rfl
  · rfl

/-- Nor is the destination by the name server's. -/
theorem awaited_arpDns : (arpDns e).awaited = e.awaited := by
  unfold arpDns
  split
  · split <;> rfl
  · rfl

/-- Nor is the name server by the gateway's. -/
theorem waitsForDns_arpGateway : (!(arpGateway e).arp.hasDnsMac && (arpGateway e).arp.waitingForDnsMac) =
    (!e.arp.hasDnsMac && e.arp.waitingForDnsMac) := by
  unfold arpGateway
  split
  · split <;> rfl
  · rfl

/-- An ARP message fills the entry if its sender is waited for. -/
theorem destmacaddr_serviceArp : (serviceArp e).arp.destmacaddr =
    if awaitsSender (arpAnswered e) then (arpAnswered e).buffer.mac ETH_ARP_SRC_MAC_P else e.arp.destmacaddr := by
  have hanswered : (arpAnswered e).arp.destmacaddr = e.arp.destmacaddr := by
    unfold arpAnswered
    split
    · exact congrArg (fun r => r.2.destmacaddr) (routing_of_statics (statics_makeArpAnswerFromRequest e))
    · rfl
  have hserve : serviceArp e = arpDest (arpDns (arpGateway (arpAnswered e))) := rfl
  rw [hserve, ← hanswered]
  generalize arpAnswered e = a
  have hgw := awaited_arpGateway a
  have hdns := (awaited_arpDns (arpGateway a)).trans hgw
  simp only [Ether.awaited, Prod.mk.injEq] at hgw hdns
  rw [destmacaddr_arpDest, destmacaddr_arpDns, destmacaddr_arpGateway, waitsForDns_arpGateway, hdns.1, hdns.2.1, hdns.2.2.1,
    hdns.2.2.2, hgw.1, hgw.2.1]
  unfold awaitsSender
  generalize (!a.arp.hasDnsMac && a.arp.waitingForDnsMac && a.buffer.ip ETH_ARP_SRC_IP_P == a.cfg.dnsip) = x,
    (!a.arp.hasDestMac && a.arp.waitingForDestMac && a.buffer.ip ETH_ARP_SRC_IP_P == a.cfg.hisip) = y
  cases x <;> cases y <;> rfl

/-- The gateway's address is taken in where a reply of its is accepted. -/
theorem gwmacaddr_arpGateway : (arpGateway e).arp.gwmacaddr =
    if acceptsGateway e then e.buffer.mac ETH_ARP_SRC_MAC_P else e.arp.gwmacaddr := by
  unfold arpGateway acceptsGateway
  rw [clientStoreMac_eq]
  by_cases hw : e.arp.waitgwmac &&& WGW_ACCEPT_ARP_REPLY ≠ 0 ∧ e.gPB ETH_ARP_OPCODE_L_P = ETH_ARP_OPCODE_REPLY_L_V
  · rw [if_pos hw]
    by_cases hip : e.buffer.ip ETH_ARP_SRC_IP_P = e.cfg.gwip
    · rw [if_pos hip, if_pos]
      simp only [Bool.and_eq_true, bne_iff_ne, beq_iff_eq]
      exact ⟨hw, hip⟩
    · rw [if_neg hip, if_neg]
      simp only [Bool.and_eq_true, beq_iff_eq]
      exact fun h => hip h.2
  · rw [if_neg hw, if_neg]
    simp only [Bool.and_eq_true, bne_iff_ne, beq_iff_eq]
    exact fun h => hw h.1

/-- An ARP message fills the gateway's entry if it is such a reply. -/
theorem gwmacaddr_serviceArp : (serviceArp e).arp.gwmacaddr =
    if acceptsGateway (arpAnswered e) then (arpAnswered e).buffer.mac ETH_ARP_SRC_MAC_P else e.arp.gwmacaddr := by
  have hanswered : (arpAnswered e).arp.gwmacaddr = e.arp.gwmacaddr := by
    unfold arpAnswered
    split
    · exact congrArg (fun r => r.2.gwmacaddr) (routing_of_statics (statics_makeArpAnswerFromRequest e))
    · rfl
  have hdns : ∀ e : Ether, (arpDns e).arp.gwmacaddr = e.arp.gwmacaddr := by
    intro e
    unfold arpDns
    split
    · split <;> rfl
    · rfl
  have hdest : ∀ e : Ether, (arpDest e).arp.gwmacaddr = e.arp.gwmacaddr := by
    intro e
    unfold arpDest
    split
    · split <;> rfl
    · rfl
  have hserve : serviceArp e = arpDest (arpDns (arpGateway (arpAnswered e))) := rfl
  rw [hserve, hdest, hdns, gwmacaddr_arpGateway, hanswered]

/-- What a frame does to the gateway's link address. -/
theorem gwmacaddr_packetLoopReceived (plen : Nat) : (packetLoopReceived plen e).1.arp.gwmacaddr =
    if fillsGateway e plen then (arpAnswered e).buffer.mac ETH_ARP_SRC_MAC_P else e.arp.gwmacaddr := by
  unfold fillsGateway
  by_cases harp : ethTypeIsArpAndMyIp plen e = true
  · rw [harp, Bool.true_and]
    unfold packetLoopReceived
    rw [if_pos harp]
    exact gwmacaddr_serviceArp e
  · have harp' : ethTypeIsArpAndMyIp plen e = false := by simpa using harp
    rw [harp', Bool.false_and, if_neg Bool.false_ne_true]
    exact congrArg (fun r => r.2.gwmacaddr) (routing_packetLoopReceived e harp')

/-- What a frame does to the link address that is held. -/
theorem destmacaddr_packetLoopReceived (plen : Nat) : (packetLoopReceived plen e).1.arp.destmacaddr =
    if fillsCache e plen then (arpAnswered e).buffer.mac ETH_ARP_SRC_MAC_P else e.arp.destmacaddr := by
  unfold fillsCache
  by_cases harp : ethTypeIsArpAndMyIp plen e = true
  · rw [harp, Bool.true_and]
    unfold packetLoopReceived
    rw [if_pos harp]
    exact destmacaddr_serviceArp e
  · have harp' : ethTypeIsArpAndMyIp plen e = false := by simpa using harp
    rw [harp', Bool.false_and, if_neg Bool.false_ne_true]
    exact congrArg (fun r => r.2.destmacaddr) (routing_packetLoopReceived e harp')

/-! ## The library's other functions -/

/-- The cache's entry for the destination: its address, the link address, whether that is held, and whether it is waited for; and the
gateway's link address. -/
def Ether.entry : Ip × Mac × Bool × Bool × Mac :=
  (e.cfg.hisip, e.arp.destmacaddr, e.arp.hasDestMac, e.arp.waitingForDestMac, e.arp.gwmacaddr)

/-- The two link addresses: the destination's and the gateway's. -/
def Ether.links : Mac × Mac := (e.arp.destmacaddr, e.arp.gwmacaddr)

/-- The two link addresses are part of the entry. -/
theorem links_of_entry {e e' : Ether} (h : e'.entry = e.entry) : e'.links = e.links :=
  congrArg (fun r => (r.2.1, r.2.2.2.2)) h

/-- The entry is part of what decides where packets go. -/
theorem entry_of_routing {e e' : Ether} (h : e'.routing = e.routing) : e'.entry = e.entry :=
  congrArg (fun r => (r.1.hisip, r.2.destmacaddr, r.2.hasDestMac, r.2.waitingForDestMac, r.2.gwmacaddr)) h

/-- So it is among the statics. -/
theorem entry_of_statics {e e' : Ether} (h : e'.statics = e.statics) : e'.entry = e.entry := entry_of_routing (routing_of_statics h)

/-- So are the two link addresses. -/
theorem links_of_statics {e e' : Ether} (h : e'.statics = e.statics) : e'.links = e.links := links_of_entry (entry_of_statics h)

/-- Asking for the gateway leaves the entry alone. -/
theorem entry_idleGateway (up : Bool) : (idleGateway up e).entry = e.entry := by
  have hask := entry_of_statics (statics_clientArpWhohas e e.cfg.gwip)
  unfold idleGateway
  dsimp only
  split
  · exact hask
  · rfl

/-- So does a SYN. -/
theorem entry_clientSyn (a b c : Byte) : (clientSyn a b c e).entry = e.entry := by
  have hseq : ∀ (e : Ether) (s : Byte), ({ e with tcp := { e.tcp with seqnum := s } } : Ether).entry = e.entry :=
    fun _ _ => rfl
  unfold clientSyn
  dsimp only
  rw [entry_of_statics (statics_packetSend _ _), entry_of_statics (statics_fillChecksum _ _ _ _ _)]
  iterate 5 rw [entry_of_statics (statics_put _ _ _)]
  rw [hseq]
  iterate 3 rw [entry_of_statics (statics_put _ _ _)]
  rw [entry_of_statics (statics_fillIpHdrChecksum _)]
  iterate 4 rw [entry_of_statics (statics_put _ _ _)]
  rw [entry_of_statics (statics_setMACandIPs _ _ _)]

/-- So does opening the pending connection. -/
theorem entry_idleSyn : (idleSyn e).entry = e.entry := by
  rw [idleSyn_eq]
  split
  · exact entry_clientSyn (synSent e) _ _ _
  · rfl

/-- So does asking for the name server. -/
theorem entry_idleDns : (idleDns e).entry = e.entry := by
  have hask := entry_of_statics (statics_clientArpWhohas e e.cfg.dnsip)
  unfold idleDns
  split
  · exact hask
  · rfl

/-- Asking for the destination leaves the link addresses alone. -/
theorem links_idleDest : (idleDest e).links = e.links := by
  have hask := links_of_statics (statics_clientArpWhohas e e.cfg.hisip)
  unfold idleDest
  split
  · exact hask
  · rfl

/-- So does a whole idle round. -/
theorem links_packetLoopIdle (up : Bool) : (packetLoopIdle up e).links = e.links := by
  rw [packetLoopIdle, links_idleDest]
  refine links_of_entry ?_
  rw [entry_idleDns, entry_idleSyn, entry_idleGateway]

theorem entry_tcp (t : TcpClient) : ({ e with tcp := t } : Ether).entry = e.entry := rfl

theorem entry_dhcp (t : DhcpClient) : ({ e with dhcp := t } : Ether).entry = e.entry := rfl

/-- Another gateway leaves the entry alone, its old link address with it. -/
theorem entry_setGwIp (ip : Ip) : (setGwIp ip e).entry = e.entry := rfl

theorem entry_enterDhcpState (s : DhcpState) (t : Option Long) : (enterDhcpState s t e).entry = e.entry := rfl

/-- What follows the result callback leaves the entry alone. -/
theorem entry_packetLoopAfter (u : Upcall) : (packetLoopAfter u e).entry = e.entry := by
  have hclose : ∀ e : Ether, ({ e with tcp := { e.tcp with tcpClientState := 6 } } : Ether).entry = e.entry := fun e =>
    entry_tcp e { e.tcp with tcpClientState := 6 }
  have hack : ∀ (n : Nat) (flags : Byte), (makeTcpAckFromAny n flags e).entry = e.entry := fun n flags =>
    entry_of_statics (statics_makeTcpAckFromAny e n flags)
  cases u with
  | data fd datapos len ackLen =>
    rw [packetLoopAfter]
    split
    · exact hack ackLen TCP_FLAGS_PUSH_V
    · rw [hclose (makeTcpAckFromAny ackLen (TCP_FLAGS_PUSH_V ||| TCP_FLAGS_FIN_V) e), hack]
  | reset fd => exact entry_tcp e { e.tcp with tcpClientState := 5 }
  | _ => rfl

/-- So do the options of a DHCP message. -/
theorem entry_processDhcpOptions (len n ptr : Nat) : (processDhcpOptions len n ptr e).entry = e.entry := by
  have hopt : ∀ (option : Byte) (ptr : Nat) (e : Ether), (applyDhcpOption option ptr e).entry = e.entry := by
    intro option ptr e
    unfold applyDhcpOption
    repeat' split
    all_goals rfl
  induction n generalizing ptr e with
  | zero => rfl
  | succ n ih =>
    rw [processDhcpOptions]
    split
    · rw [ih, hopt]
    · rw [hopt]

/-- So does the DHCP client's turn. -/
theorem entry_dhcpStateMachine (t₁ t₂ : Long) (len : Nat) : (dhcpStateMachine t₁ t₂ len e).entry = e.entry := by
  have hsend : ∀ e : Ether, (sendDhcpMessage e).entry = e.entry := fun e => entry_of_statics (statics_sendDhcpMessage e)
  have hoffer : (processDhcpOffer len e).entry = e.entry := entry_processDhcpOptions _ _ _ _
  have hack : ∀ e : Ether, (if e.cfg.gwip.get 0 ≠ 0 then setGwIp e.cfg.gwip e else e).entry = e.entry := by
    intro e
    split
    · exact entry_setGwIp e _
    · rfl
  unfold dhcpStateMachine
  split
  · split
    · rw [entry_enterDhcpState, hsend]
    · rfl
  · rw [entry_enterDhcpState, hsend]
    rfl
  · split
    · rw [entry_enterDhcpState, hsend, hoffer]
    · split
      · rw [entry_enterDhcpState]
      · rfl
  · split
    · rw [entry_enterDhcpState, hack, entry_dhcp]
    · split
      · rw [entry_enterDhcpState]
      · rfl
  · split
    · rw [entry_enterDhcpState, hack, entry_dhcp]
    · split
      · rw [entry_enterDhcpState]
      · rfl

/-- Another destination leaves the link addresses alone. -/
theorem links_selectDestAddr (destip : Ip) : (selectDestAddr destip e).links = e.links := by
  unfold selectDestAddr
  split
  · split <;> rfl
  · rfl

/-- So does a DNS query. -/
theorem links_dnsRequest (hostname : List Byte) : (dnsRequest hostname e).links = e.links := by
  unfold dnsRequest
  dsimp only
  rw [links_of_statics (statics_udpTransmit _ _)]
  iterate 4 rw [links_of_statics (statics_put _ _ _)]
  rw [links_of_statics (statics_udpPrepare _ _ _ _)]
  split <;> rfl

/-- So does the search for its answer. -/
theorem links_findDnsAnswer (plen n p : Nat) : (findDnsAnswer plen n p e).links = e.links := by
  induction n generalizing p with
  | zero => rfl
  | succ n ih =>
    rw [findDnsAnswer]
    dsimp only
    split <;> split
    · rfl
    · split
      · rfl
      · exact ih _
    · rfl
    · split
      · rfl
      · exact ih _

/-- So does the answer. -/
theorem links_checkForDnsAnswer (plen : Nat) : (checkForDnsAnswer plen e).1.links = e.links := by
  unfold checkForDnsAnswer
  dsimp only
  split
  · rfl
  split
  · rfl
  · exact links_findDnsAnswer e plen _ _

end

end EtherHouse
