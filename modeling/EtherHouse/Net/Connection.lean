import EtherHouse.Net.Segment

/-!
# What moves the connection

Which of the library's steps move the client's connection and its settings: the idle branch sends the SYN, a segment answers it, and
the result callback's end closes; the DHCP client, the ARP cache and the pings leave the connection alone.
-/

namespace EtherHouse

/-- A connection is pending, being opened, or open. -/
def TcpClient.Busy (t : TcpClient) : Prop := t.tcpClientState = 1 ∨ t.tcpClientState = 2 ∨ t.tcpClientState = 3

/-- Whether the client is busy depends on its state only. -/
theorem TcpClient.Busy.congr {t t' : TcpClient} (h : t'.Busy) (hc : t'.tcpClientState = t.tcpClientState) : t.Busy := by
  unfold TcpClient.Busy at h ⊢
  rwa [← hc]

/-- What follows the result callback. -/
def Upcall.Ends : Upcall → Prop
  | .reset _ => True
  | .data .. => True
  | _ => False

section

variable (e : Ether)

/-! ## The idle branch -/

/-- Asking for the gateway counts one more idle round. -/
theorem cfg_idleGateway (up : Bool) : (idleGateway up e).cfg = { e.cfg with delaycnt := e.cfg.delaycnt + 1 } := by
  unfold idleGateway
  dsimp only
  split
  · rw [cfg_of_statics (statics_clientArpWhohas e e.cfg.gwip)]
  · rfl

/-- It leaves the client alone. -/
theorem tcp_idleGateway (up : Bool) : (idleGateway up e).tcp = e.tcp := by
  unfold idleGateway
  dsimp only
  split
  · rw [tcp_of_statics (statics_clientArpWhohas e e.cfg.gwip)]
  · rfl

/-- A SYN leaves the settings alone. -/
theorem cfg_clientSyn (a b c : Byte) : (clientSyn a b c e).cfg = e.cfg := by
  unfold clientSyn
  dsimp only
  rw [cfg_of_statics (statics_packetSend _ _), cfg_of_statics (statics_fillChecksum _ _ _ _ _)]
  simp only [Ether.put_cfg]
  rw [cfg_of_statics (statics_fillIpHdrChecksum _)]
  simp only [Ether.put_cfg]
  rw [cfg_of_statics (statics_setMACandIPs _ _ _)]

/-- A SYN uses up three sequence numbers. -/
theorem tcp_clientSyn (a b c : Byte) : (clientSyn a b c e).tcp = { e.tcp with seqnum := e.tcp.seqnum + 3 } := by
  unfold clientSyn
  dsimp only
  rw [tcp_of_statics (statics_packetSend _ _), tcp_of_statics (statics_fillChecksum _ _ _ _ _)]
  simp only [Ether.put_tcp]
  rw [tcp_of_statics (statics_fillIpHdrChecksum _)]
  simp only [Ether.put_tcp]
  rw [tcp_of_statics (statics_setMACandIPs _ _ _)]

/-- The idle branch has a SYN to send, and a gateway to send it to. -/
def SynReady : Prop := e.tcp.tcpClientState = 1 ∧ e.arp.waitgwmac &&& WGW_HAVE_GW_MAC ≠ 0

instance : Decidable (SynReady e) := inferInstanceAs (Decidable (_ ∧ _))

/-- The connection as the SYN leaves it. -/
def synSent : Ether := { e with tcp := { e.tcp with tcpClientState := 2, tcpclientSrcPortL := e.tcp.tcpclientSrcPortL + 1 } }

/-- The low byte of the port that the client sends from. -/
def TcpClient.portL (t : TcpClient) : Byte := (t.tcpFd <<< 5) ||| (0x1f &&& t.tcpclientSrcPortL)

/-- The pending connection is opened if the gateway is known. -/
theorem idleSyn_eq : idleSyn e =
    if SynReady e then clientSyn (synSent e).tcp.portL e.tcp.tcpClientPortH e.tcp.tcpClientPortL (synSent e) else e := rfl

/-- That leaves the settings alone. -/
theorem cfg_idleSyn : (idleSyn e).cfg = e.cfg := by
  rw [idleSyn_eq]
  split
  · exact cfg_clientSyn _ _ _ _
  · rfl

/-- It moves the client on by a port, a state and a number. -/
theorem tcp_idleSyn : (idleSyn e).tcp = if SynReady e then { e.tcp with
    tcpClientState := 2, tcpclientSrcPortL := e.tcp.tcpclientSrcPortL + 1, seqnum := e.tcp.seqnum + 3 } else e.tcp := by
  rw [idleSyn_eq]
  split
  · exact tcp_clientSyn _ _ _ _
  · rfl

/-- Asking for the name server leaves the client alone. -/
theorem tcp_idleDns : (idleDns e).tcp = e.tcp := by
  unfold idleDns
  split
  · have h := tcp_of_statics (statics_clientArpWhohas e e.cfg.dnsip)
    exact h
  · rfl

/-- It leaves the settings alone too. -/
theorem cfg_idleDns : (idleDns e).cfg = e.cfg := by
  unfold idleDns
  split
  · have h := cfg_of_statics (statics_clientArpWhohas e e.cfg.dnsip)
    exact h
  · rfl

/-- Asking for the destination leaves the client alone. -/
theorem tcp_idleDest : (idleDest e).tcp = e.tcp := by
  unfold idleDest
  split
  · have h := tcp_of_statics (statics_clientArpWhohas e e.cfg.hisip)
    exact h
  · rfl

/-- It leaves the settings alone too. -/
theorem cfg_idleDest : (idleDest e).cfg = e.cfg := by
  unfold idleDest
  split
  · have h := cfg_of_statics (statics_clientArpWhohas e e.cfg.hisip)
    exact h
  · rfl

/-- An idle round counts itself. -/
theorem cfg_packetLoopIdle (up : Bool) : (packetLoopIdle up e).cfg = { e.cfg with delaycnt := e.cfg.delaycnt + 1 } := by
  rw [packetLoopIdle, cfg_idleDest, cfg_idleDns, cfg_idleSyn, cfg_idleGateway]

/-- The idle branch opens the connection that is pending, or leaves the client alone. -/
theorem tcp_packetLoopIdle (up : Bool) :
    (packetLoopIdle up e).tcp = if SynReady (idleGateway up e) then { e.tcp with
      tcpClientState := 2, tcpclientSrcPortL := e.tcp.tcpclientSrcPortL + 1, seqnum := e.tcp.seqnum + 3 } else e.tcp := by
  rw [packetLoopIdle, tcp_idleDest, tcp_idleDns, tcp_idleSyn, tcp_idleGateway]

/-- A client that is busy after an idle round was so before. -/
theorem busy_packetLoopIdle {up : Bool} (h : (packetLoopIdle up e).tcp.Busy) : e.tcp.Busy := by
  rw [tcp_packetLoopIdle] at h
  split at h
  · next hs =>
    unfold SynReady at hs
    rw [tcp_idleGateway] at hs
    exact Or.inl hs.1
  · exact h

/-! ## The SYN -/

/-- A byte that a write does not reach. -/
theorem gPB_put {off i : Nat} {xs : List Byte} (h : i < off ∨ off + xs.length ≤ i) : (e.put off xs).gPB i = e.gPB i :=
  Buffer.get_write_of_not_mem h

/-- A checksum changes its own two bytes only. -/
theorem gPB_fillChecksum {dest i : Nat} (h : i < dest ∨ dest + 2 ≤ i) (off len type : Nat) :
    (fillChecksum dest off len type e).gPB i = e.gPB i := gPB_put e h

/-- An IP header's checksum leaves what lies outside of flags, lifetime and checksum. -/
theorem gPB_fillIpHdrChecksum {i : Nat} (h : i < IP_FLAGS_P ∨ IP_SRC_P ≤ i) : (fillIpHdrChecksum e).gPB i = e.gPB i := by
  unfold IP_FLAGS_P IP_SRC_P at h
  unfold fillIpHdrChecksum
  dsimp only
  rw [gPB_fillChecksum _ (by unfold IP_CHECKSUM_P; omega), gPB_put _ (by simp only [IP_TTL_P, List.length_cons, List.length_nil]; omega),
    gPB_put _ (by simp only [IP_FLAGS_P, List.length_cons, List.length_nil]; omega),
    gPB_put _ (by simp only [IP_CHECKSUM_P, List.length_cons, List.length_nil]; omega)]

/-- The addresses of a SYN are those it begins with: what is written afterwards lies elsewhere. -/
theorem gPB_clientSyn (a b c : Byte) {i : Nat} (h : i < ETH_TYPE_H_P ∨ IP_SRC_P ≤ i ∧ i < TCP_SRC_PORT_H_P) :
    (clientSyn a b c e).gPB i = (setMACandIPs (routeMac e e.cfg.hisip) e.cfg.hisip e).gPB i := by
  unfold ETH_TYPE_H_P IP_SRC_P TCP_SRC_PORT_H_P at h
  have hsend : ∀ (n : Nat) (e : Ether), (packetSend n e).gPB i = e.gPB i := fun _ _ => rfl
  have hseq : ∀ (e : Ether) (s : Byte), ({ e with tcp := { e.tcp with seqnum := s } } : Ether).gPB i = e.gPB i := fun _ _ => rfl
  unfold clientSyn
  dsimp only
  rw [hsend, gPB_fillChecksum _ (by unfold TCP_CHECKSUM_H_P; omega)]
  iterate 5 rw [gPB_put _ (by
    simp only [TCP_OPTIONS_P, TCP_CHECKSUM_H_P, TCP_WIN_SIZE, TCP_FLAGS_P, TCP_HEADER_LEN_P, List.length_cons, List.length_nil]
    omega)]
  rw [hseq]
  iterate 3 rw [gPB_put _ (by
    simp only [TCP_SEQ_H_P, TCP_SRC_PORT_H_P, TCP_DST_PORT_H_P, List.length_cons, List.length_nil]
    omega)]
  rw [gPB_fillIpHdrChecksum _ (by unfold IP_FLAGS_P IP_SRC_P; omega)]
  iterate 4 rw [gPB_put _ (by
    simp only [IP_PROTO_P, IP_TOTLEN_L_P, IP_P, iphdr, ETH_TYPE_H_P, List.length_cons, List.length_nil]
    omega)]

/-- The frame of the SYN that the idle branch sends, if it sends one. -/
def synFrame (up : Bool) : Option (List Byte) :=
  if SynReady (idleGateway up e) then
    match (idleSyn (idleGateway up e)).wire with
    | .sent frame :: _ => some frame
    | _ => none
  else none

/-- An address that is written into the buffer. -/
theorem gPB_put_vector {n : Nat} (a : Vector Byte n) {off k : Nat} (hk : k < n) (hoff : off + k < BUFFER_SIZE) :
    (e.put off a.toList).gPB (off + k) = a[k] := by
  have hlen : a.toList.length = n := Vector.length_toList
  rw [Ether.gPB, Ether.put, Buffer.get_write, if_pos ⟨Nat.le_add_right _ _, by omega, hoff⟩, Nat.add_sub_cancel_left,
    List.getD_eq_getElem?_getD, List.getElem?_eq_getElem (by omega), Option.getD_some, Vector.getElem_toList]

/-- The link address of the destination, as it is asked for. -/
theorem gPB_setMACandIPs_dst (mac : Mac) (dst : Ip) {k : Nat} (hk : k < 6) : (setMACandIPs mac dst e).gPB (ETH_DST_MAC + k) = mac[k] := by
  unfold setMACandIPs setMACs Ether.copyIp Ether.copyMac
  rw [gPB_put _ (Or.inl (by unfold ETH_DST_MAC IP_SRC_P; omega)), gPB_put _ (Or.inl (by unfold ETH_DST_MAC IP_DST_P; omega)),
    gPB_put _ (Or.inl (by unfold ETH_DST_MAC ETH_SRC_MAC; omega)),
    gPB_put_vector _ mac hk (by unfold ETH_DST_MAC BUFFER_SIZE; omega)]

/-- The source address is the device's. -/
theorem gPB_setMACandIPs_src (mac : Mac) (dst : Ip) {k : Nat} (hk : k < 4) :
    (setMACandIPs mac dst e).gPB (IP_SRC_P + k) = e.cfg.myip[k] := by
  unfold setMACandIPs
  exact gPB_put_vector _ e.cfg.myip hk (by unfold IP_SRC_P BUFFER_SIZE; omega)

/-- A SYN's addresses: the link address of the route to the peer, and the house's own address. -/
theorem synFrame_addresses {up : Bool} {frame : List Byte} (h : synFrame e up = some frame) :
    SynReady (idleGateway up e) ∧
      (∀ (k : Nat) (hk : k < 6), frame.getD (ETH_DST_MAC + k) 0 = (routeMac (idleGateway up e) e.cfg.hisip)[k]) ∧
      ∀ (k : Nat) (hk : k < 4), frame.getD (IP_SRC_P + k) 0 = e.cfg.myip[k] := by
  unfold synFrame at h
  by_cases hr : SynReady (idleGateway up e)
  · rw [if_pos hr, idleSyn_eq, if_pos hr] at h
    generalize hg : idleGateway up e = g at h hr
    have hcfg : (synSent g).cfg = { e.cfg with delaycnt := e.cfg.delaycnt + 1 } := by
      rw [← cfg_idleGateway e up, hg]
      rfl
    have hframe : frame = (clientSyn (synSent g).tcp.portL g.tcp.tcpClientPortH g.tcp.tcpClientPortL (synSent g)).buffer.slice 0
        (IP_HEADER_LEN + TCP_HEADER_LEN_PLAIN + ETH_HEADER_LEN + 4) := (Option.some.inj h).symm
    refine ⟨hr, fun k hk => ?_, fun k hk => ?_⟩
    · have hs := gPB_clientSyn (synSent g) (synSent g).tcp.portL g.tcp.tcpClientPortH g.tcp.tcpClientPortL
        (i := ETH_DST_MAC + k) (Or.inl (by unfold ETH_DST_MAC ETH_TYPE_H_P; omega))
      rw [hframe, Buffer.getD_slice _ _ (by unfold ETH_DST_MAC IP_HEADER_LEN TCP_HEADER_LEN_PLAIN ETH_HEADER_LEN; omega), Nat.zero_add]
      rw [gPB_setMACandIPs_dst _ _ _ hk] at hs
      exact hs.trans (by rw [hcfg]; rfl)
    · have hs := gPB_clientSyn (synSent g) (synSent g).tcp.portL g.tcp.tcpClientPortH g.tcp.tcpClientPortL
        (i := IP_SRC_P + k) (Or.inr (by unfold IP_SRC_P TCP_SRC_PORT_H_P; omega))
      rw [hframe, Buffer.getD_slice _ _ (by unfold IP_SRC_P IP_HEADER_LEN TCP_HEADER_LEN_PLAIN ETH_HEADER_LEN; omega), Nat.zero_add]
      rw [gPB_setMACandIPs_src _ _ _ hk] at hs
      exact hs.trans (by simp only [hcfg])
  · rw [if_neg hr] at h
    cases h

/-! ## A frame -/

/-- An ARP message leaves the settings alone. -/
theorem cfg_serviceArp : (serviceArp e).cfg = e.cfg := by
  have hgw : ∀ e : Ether, (arpGateway e).cfg = e.cfg := by
    intro e
    unfold arpGateway
    split
    · split <;> rfl
    · rfl
  have hdns : ∀ e : Ether, (arpDns e).cfg = e.cfg := by
    intro e
    unfold arpDns
    split
    · split <;> rfl
    · rfl
  have hdest : ∀ e : Ether, (arpDest e).cfg = e.cfg := by
    intro e
    unfold arpDest
    split
    · split <;> rfl
    · rfl
  rw [serviceArp, hdest, hdns, hgw]
  split
  · rw [cfg_of_statics (statics_makeArpAnswerFromRequest e)]
  · rfl

/-- Where packets are sent to: the settings and the ARP cache. -/
def Ether.routing : Config × ArpCache := (e.cfg, e.arp)

/-- Where packets are sent depends on statics. -/
theorem routing_of_statics {e e' : Ether} (h : e'.statics = e.statics) : e'.routing = e.routing :=
  congrArg (fun s => (s.1, s.2.1)) h

/-- The client has no say in it. -/
theorem routing_tcp (t : TcpClient) : ({ e with tcp := t } : Ether).routing = e.routing := rfl

/-- The answer to a SYN-ACK leaves it alone. -/
theorem routing_clientSynSent (len : Nat) : (clientSynSent len e).1.routing = e.routing := by
  have hfill : ∀ (a : Ether) (fd : Byte), (if a.tcp.clientTcpCb then wwwClientInternalDatafillCb fd a else (a, 0)).1.routing = a.routing := by
    intro a fd
    split
    · exact routing_of_statics (statics_wwwClientInternalDatafillCb _ _)
    · rfl
  unfold clientSynSent
  split
  · dsimp only
    rw [routing_of_statics (statics_makeTcpAckWithDataNoflags _ _)]
    change (if _ then _ else _ : Ether × Nat).1.routing = _
    rw [hfill, routing_of_statics (statics_put _ _ _), routing_of_statics (statics_makeTcpAckFromAny _ _ _)]
  · dsimp only
    rw [routing_of_statics (statics_makeTcpAckFromAny _ _ _)]
    rfl

/-- So does what an open connection answers. -/
theorem routing_clientOther (len : Nat) : (clientOther len e).routing = e.routing := by
  have hack : ∀ (n : Nat) (flags : Byte), (makeTcpAckFromAny n flags e).routing = e.routing := fun n flags =>
    routing_of_statics (statics_makeTcpAckFromAny e n flags)
  unfold clientOther
  dsimp only
  split
  · split
    · split
      · rfl
      · rw [routing_tcp, hack]
    · split
      · exact hack _ _
      · rfl
  · rfl

/-- So does any segment for the client. -/
theorem routing_clientSegment (plen : Nat) : (clientSegment plen e).1.routing = e.routing := by
  unfold clientSegment
  dsimp only
  split
  · rfl
  split
  · split <;> rfl
  split
  · exact routing_clientSynSent e _
  split
  · rfl
  · exact routing_clientOther e _

/-- So does a SYN-ACK of the device's. -/
theorem routing_makeTcpSynackFromSyn : (makeTcpSynackFromSyn e).routing = e.routing := by
  unfold makeTcpSynackFromSyn
  dsimp only
  rw [routing_of_statics (statics_packetSend _ _), routing_of_statics (statics_fillChecksum _ _ _ _ _)]
  iterate 3 rw [routing_of_statics (statics_put _ _ _)]
  rw [routing_tcp]
  rw [routing_of_statics (statics_put _ _ _), routing_of_statics (statics_makeTcphead _ _ _), routing_of_statics (statics_put _ _ _),
    routing_of_statics (statics_makeEthIp _), routing_of_statics (statics_put _ _ _)]

/-- So does what the device answers as a server. -/
theorem routing_accept (port plen : Nat) : (accept port plen e).1.routing = e.routing := by
  unfold accept
  dsimp only
  split
  · split
    · exact routing_makeTcpSynackFromSyn e
    · split
      · split
        · rfl
        · split
          · rw [routing_of_statics (statics_makeTcpAckFromAny _ _ _), routing_tcp]
          · rfl
      · rfl
  · rfl

/-- Only an ARP message changes where packets are sent to. -/
theorem routing_packetLoopReceived {plen : Nat} (h : ethTypeIsArpAndMyIp plen e = false) :
    (packetLoopReceived plen e).1.routing = e.routing := by
  unfold packetLoopReceived
  rw [if_neg (by rw [h]; exact Bool.false_ne_true)]
  split
  · rfl
  split
  · rw [routing_of_statics (statics_makeEchoReplyFromRequest e plen)]
  split
  · rfl
  split
  · exact routing_clientSegment e plen
  · exact routing_accept e e.cfg.hisport plen

/-- A frame changes no setting. -/
theorem cfg_packetLoopReceived (plen : Nat) : (packetLoopReceived plen e).1.cfg = e.cfg := by
  by_cases harp : ethTypeIsArpAndMyIp plen e = true
  · unfold packetLoopReceived
    rw [if_pos harp]
    exact cfg_serviceArp e
  · exact congrArg (·.1) (routing_packetLoopReceived e (by simpa using harp))

/-- A frame opens no connection that is not pending. -/
theorem busy_packetLoopReceived {plen : Nat} (h : (packetLoopReceived plen e).1.tcp.Busy) : e.tcp.Busy := by
  rcases packetLoopReceived_step plen e with ⟨_, hs⟩ | ⟨_, hc⟩
  · generalize packetLoopReceived plen e = r at hs h
    cases hs with
    | none hs => exact h.congr (congrArg TcpClient.tcpClientState hs)
    | finished hs => rw [hs] at h; rcases h with h | h | h <;> cases h
    | aborted hs => rw [hs] at h; rcases h with h | h | h <;> cases h
    | refused _ hs => exact Or.inr (Or.inl hs)
    | opened _ hs => exact Or.inr (Or.inl hs)
    | reset => exact h
    | data => exact h
  · have hs := congrArg TcpClient.tcpClientState hc
    exact h.congr hs

/-- What leads to the result callback leaves everything as it was. -/
theorem packetLoopReceived_ends {plen : Nat} {u : Upcall} (h : (packetLoopReceived plen e).2 = u) (hr : ∀ pos, u ≠ .ret pos)
    (hq : ∀ url, u ≠ .requested url) : packetLoopReceived plen e = (e, u) ∧ u.Ends := by
  cases u with
  | ret pos => exact absurd rfl (hr pos)
  | requested url => exact absurd rfl (hq url)
  | reset fd => exact ⟨Prod.ext (packetLoopReceived_reset plen e h).1 h, trivial⟩
  | data => exact ⟨Prod.ext (packetLoopReceived_data plen e h).2.1 h, trivial⟩

/-- A request that goes out is the one that the client holds, on the connection that is being opened. -/
theorem packetLoopReceived_requested {plen : Nat} {url : List Byte} (h : (packetLoopReceived plen e).2 = .requested url) :
    e.tcp.tcpClientState = 2 ∧ url = e.tcp.clientUrlbuf := by
  rcases packetLoopReceived_step plen e with ⟨_, hs⟩ | ⟨⟨pos, hpos⟩, _⟩
  · generalize packetLoopReceived plen e = r at hs h
    cases hs with
    | opened _ hs hu =>
      dsimp only at h
      rw [hu] at h
      split at h
      · cases h
        exact ⟨hs, rfl⟩
      · cases h
    | _ => cases h
  · rw [hpos] at h
    cases h

/-- The browser callback is told of a segment of another session, with the status 4 and no bytes, or is handed data of its own. -/
theorem wwwClientInternalResultCb_cases {u : Upcall} {status : Byte} {off len : Nat}
    (h : wwwClientInternalResultCb e u = some (status, off, len)) :
    (status = 4 ∧ off = 0 ∧ len = 0) ∨ status ≠ 4 ∧ ∃ datapos ackLen, u = .data e.tcp.wwwFd datapos len ackLen := by
  cases u with
  | ret pos => cases h
  | requested url => cases h
  | reset fd =>
    simp only [wwwClientInternalResultCb] at h
    split at h
    · cases h
      exact Or.inl ⟨rfl, rfl, rfl⟩
    · cases h
  | data fd datapos len' ackLen =>
    simp only [wwwClientInternalResultCb] at h
    split at h
    · cases h
      exact Or.inl ⟨rfl, rfl, rfl⟩
    · next hfd =>
      have hfd' : fd = e.tcp.wwwFd := by simpa using hfd
      split at h
      · cases h
        refine Or.inr ⟨?_, datapos, ackLen, by rw [hfd']⟩
        split <;> decide
      · cases h

/-- What follows the result callback leaves the settings alone. -/
theorem cfg_packetLoopAfter (u : Upcall) : (packetLoopAfter u e).cfg = e.cfg := by
  unfold packetLoopAfter
  split
  · rfl
  · split
    · exact cfg_of_statics (statics_makeTcpAckFromAny _ _ _)
    · dsimp only
      exact cfg_of_statics (statics_makeTcpAckFromAny _ _ _)
  · rfl

/-- After the result callback the connection is closed. -/
theorem not_busy_packetLoopAfter {u : Upcall} (hu : u.Ends) (hp : e.cfg.persistTcpConnection = false) :
    ¬(packetLoopAfter u e).tcp.Busy := by
  intro h
  cases u with
  | ret pos => exact hu.elim
  | requested url => exact hu.elim
  | reset fd => rcases h with h | h | h <;> cases h
  | data fd datapos len ackLen =>
    unfold packetLoopAfter at h
    dsimp only at h
    rw [hp, if_neg Bool.false_ne_true] at h
    rcases h with h | h | h <;> cases h

/-! ## DHCP, DNS and the pings -/

/-- The client and its peer. -/
def Ether.client : TcpClient × Ip := (e.tcp, e.cfg.hisip)

/-- The client and its settings are statics. -/
theorem client_of_statics {e e' : Ether} (h : e'.statics = e.statics) : e'.client = e.client := by
  rw [Ether.client, tcp_of_statics h, cfg_of_statics h]
  rfl

/-- A DHCP option leaves them alone. -/
theorem client_applyDhcpOption (option : Byte) (ptr : Nat) : (applyDhcpOption option ptr e).client = e.client := by
  unfold applyDhcpOption
  repeat' split
  all_goals rfl

/-- So do all options of a message. -/
theorem client_processDhcpOptions (len n ptr : Nat) : (processDhcpOptions len n ptr e).client = e.client := by
  induction n generalizing ptr e with
  | zero => rfl
  | succ n ih =>
    rw [processDhcpOptions]
    split
    · rw [ih, client_applyDhcpOption]
    · rw [client_applyDhcpOption]

/-- So does an offer. -/
theorem client_processDhcpOffer (len : Nat) : (processDhcpOffer len e).client = e.client := by
  rw [processDhcpOffer, client_processDhcpOptions]
  rfl

/-- So does a DHCP message that is sent. -/
theorem client_sendDhcpMessage : (sendDhcpMessage e).client = e.client := client_of_statics (statics_sendDhcpMessage e)

/-- So does a new state. -/
theorem client_enterDhcpState (s : DhcpState) (t : Option Long) : (enterDhcpState s t e).client = e.client := rfl

/-- So does the DHCP client's turn. -/
theorem client_dhcpStateMachine (t₁ t₂ : Long) (len : Nat) : (dhcpStateMachine t₁ t₂ len e).client = e.client := by
  have hack : ∀ e : Ether, (let e := { e with dhcp := { e.dhcp with leaseStart := t₁ } }
      let e := if e.cfg.gwip.get 0 ≠ 0 then setGwIp e.cfg.gwip e else e
      enterDhcpState .bound none e).client = e.client := by
    intro e
    dsimp only
    rw [client_enterDhcpState]
    split <;> rfl
  unfold dhcpStateMachine
  split
  · split
    · rw [client_enterDhcpState, client_sendDhcpMessage]
    · rfl
  · rw [client_enterDhcpState, client_sendDhcpMessage]
    rfl
  · split
    · rw [client_enterDhcpState, client_sendDhcpMessage, client_processDhcpOffer]
    · split <;> rfl
  · split
    · exact hack e
    · split <;> rfl
  · split
    · exact hack e
    · split <;> rfl

/-- A DNS query leaves the client alone. -/
theorem tcp_dnsRequest (hostname : List Byte) : (dnsRequest hostname e).tcp = e.tcp := by
  unfold dnsRequest
  dsimp only
  rw [tcp_of_statics (statics_udpTransmit _ _)]
  simp only [Ether.put_tcp]
  rw [tcp_of_statics (statics_udpPrepare _ _ _ _)]
  split <;> rfl

/-- So does the search for an answer. -/
theorem tcp_findDnsAnswer (plen n p : Nat) : (findDnsAnswer plen n p e).tcp = e.tcp := by
  induction n generalizing p with
  | zero => rfl
  | succ n ih =>
    rw [findDnsAnswer]
    dsimp only
    split <;> split
    · rfl
    · split
      · rfl
      · exact ih _
    · rfl
    · split
      · rfl
      · exact ih _

/-- So does the answer. -/
theorem tcp_checkForDnsAnswer (plen : Nat) : (checkForDnsAnswer plen e).1.tcp = e.tcp := by
  unfold checkForDnsAnswer
  dsimp only
  split
  · rfl
  split
  · rfl
  · exact tcp_findDnsAnswer e plen _ _

/-- Another destination leaves the client alone. -/
theorem tcp_selectDestAddr (destip : Ip) : (selectDestAddr destip e).tcp = e.tcp := by
  unfold selectDestAddr
  split
  · split <;> rfl
  · rfl

end

end EtherHouse
