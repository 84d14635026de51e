import EtherHouse.Net.Build

/-!
# What the packet loop sends

The branches of the packet loop and the DHCP client send frames of the device's only.
-/

namespace EtherHouse

section

variable {e : Ether}

/-! ## The packet loop -/

/-- The device's link address is among the statics. -/
theorem mymac_of_statics {e e' : Ether} (h : e'.statics = e.statics) : e'.cfg.mymac = e.cfg.mymac :=
  congrArg Config.mymac (cfg_of_statics h)

/-- The question for the gateway is the device's. -/
theorem adds_idleGateway (up : Bool) (e : Ether) : Adds (OwnFrame e.cfg.mymac) e (idleGateway up e) := by
  unfold idleGateway
  dsimp only
  split
  · exact adds_clientArpWhohas e.cfg.gwip e
  · exact Adds.refl e

/-- So is the SYN of the pending connection. -/
theorem adds_idleSyn (e : Ether) : Adds (OwnFrame e.cfg.mymac) e (idleSyn e) := by
  rw [idleSyn_eq]
  split
  · exact adds_clientSyn _ _ _ (synSent e)
  · exact Adds.refl e

/-- So is the question for the name server. -/
theorem adds_idleDns (e : Ether) : Adds (OwnFrame e.cfg.mymac) e (idleDns e) := by
  unfold idleDns
  split
  · exact adds_clientArpWhohas e.cfg.dnsip e
  · exact Adds.refl e

/-- So is the question for the destination. -/
theorem adds_idleDest (e : Ether) : Adds (OwnFrame e.cfg.mymac) e (idleDest e) := by
  unfold idleDest
  split
  · exact adds_clientArpWhohas e.cfg.hisip e
  · exact Adds.refl e

/-- So is all that an idle round sends. -/
theorem adds_packetLoopIdle (up : Bool) (e : Ether) : Adds (OwnFrame e.cfg.mymac) e (packetLoopIdle up e) := by
  have hgw : (idleGateway up e).cfg.mymac = e.cfg.mymac := by rw [cfg_idleGateway]
  have hsyn : (idleSyn (idleGateway up e)).cfg.mymac = e.cfg.mymac := (congrArg Config.mymac (cfg_idleSyn _)).trans hgw
  have hdns : (idleDns (idleSyn (idleGateway up e))).cfg.mymac = e.cfg.mymac := (congrArg Config.mymac (cfg_idleDns _)).trans hsyn
  have h₁ := adds_idleGateway up e
  have h₂ := adds_idleSyn (idleGateway up e)
  have h₃ := adds_idleDns (idleSyn (idleGateway up e))
  have h₄ := adds_idleDest (idleDns (idleSyn (idleGateway up e)))
  rw [hgw] at h₂
  rw [hsyn] at h₃
  rw [hdns] at h₄
  exact ((h₁.trans h₂).trans h₃).trans h₄

/-- A frame that is received is not sent. -/
theorem adds_packetReceiveInto {P : List Byte → Prop} (a : Arrival) (e : Ether) : Adds P e (packetReceiveInto a e) := by
  cases a with
  | nothing => exact Adds.refl e
  | damaged => exact Adds.of_wire rfl
  | frame bytes =>
    refine ⟨[.received (bytes.take (packetReceiveLen (.frame bytes)))], rfl, fun frame hf => ?_⟩
    cases List.mem_singleton.mp hf

/-- The answer to an ARP message is the device's. -/
theorem adds_serviceArp (ht : e.buffer.word ETH_TYPE_H_P = 0x0806) : Adds (OwnFrame e.cfg.mymac) e (serviceArp e) := by
  have hanswer : Adds (OwnFrame e.cfg.mymac) e (if e.gPB ETH_ARP_OPCODE_L_P = ETH_ARP_OPCODE_REQ_L_V then makeArpAnswerFromRequest e else e) :=
    Adds.ite (fun _ => adds_makeArpAnswerFromRequest ht) fun _ => Adds.refl e
  refine hanswer.trans (Adds.of_wire ?_)
  rw [serviceArp, wire_arpDest, wire_arpDns, wire_arpGateway]

/-- The request fits behind the headers. -/
def RequestFits (t : TcpClient) : Prop := TCP_OPTIONS_P + (getRequest t).length ≤ BUFFER_SIZE

/-- So is what a SYN-ACK is answered with. -/
theorem adds_clientSynSent (h : Answerable e.buffer) (hfits : RequestFits e.tcp) (len : Nat) :
    Adds (OwnFrame e.cfg.mymac) e (clientSynSent len e).1 := by
  unfold clientSynSent
  split
  · dsimp only
    -- the acknowledgement has left its header in the buffer; the request goes out under it
    have hack := adds_makeTcpAckFromAny h 0 0
    have hhead : Headed e.cfg.mymac (e.buffer.get IP_PROTO_P) (IP_HEADER_LEN + TCP_HEADER_LEN_PLAIN) (makeTcpAckFromAny 0 0 e).buffer :=
      (headed_ackHead h 0 0).fillChecksum (by decide) _ _ _
    have hport : AnswerPort ((makeTcpAckFromAny 0 0 e).buffer.get TCP_SRC_PORT_H_P) ((makeTcpAckFromAny 0 0 e).buffer.get TCP_SRC_PORT_L_P) := by
      have hsame : ∀ i < TCP_CHECKSUM_H_P, (makeTcpAckFromAny 0 0 e).buffer.get i = (ackHead 0 0 e).buffer.get i := fun i hi =>
        get_put_of_lt (ackHead 0 0 e) hi
      rw [hsame _ (by decide), hsame _ (by decide), (port_ackHead 0 0 e).1, (port_ackHead 0 0 e).2]
      exact h.port
    have htcp : (makeTcpAckFromAny 0 0 e).tcp = e.tcp := tcp_of_statics (statics_makeTcpAckFromAny _ _ _)
    generalize makeTcpAckFromAny 0 0 e = g at hack hhead hport htcp
    have hsend : ∀ (g' : Ether) (n : Nat), g'.wire = g.wire → Headed e.cfg.mymac (e.buffer.get IP_PROTO_P) (IP_HEADER_LEN + TCP_HEADER_LEN_PLAIN)
        g'.buffer → AnswerPort (g'.buffer.get TCP_SRC_PORT_H_P) (g'.buffer.get TCP_SRC_PORT_L_P) → TCP_OPTIONS_P + n ≤ BUFFER_SIZE →
        Adds (OwnFrame e.cfg.mymac) e (makeTcpAckWithDataNoflags n { g' with tcp := { g'.tcp with tcpClientState := 3 } }) := by
      intro g' n hw hh hp hn
      exact (hack.trans (Adds.of_wire hw)).trans (adds_makeTcpAckWithDataNoflags hh.toSourced hp hn)
    have hflags := hhead.put (show TCP_SRC_PORT_H_P ≤ TCP_FLAGS_P by decide) [TCP_FLAGS_ACK_V ||| TCP_FLAGS_PUSH_V]
    have hport' : AnswerPort ((g.put TCP_FLAGS_P [TCP_FLAGS_ACK_V ||| TCP_FLAGS_PUSH_V]).buffer.get TCP_SRC_PORT_H_P)
        ((g.put TCP_FLAGS_P [TCP_FLAGS_ACK_V ||| TCP_FLAGS_PUSH_V]).buffer.get TCP_SRC_PORT_L_P) := by
      rw [get_put_of_lt _ (by decide), get_put_of_lt _ (by decide)]
      exact hport
    have hw : (g.put TCP_FLAGS_P [TCP_FLAGS_ACK_V ||| TCP_FLAGS_PUSH_V]).wire = g.wire := rfl
    have htcp' : (g.put TCP_FLAGS_P [TCP_FLAGS_ACK_V ||| TCP_FLAGS_PUSH_V]).tcp = e.tcp := htcp
    generalize g.put TCP_FLAGS_P [TCP_FLAGS_ACK_V ||| TCP_FLAGS_PUSH_V] = g' at hflags hport' hw htcp' ⊢
    split
    · unfold wwwClientInternalDatafillCb
      split
      · refine hsend _ _ hw (hflags.put (by decide) _) ?_ ?_
        · rw [get_put_of_lt _ (by decide), get_put_of_lt _ (by decide)]
          exact hport'
        · rw [htcp']
          exact hfits
      · exact hsend g' 0 hw hflags hport' (by decide)
    · exact hsend g' 0 hw hflags hport' (by decide)
  · exact adds_makeTcpAckFromAny (e := { e with tcp := { e.tcp with tcpClientState := 1 } }) h _ _

/-- So is what an open connection sends. -/
theorem adds_clientOther (h : Answerable e.buffer) (len : Nat) : Adds (OwnFrame e.cfg.mymac) e (clientOther len e) := by
  unfold clientOther
  dsimp only
  split
  · split
    · split
      · exact Adds.refl e
      · exact (adds_makeTcpAckFromAny h (len + 1) (TCP_FLAGS_PUSH_V ||| TCP_FLAGS_FIN_V)).trans (Adds.of_wire rfl)
    · split
      · exact adds_makeTcpAckFromAny h len 0
      · exact Adds.refl e
  · exact Adds.refl e

/-- So is what any segment for the client is answered with. -/
theorem adds_clientSegment (h : Answerable e.buffer) (hfits : RequestFits e.tcp) (plen : Nat) :
    Adds (OwnFrame e.cfg.mymac) e (clientSegment plen e).1 := by
  unfold clientSegment
  dsimp only
  split
  · exact Adds.refl e
  split
  · split <;> exact Adds.refl e
  split
  · exact adds_clientSynSent h hfits _
  split
  · exact Adds.refl e
  · exact adds_clientOther h _

/-- The server's side answers on its own port only. -/
theorem adds_accept (ht : e.buffer.word ETH_TYPE_H_P = 0x0800) (hv : e.buffer.get IP_HEADER_LEN_VER_P = 0x45) {port : Nat} (hport : port = 80)
    (plen : Nat) : Adds (OwnFrame e.cfg.mymac) e (accept port plen e).1 := by
  unfold accept
  split
  · next hdst =>
    have h : Answerable e.buffer := by
      have h₁ : e.buffer.get TCP_DST_PORT_H_P = hi port := hdst.1
      have h₂ : e.buffer.get TCP_DST_PORT_L_P = lo port := hdst.2
      rw [hport] at h₁ h₂
      refine ⟨ht, hv, ?_⟩
      rw [h₁, h₂]
      decide
    split
    · exact adds_makeTcpSynackFromSyn h
    split
    · dsimp only
      split
      · exact Adds.refl e
      split
      · exact adds_makeTcpAckFromAny (e := { e with tcp := { e.tcp with infoDataLen := getTcpDataLen e } }) h _ _
      · exact Adds.refl e
    · exact Adds.refl e
  · exact Adds.refl e

/-- A word from its two bytes. -/
theorem word_of_bytes {b : Buffer} {i : Nat} {h l : Byte} (hh : b.get i = h) (hl : b.get (i + 1) = l) : b.word i = wordOf h l := by
  rw [Buffer.word, hh, hl]

/-- Every frame that answers a received one is the device's. -/
theorem adds_packetLoopReceived {plen : Nat} (hport : e.cfg.hisport = 80) (hfits : RequestFits e.tcp) (hmax : plen ≤ BUFFER_SIZE) :
    Adds (OwnFrame e.cfg.mymac) e (packetLoopReceived plen e).1 := by
  unfold packetLoopReceived
  split
  · next harp =>
    simp only [ethTypeIsArpAndMyIp, Bool.and_eq_true, beq_iff_eq] at harp
    exact adds_serviceArp (word_of_bytes harp.1.1.2 harp.1.2)
  split
  · exact Adds.refl e
  next hip =>
  simp only [ethTypeIsIpAndMyIp, Bool.not_eq_false, Bool.and_eq_true, decide_eq_true_eq, beq_iff_eq] at hip
  have ht : e.buffer.word ETH_TYPE_H_P = 0x0800 := word_of_bytes hip.1.1.1.2 hip.1.1.2
  have hv : e.buffer.get IP_HEADER_LEN_VER_P = 0x45 := hip.1.2
  split
  · next hecho => exact adds_makeEchoReplyFromRequest ht hv hecho.1 hip.1.1.1.1 hmax
  split
  · exact Adds.refl e
  split
  · next hdst => exact adds_clientSegment ⟨ht, hv, answerPort_client hdst⟩ hfits plen
  · exact adds_accept ht hv hport plen

/-- What leads to the result callback leaves in the buffer a packet that may be answered. -/
theorem answerable_of_data {plen : Nat} {fd : Byte} {datapos len ackLen : Nat} (h : (packetLoopReceived plen e).2 = .data fd datapos len ackLen) :
    Answerable e.buffer := by
  unfold packetLoopReceived at h
  split at h
  · cases h
  split at h
  · cases h
  next hip =>
  simp only [ethTypeIsIpAndMyIp, Bool.not_eq_false, Bool.and_eq_true, decide_eq_true_eq, beq_iff_eq] at hip
  split at h
  · cases h
  split at h
  · cases h
  split at h
  · next hdst => exact ⟨word_of_bytes hip.1.1.1.2 hip.1.1.2, hip.1.2, answerPort_client hdst⟩
  · cases h

/-- What closes the connection is the device's. -/
theorem adds_packetLoopAfter {u : Upcall} (h : ∀ fd datapos len ackLen, u = .data fd datapos len ackLen → Answerable e.buffer) :
    Adds (OwnFrame e.cfg.mymac) e (packetLoopAfter u e) := by
  cases u with
  | data fd datapos len ackLen =>
    have hb := h fd datapos len ackLen rfl
    rw [packetLoopAfter]
    split
    · exact adds_makeTcpAckFromAny hb ackLen TCP_FLAGS_PUSH_V
    · exact (adds_makeTcpAckFromAny hb ackLen (TCP_FLAGS_PUSH_V ||| TCP_FLAGS_FIN_V)).trans (Adds.of_wire rfl)
  | reset => exact Adds.of_wire rfl
  | _ => exact Adds.refl e

/-! ## DHCP -/

/-- No DHCP option is the device's link address. -/
theorem mymac_applyDhcpOption (option : Byte) (ptr : Nat) (e : Ether) : (applyDhcpOption option ptr e).cfg.mymac = e.cfg.mymac := by
  unfold applyDhcpOption
  repeat' split
  all_goals rfl

/-- So no DHCP message changes it. -/
theorem mymac_processDhcpOptions (len n ptr : Nat) (e : Ether) : (processDhcpOptions len n ptr e).cfg.mymac = e.cfg.mymac := by
  induction n generalizing ptr e with
  | zero => rfl
  | succ n ih =>
    rw [processDhcpOptions]
    split
    · rw [ih, mymac_applyDhcpOption]
    · rw [mymac_applyDhcpOption]

theorem mymac_enterDhcpState (s : DhcpState) (t : Option Long) (e : Ether) : (enterDhcpState s t e).cfg.mymac = e.cfg.mymac := rfl

theorem wire_enterDhcpState (s : DhcpState) (t : Option Long) (e : Ether) : (enterDhcpState s t e).wire = e.wire := rfl

/-- Nor does the DHCP client's turn. -/
theorem mymac_dhcpStateMachine (t₁ t₂ : Long) (len : Nat) (e : Ether) : (dhcpStateMachine t₁ t₂ len e).cfg.mymac = e.cfg.mymac := by
  have hgw : ∀ e : Ether, (if e.cfg.gwip.get 0 ≠ 0 then setGwIp e.cfg.gwip e else e).cfg.mymac = e.cfg.mymac := by
    intro e
    split <;> rfl
  unfold dhcpStateMachine
  split
  · split
    · rw [mymac_enterDhcpState, mymac_of_statics (statics_sendDhcpMessage e)]
    · rfl
  · dsimp only
    rw [mymac_enterDhcpState, mymac_of_statics (statics_sendDhcpMessage _)]
  · split
    · rw [mymac_enterDhcpState, mymac_of_statics (statics_sendDhcpMessage _), processDhcpOffer, mymac_processDhcpOptions]
    · split
      · rw [mymac_enterDhcpState]
      · rfl
  all_goals
    split
    · exact (mymac_enterDhcpState _ _ _).trans (hgw { e with dhcp := { e.dhcp with leaseStart := t₁ } })
    · split
      · rw [mymac_enterDhcpState]
      · rfl

/-- What the DHCP client sends is the device's. -/
theorem adds_dhcpStateMachine (t₁ t₂ : Long) (len : Nat) (e : Ether) : Adds (OwnFrame e.cfg.mymac) e (dhcpStateMachine t₁ t₂ len e) := by
  have hgw : ∀ e : Ether, (if e.cfg.gwip.get 0 ≠ 0 then setGwIp e.cfg.gwip e else e).wire = e.wire := by
    intro e
    split <;> rfl
  unfold dhcpStateMachine
  split
  · split
    · exact (adds_sendDhcpMessage e).trans (Adds.of_wire (wire_enterDhcpState _ _ _))
    · exact Adds.refl e
  · exact (adds_sendDhcpMessage { e with
      cfg := { e.cfg with myip := allZeros }
      dhcp := { e.dhcp with currentXid := t₁ } }).trans (Adds.of_wire (wire_enterDhcpState _ _ _))
  · split
    · have hmac : (processDhcpOffer len e).cfg.mymac = e.cfg.mymac := mymac_processDhcpOptions _ _ _ _
      have hwire : (processDhcpOffer len e).wire = e.wire := wire_processDhcpOptions _ _ _ _
      have hsend := adds_sendDhcpMessage (processDhcpOffer len e)
      rw [hmac] at hsend
      exact ((Adds.of_wire hwire).trans hsend).trans (Adds.of_wire (wire_enterDhcpState _ _ _))
    · split
      · exact Adds.of_wire (wire_enterDhcpState _ _ _)
      · exact Adds.refl e
  all_goals
    split
    · exact Adds.of_wire ((wire_enterDhcpState _ _ _).trans (hgw { e with dhcp := { e.dhcp with leaseStart := t₁ } }))
    · split
      · exact Adds.of_wire (wire_enterDhcpState _ _ _)
      · exact Adds.refl e

/-! ## DNS -/

/-- A DNS query leaves the device's link address alone. -/
theorem mymac_dnsRequest (hostname : List Byte) (e : Ether) : (dnsRequest hostname e).cfg.mymac = e.cfg.mymac := by
  unfold dnsRequest
  dsimp only
  rw [mymac_of_statics (statics_udpTransmit _ _), Ether.put_cfg, Ether.put_cfg, Ether.put_cfg, Ether.put_cfg,
    mymac_of_statics (statics_udpPrepare _ _ _ _)]
  split <;> rfl

/-- An answer sets the server's address and nothing else. -/
theorem findDnsAnswer_eq (plen n p : Nat) (e : Ether) : ∃ ip, findDnsAnswer plen n p e = { e with cfg := { e.cfg with hisip := ip } } := by
  induction n generalizing p with
  | zero => exact ⟨e.cfg.hisip, rfl⟩
  | succ n ih =>
    rw [findDnsAnswer]
    dsimp only
    generalize (if e.gPB p &&& 0xC0 ≠ 0 then p + 2 else skipName plen e (plen + 1) p) = q
    split
    · exact ⟨e.cfg.hisip, rfl⟩
    split
    · exact ⟨e.buffer.ip (q + 10), rfl⟩
    · exact ih _

/-- A DNS answer changes the destination only. -/
theorem checkForDnsAnswer_eq (plen : Nat) (e : Ether) : ∃ ip, (checkForDnsAnswer plen e).1 = { e with cfg := { e.cfg with hisip := ip } } := by
  unfold checkForDnsAnswer
  dsimp only
  split
  · exact ⟨e.cfg.hisip, rfl⟩
  split
  · exact ⟨e.cfg.hisip, rfl⟩
  · exact findDnsAnswer_eq _ _ _ _

end

end EtherHouse
