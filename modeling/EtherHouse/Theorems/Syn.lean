import EtherHouse.Machine.Exchange
import EtherHouse.Theorems.Hook

/-!
# What a SYN carries

The source address of the SYN that opens a server call's connection. `validate_dhcp` looks at the house's address when the call
begins, and the packet loop sends the SYN later, behind a turn of the DHCP client.
-/

namespace EtherHouse

/-- The SYN that is sent with an event. -/
def synOf (ev : Event) (d : Device) : Option (List Byte) :=
  match ev with
  | .idle up => synFrame d.ether up
  | _ => none

/-! ## The house's address and the DHCP client -/

/-- An address that no host may send from. -/
def badSource (ip : Ip) : Bool := ip = allZeros ∨ ip = allOnes

/-- The address that a turn of the DHCP client gives the house, if it sets it: a turn in `INIT` wipes it, an offer brings another. -/
def dhcpAddress (len : Nat) (e : Ether) : Option Ip :=
  match e.dhcp.dhcpState with
  | .init => some allZeros
  | .selecting => if dhcpReceivedMessageType len DHCP_OFFER e then some (e.buffer.ip DHCP_YIADDR_P) else none
  | _ => none

/-- The length of the frame that the innermost packet loop was given. -/
def frameLength (past : Trace) : Nat := ((openLoops past).head?.map fun l => l.1.length).getD 0

/-- Since the last server call began, the house was given an address and the last one was bad. -/
def addressLost : Trace → Bool
  | [] => false
  | (.enter (.api _), _) :: _ => false
  | (.dhcpTurn _, d) :: past => ((dhcpAddress (frameLength past) d.ether).map badSource).getD (addressLost past)
  | _ :: past => addressLost past

/-- A DHCP option leaves the address alone. -/
theorem myip_applyDhcpOption (option : Byte) (ptr : Nat) (e : Ether) : (applyDhcpOption option ptr e).cfg.myip = e.cfg.myip := by
  unfold applyDhcpOption
  repeat' split
  all_goals rfl

/-- An offer sets the address to what is offered. -/
theorem myip_processDhcpOffer (len : Nat) (e : Ether) : (processDhcpOffer len e).cfg.myip = e.buffer.ip DHCP_YIADDR_P := by
  have hopts : ∀ (n ptr : Nat) (e : Ether), (processDhcpOptions len n ptr e).cfg.myip = e.cfg.myip := by
    intro n
    induction n with
    | zero => intro ptr e; rfl
    | succ n ih =>
      intro ptr e
      rw [processDhcpOptions]
      split
      · rw [ih, myip_applyDhcpOption]
      · rw [myip_applyDhcpOption]
  rw [processDhcpOffer, hopts]

/-- The DHCP client's turn sets the address that it comes to, if to any. -/
theorem myip_dhcpStateMachine (t₁ t₂ : Long) (len : Nat) (e : Ether) :
    (dhcpStateMachine t₁ t₂ len e).cfg.myip = (dhcpAddress len e).getD e.cfg.myip := by
  have hsend : ∀ (s : DhcpState) (t : Option Long) (e : Ether),
      (enterDhcpState s t (sendDhcpMessage e)).cfg.myip = e.cfg.myip := by
    intro s t e
    change (sendDhcpMessage e).cfg.myip = e.cfg.myip
    rw [cfg_of_statics (statics_sendDhcpMessage e)]
  have hack : ∀ e : Ether, (let e := { e with dhcp := { e.dhcp with leaseStart := t₁ } }
      let e := if e.cfg.gwip.get 0 ≠ 0 then setGwIp e.cfg.gwip e else e
      enterDhcpState .bound none e).cfg.myip = e.cfg.myip := by
    intro e
    dsimp only [enterDhcpState]
    split <;> rfl
  unfold dhcpStateMachine dhcpAddress
  cases hs : e.dhcp.dhcpState with
  | bound =>
    dsimp only
    split
    · exact hsend _ _ _
    · rfl
  | init => exact hsend _ _ _
  | selecting =>
    dsimp only
    split
    · rw [hsend, myip_processDhcpOffer]
      rfl
    · split <;> rfl
  | requesting =>
    dsimp only
    split
    · exact hack e
    · split <;> rfl
  | renewing =>
    dsimp only
    split
    · exact hack e
    · split <;> rfl

/-- What `validate_dhcp` lets through. -/
theorem badSource_of_isIpLocal {e : Ether} {ip : Ip} (h : isIpLocal e ip = true) : badSource ip = false := by
  unfold isIpLocal at h
  unfold badSource
  split at h
  · cases h
  · next hn => exact decide_eq_false fun hb => hn hb.symm

/-! ## The invariant -/

/-- While a server call waits, the house's address is bad exactly if the trace says that it was lost; when it begins, it is not. -/
structure Addressed (st : List Act) (w : World) : Prop where
  calling : ∀ k rest, st = .api k .calling :: rest → addressLost w.trace = false
  waiting : pending st w.dev.locked ≠ none → badSource w.dev.ether.cfg.myip = addressLost w.trace

/-- A step that begins no call and leaves the address. -/
theorem Addressed.move {st st' : List Act} {w w' : World} (h : Addressed st w) (hc : st' = st ∨ ∀ k rest, st' ≠ .api k .calling :: rest)
    (hp : pending st' w'.dev.locked = none ∨ pending st' w'.dev.locked = pending st w.dev.locked)
    (hm : w'.dev.ether.cfg.myip = w.dev.ether.cfg.myip) (ht : addressLost w'.trace = addressLost w.trace) : Addressed st' w' where
  calling := fun k rest hs => by
    rcases hc with rfl | hc
    · rw [ht]
      exact h.calling k rest hs
    · exact absurd hs (hc k rest)
  waiting := fun hn => by
    rcases hp with hp | hp
    · exact absurd hp hn
    · rw [hm, ht]
      exact h.waiting (hp ▸ hn)

/-- The steps of the library keep it; a turn of the DHCP client is told. -/
theorem NetStep.addressed {st st' : List Act} {w : World} {note : Option Event} {f : Ether → Ether}
    (hs : NetStep st w.dev note f st') (hi : Intact st w) (h : Addressed st w) :
    Addressed st' ((w.note note).update (Device.net f)) := by
  cases hs with
  | log msg =>
    refine h.move (Or.inl rfl) (Or.inr rfl) ?_ rfl
    rw [update_dev, note_dev, net_ether, cfg_of_statics (statics_syslogF _ _)]
  | dhcp plen t₁ t₂ st =>
    have hlen : frameLength w.trace = plen := by
      have htold : List.Forall₂ Told ((plen, false) :: loopsOf false st) (openLoops w.trace) := hi.told
      unfold frameLength
      generalize openLoops w.trace = ls at htold ⊢
      cases htold with
      | cons hb => exact hb.1
    have hlost : addressLost ((w.emit (.dhcpTurn t₁)).update (Device.net (dhcpStateMachine t₁ t₂ plen))).trace =
        ((dhcpAddress plen w.dev.ether).map badSource).getD (addressLost w.trace) := by
      rw [← hlen]
      rfl
    refine ⟨nofun, fun hn => ?_⟩
    rw [note_some, hlost, update_dev, emit_dev, net_ether, myip_dhcpStateMachine]
    cases dhcpAddress plen w.dev.ether with
    | none => exact h.waiting hn
    | some ip => rfl
  | idle up st =>
    refine h.move (Or.inr nofun) (Or.inr rfl) ?_ ?_
    · rw [update_dev, note_dev, net_ether, cfg_packetLoopIdle]
    · simp only [update_trace, note_some, emit_trace, addressLost]
  | ret st hr =>
    refine h.move (Or.inr nofun) (Or.inr rfl) ?_ rfl
    rw [update_dev, note_dev, net_ether, cfg_packetLoopReceived]
  | upcall st hu hr hq =>
    refine h.move (Or.inr nofun) (Or.inr rfl) ?_ rfl
    rw [update_dev, note_dev, net_ether, cfg_packetLoopReceived]
  | close plen u st =>
    refine h.move (Or.inr nofun) (Or.inr rfl) ?_ rfl
    rw [update_dev, note_dev, net_ether, cfg_packetLoopAfter]
  | browse k st hl =>
    refine ⟨nofun, fun _ => ?_⟩
    have hlost := h.calling k st rfl
    exact (badSource_of_isIpLocal hl).trans hlost.symm
  | probe =>
    refine h.move (Or.inr nofun) (Or.inr rfl) ?_ rfl
    rw [update_dev, note_dev, net_ether, selectDestAddr]
    split
    · split <;> rfl
    · rfl
  | ping => exact h.move (Or.inl rfl) (Or.inr rfl) rfl rfl
  | icmp =>
    refine h.move (Or.inl rfl) (Or.inr rfl) ?_ rfl
    rw [update_dev, note_dev, net_ether, cfg_of_statics (statics_clientIcmpRequest _ _)]
  | boot hf => exact ⟨nofun, fun hn => absurd rfl hn⟩

/-- What is noted keeps it. -/
theorem MarkStep.addressed {st st' : List Act} {w : World} {ev : Event} (hs : MarkStep st w.dev ev st') (hw : WellStacked st w)
    (h : Addressed st w) : Addressed st' (w.emit ev) := by
  have hw' : WellStacked st' (w.emit ev) := hs.disciplined hw
  cases hs with
  | wdtReset => exact h.move (Or.inl rfl) (Or.inr rfl) rfl rfl
  | compared => exact h.move (Or.inl rfl) (Or.inr rfl) rfl rfl
  | ignored => exact h.move (Or.inr nofun) (Or.inr rfl) rfl rfl
  | hooked => exact h.move (Or.inr nofun) (Or.inr rfl) rfl rfl
  | abort hc hl =>
    have ha : apis st' = apis st := by cases hc <;> rfl
    exact h.move (Or.inr (hc.resumes hw).not_calling) (Or.inr (pending_congr ha _)) rfl rfl
  | enter hc hl => exact ⟨fun _ _ _ => rfl, fun hn => absurd rfl hn⟩
  | leave k =>
    have hp := pending_of_draining hw.home.1.below w.dev.locked
    exact h.move (Or.inr hw.home.1.resumes.not_calling) (Or.inl hp) rfl rfl
  | polled plen =>
    exact h.move (Or.inr hw.resumes.not_calling) (Or.inr rfl) rfl rfl
  | _ => exact h.move (Or.inr nofun) (Or.inr rfl) rfl rfl

/-- The steps of the stack keep it. -/
theorem CtrlStep.addressed {st st' : List Act} {w : World} (hs : CtrlStep st w.dev st') (h : Addressed st w) : Addressed st' w := by
  cases hs with
  | drained k st hl =>
    refine h.move (Or.inr nofun) (Or.inl rfl) rfl rfl
  | _ => exact h.move (Or.inr nofun) (Or.inr rfl) rfl rfl

/-- Each step keeps it. -/
theorem Step.addressed {st st' : List Act} {w w' : World} (hs : Step st w st' w') (hw : WellStacked st w) (hi : Intact st w)
    (h : Addressed st w) : Addressed st' w' := by
  cases hs with
  | tick => exact h.move (Or.inl rfl) (Or.inr rfl) rfl rfl
  | net hn => exact hn.addressed hi h
  | ctrl hc => exact hc.addressed h
  | mark hm => exact hm.addressed hw h
  | timer ht => cases ht <;> exact h.move (Or.inr nofun) (Or.inr rfl) rfl rfl
  | poll a =>
    refine h.move (Or.inr nofun) (Or.inr rfl) ?_ rfl
    simp only [emit_dev, update_dev, net_ether, cfg_of_statics (statics_packetReceiveInto _ _)]
  | receive a => exact ⟨nofun, fun hn => absurd rfl hn⟩
  | sniff => exact h.move (Or.inr nofun) (Or.inr rfl) rfl rfl
  | toggleOn => exact h.move (Or.inr nofun) (Or.inr rfl) rfl rfl
  | toggleOff => exact h.move (Or.inr nofun) (Or.inr rfl) rfl rfl
  | learn => exact h.move (Or.inl rfl) (Or.inr rfl) rfl rfl
  | unsniff =>
    refine h.move (Or.inr ?_) (Or.inr rfl) rfl rfl
    rintro k rest rfl
    cases hw.sniffed.1
  | requested st hq =>
    refine h.move (Or.inr nofun) (Or.inr rfl) ?_ rfl
    simp only [emit_dev, update_dev, net_ether, cfg_packetLoopReceived]
  | parse buf st hr hc =>
    refine ⟨nofun, fun hn => absurd ?_ hn⟩
    simp only [update_dev, browserCallback_locked]
    exact pending_unlocked hw.not_armed
  | lock => exact h.move (Or.inr nofun) (Or.inr rfl) rfl rfl
  | forget =>
    obtain ⟨rfl, _⟩ := hw.absence_flags
    exact h.move (Or.inr nofun) (Or.inr rfl) rfl rfl
  | bootApiIp => exact ⟨nofun, fun hn => absurd rfl hn⟩

/-- So it holds wherever a run has got. -/
theorem Reach.addressed {st : List Act} {w : World} (h : Reach PowerUp st w) : Addressed st w := by
  refine h.invariant (fun st w hi => ?_) fun st w st' w' hr ha hs => hs.addressed (hr.wellStacked powerUp_start) hr.intact ha
  obtain ⟨rfl, eeprom, flash, rfl⟩ := hi
  exact ⟨nofun, fun hn => absurd rfl hn⟩

/-- A SYN is sent for a call that waits. -/
theorem Reach.syn_pending {up : Bool} {st : List Act} {w : World} (h : Reach PowerUp (.packetLoop 0 .offered :: st) w)
    (hr : SynReady (idleGateway up w.dev.ether)) : pending (.packetLoop 0 .offered :: st) w.dev.locked ≠ none := by
  unfold SynReady at hr
  rw [tcp_idleGateway] at hr
  intro hn
  rcases (h.exchange powerUp_start powerUp_exchange).quiet hn with hc | hb
  · exact not_closing_packetLoop (by nofun) hc
  · exact hb (Or.inl hr.1)

/-- In every run, a SYN's source address is one that a host may have exactly if the DHCP client has not lost the house's address since
the call began. -/
theorem syn_source_valid_iff (eeprom flash : Nat → Byte) (tape : List Input) :
    Always (fun ev d past => ∀ frame, synOf ev d = some frame →
      (badSource (addressAt frame IP_SRC_P) = false ↔ addressLost past = false)) (run eeprom flash tape).trace := by
  obtain ⟨st, hr⟩ := run_reached eeprom flash tape
  refine hr.always ?_ fun st w ev d past hr hn => ?_
  · rintro st w ⟨rfl, eeprom, flash, rfl⟩
    exact ⟨nofun, nofun, nofun, trivial⟩
  · cases hn with
    | net hn => cases hn with
      | idle up st =>
        intro frame hf
        obtain ⟨hready, _, hsrc⟩ := synFrame_addresses _ hf
        have haddr : addressAt frame IP_SRC_P = w.dev.ether.cfg.myip := by
          refine Vector.ext fun k hk => ?_
          rw [← hsrc k hk]
          have hk' : k = 0 ∨ k = 1 ∨ k = 2 ∨ k = 3 := by omega
          rcases hk' with rfl | rfl | rfl | rfl <;> rfl
        rw [haddr, hr.addressed.waiting (hr.syn_pending hready)]
      | _ => nofun
    | mark hm => cases hm <;> nofun
    | _ => nofun

/-- The source address of the SYN that is sent with an event, if one is, is valid. -/
def ValidSource (ev : Event) (d : Device) : Prop :=
  ∀ frame, synOf ev d = some frame → badSource (addressAt frame IP_SRC_P) = false

instance (ev : Event) (d : Device) : Decidable (ValidSource ev d) :=
  decidable_of_iff ((synOf ev d).all (fun frame => !badSource (addressAt frame IP_SRC_P)) = true) <| by
    rw [Option.all_eq_true]
    exact forall_congr' fun frame => by simp

/-- A boot under a lease of one second, which is not renewed; the client gives the lease up as the phone's first datagram comes. -/
def lostLease : List Input :=
  networkUp [0, 0, 0, 1] ++
    (callUp (clientPort 1) ++ framePoll (serverReply (clientPort 1) (okReply phoneMac.toList)) ++ silence 3 ++
      (passes 1000 ++ idlePoll) ++ passes 5000) ++
    serverCall 2 (okReply [0]) ++ silence 4 ++ (framePoll phoneDatagram ++ silence 2) ++ idlePoll

set_option maxRecDepth 10000 in
/-- The SYN of the call that reports the phone carries the source address 0.0.0.0. -/
theorem lostLease_source : ¬Always (fun ev d _ => ValidSource ev d) (run blank blank lostLease).trace := by decide +kernel

end EtherHouse
