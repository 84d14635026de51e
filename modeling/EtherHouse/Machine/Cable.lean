import EtherHouse.Machine.Exchange
import EtherHouse.Net.Sent

/-!
# The cable

What every step of the machine does to the frames that have gone out. The invariant ties the stack to the buffer: a packet loop that
has called the client back with data still holds a packet that may be answered when it comes to close the connection.
-/

namespace EtherHouse

open Prog

/-! ## From `ether.begin` on -/

/-- Where the machine stands once the controller has been given the device's link address. -/
def Begun (st : List Act) (w : World) : Prop :=
  st = [.setup .network] ∧ ∃ eeprom flash : Nat → Byte, w = ((loadedFrom ⟨powerOn eeprom flash, []⟩).emit .wdtReset).update
    (Device.net fun e => { e with cfg := { e.cfg with usingDhcp := false, mymac := myMac } })

/-- Every run from power-on goes through `ether.begin`. -/
theorem run_begun (eeprom flash : Nat → Byte) (tape : List Input) : Reached Begun (run eeprom flash tape) := by
  have hbegin : Triple (fun w => w = (loadedFrom ⟨powerOn eeprom flash, []⟩).emit .wdtReset) EtherHouse.begin
      (fun _ => Reach Begun [.setup .network]) (Reached Begun) := by
    rintro w inp rfl
    simp only [EtherHouse.begin, wp_bind, wp_net, wp_pure]
    have h : Reach Begun [.setup .network] (((loadedFrom ⟨powerOn eeprom flash, []⟩).emit .wdtReset).update
        (Device.net fun e => { e with cfg := { e.cfg with usingDhcp := false, mymac := myMac } })) := .init ⟨rfl, eeprom, flash, rfl⟩
    exact wp_input_of h.reached fun i _ => h.tick i.elapsed
  have hfirmware : Triple (fun w => w = ⟨powerOn eeprom flash, []⟩) firmware (fun _ => Reach Begun []) (Reached Begun) := by
    rintro w inp rfl
    simp only [firmware, wp_bind]
    exact (setupFrom_reach hbegin).wp rfl fun _ _ _ h₁ => mainLoop_reach _ _ h₁
  unfold run
  exact hfirmware.state_of rfl tape (fun _ _ h => h.reached) fun _ h => h

/-- The library there: its statics, with the device's own link address. -/
theorem begun_ether {st : List Act} {w : World} (h : Begun st w) :
    w.dev.ether = { etherStatics with cfg := { etherStatics.cfg with mymac := myMac } } := by
  obtain ⟨rfl, eeprom, flash, rfl⟩ := h
  simp only [update_dev, net_ether, loadedFrom, emit_dev, readStateFromEeprom_ether]
  rfl

/-- A start from there has no call open and neither flag set. -/
theorem begun_start : Start Begun where
  stacked := by
    rintro st w ⟨rfl, eeprom, flash, rfl⟩
    simp only [WellStacked, loadedFrom, emit_dev, update_dev, net_locked, net_snifferNested, readStateFromEeprom_locked,
      readStateFromEeprom_snifferNested]
    exact .calm (.outer (.setup _))
  told := by
    rintro st w ⟨rfl, eeprom, flash, rfl⟩
    rfl
  bare := by
    rintro st w ⟨rfl, eeprom, flash, rfl⟩
    exact ⟨rfl, rfl⟩

/-! ## Frames and packet loops -/

/-- The length of the frame that a packet loop has. -/
def Act.plen? : Act → Option Nat
  | .packetLoop plen _ => some plen
  | _ => none

def plens (st : List Act) : List Nat := st.filterMap Act.plen?

section

variable {st st' : List Act} {d : Device}

/-- A call site is not in a packet loop of its own. -/
theorem CallSite.plens {k : Api} (h : CallSite k st st') : plens st' = plens st := by
  cases h <;> rfl

/-- A step of the library changes no frame's length. -/
theorem NetStep.plens {note : Option Event} {f : Ether → Ether} (h : NetStep st d note f st') : plens st' = plens st := by
  cases h <;> rfl

/-- Nor does a step of the stack. -/
theorem CtrlStep.plens (h : CtrlStep st d st') : plens st' = plens st := by
  cases h <;> rfl

/-- Nor does one of a timer. -/
theorem TimerStep.plens {f : Device → Device} (h : TimerStep st d f st') : plens st' = plens st := by
  cases h <;> rfl

/-- A packet loop that ends takes its frame with it; nothing else that is noted changes which there are. -/
theorem MarkStep.plens {ev : Event} (h : MarkStep st d ev st') : plens st' ⊆ plens st := by
  cases h with
  | polled plen => exact List.subset_cons_self _ _
  | abort hc =>
    rw [hc.plens]
    exact List.Subset.refl _
  | enter hc =>
    have hcons : ∀ k st', EtherHouse.plens (.api k .calling :: st') = EtherHouse.plens st' := fun _ _ => rfl
    rw [hcons, hc.plens]
    exact List.Subset.refl _
  | _ => exact List.Subset.refl _

/-- The controller gives one byte less than the buffer has, at most. -/
theorem packetReceiveLen_le (a : Arrival) : packetReceiveLen a ≤ BUFFER_SIZE - 1 := by
  cases a with
  | nothing => exact Nat.zero_le _
  | damaged => exact Nat.zero_le _
  | frame bytes =>
    rw [packetReceiveLen]
    split <;> omega

/-- No packet loop has a frame that is longer than what the controller is asked for. -/
theorem Step.plens {w w' : World} (hs : Step st w st' w') (h : ∀ plen ∈ plens st, plen ≤ BUFFER_SIZE - 1) :
    ∀ plen ∈ EtherHouse.plens st', plen ≤ BUFFER_SIZE - 1 := by
  cases hs with
  | net hn =>
    rw [hn.plens]
    exact h
  | ctrl hc =>
    rw [hc.plens]
    exact h
  | mark hm => exact fun plen hp => h plen (hm.plens hp)
  | timer ht =>
    rw [ht.plens]
    exact h
  | poll a =>
    intro plen hp
    rcases List.mem_cons.mp hp with rfl | hp
    · exact packetReceiveLen_le a
    · exact h plen hp
  | _ => exact h

end

/-! ## The invariant -/

/-- A packet loop stands before or behind the result callback, with data. -/
def AtData (st : List Act) : Prop :=
  ∃ plen fd datapos len ackLen rest, st = .packetLoop plen (.upcall (.data fd datapos len ackLen)) :: rest ∨
    st = .packetLoop plen (.closing (.data fd datapos len ackLen)) :: rest

/-- With data, the packet loop stands at the result callback. -/
theorem AtData.atUpcall {st : List Act} (h : AtData st) : AtUpcall st := by
  obtain ⟨plen, fd, datapos, len, ackLen, rest, h⟩ := h
  exact ⟨plen, _, rest, h⟩

/-- The device's own address and port, a request that fits, frames that fit, and what may be answered in the buffer where an answer
is due: then everything that has gone out is the device's. -/
structure Cable (st : List Act) (e : Ether) : Prop where
  mine : e.cfg.mymac = myMac
  http : e.cfg.hisport = 80
  fits : RequestFits e.tcp
  bounded : ∀ plen ∈ plens st, plen ≤ BUFFER_SIZE - 1
  answerable : AtData st → Answerable e.buffer
  sent : ∀ frame, .sent frame ∈ e.wire → OwnFrame myMac frame

section

variable {st st' : List Act} {e e' : Ether}

/-- A step of the stack, away from the callback or at no other place of it. -/
theorem Cable.move (h : Cable st e) (hb : ∀ plen ∈ plens st', plen ≤ BUFFER_SIZE - 1) (hst : st' = st ∨ ¬AtUpcall st') : Cable st' e where
  mine := h.mine
  http := h.http
  fits := h.fits
  bounded := hb
  answerable := fun ha => by
    rcases hst with rfl | hn
    · exact h.answerable ha
    · exact absurd ha.atUpcall hn
  sent := h.sent

/-- Whether the request fits depends on what a connection keeps. -/
theorem requestFits_of_held (h : e'.held = e.held) : RequestFits e'.tcp ↔ RequestFits e.tcp := by
  have ht : e'.tcp.atRest = e.tcp.atRest := congrArg (·.2.2) h
  have hrest := congrArg getRequest ht
  have hg : getRequest e'.tcp = getRequest e.tcp := hrest
  unfold RequestFits
  rw [hg]

/-- A step of the library. -/
theorem Cable.net (h : Cable st e) (hm : e'.cfg.mymac = e.cfg.mymac) (hh : e'.held = e.held) (ha : Adds (OwnFrame e.cfg.mymac) e e')
    (hb : ∀ plen ∈ plens st', plen ≤ BUFFER_SIZE - 1) (hd : AtData st' → Answerable e'.buffer) : Cable st' e' where
  mine := hm.trans h.mine
  http := by
    have hp : e'.cfg.hisport = e.cfg.hisport := congrArg (·.1) hh
    exact hp.trans h.http
  fits := (requestFits_of_held hh).mpr h.fits
  bounded := hb
  answerable := hd
  sent := fun frame hf => by
    rcases ha.sent hf with hf | hf
    · exact h.sent frame hf
    · rwa [h.mine] at hf

/-- The four requests fit. -/
theorem requestFits_browse (k : Api) (apiIp : Ip) (e : Ether) : RequestFits (browse k apiIp e).tcp := by
  have hg : getRequest (browse k apiIp e).tcp = ascii "GET " ++ k.url ++ [] ++ ascii " HTTP/1.0\r\nHost: " ++ apiServer ++ ascii "\r\n" ++
      ascii "Accept: text/html" ++ ascii "\r\n\r\n" := rfl
  unfold RequestFits
  rw [hg]
  cases k <;> decide

/-- Boot sends frames of the device's only, and keeps its link address. -/
theorem adds_bootFn {f : Ether → Ether} (hf : BootFn f) (h : e.cfg.mymac = myMac) :
    (f e).cfg.mymac = e.cfg.mymac ∧ Adds (OwnFrame e.cfg.mymac) e (f e) := by
  cases hf with
  | begin => exact ⟨h.symm, Adds.of_wire rfl⟩
  | dhcpBegin => exact ⟨rfl, Adds.of_wire rfl⟩
  | dhcp t₁ t₂ len => exact ⟨mymac_dhcpStateMachine t₁ t₂ len e, adds_dhcpStateMachine t₁ t₂ len e⟩
  | dhcpEnd => exact ⟨rfl, Adds.of_wire rfl⟩
  | noHisip => exact ⟨rfl, Adds.of_wire rfl⟩
  | dnsRequest name => exact ⟨mymac_dnsRequest name e, adds_dnsRequest name e⟩
  | dnsAnswer len =>
    obtain ⟨ip, hans⟩ := checkForDnsAnswer_eq len e
    dsimp only
    rw [hans]
    exact ⟨rfl, Adds.of_wire rfl⟩

/-- Another destination changes neither the device's link address nor the cable. -/
theorem selectDestAddr_kept (destip : Ip) (e : Ether) :
    (selectDestAddr destip e).cfg.mymac = e.cfg.mymac ∧ (selectDestAddr destip e).wire = e.wire := by
  unfold selectDestAddr
  split
  · split <;> exact ⟨rfl, rfl⟩
  · exact ⟨rfl, rfl⟩

/-- Each step of the library keeps the invariant. -/
theorem NetStep.cable {d : Device} {note : Option Event} {f : Ether → Ether} (hs : NetStep st d note f st') (h : Cable st d.ether) :
    Cable st' (f d.ether) := by
  have hb : ∀ plen ∈ EtherHouse.plens st', plen ≤ BUFFER_SIZE - 1 := by
    rw [hs.plens]
    exact h.bounded
  have hcut : ∀ {plen p rest}, st = .packetLoop plen p :: rest → plen ≤ BUFFER_SIZE := by
    rintro plen p rest rfl
    exact le_trans (h.bounded plen List.mem_cons_self) (by decide)
  cases hs with
  | log msg _ hl =>
    have hstat := statics_syslogF msg d.ether
    exact h.net (mymac_of_statics hstat) (held_of_statics hstat) (adds_sendUdp _ _ _ _ _ _) hb
      fun ha => absurd ha.atUpcall (not_atUpcall_of_logs hl)
  | dhcp plen t₁ t₂ st =>
    exact h.net (mymac_dhcpStateMachine _ _ _ _) (held_dhcpStateMachine _ _ _ _) (adds_dhcpStateMachine _ _ _ _) hb
      fun ha => absurd ha.atUpcall (not_atUpcall_packetLoop nofun nofun)
  | idle up st =>
    exact h.net (by rw [cfg_packetLoopIdle]) (held_packetLoopIdle _ _) (adds_packetLoopIdle _ _) hb
      fun ha => absurd ha.atUpcall (not_atUpcall_packetLoop nofun nofun)
  | ret st hr =>
    exact h.net (by rw [cfg_packetLoopReceived]) (held_packetLoopReceived _ _)
      (adds_packetLoopReceived h.http h.fits (hcut rfl)) hb fun ha => absurd ha.atUpcall (not_atUpcall_packetLoop nofun nofun)
  | @upcall plen u _ st hu hr hq =>
    obtain ⟨heq, -⟩ := packetLoopReceived_ends d.ether hu hr hq
    refine h.net (by rw [cfg_packetLoopReceived]) (held_packetLoopReceived _ _)
      (adds_packetLoopReceived h.http h.fits (hcut rfl)) hb ?_
    rintro ⟨plen', fd, datapos, len, ackLen, rest, ha | ha⟩
    · cases ha
      have hsame : (packetLoopReceived plen d.ether).1 = d.ether := congrArg (·.1) heq
      dsimp only
      rw [hsame]
      exact answerable_of_data hu
    · cases ha
  | close plen u st =>
    refine h.net (by rw [cfg_packetLoopAfter]) (held_packetLoopAfter _ _) (adds_packetLoopAfter ?_) hb
      fun ha => absurd ha.atUpcall (not_atUpcall_packetLoop nofun nofun)
    rintro fd datapos len ackLen rfl
    exact h.answerable ⟨plen, fd, datapos, len, ackLen, st, Or.inr rfl⟩
  | browse k st =>
    exact { mine := h.mine, http := h.http, fits := requestFits_browse k _ _, bounded := hb, sent := h.sent
            answerable := fun ha => absurd ha.atUpcall (not_atUpcall_of_logs trivial) }
  | probe st =>
    obtain ⟨hm, hw⟩ := selectDestAddr_kept (sweepIp _ _) d.ether
    exact h.net hm (held_selectDestAddr _ _) (Adds.of_wire hw) hb fun ha => absurd ha.atUpcall (not_atUpcall_of_logs trivial)
  | ping =>
    exact h.net rfl (held_forceDestMac _ _) (Adds.of_wire rfl) hb fun ha => absurd ha.atUpcall (not_atUpcall_of_logs trivial)
  | icmp =>
    have hstat := statics_clientIcmpRequest d.ether d.targetIp
    exact h.net (mymac_of_statics hstat) (held_of_statics hstat) (adds_clientIcmpRequest _ _) hb
      fun ha => absurd ha.atUpcall (not_atUpcall_of_logs trivial)
  | boot hf =>
    obtain ⟨hm, ha⟩ := adds_bootFn hf h.mine
    have hn : NetStep [.setup .network] d none f [.setup .network] := .boot hf d
    rcases hn.held with ⟨hheld, _⟩ | ⟨_, _, hst, _⟩
    · exact h.net hm hheld ha hb fun ha => absurd ha.atUpcall (not_atUpcall_of_logs trivial)
    · cases hst

/-- Only the callback itself stands at the callback. -/
theorem MarkStep.notAtUpcall {d : Device} {ev : Event} (hs : MarkStep st d ev st') (hw : Disciplined st d.locked d.snifferNested) :
    st' = st ∨ ¬AtUpcall st' := by
  cases hs with
  | wdtReset => exact Or.inl rfl
  | compared => exact Or.inl rfl
  | ignored => exact Or.inr (not_atUpcall_packetLoop nofun nofun)
  | hooked => exact Or.inr (not_atUpcall_packetLoop nofun nofun)
  | abort hc => exact Or.inr (hc.resumes hw).not_atUpcall
  | enter => exact Or.inr (not_atUpcall_of_logs trivial)
  | leave => exact Or.inr hw.home.1.resumes.not_atUpcall
  | polled => exact Or.inr hw.resumes.not_atUpcall
  | loopBegin => exact Or.inr (not_atUpcall_of_logs trivial)
  | loopEnd => exact Or.inr not_atUpcall_nil
  | setupEnd => exact Or.inr not_atUpcall_nil
  | sweepBegin => exact Or.inr (not_atUpcall_of_logs trivial)
  | sweepEnd => exact Or.inr (not_atUpcall_of_logs trivial)
  | lastDitchBegin => exact Or.inr (not_atUpcall_of_logs trivial)
  | lastDitchEnd => exact Or.inr (not_atUpcall_of_logs trivial)

/-- Each step of the stack does. -/
theorem CtrlStep.cable {d : Device} (hs : CtrlStep st d st') (h : Cable st d.ether) : Cable st' d.ether := by
  have hb : ∀ plen ∈ EtherHouse.plens st', plen ≤ BUFFER_SIZE - 1 := by
    rw [hs.plens]
    exact h.bounded
  cases hs with
  | @noParse _ u plen st =>
    -- the callback is not called: what it would have seen is still there
    refine { h with bounded := hb, answerable := ?_ }
    rintro ⟨plen', fd, datapos, len, ackLen, rest, ha | ha⟩
    · cases ha
    · cases ha
      exact h.answerable ⟨plen, fd, datapos, len, ackLen, st, Or.inl rfl⟩
  | noDhcp => exact h.move hb (Or.inr (not_atUpcall_packetLoop nofun nofun))
  | unheard => exact h.move hb (Or.inr (not_atUpcall_packetLoop nofun nofun))
  | alight => exact h.move hb (Or.inr nofun)
  | drained => exact h.move hb (Or.inr (not_atUpcall_of_logs trivial))
  | skip => exact h.move hb (Or.inr (not_atUpcall_of_logs trivial))
  | absent => exact h.move hb (Or.inr (not_atUpcall_of_logs trivial))
  | confirmed => exact h.move hb (Or.inr (not_atUpcall_of_logs trivial))
  | present => exact h.move hb (Or.inr (not_atUpcall_of_logs trivial))

/-- A parse callback may log; then the buffer holds the message, and that may be answered too. -/
theorem browserCallback_cable (cb : BrowserCallback) (buf : Nat) (status : Byte) (off len : Nat) (d : Device) :
    Adds (OwnFrame d.ether.cfg.mymac) d.ether (browserCallback cb buf status off len d).ether ∧
      (Answerable d.ether.buffer → Answerable (browserCallback cb buf status off len d).ether.buffer) := by
  cases cb with
  | macsParse =>
    simp only [browserCallback, macsParseCallback, snifferListenForMac]
    split <;> exact ⟨Adds.of_wire rfl, id⟩
  | stateParse =>
    simp only [browserCallback, stateParseCallback]
    split
    · exact ⟨Adds.of_wire rfl, id⟩
    · exact ⟨adds_sendUdp _ _ _ _ _ _, fun _ => answerable_sendUdp _ _ _ _ (by decide) _⟩
  | apiSet => exact ⟨Adds.of_wire rfl, id⟩

/-- Each step does. -/
theorem Step.cable {w w' : World} (hs : Step st w st' w') (hw : WellStacked st w) (h : Cable st w.dev.ether) : Cable st' w'.dev.ether := by
  have hb := hs.plens h.bounded
  cases hs with
  | tick => exact h
  | net hn =>
    rw [update_dev, note_dev]
    exact hn.cable h
  | ctrl hc => exact hc.cable h
  | mark hm => exact h.move hb (hm.notAtUpcall hw)
  | timer ht => cases ht <;> exact h.move hb (Or.inr nofun)
  | poll a =>
    have hstat := statics_packetReceiveInto w.dev.ether a
    exact h.net (mymac_of_statics hstat) (held_of_statics hstat) (adds_packetReceiveInto a _) hb
      fun ha => absurd ha.atUpcall (not_atUpcall_packetLoop nofun nofun)
  | receive a =>
    have hstat := statics_packetReceiveInto w.dev.ether a
    exact h.net (mymac_of_statics hstat) (held_of_statics hstat) (adds_packetReceiveInto a _) hb
      fun ha => absurd ha.atUpcall (not_atUpcall_of_logs trivial)
  | sniff => exact h.move hb (Or.inr nofun)
  | toggleOn => exact h.move hb (Or.inr nofun)
  | toggleOff => exact h.move hb (Or.inr nofun)
  | learn => exact h.move hb (Or.inl rfl)
  | unsniff => exact h.move hb (Or.inr hw.sniffed.1.resumes.not_atUpcall)
  | @requested plen _ _ st =>
    change Cable _ (packetLoopReceived plen w.dev.ether).1
    exact h.net (by rw [cfg_packetLoopReceived]) (held_packetLoopReceived _ _)
      (adds_packetLoopReceived h.http h.fits (le_trans (h.bounded _ List.mem_cons_self) (by decide))) hb
      fun ha => absurd ha.atUpcall (not_atUpcall_packetLoop nofun nofun)
  | @parse plen u status off len cb _ buf st =>
    obtain ⟨ha, hd⟩ := browserCallback_cable cb buf status off len w.dev
    have hstat := browserCallback_statics cb buf status off len w.dev
    refine h.net (mymac_of_statics hstat) (held_of_statics hstat) ha hb ?_
    rintro ⟨plen', fd, datapos, len', ackLen, rest, he | he⟩
    · cases he
    · cases he
      exact hd (h.answerable ⟨plen, fd, datapos, len', ackLen, st, Or.inl rfl⟩)
  | lock => exact h.move hb (Or.inr (not_atUpcall_of_logs trivial))
  | forget =>
    obtain ⟨rfl, _⟩ := hw.absence_flags
    exact h.move hb (Or.inr (not_atUpcall_of_logs trivial))
  | bootApiIp => exact h.move hb (Or.inl rfl)

end

/-- At the start nothing has been sent. -/
theorem begun_cable {st : List Act} {w : World} (h : Begun st w) : Cable st w.dev.ether := by
  have he := begun_ether h
  obtain ⟨rfl, -⟩ := h
  constructor
  · rw [he]
  · rw [he]
    rfl
  · rw [he]
    unfold RequestFits
    decide
  · intro plen hp
    cases hp
  · exact fun ha => absurd ha.atUpcall (not_atUpcall_of_logs trivial)
  · rw [he]
    intro frame hf
    cases hf

/-- Every configuration from `ether.begin` on. -/
theorem Reach.cable {st : List Act} {w : World} (h : Reach Begun st w) : Cable st w.dev.ether :=
  h.invariant (fun _ _ hi => begun_cable hi) fun _ _ _ _ hr hc hs => hs.cable (hr.wellStacked begun_start) hc

end EtherHouse
