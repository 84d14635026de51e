import EtherHouse.Machine.Simulation
import EtherHouse.Net.Frame

/-!
# Runs and their traces

The runs that the results are about, from power-on and of `loop` alone, each on a list of inputs of any length; and how a trace is
read: what was open at each moment, and what holds of every event and its past.
-/

namespace EtherHouse

open Prog

/-! ## Runs -/

/-- The firmware from power-on, as far as the inputs take it. -/
def run (eeprom flash : Nat → Byte) (tape : List Input) : World := (firmware ⟨powerOn eeprom flash, []⟩ tape).state

/-- `loop` for ever from a given device, as far as the inputs take it. -/
def runLoop (d : Device) (tape : List Input) : World := (mainLoop ⟨d, []⟩ tape).state

/-- Where the machine begins after power-on: the saved record has been read. -/
def PowerUp (st : List Act) (w : World) : Prop :=
  st = [.setup .network] ∧ ∃ eeprom flash : Nat → Byte, w = loadedFrom ⟨powerOn eeprom flash, []⟩

/-- Where it begins between two calls of `loop`. -/
def LoopFrom (d : Device) (st : List Act) (w : World) : Prop := st = [] ∧ w = ⟨d, []⟩

/-- Every run goes through configurations that can be reached from power-on. -/
theorem run_reached (eeprom flash : Nat → Byte) (tape : List Input) : Reached PowerUp (run eeprom flash tape) := by
  have h : Reach PowerUp [.setup .network] (loadedFrom ⟨powerOn eeprom flash, []⟩) := .init ⟨rfl, eeprom, flash, rfl⟩
  exact firmware_reach.state_of h tape (fun _ _ h' => h'.reached) fun _ h' => h'

/-- So does every run of `loop`, from where it starts. -/
theorem runLoop_reached (d : Device) (tape : List Input) : Reached (LoopFrom d) (runLoop d tape) :=
  mainLoop_reach.state_of (.init ⟨rfl, rfl⟩) tape (fun _ _ h => h.reached) fun _ h => h

-- what a run is follows from what is reached; to unfold one is to execute it
attribute [irreducible] run runLoop

/-! ## Traces -/

/-- What a run has noted, the latest first. -/
abbrev Trace : Type := List (Event × Device)

/-- The calls that are open, the innermost first. -/
def openCalls : Trace → List Call
  | [] => []
  | (.enter c, _) :: past => c :: openCalls past
  | (.leave _, _) :: past => (openCalls past).tail
  | _ :: past => openCalls past

/-- The server calls that are open, the innermost first, each with whether the callback it was made with has been called. -/
def openApis : Trace → List (Api × Bool)
  | [] => []
  | (.enter (.api k), _) :: past => (k, false) :: openApis past
  | (.leave (.api _), _) :: past => (openApis past).tail
  | (.parsed cb _ _, _) :: past => (openApis past).modifyHead fun a => (a.1, a.2 || cb == a.1.callback)
  | _ :: past => openApis past

/-- `P` holds of every event, the device at that moment and what came before. -/
def Always (P : Event → Device → Trace → Prop) : Trace → Prop
  | [] => True
  | (ev, d) :: past => P ev d past ∧ Always P past

/-- What always holds, at one event of the trace. -/
theorem Always.of_eq_append {P : Event → Device → Trace → Prop} {tr later past : Trace} {ev : Event} {d : Device}
    (h : Always P tr) (he : tr = later ++ (ev, d) :: past) : P ev d past := by
  subst he
  induction later with
  | nil => exact h.1
  | cons x later ih => exact ih h.2

/-- What always holds may be weakened. -/
theorem Always.mono {P Q : Event → Device → Trace → Prop} {tr : Trace} (h : Always P tr)
    (hpq : ∀ ev d past, P ev d past → Q ev d past) : Always Q tr := by
  induction tr with
  | nil => trivial
  | cons x past ih => exact ⟨hpq x.1 x.2 past h.1, ih h.2⟩

/-- What always holds has held at every earlier moment. -/
theorem Always.of_suffix {P : Event → Device → Trace → Prop} {tr tr' : Trace} (h : Always P tr) (hs : tr' <:+ tr) : Always P tr' := by
  obtain ⟨later, rfl⟩ := hs
  induction later with
  | nil => exact h
  | cons x later ih => exact ih h.2

instance Always.decidable {P : Event → Device → Trace → Prop} [∀ ev d past, Decidable (P ev d past)] :
    (tr : Trace) → Decidable (Always P tr)
  | [] => isTrue trivial
  | (ev, d) :: past =>
    have : Decidable (Always P past) := Always.decidable past
    inferInstanceAs (Decidable (P ev d past ∧ Always P past))

/-- `P` holds of some event, the device at that moment and what came before. -/
def Sometimes (P : Event → Device → Trace → Prop) : Trace → Prop
  | [] => False
  | (ev, d) :: past => P ev d past ∨ Sometimes P past

instance Sometimes.decidable {P : Event → Device → Trace → Prop} [∀ ev d past, Decidable (P ev d past)] :
    (tr : Trace) → Decidable (Sometimes P tr)
  | [] => isFalse id
  | (ev, d) :: past =>
    have : Decidable (Sometimes P past) := Sometimes.decidable past
    inferInstanceAs (Decidable (P ev d past ∨ Sometimes P past))

/-- What holds of every event holds of those that are met. -/
theorem Always.sometimes {P Q : Event → Device → Trace → Prop} {tr : Trace} (h : Always P tr) (hq : Sometimes Q tr) :
    Sometimes (fun ev d past => Q ev d past ∧ P ev d past) tr := by
  induction tr with
  | nil => exact hq
  | cons x past ih =>
    rcases hq with hq | hq
    · exact Or.inl ⟨hq, h.1⟩
    · exact Or.inr (ih h.2 hq)

/-- What sometimes holds may be weakened. -/
theorem Sometimes.mono {P Q : Event → Device → Trace → Prop} {tr : Trace} (h : Sometimes P tr)
    (hpq : ∀ ev d past, P ev d past → Q ev d past) : Sometimes Q tr := by
  induction tr with
  | nil => exact h
  | cons x past ih =>
    rcases h with h | h
    · exact Or.inl (hpq x.1 x.2 past h)
    · exact Or.inr (ih h)

/-! ## Who notes what -/

/-- A configuration's next step notes this event, with this device and after this trace. -/
inductive Notes : List Act → World → Event → Device → Trace → Prop where
  | net {st st' : List Act} {w : World} {ev : Event} {f : Ether → Ether} (h : NetStep st w.dev (some ev) f st') :
      Notes st w ev w.dev w.trace
  | mark {st st' : List Act} {w : World} {ev : Event} (h : MarkStep st w.dev ev st') : Notes st w ev w.dev w.trace
  | received {st : List Act} {w : World} (a : Arrival) : Notes st w (.received a) (w.dev.net (packetReceiveInto a)) w.trace
  | poll {st : List Act} {w : World} (a : Arrival) (h : CanPoll st w.dev) :
      Notes st w (.enter .packetLoop) (w.dev.net (packetReceiveInto a))
        ((.received a, w.dev.net (packetReceiveInto a)) :: w.trace)
  | sniff {plen srcIp : Nat} {w : World} (st : List Act) (hn : w.dev.snifferNested = false)
      (hs : snifferSrcIp plen w.dev.ether = some srcIp) (hm : w.dev.ether.buffer.mac ETH_SRC_MAC ∈ w.dev.sniffers.macs) :
      Notes (.packetLoop plen .offered :: st) w (.enter .sniffer) w.dev w.trace
  | toggleOn {w : World} (srcIp : Nat) (st : List Act) (h : bitRead w.dev.state MY_ID = false) :
      Notes (.sniffer .stamped srcIp :: st) w (.toggled MY_ID true) (setMyHouse true w.dev) w.trace
  | toggleOff {w : World} (st : List Act) (h : bitRead w.dev.state MY_ID = true) :
      Notes (.absence .confirmed :: st) w (.toggled MY_ID false) (setMyHouse false w.dev) w.trace
  | learn {w : World} (srcIp : Nat) (st : List Act) (hl : isIpLocal w.dev.ether (w.dev.ether.buffer.ip srcIp) = true)
      (hne : w.dev.ether.buffer.ip srcIp ≠ w.dev.targetIp) :
      Notes (.sniffer .lit srcIp :: st) w .learned (learnIp srcIp w.dev) w.trace
  | unsniff {w : World} (srcIp : Nat) (st : List Act) :
      Notes (.sniffer .lit srcIp :: st) w (.leave .sniffer) { w.dev with snifferNested := false } w.trace
  | requested {plen : Nat} {url : List Byte} {w : World} (st : List Act)
      (h : (packetLoopReceived plen w.dev.ether).2 = .requested url) :
      Notes (.packetLoop plen .tail :: st) w (.request url) (w.dev.net fun e => (packetLoopReceived plen e).1) w.trace
  | parse {plen : Nat} {u : Upcall} {status : Byte} {off len : Nat} {cb : BrowserCallback} {w : World} (st : List Act)
      (h : wwwClientInternalResultCb w.dev.ether u = some (status, off, len)) (hc : w.dev.ether.tcp.clientBrowserCb = some cb) :
      Notes (.packetLoop plen (.upcall u) :: st) w (.parsed cb status (w.dev.ether.buffer.slice off len)) w.dev w.trace
  | forget {w : World} (st : List Act) : Notes (.absence .forgetting :: st) w .forgot (forgetIp w.dev) w.trace

/-- The trace only grows. -/
theorem Step.trace_suffix {st st' : List Act} {w w' : World} (hs : Step st w st' w') : w.trace <:+ w'.trace := by
  cases hs with
  | @net _ _ _ note f hn =>
    cases note with
    | none => exact List.suffix_rfl
    | some ev => exact List.suffix_cons _ _
  | poll a => exact (List.suffix_cons _ _).trans (List.suffix_cons _ _)
  | tick => exact List.suffix_rfl
  | ctrl => exact List.suffix_rfl
  | timer => exact List.suffix_rfl
  | lock => exact List.suffix_rfl
  | bootApiIp => exact List.suffix_rfl
  | _ => exact List.suffix_cons _ _

/-- The rule for traces: what holds of every event that a reached configuration notes holds of every event. -/
theorem Reach.always {I : List Act → World → Prop} {P : Event → Device → Trace → Prop} {st : List Act} {w : World}
    (h : Reach I st w) (hI : ∀ st w, I st w → Always P w.trace)
    (hP : ∀ st w ev d past, Reach I st w → Notes st w ev d past → P ev d past) : Always P w.trace := by
  induction h with
  | init hi => exact hI _ _ hi
  | @step st st' w w' hr hs ih =>
    have hnote : ∀ {ev d past}, Notes st w ev d past → P ev d past := fun hn => hP _ _ _ _ _ hr hn
    cases hs with
    | tick => exact ih
    | @net _ _ _ note f hn =>
      cases note with
      | none => exact ih
      | some ev => exact ⟨hnote (.net hn), ih⟩
    | ctrl => exact ih
    | mark hm => exact ⟨hnote (.mark hm), ih⟩
    | timer => exact ih
    | poll a hp => exact ⟨hnote (.poll a hp), hnote (.received a), ih⟩
    | receive a => exact ⟨hnote (.received a), ih⟩
    | sniff st hn hs hm => exact ⟨hnote (.sniff st hn hs hm), ih⟩
    | toggleOn srcIp st hb => exact ⟨hnote (.toggleOn srcIp st hb), ih⟩
    | toggleOff st hb => exact ⟨hnote (.toggleOff st hb), ih⟩
    | learn srcIp st hl hne => exact ⟨hnote (.learn srcIp st hl hne), ih⟩
    | unsniff srcIp => exact ⟨hnote (.unsniff srcIp _), ih⟩
    | requested st hq => exact ⟨hnote (.requested st hq), ih⟩
    | parse buf st hr hc => exact ⟨hnote (.parse st hr hc), ih⟩
    | lock => exact ih
    | forget => exact ⟨hnote (.forget _), ih⟩
    | bootApiIp => exact ih

/-! ## The open calls are those on the stack -/

/-- The call that an activation belongs to; the others are parts of the call below. -/
def Act.call : Act → Option Call
  | .setup _ => some .setup
  | .loop => some .loop
  | .absence _ => none
  | .sweep _ _ => some .pingSweep
  | .toggle _ => none
  | .api k _ => some (.api k)
  | .packetLoop _ _ => some .packetLoop
  | .sniffer _ _ => some .sniffer

def calls (st : List Act) : List Call := st.filterMap Act.call

/-- The server call that an activation is, with the place it has reached. -/
def Act.api? : Act → Option (Api × ApiPhase)
  | .api k p => some (k, p)
  | _ => none

def apis (st : List Act) : List (Api × ApiPhase) := st.filterMap Act.api?

/-- Where a server call is made from, no call ends or begins. -/
theorem CallSite.calls {k : Api} {st st' : List Act} (h : CallSite k st st') : calls st' = calls st := by
  cases h <;> rfl

/-- The steps of the library open and close no call. -/
theorem NetStep.calls {st st' : List Act} {d : Device} {note : Option Event} {f : Ether → Ether} (h : NetStep st d note f st') :
    calls st' = calls st := by
  cases h <;> rfl

/-- Nor do they in the trace. -/
theorem NetStep.openCalls {st st' : List Act} {w : World} {note : Option Event} {f : Ether → Ether}
    (h : NetStep st w.dev note f st') : openCalls (w.note note).trace = EtherHouse.openCalls w.trace := by
  cases h <;> rfl

/-- Nor do the steps of the stack. -/
theorem CtrlStep.calls {st st' : List Act} {d : Device} (h : CtrlStep st d st') : EtherHouse.calls st' = EtherHouse.calls st := by
  cases h <;> rfl

/-- Nor do those of a timer. -/
theorem TimerStep.calls {st st' : List Act} {d : Device} {f : Device → Device} (h : TimerStep st d f st') :
    EtherHouse.calls st' = EtherHouse.calls st := by
  cases h <;> rfl

/-- What is noted tells of the calls as the stack has them. -/
theorem MarkStep.openCalls {st st' : List Act} {w : World} {ev : Event} (hs : MarkStep st w.dev ev st')
    (h : openCalls w.trace = EtherHouse.calls st) : EtherHouse.openCalls (w.emit ev).trace = EtherHouse.calls st' := by
  cases hs with
  | abort hc => rw [hc.calls]; exact h
  | enter hc =>
    have hcons : ∀ k past, EtherHouse.openCalls ((.enter (.api k), w.dev) :: past) = .api k :: EtherHouse.openCalls past :=
      fun _ _ => rfl
    rw [emit_trace, hcons, h, ← hc.calls]
    rfl
  | wdtReset => exact h
  | compared => exact h
  | ignored => exact h
  | hooked => exact h
  | leave => simp only [emit_trace, EtherHouse.openCalls, h]; rfl
  | polled => simp only [emit_trace, EtherHouse.openCalls, h]; rfl
  | loopBegin => simp only [emit_trace, EtherHouse.openCalls, h]; rfl
  | loopEnd => simp only [emit_trace, EtherHouse.openCalls, h]; rfl
  | setupEnd => simp only [emit_trace, EtherHouse.openCalls, h]; rfl
  | sweepBegin => simp only [emit_trace, EtherHouse.openCalls, h]; rfl
  | sweepEnd => simp only [emit_trace, EtherHouse.openCalls, h]; rfl
  | lastDitchBegin => simp only [emit_trace, EtherHouse.openCalls, h]; rfl
  | lastDitchEnd => simp only [emit_trace, EtherHouse.openCalls, h]; rfl

/-- The calls that the trace has open are those on the stack, after each step. -/
theorem Step.openCalls {st st' : List Act} {w w' : World} (hs : Step st w st' w')
    (h : EtherHouse.openCalls w.trace = EtherHouse.calls st) : EtherHouse.openCalls w'.trace = EtherHouse.calls st' := by
  cases hs with
  | tick => exact h
  | net hn => rw [hn.calls, update_trace, hn.openCalls]; exact h
  | ctrl hc => rw [hc.calls]; exact h
  | mark hm => exact hm.openCalls h
  | timer ht => rw [ht.calls]; exact h
  | poll => simp only [emit_trace, update_trace, EtherHouse.openCalls, h]; rfl
  | receive => exact h
  | sniff => simp only [emit_trace, update_trace, EtherHouse.openCalls, h]; rfl
  | toggleOn => exact h
  | toggleOff => exact h
  | learn => exact h
  | unsniff => simp only [emit_trace, update_trace, EtherHouse.openCalls, h]; rfl
  | requested => exact h
  | parse => exact h
  | lock => exact h
  | forget => exact h
  | bootApiIp => exact h

/-! ## What the steps leave alone -/

/-- The callback that the library would call is held. -/
theorem clientBrowserCb_of_held {e e' : Ether} (h : e'.held = e.held) : e'.tcp.clientBrowserCb = e.tcp.clientBrowserCb := by
  have ht : e'.tcp.atRest = e.tcp.atRest := congrArg (·.2.2) h
  have hc := congrArg TcpClient.clientBrowserCb ht
  exact hc

/-- The library's steps keep what is held and the server calls on the stack, except for a new request. -/
theorem NetStep.held {st st' : List Act} {d : Device} {note : Option Event} {f : Ether → Ether} (h : NetStep st d note f st') :
    ((f d.ether).held = d.ether.held ∧ apis st' = apis st) ∨ ∃ k rest, st = .api k .calling :: rest ∧
      st' = .api k .armed :: rest ∧ note = none ∧ f = EtherHouse.browse k d.apiIp := by
  cases h with
  | log msg => exact Or.inl ⟨held_of_statics (statics_sendUdp _ _ _ _ _ _), rfl⟩
  | ret _ _ => exact Or.inl ⟨held_packetLoopReceived _ _, rfl⟩
  | upcall _ _ _ _ => exact Or.inl ⟨held_packetLoopReceived _ _, rfl⟩
  | close plen u => exact Or.inl ⟨held_packetLoopAfter _ _, rfl⟩
  | browse k st => exact Or.inr ⟨k, st, rfl, rfl, rfl, rfl⟩
  | dhcp plen t₁ t₂ => exact Or.inl ⟨held_dhcpStateMachine _ _ _ _, rfl⟩
  | idle up => exact Or.inl ⟨held_packetLoopIdle _ _, rfl⟩
  | probe => exact Or.inl ⟨held_selectDestAddr _ _, rfl⟩
  | ping => exact Or.inl ⟨held_forceDestMac _ _, rfl⟩
  | icmp => exact Or.inl ⟨held_of_statics (statics_clientIcmpRequest _ _), rfl⟩
  | boot hf =>
    refine Or.inl ⟨?_, rfl⟩
    cases hf with
    | begin => rfl
    | dhcpBegin => rfl
    | dhcp t₁ t₂ len => exact held_dhcpStateMachine _ _ _ _
    | dhcpEnd => rfl
    | noHisip => rfl
    | dnsRequest name => exact held_dnsRequest _ _
    | dnsAnswer len => exact held_checkForDnsAnswer _ _

end EtherHouse
