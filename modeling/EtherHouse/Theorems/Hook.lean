import EtherHouse.Machine.Discipline
import EtherHouse.Machine.Traffic

/-!
# The sniffer's hook and the shared buffer

One buffer holds what is received and what is sent. The hook hands the sniffer's callback a pointer into it, and the packet loop goes
on with what the callback leaves there. Here: which frame each open packet loop was given, what can overwrite it before the loop
classifies it, and that nothing else does.
-/

namespace EtherHouse

/-! ## The frames that the open packet loops were given -/

/-- The bytes that `packetReceive` reads. -/
def delivered : Arrival → List Byte
  | .frame bytes => bytes.take (packetReceiveLen (.frame bytes))
  | _ => []

/-- What was received last. -/
def lastFrame : Trace → List Byte
  | [] => []
  | (.received a, _) :: _ => delivered a
  | _ :: past => lastFrame past

/-- Does the DHCP client send a message in its turn? -/
def dhcpSends (t₁ : Long) (len : Nat) (e : Ether) : Bool :=
  match e.dhcp.dhcpState with
  | .bound => t₁ ≥ e.dhcp.leaseStart + e.dhcp.leaseTime
  | .init => true
  | .selecting => dhcpReceivedMessageType len DHCP_OFFER e
  | .requesting => false
  | .renewing => false

/-- The open packet loops, the innermost first: the frame each was given, and whether that is undisturbed, which it is as long as the
DHCP client sends nothing and the sniffer's callback starts with the house on or the lock taken. -/
def openLoops : Trace → List (List Byte × Bool)
  | [] => []
  | (.enter .packetLoop, _) :: past => (lastFrame past, true) :: openLoops past
  | (.leave .packetLoop, _) :: past => (openLoops past).tail
  | (.dhcpTurn now, d) :: past =>
    (openLoops past).modifyHead fun l => (l.1, l.2 && !dhcpSends now l.1.length d.ether)
  | (.enter .sniffer, d) :: past =>
    (openLoops past).modifyHead fun l => (l.1, l.2 && (bitRead d.state MY_ID || d.locked))
  | _ :: past => openLoops past

/-- The innermost packet loop's frame is undisturbed. -/
def Undisturbed (past : Trace) : Prop := (openLoops past).head?.map (·.2) = some true

instance (past : Trace) : Decidable (Undisturbed past) := inferInstanceAs (Decidable (_ = _))

/-! ## What the buffer holds -/

/-- As many bytes are delivered as `packetReceive` says. -/
theorem length_delivered (a : Arrival) : (delivered a).length = packetReceiveLen a := by
  cases a with
  | nothing => rfl
  | damaged => rfl
  | frame bytes =>
    simp only [delivered, packetReceiveLen, List.length_take]
    split <;> omega

/-- A received frame is in the buffer. -/
theorem slice_packetReceiveInto (a : Arrival) (e : Ether) :
    (packetReceiveInto a e).buffer.slice 0 (delivered a).length = delivered a := by
  cases a with
  | nothing => rfl
  | damaged => rfl
  | frame bytes =>
    have hlen : (bytes.take (packetReceiveLen (.frame bytes))).length = packetReceiveLen (.frame bytes) :=
      length_delivered (.frame bytes)
    have hsize : packetReceiveLen (.frame bytes) < BUFFER_SIZE := by
      have hpos : 0 < BUFFER_SIZE := by decide
      simp only [packetReceiveLen]
      split <;> omega
    refine List.ext_getElem? fun i => ?_
    by_cases hi : i < packetReceiveLen (.frame bytes)
    · rw [length_delivered, Buffer.getElem?_slice _ _ hi, Nat.zero_add]
      -- the terminating zero lies behind the frame
      have hz : (packetReceiveInto (.frame bytes) e).buffer.get i =
          (e.buffer.write 0 (bytes.take (packetReceiveLen (.frame bytes)))).get i :=
        Buffer.get_write_of_not_mem (Or.inl hi)
      rw [hz, Buffer.get_write, if_pos ⟨Nat.zero_le _, by omega, by omega⟩, Nat.sub_zero, delivered,
        List.getD_eq_getElem?_getD, List.getElem?_eq_getElem (by omega), Option.getD_some]
    · rw [List.getElem?_eq_none (by simp [length_delivered]; omega),
        List.getElem?_eq_none (by rw [length_delivered]; omega)]

/-- The buffer's bytes are the frame's, where it holds the frame. -/
theorem gPB_of_slice {e : Ether} {frame : List Byte} (h : e.buffer.slice 0 frame.length = frame) {i : Nat}
    (hi : i < frame.length) : e.gPB i = frame.getD i 0 := by
  have hs := e.buffer.getElem?_slice 0 hi
  rw [h, Nat.zero_add] at hs
  rw [List.getD_eq_getElem?_getD, hs, Option.getD_some, Ether.gPB]

/-- The place that the hook passes on holds the frame's source address, as long as the buffer holds the frame. -/
theorem ip_of_snifferSrcIp {e : Ether} {frame : List Byte} {srcIp : Nat} (h : e.buffer.slice 0 frame.length = frame)
    (hs : snifferSrcIp frame.length e = some srcIp) : e.buffer.ip srcIp = sourceAddress frame := by
  have haddr : ∀ pos, pos + 3 < frame.length → e.buffer.ip pos = addressAt frame pos := by
    intro pos hpos
    have hget : ∀ i < frame.length, e.buffer.get i = frame.getD i 0 := fun i hi => gPB_of_slice h hi
    unfold Buffer.ip addressAt
    rw [hget _ (by omega), hget _ (by omega), hget _ (by omega), hget _ (by omega)]
  unfold snifferSrcIp at hs
  by_cases hshort : frame.length < ETH_HEADER_LEN
  · rw [if_pos hshort] at hs
    cases hs
  rw [if_neg hshort] at hs
  have h12 : ETH_TYPE_H_P < frame.length := by unfold ETH_TYPE_H_P; unfold ETH_HEADER_LEN at hshort; omega
  have h13 : ETH_TYPE_L_P < frame.length := by unfold ETH_TYPE_L_P; unfold ETH_HEADER_LEN at hshort; omega
  rw [gPB_of_slice h h12, gPB_of_slice h h13] at hs
  unfold sourceAddress
  by_cases harp : frame.getD ETH_TYPE_H_P 0 = ETHTYPE_ARP_H_V ∧ frame.getD ETH_TYPE_L_P 0 = ETHTYPE_ARP_L_V
  · rw [if_pos harp] at hs ⊢
    split at hs
    · cases hs
    split at hs
    · cases hs
    · next hlen _ =>
      cases hs
      unfold ETH_ARP_DST_MAC_P at hlen
      exact haddr _ (by unfold ETH_ARP_SRC_IP_P; omega)
  · rw [if_neg harp] at hs ⊢
    split at hs
    · split at hs
      · cases hs
      · next hlen =>
        cases hs
        unfold IP_DST_P at hlen
        exact haddr _ (by unfold IP_SRC_P; omega)
    · cases hs

theorem buffer_enterDhcpState (s : DhcpState) (t : Option Long) (e : Ether) : (enterDhcpState s t e).buffer = e.buffer := rfl

/-- A turn of the DHCP client that sends nothing leaves the buffer alone. -/
theorem buffer_dhcpStateMachine {t₁ : Long} {len : Nat} {e : Ether} (h : dhcpSends t₁ len e = false) (t₂ : Long) :
    (dhcpStateMachine t₁ t₂ len e).buffer = e.buffer := by
  have hack : ∀ e : Ether, (let e := { e with dhcp := { e.dhcp with leaseStart := t₁ } }
      let e := if e.cfg.gwip.get 0 ≠ 0 then setGwIp e.cfg.gwip e else e
      enterDhcpState .bound none e).buffer = e.buffer := by
    intro e
    simp only [buffer_enterDhcpState]
    split <;> rfl
  unfold dhcpSends at h
  unfold dhcpStateMachine
  split
  · next hs =>
    rw [hs] at h
    simp only at h
    rw [if_neg (by simpa using h)]
  · next hs =>
    rw [hs] at h
    cases h
  · next hs =>
    rw [hs] at h
    simp only at h
    rw [if_neg (by rw [h]; nofun)]
    split <;> rfl
  · split
    · exact hack e
    · split <;> rfl
  · split
    · exact hack e
    · split <;> rfl

/-! ## The loops on the stack -/

/-- The packet loops on a stack: the length of each one's frame, and whether a server call stands on the callback above it. The first
argument says whether one stands above the stack. -/
def loopsOf : Bool → List Act → List (Nat × Bool)
  | _, [] => []
  | called, .packetLoop plen _ :: st => (plen, called) :: loopsOf false st
  | _, .api _ _ :: st => loopsOf true st
  | called, _ :: st => loopsOf called st

/-- A packet loop on the stack and the same in the trace. -/
def Told (a : Nat × Bool) (b : List Byte × Bool) : Prop := b.1.length = a.1 ∧ (a.2 = true → b.2 = false)

/-- What an undisturbed frame says of the device: up to the classification the buffer holds it; the callback, and `toggle_house` on it,
have the place of its source address and will not call the server. -/
def Holds (st : List Act) (d : Device) (frame : List Byte) : Prop :=
  match st with
  | .packetLoop _ .dhcp :: _ => d.ether.buffer.slice 0 frame.length = frame
  | .packetLoop _ .offered :: _ => d.ether.buffer.slice 0 frame.length = frame
  | .packetLoop _ .hook :: _ => d.ether.buffer.slice 0 frame.length = frame
  | .packetLoop _ .tail :: _ => d.ether.buffer.slice 0 frame.length = frame
  | .sniffer p srcIp :: _ =>
    d.ether.buffer.slice 0 frame.length = frame ∧ snifferSrcIp frame.length d.ether = some srcIp ∧
      (p ≠ .lit → bitRead d.state MY_ID = true ∨ d.locked = true)
  | .toggle _ :: .sniffer _ srcIp :: _ =>
    d.ether.buffer.slice 0 frame.length = frame ∧ snifferSrcIp frame.length d.ether = some srcIp ∧ d.locked = true
  | _ => True

/-- The trace tells the packet loops on the stack, and what is undisturbed is held. -/
structure Intact (st : List Act) (w : World) : Prop where
  told : List.Forall₂ Told (loopsOf false st) (openLoops w.trace)
  holds : ∀ frame rest, openLoops w.trace = (frame, true) :: rest → Holds st w.dev frame

/-- Whether the frame is held depends on the library, the house's bit and the lock. -/
theorem Holds.congr {st : List Act} {d d' : Device} {frame : List Byte} (h : Holds st d frame) (he : d'.ether = d.ether)
    (hs : d'.state = d.state) (hl : d'.locked = d.locked) : Holds st d' frame := by
  unfold Holds at h ⊢
  rw [he, hs, hl]
  exact h

/-- What logs has no frame to hold. -/
theorem holds_of_logs {st : List Act} (h : Logs st) (d : Device) (frame : List Byte) : Holds st d frame := by
  unfold Holds
  split <;> first | exact h.elim | trivial

/-- A step that changes neither the trace's loops nor the stack's, and ends where nothing is held. -/
theorem Intact.move {st st' : List Act} {w w' : World} (h : Intact st w) (hloops : loopsOf false st' = loopsOf false st)
    (ht : openLoops w'.trace = openLoops w.trace) (hh : ∀ frame rest, openLoops w.trace = (frame, true) :: rest →
      Holds st w.dev frame → Holds st' w'.dev frame) : Intact st' w' where
  told := by rw [hloops, ht]; exact h.told
  holds := fun frame rest he => by
    rw [ht] at he
    exact hh frame rest he (h.holds frame rest he)

/-- A step of the library that ends where nothing is held, noted or not. -/
theorem Intact.net {st st' : List Act} {w : World} (h : Intact st w) (hloops : loopsOf false st' = loopsOf false st)
    {note : Option Event} (ht : openLoops (w.note note).trace = openLoops w.trace) {f : Ether → Ether}
    (hh : ∀ d frame, Holds st' d frame) : Intact st' ((w.note note).update (Device.net f)) :=
  h.move hloops ht fun frame _ _ _ => hh _ frame

/-- Below a server call on the lowest level there is no packet loop. -/
theorem Site.loopsOf {k : Api} {st : List Act} (h : Site k st) (called : Bool) : loopsOf called st = [] := by
  cases h <;> rfl

/-- The DHCP client's turn: if it sends nothing the frame is left alone. -/
theorem Intact.dhcp {plen : Nat} {st : List Act} {w : World} (h : Intact (.packetLoop plen .dhcp :: st) w) (t₁ t₂ : Long) :
    Intact (.packetLoop plen .offered :: st) ((w.emit (.dhcpTurn t₁)).update (Device.net (dhcpStateMachine t₁ t₂ plen))) := by
  have htold : List.Forall₂ Told ((plen, false) :: loopsOf false st) (openLoops w.trace) := h.told
  have hholds := h.holds
  constructor
  · simp only [update_trace, emit_trace, openLoops]
    change List.Forall₂ Told ((plen, false) :: loopsOf false st) _
    generalize openLoops w.trace = ls at htold ⊢
    cases htold with
    | cons hb hrest => exact .cons ⟨hb.1, nofun⟩ hrest
  · intro frame rest he
    simp only [update_trace, emit_trace, openLoops] at he
    generalize openLoops w.trace = ls at htold hholds he
    cases htold with
    | @cons _ b _ ls hb hrest =>
      obtain ⟨b, ok⟩ := b
      simp only [List.modifyHead_cons, List.cons.injEq, Prod.mk.injEq, Bool.and_eq_true, Bool.not_eq_true'] at he
      obtain ⟨⟨rfl, rfl, hsends⟩, rfl⟩ := he
      have hlen : b.length = plen := hb.1
      have hslice : w.dev.ether.buffer.slice 0 b.length = b := hholds b _ rfl
      change (dhcpStateMachine t₁ t₂ plen w.dev.ether).buffer.slice 0 b.length = b
      rw [buffer_dhcpStateMachine (hlen ▸ hsends) t₂]
      exact hslice

/-- The steps of the library keep the frame, or the trace says so. -/
theorem NetStep.intact {st st' : List Act} {w : World} {note : Option Event} {f : Ether → Ether} (hs : NetStep st w.dev note f st')
    (h : Intact st w) : Intact st' ((w.note note).update (Device.net f)) := by
  cases hs with
  | log msg d hl => exact h.net rfl rfl (holds_of_logs hl)
  | dhcp plen t₁ t₂ st => exact h.dhcp t₁ t₂
  -- the others end where nothing is held
  | _ => exact h.net (by rfl) (by rfl) fun _ _ => trivial

/-- The steps of the stack keep it. -/
theorem CtrlStep.intact {st st' : List Act} {w : World} (hs : CtrlStep st w.dev st') (h : Intact st w) : Intact st' w := by
  cases hs with
  | noDhcp => exact h.move rfl rfl fun _ _ _ hh => hh
  | unheard => exact h.move rfl rfl fun _ _ _ hh => hh
  | noParse => exact h.move rfl rfl fun _ _ _ _ => trivial
  | alight => exact h.move rfl rfl fun _ _ _ hh => ⟨hh.1, hh.2.1, fun hp => absurd rfl hp⟩
  | drained => exact h.move rfl rfl fun _ _ _ _ => trivial
  | skip => exact h.move rfl rfl fun _ _ _ _ => trivial
  | absent => exact h.move rfl rfl fun _ _ _ _ => trivial
  | confirmed => exact h.move rfl rfl fun _ _ _ _ => trivial
  | present => exact h.move rfl rfl fun _ _ _ _ => trivial

/-- A server call begins: if it stands on the callback, the frame below is disturbed already, for the lock is free. -/
theorem Intact.enter {k : Api} {st st' : List Act} {w : World} (h : Intact st w) (hc : CallSite k st st')
    (hh : Home k st' w.dev.snifferNested) (hl : w.dev.locked = false) : Intact (.api k .calling :: st') (w.emit (.enter (.api k))) := by
  refine ⟨?_, fun _ _ _ => trivial⟩
  change List.Forall₂ Told (EtherHouse.loopsOf true st') (openLoops w.trace)
  have htold := h.told
  have hholds := h.holds
  generalize w.dev.snifferNested = n at hh
  cases hh with
  | outer hs =>
    have hst : EtherHouse.loopsOf false st = EtherHouse.loopsOf false st' := by cases hc <;> rfl
    rw [hst, hs.loopsOf] at htold
    rw [hs.loopsOf]
    exact htold
  | inner plen srcIp ho =>
    cases hc with
    | on st =>
      change List.Forall₂ Told ((plen, false) :: EtherHouse.loopsOf false _) _ at htold
      generalize openLoops w.trace = ls at htold hholds ⊢
      cases htold with
      | @cons _ b _ ls hb hrest =>
        refine .cons ⟨hb.1, fun _ => ?_⟩ hrest
        obtain ⟨frame, ok⟩ := b
        cases ok with
        | false => rfl
        | true =>
          obtain ⟨_, _, hlocked⟩ := hholds frame ls rfl
          rw [hl] at hlocked
          cases hlocked

/-- A server call returns: to where nothing is held, or to the callback, whose frame is disturbed. -/
theorem Intact.leave {k : Api} {st : List Act} {w : World} {n : Bool} (h : Intact (.api k .draining :: st) w) (hh : Home k st n) :
    Intact st (w.emit (.leave (.api k))) := by
  have htold : List.Forall₂ Told (EtherHouse.loopsOf true st) (openLoops w.trace) := h.told
  cases hh with
  | outer hs =>
    refine ⟨?_, fun frame rest he => ?_⟩
    · rw [hs.loopsOf] at htold ⊢
      exact htold
    · cases hs <;> trivial
  | inner plen srcIp ho =>
    change List.Forall₂ Told ((plen, true) :: EtherHouse.loopsOf false _) _ at htold
    refine ⟨?_, fun frame rest he => ?_⟩
    · change List.Forall₂ Told ((plen, false) :: EtherHouse.loopsOf false _) (openLoops w.trace)
      generalize openLoops w.trace = ls at htold ⊢
      cases htold with
      | cons hb hrest => exact .cons ⟨hb.1, nofun⟩ hrest
    · change openLoops w.trace = _ at he
      rw [he] at htold
      cases htold with
      | cons hb hrest => cases hb.2 rfl

/-- A packet loop returns to an activation that polls, where nothing is held. -/
theorem Intact.polled {plen : Nat} {st : List Act} {w : World} (h : Intact (.packetLoop plen .fin :: st) w)
    (hw : WellStacked (.packetLoop plen .fin :: st) w) : Intact st (w.emit (.leave .packetLoop)) := by
  have htold : List.Forall₂ Told ((plen, false) :: EtherHouse.loopsOf false st) (openLoops w.trace) := h.told
  refine ⟨?_, fun frame rest _ => ?_⟩
  · simp only [emit_trace, openLoops]
    generalize openLoops w.trace = ls at htold ⊢
    cases htold with
    | cons _ hrest => exact hrest
  · unfold WellStacked at hw
    generalize w.dev.locked = l, w.dev.snifferNested = n at hw
    cases hw with
    | calm hc => cases hc with
      | outer ho => cases ho
    | pollCalm hc => cases hc with
      | outer ho => cases ho <;> trivial
      | inner hh => trivial
    | pollWaiting => trivial
    | closed => trivial

/-- What is noted keeps it. -/
theorem MarkStep.intact {st st' : List Act} {w : World} {ev : Event} (hs : MarkStep st w.dev ev st') (hw : WellStacked st w)
    (h : Intact st w) : Intact st' (w.emit ev) := by
  cases hs with
  | wdtReset => exact h.move rfl rfl fun _ _ _ hh => hh
  | compared => exact h.move rfl rfl fun _ _ _ hh => hh
  | ignored => exact h.move rfl rfl fun _ _ _ hh => hh
  | hooked => exact h.move rfl rfl fun _ _ _ hh => hh
  | abort hc hl =>
    have hd : Disciplined _ w.dev.locked w.dev.snifferNested := hw
    obtain ⟨rfl, _⟩ := (hc.disciplined hd).2 hl
    cases hc with
    | on =>
      rw [hl] at hd
      generalize w.dev.snifferNested = n at hd
      cases hd with
      | toggleOn hs srcIp => exact h.move rfl rfl fun _ _ _ hh => ⟨hh.1, hh.2.1, fun hp => absurd rfl hp⟩
  | enter hc hl => exact h.enter hc ((hc.disciplined hw).1 hl) hl
  | leave k => exact h.leave hw.home.1
  | polled => exact h.polled hw
  | loopBegin => exact h.move rfl rfl fun _ _ _ _ => trivial
  | loopEnd => exact h.move rfl rfl fun _ _ _ _ => trivial
  | setupEnd => exact h.move rfl rfl fun _ _ _ _ => trivial
  | sweepBegin => exact h.move rfl rfl fun _ _ _ _ => trivial
  | sweepEnd => exact h.move rfl rfl fun _ _ _ _ => trivial
  | lastDitchBegin => exact h.move rfl rfl fun _ _ _ _ => trivial
  | lastDitchEnd => exact h.move rfl rfl fun _ _ _ _ => trivial

/-- A frame is received, and a packet loop begins on it. -/
theorem Intact.poll {st : List Act} {w : World} (h : Intact st w) (a : Arrival) : Intact (.packetLoop (packetReceiveLen a) .dhcp :: st)
    (((w.update (Device.net (packetReceiveInto a))).emit (.received a)).emit (.enter .packetLoop)) where
  told := .cons ⟨length_delivered a, nofun⟩ h.told
  holds := fun frame rest he => by
    cases he
    exact slice_packetReceiveInto a w.dev.ether

/-- The callback begins: if the house is on or the lock taken the frame is left alone. -/
theorem Intact.sniff {plen srcIp : Nat} {st : List Act} {w : World} (h : Intact (.packetLoop plen .offered :: st) w)
    (hs : snifferSrcIp plen w.dev.ether = some srcIp) : Intact (.sniffer .fresh srcIp :: .packetLoop plen .hook :: st)
      ((w.emit (.enter .sniffer)).update fun d => { d with snifferNested := true }) := by
  have htold : List.Forall₂ Told ((plen, false) :: loopsOf false st) (openLoops w.trace) := h.told
  have hholds := h.holds
  constructor
  · simp only [update_trace, emit_trace, openLoops]
    change List.Forall₂ Told ((plen, false) :: loopsOf false st) _
    generalize openLoops w.trace = ls at htold ⊢
    cases htold with
    | cons hb hrest => exact .cons ⟨hb.1, nofun⟩ hrest
  · intro frame rest he
    simp only [update_trace, emit_trace, openLoops] at he
    generalize openLoops w.trace = ls at htold hholds he
    cases htold with
    | @cons _ b _ ls hb hrest =>
      obtain ⟨b, ok⟩ := b
      simp only [List.modifyHead_cons, List.cons.injEq, Prod.mk.injEq, Bool.and_eq_true, Bool.or_eq_true] at he
      obtain ⟨⟨rfl, rfl, hcalm⟩, rfl⟩ := he
      have hlen : b.length = plen := hb.1
      exact ⟨hholds b _ rfl, hlen ▸ hs, fun _ => hcalm⟩

/-- Each step keeps it. -/
theorem Step.intact {st st' : List Act} {w w' : World} (hs : Step st w st' w') (hw : WellStacked st w) (h : Intact st w) :
    Intact st' w' := by
  cases hs with
  | tick => exact h.move rfl rfl fun _ _ _ hh => hh.congr rfl rfl rfl
  | net hn => exact hn.intact h
  | ctrl hc => exact hc.intact h
  | mark hm => exact hm.intact hw h
  | timer ht => cases ht with
    | stamp => exact h.move rfl rfl fun _ _ _ hh => ⟨hh.1, hh.2.1, fun _ => hh.2.2 nofun⟩
    | _ => exact h.move rfl rfl fun _ _ _ hh => hh
  | poll a => exact h.poll a
  | receive => exact h.move rfl rfl fun _ _ _ _ => trivial
  | sniff st hn hs => exact h.sniff hs
  | toggleOn srcIp st hb =>
    refine h.move rfl rfl fun frame rest he hh => ?_
    obtain ⟨hslice, hsrc, hcalm⟩ := hh
    refine ⟨hslice, hsrc, ?_⟩
    rcases hcalm nofun with hbit | hl
    · rw [hb] at hbit
      cases hbit
    · exact hl
  | toggleOff => exact h.move rfl rfl fun _ _ _ _ => trivial
  | learn => exact h.move rfl rfl fun _ _ _ hh => hh
  | unsniff srcIp st =>
    obtain ⟨hs, _⟩ := hw.sniffed
    generalize w.dev.locked = l at hs
    cases hs <;> exact h.move rfl rfl fun _ _ _ hh => hh.1
  | requested => exact h.move rfl rfl fun _ _ _ _ => trivial
  | parse => exact h.move rfl rfl fun _ _ _ _ => trivial
  | lock => exact h.move rfl rfl fun _ _ _ _ => trivial
  | forget =>
    obtain ⟨rfl, _⟩ := hw.absence_flags
    exact h.move rfl rfl fun _ _ _ _ => trivial
  | bootApiIp => exact h.move rfl rfl fun _ _ _ _ => trivial

/-- So the trace tells what the buffer holds, wherever a run has got. -/
theorem Reach.intact {st : List Act} {w : World} (h : Reach PowerUp st w) : Intact st w := by
  refine h.invariant (fun st w hi => ?_) fun st w st' w' hr ha hs => hs.intact (hr.wellStacked powerUp_start) ha
  obtain ⟨rfl, eeprom, flash, rfl⟩ := hi
  exact ⟨.nil, nofun⟩

/-! ## Transparency and provenance -/

/-- What a packet loop classifies is the frame it was given. -/
def Transparent (ev : Event) (d : Device) (past : Trace) : Prop :=
  ∀ plen, ev = .classify plen → (openLoops past).head?.map (·.1) = some (d.ether.buffer.slice 0 plen)

instance (ev : Event) (d : Device) (past : Trace) : Decidable (Transparent ev d past) :=
  match ev with
  | .classify plen =>
    decidable_of_iff ((openLoops past).head?.map (·.1) = some (d.ether.buffer.slice 0 plen))
      ⟨fun h _ he => Event.classify.inj he ▸ h, fun h => h plen rfl⟩
  | .enter _ | .leave _ | .aborted _ | .ignored | .received _ | .dhcpTurn _ | .idle _ | .request _ | .parsed .. | .toggled ..
  | .learned | .forgot | .loaded | .probe _ | .pinged | .compared .. | .wdtReset => isTrue nofun

/-- An address that is stored is the source address of the frame that the packet loop was given. -/
def Provenance (ev : Event) (d : Device) (past : Trace) : Prop :=
  ev = .learned → (openLoops past).head?.map (fun l => sourceAddress l.1) = some d.targetIp

instance (ev : Event) (d : Device) (past : Trace) : Decidable (Provenance ev d past) :=
  inferInstanceAs (Decidable (ev = .learned → (openLoops past).head?.map (fun l => sourceAddress l.1) = some d.targetIp))

/-- What an undisturbed frame says, where the innermost packet loop is on the stack. -/
theorem Intact.undisturbed {plen : Nat} {st : List Act} {loops : List (Nat × Bool)} {w : World} (h : Intact st w)
    (hst : loopsOf false st = (plen, false) :: loops) (hu : Undisturbed w.trace) :
    ∃ frame rest, openLoops w.trace = (frame, true) :: rest ∧ frame.length = plen ∧ Holds st w.dev frame := by
  have htold := h.told
  have hholds := h.holds
  rw [hst] at htold
  unfold Undisturbed at hu
  generalize openLoops w.trace = ls at htold hholds hu
  cases htold with
  | @cons _ b _ ls hb hrest =>
    obtain ⟨b, ok⟩ := b
    simp only [List.head?_cons, Option.map_some, Option.some.injEq] at hu
    subst hu
    exact ⟨b, ls, rfl, hb.1, hholds b ls rfl⟩

/-- The classification. -/
theorem Intact.transparent {plen : Nat} {st : List Act} {w : World} (h : Intact (.packetLoop plen .hook :: st) w)
    (hu : Undisturbed w.trace) : Transparent (.classify plen) w.dev w.trace := by
  rintro _ ⟨⟩
  obtain ⟨frame, rest, he, hlen, hslice⟩ := h.undisturbed rfl hu
  change w.dev.ether.buffer.slice 0 frame.length = frame at hslice
  rw [he, ← hlen, hslice]
  rfl

/-- The callback stores an address. -/
theorem Intact.provenance {srcIp : Nat} {st : List Act} {l : Bool} {w : World} (h : Intact (.sniffer .lit srcIp :: st) w)
    (hs : Sniffed st l) (hu : Undisturbed w.trace) : Provenance .learned (learnIp srcIp w.dev) w.trace := by
  intro _
  have hloops : ∃ plen loops, loopsOf false (.sniffer .lit srcIp :: st) = (plen, false) :: loops := by
    cases hs with
    | calm plen ho => exact ⟨plen, _, rfl⟩
    | waiting plen hs => exact ⟨plen, _, rfl⟩
  obtain ⟨plen, loops, hst⟩ := hloops
  obtain ⟨frame, rest, he, _, hslice, hsrc, _⟩ := h.undisturbed hst hu
  rw [he, learnIp, saveStateToEeprom_targetIp, ip_of_snifferSrcIp hslice hsrc]
  rfl

/-- What holds of every event. -/
structure Kept (ev : Event) (d : Device) (past : Trace) : Prop where
  transparent : Undisturbed past → Transparent ev d past
  provenance : Undisturbed past → Provenance ev d past

/-- Of an event that classifies nothing and stores no address there is nothing to show. -/
theorem kept_of {ev : Event} (hc : ∀ plen, ev ≠ .classify plen) (hl : ev ≠ .learned) {d : Device} {past : Trace} :
    Kept ev d past where
  transparent := fun _ plen he => absurd he (hc plen)
  provenance := fun _ he => absurd he hl

/-- With each step, what is classified undisturbed is the frame. -/
theorem Step.kept {st st' : List Act} {w w' : World} (hs : Step st w st' w') (hw : WellStacked st w) (h : Intact st w)
    (ha : Always Kept w.trace) : Always Kept w'.trace := by
  cases hs with
  | tick => exact ha
  | net hn =>
    cases hn with
    | dhcp => exact ⟨kept_of (by nofun) (by nofun), ha⟩
    | idle => exact ⟨kept_of (by nofun) (by nofun), ha⟩
    | probe => exact ⟨kept_of (by nofun) (by nofun), ha⟩
    | ping => exact ⟨kept_of (by nofun) (by nofun), ha⟩
    | _ => exact ha
  | ctrl => exact ha
  | mark hm =>
    refine ⟨?_, ha⟩
    cases hm with
    | hooked st hz => exact ⟨h.transparent, nofun⟩
    | _ => exact kept_of (by nofun) (by nofun)
  | timer => exact ha
  | poll => exact ⟨kept_of (by nofun) (by nofun), kept_of (by nofun) (by nofun), ha⟩
  | receive => exact ⟨kept_of (by nofun) (by nofun), ha⟩
  | sniff => exact ⟨kept_of (by nofun) (by nofun), ha⟩
  | toggleOn => exact ⟨kept_of (by nofun) (by nofun), ha⟩
  | toggleOff => exact ⟨kept_of (by nofun) (by nofun), ha⟩
  | learn => exact ⟨⟨nofun, h.provenance hw.sniffed.1⟩, ha⟩
  | unsniff => exact ⟨kept_of (by nofun) (by nofun), ha⟩
  | requested => exact ⟨kept_of (by nofun) (by nofun), ha⟩
  | parse => exact ⟨kept_of (by nofun) (by nofun), ha⟩
  | lock => exact ha
  | forget => exact ⟨kept_of (by nofun) (by nofun), ha⟩
  | bootApiIp => exact ha

/-- So it has been in every run. -/
theorem Reach.kept {st : List Act} {w : World} (h : Reach PowerUp st w) : Always Kept w.trace := by
  refine h.invariant (fun st w hi => ?_) fun st w st' w' hr ha hs => hs.kept (hr.wellStacked powerUp_start) hr.intact ha
  obtain ⟨rfl, eeprom, flash, rfl⟩ := hi
  exact ⟨kept_of (by nofun) (by nofun), kept_of (by nofun) (by nofun), kept_of (by nofun) (by nofun), trivial⟩

/-- In every run: where the DHCP client has sent nothing in the packet loop's call, and the sniffer's callback, if it ran, started with
the house on or the lock taken, the bytes that are classified are the frame received for that call. -/
theorem hook_transparent (eeprom flash : Nat → Byte) (tape : List Input) :
    Always (fun ev d past => Undisturbed past → Transparent ev d past) (run eeprom flash tape).trace := by
  obtain ⟨st, hr⟩ := run_reached eeprom flash tape
  exact hr.kept.mono fun _ _ _ hk => hk.transparent

/-- A boot with the house on, and the phone sends a datagram: the callback stores its address. -/
def litSighting : List Input := bootWith 0x01 ++ framePoll phoneDatagram ++ silence 7

set_option maxRecDepth 10000 in
/-- The phone's datagram is classified as it was received, after the callback has stored the phone's address. -/
theorem hook_transparent_lit :
    Sometimes (fun ev d past => ev = .classify phoneDatagram.length ∧ Event.learned ∈ past.map Prod.fst ∧ Undisturbed past ∧
      Transparent ev d past) (run blank blank litSighting).trace := by
  have hmet : Sometimes (fun ev _ past => ev = .classify phoneDatagram.length ∧ Event.learned ∈ past.map Prod.fst ∧ Undisturbed past)
      (run blank blank litSighting).trace := by decide +kernel
  refine ((hook_transparent blank blank litSighting).sometimes hmet).mono fun ev d past h => ?_
  obtain ⟨⟨hev, hlearned, hu⟩, ht⟩ := h
  exact ⟨hev, hlearned, hu, ht hu⟩

/-- A boot with the house off, and the phone sends a datagram: the callback turns the house on and reports it. -/
def sighting : List Input := bootWith 0xF0 ++ framePoll phoneDatagram ++ silence 1 ++ serverCall 3 (okReply [])

set_option maxRecDepth 10000 in
/-- The packet loop goes on with what the report left in the buffer. -/
theorem hook_not_transparent : ¬Always Transparent (run blank blank sighting).trace := by decide +kernel

/-- In every run, under the same condition: an address that the callback stores is the source address of the frame received. -/
theorem target_provenance (eeprom flash : Nat → Byte) (tape : List Input) :
    Always (fun ev d past => Undisturbed past → Provenance ev d past) (run eeprom flash tape).trace := by
  obtain ⟨st, hr⟩ := run_reached eeprom flash tape
  exact hr.kept.mono fun _ _ _ hk => hk.provenance

set_option maxRecDepth 10000 in
/-- The address that is stored is the phone's. -/
theorem target_provenance_lit :
    Sometimes (fun ev d past => ev = .learned ∧ Undisturbed past ∧ Provenance ev d past ∧ d.targetIp = phoneIp)
      (run blank blank litSighting).trace := by
  have hmet : Sometimes (fun ev d past => ev = .learned ∧ Undisturbed past ∧ d.targetIp = phoneIp) (run blank blank litSighting).trace := by
    decide +kernel
  refine ((target_provenance blank blank litSighting).sometimes hmet).mono fun ev d past h => ?_
  obtain ⟨⟨hev, hu, hip⟩, hp⟩ := h
  exact ⟨hev, hu, hp hu, hip⟩

set_option maxRecDepth 10000 in
/-- The callback takes the device's own address for the phone's. -/
theorem target_is_house : ¬Always Provenance (run blank blank sighting).trace ∧ (run blank blank sighting).dev.targetIp = houseIp := by
  decide +kernel

end EtherHouse
