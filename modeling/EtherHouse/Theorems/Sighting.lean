import EtherHouse.Theorems.Hook
import EtherHouse.Theorems.Sync

/-!
# A frame from the target

What a packet loop does with a frame from a registered address: when it returns, `absense_timer` counts from the frame on and the house
is on, unless a reply has put it out since.
-/

namespace EtherHouse

/-! ## The frames that the hook takes -/

/-- ARP for IPv4 and IPv4, each with its fields up to the sender's address. -/
def Listened (frame : List Byte) : Prop :=
  (ETH_ARP_DST_MAC_P ≤ frame.length ∧ frame.getD ETH_TYPE_H_P 0 = ETHTYPE_ARP_H_V ∧ frame.getD ETH_TYPE_L_P 0 = ETHTYPE_ARP_L_V ∧
      frame.getD ETH_ARP_PROTO_TYPE_H_P 0 = ETH_ARP_PROTO_IPV4_H_V ∧ frame.getD ETH_ARP_PROTO_TYPE_L_P 0 = ETH_ARP_PROTO_IPV4_L_V) ∨
    (IP_DST_P ≤ frame.length ∧ frame.getD ETH_TYPE_H_P 0 = ETHTYPE_IP_H_V ∧ frame.getD ETH_TYPE_L_P 0 = ETHTYPE_IP_L_V)

/-- A frame that is listened to has a link header. -/
theorem Listened.length {frame : List Byte} (h : Listened frame) : ETH_HEADER_LEN ≤ frame.length := by
  rcases h with ⟨hlen, _⟩ | ⟨hlen, _⟩
  · exact le_trans (by decide) hlen
  · exact le_trans (by decide) hlen

/-- A frame in the buffer that the hook takes is not passed over. -/
theorem snifferSrcIp_of_listened {e : Ether} {frame : List Byte} (hs : e.buffer.slice 0 frame.length = frame) (h : Listened frame) :
    snifferSrcIp frame.length e ≠ none := by
  have hget : ∀ i < frame.length, e.gPB i = frame.getD i 0 := fun i hi => gPB_of_slice hs hi
  have hhead : ¬frame.length < ETH_HEADER_LEN := Nat.not_lt.mpr h.length
  have hlen := h.length
  unfold snifferSrcIp
  rw [if_neg hhead, hget _ (by unfold ETH_HEADER_LEN at hlen; unfold ETH_TYPE_H_P; omega),
    hget _ (by unfold ETH_HEADER_LEN at hlen; unfold ETH_TYPE_L_P; omega)]
  rcases h with ⟨harp, hh, hl, hph, hpl⟩ | ⟨hip, hh, hl⟩
  · unfold ETH_ARP_DST_MAC_P at harp
    rw [if_pos ⟨hh, hl⟩, if_neg (by unfold ETH_ARP_DST_MAC_P; omega), hget _ (by unfold ETH_ARP_PROTO_TYPE_H_P; omega),
      hget _ (by unfold ETH_ARP_PROTO_TYPE_L_P; omega), if_neg fun hne => hne.elim (fun h => h hph) fun h => h hpl]
    nofun
  · rw [if_neg (by rw [hh, hl]; decide), if_pos ⟨hh, hl⟩, if_neg (Nat.not_lt.mpr hip)]
    nofun

/-- The buffer's link addresses are the frame's, where it holds the frame. -/
theorem mac_of_slice {e : Ether} {frame : List Byte} (hs : e.buffer.slice 0 frame.length = frame) {pos : Nat}
    (hp : pos + 5 < frame.length) : e.buffer.mac pos = linkAt frame pos := by
  have hget : ∀ i < frame.length, e.buffer.get i = frame.getD i 0 := fun i hi => gPB_of_slice hs hi
  unfold Buffer.mac linkAt
  rw [hget _ (by omega), hget _ (by omega), hget _ (by omega), hget _ (by omega), hget _ (by omega), hget _ (by omega)]

/-! ## What each packet loop was given -/

/-- What a packet loop was given: the frame, the device at its start, and whether the DHCP client has sent nothing in its turn. -/
structure Given where
  frame : List Byte
  dev : Device
  kept : Bool

/-- The open packet loops, the innermost first. -/
def givens : Trace → List Given
  | [] => []
  | (.enter .packetLoop, d) :: past => ⟨lastFrame past, d, true⟩ :: givens past
  | (.leave .packetLoop, _) :: past => (givens past).tail
  | (.dhcpTurn now, d) :: past =>
    (givens past).modifyHead fun g => { g with kept := g.kept && !dhcpSends now g.frame.length d.ether }
  | _ :: past => givens past

/-- The frame comes from a registered address. -/
def Given.FromTarget (g : Given) : Prop := linkAt g.frame ETH_SRC_MAC ∈ g.dev.sniffers.macs

/-- The frame is one that the hook takes, comes from a registered address, found no callback running, and was still there when the
hook looked. -/
structure Given.Heeded (g : Given) : Prop where
  listened : Listened g.frame
  target : g.FromTarget
  outer : g.dev.snifferNested = false
  kept : g.kept = true

/-- `absense_timer` was set at this time or later. -/
def StampedSince (received : Nat) (d : Device) : Prop :=
  ∃ t, received ≤ t ∧ t ≤ d.clock ∧ d.absenseTimer = BitVec.ofNat 32 t

/-- Before the counter wraps, the timer's value is the time. -/
theorem StampedSince.le_toNat {received : Nat} {d : Device} (h : StampedSince received d) (hc : d.clock < 2 ^ 32) :
    received ≤ d.absenseTimer.toNat := by
  obtain ⟨t, hr, ht, he⟩ := h
  rw [he, BitVec.toNat_ofNat, Nat.mod_eq_of_lt (by omega)]
  exact hr

/-! ## The loops on the stack -/

def Act.isSniffer : Act → Bool
  | .sniffer _ _ => true
  | _ => false

/-- The packet loops on a stack: the length of each one's frame, and whether it was begun from within the sniffer's callback. -/
def loopsGiven : List Act → List (Nat × Bool)
  | [] => []
  | .packetLoop plen _ :: st => (plen, st.any Act.isSniffer) :: loopsGiven st
  | _ :: st => loopsGiven st

/-- An outer activation does not stand on the sniffer's callback. -/
theorem OuterCalm.no_sniffer {st : List Act} (h : OuterCalm st) : st.any Act.isSniffer = false := by
  cases h with
  | draining hs => cases hs <;> rfl
  | _ => rfl

/-- Nor does what `loop` and `setup` call the server from. -/
theorem Site.no_sniffer {k : Api} {st : List Act} (h : Site k st) : st.any Act.isSniffer = false := by
  cases h <;> rfl

/-- What a server call returns to does so exactly if `sniffer_nested` is set. -/
theorem Home.any_sniffer {k : Api} {st : List Act} {n : Bool} (h : Home k st n) : st.any Act.isSniffer = n := by
  cases h with
  | outer hs => exact hs.no_sniffer
  | inner => rfl

/-- `sniffer_nested` tells whether the callback is on the stack. -/
theorem Disciplined.any_sniffer {st : List Act} {l n : Bool} (h : Disciplined st l n) : st.any Act.isSniffer = n := by
  have hcalm : ∀ {st n}, Calm st n → st.any Act.isSniffer = n := by
    intro st n hc
    cases hc with
    | outer ho => exact ho.no_sniffer
    | inner hh => exact hh.any_sniffer
  cases h with
  | idle => rfl
  | calm hc => exact hcalm hc
  | absence => rfl
  | toggleOff => rfl
  | calling hh => exact hh.any_sniffer
  | armed hh => exact hh.any_sniffer
  | waiting hh => exact hh.any_sniffer
  | pollCalm hc =>
    have hn := hcalm hc
    exact hn
  | pollWaiting hh => exact hh.any_sniffer
  | closing hh => exact hh.any_sniffer
  | closed hh => exact hh.any_sniffer
  | sniffer => rfl
  | toggleOn => rfl

/-- A packet loop on the stack and in the trace. -/
structure Given.Tells (a : Nat × Bool) (g : Given) : Prop where
  length : g.frame.length = a.1
  nested : g.dev.snifferNested = a.2

/-! ## Up to the callback, and from it on -/

/-- The callback has stamped `absense_timer` for this loop's frame, or for one that came later. -/
structure Given.Noticed (g : Given) (w : World) : Prop where
  stamped : StampedSince g.dev.clock w.dev
  heard : lastHeard w.trace ≠ none

/-- The buffer holds the frame, and what the hook goes by has not changed. -/
structure Given.Offered (g : Given) (d : Device) : Prop where
  slice : d.ether.buffer.slice 0 g.frame.length = g.frame
  sniffers : d.sniffers = g.dev.sniffers
  nested : d.snifferNested = g.dev.snifferNested

/-- Where the innermost loop's frame has not been stamped yet. -/
def Awaits (st : List Act) (g : Given) (w : World) : Prop :=
  match st with
  | .packetLoop _ .dhcp :: _ => g.Offered w.dev
  | .packetLoop _ .offered :: _ => g.Offered w.dev
  | .sniffer .fresh _ :: _ => lastHeard w.trace ≠ none
  | _ => False

/-- Every packet loop whose frame is heeded has been noticed, but the innermost may still have to be. -/
structure Noticing (st : List Act) (w : World) : Prop where
  told : List.Forall₂ Given.Tells (loopsGiven st) (givens w.trace)
  past : ∀ g ∈ givens w.trace, g.dev.clock ≤ w.dev.clock
  top : ∀ g, (givens w.trace).head? = some g → g.Heeded → g.Noticed w ∨ Awaits st g w
  below : ∀ g ∈ (givens w.trace).tail, g.Heeded → g.Noticed w

/-- A later world, with the timer as it was. -/
theorem Given.Noticed.later {g : Given} {w w' : World} (h : g.Noticed w) (hc : w.dev.clock ≤ w'.dev.clock)
    (ha : w'.dev.absenseTimer = w.dev.absenseTimer) (hl : lastHeard w.trace ≠ none → lastHeard w'.trace ≠ none) : g.Noticed w' where
  stamped := by
    obtain ⟨t, hr, ht, he⟩ := h.stamped
    exact ⟨t, hr, ht.trans hc, ha.trans he⟩
  heard := hl h.heard

/-- A step that opens and closes no packet loop and leaves the timer alone. -/
theorem Noticing.move {st st' : List Act} {w w' : World} (h : Noticing st w) (hloops : loopsGiven st' = loopsGiven st)
    (hg : givens w'.trace = givens w.trace) (hc : w.dev.clock ≤ w'.dev.clock) (ha : w'.dev.absenseTimer = w.dev.absenseTimer)
    (hl : lastHeard w.trace ≠ none → lastHeard w'.trace ≠ none)
    (haw : ∀ g, (givens w.trace).head? = some g → g.Heeded → Awaits st g w → Awaits st' g w') : Noticing st' w' where
  told := by rw [hloops, hg]; exact h.told
  past := fun g hm => (h.past g (hg ▸ hm)).trans hc
  top := fun g hh hd => by
    rw [hg] at hh
    exact (h.top g hh hd).imp (fun hn => hn.later hc ha hl) (haw g hh hd)
  below := fun g hm hd => (h.below g (hg ▸ hm) hd).later hc ha hl

/-- The innermost loop's frame has the length that the stack tells. -/
theorem Noticing.innermost {plen : Nat} {p : LoopPhase} {st : List Act} {w : World} (h : Noticing (.packetLoop plen p :: st) w)
    {g : Given} (hg : (givens w.trace).head? = some g) : g.frame.length = plen ∧ g.dev.snifferNested = st.any Act.isSniffer := by
  have htold : List.Forall₂ Given.Tells ((plen, st.any Act.isSniffer) :: loopsGiven st) (givens w.trace) := h.told
  generalize givens w.trace = gs at htold hg
  cases htold with
  | cons ht hrest =>
    cases hg
    exact ⟨ht.length, ht.nested⟩

/-- What is offered to the hook is not passed over. -/
theorem Given.Offered.heard {g : Given} {d : Device} (h : g.Offered d) (hd : g.Heeded) :
    ¬(snifferSrcIp g.frame.length d.ether = none ∨ d.ether.buffer.mac ETH_SRC_MAC ∉ d.sniffers.macs) := by
  have hlen := hd.listened.length
  rintro (hnone | hmac)
  · exact snifferSrcIp_of_listened h.slice hd.listened hnone
  · rw [mac_of_slice h.slice (by unfold ETH_HEADER_LEN at hlen; unfold ETH_SRC_MAC; omega), h.sniffers] at hmac
    exact hmac hd.target

/-- What is returned to has no frame to stamp. -/
theorem Resumes.not_awaits {st : List Act} (h : Resumes st) (g : Given) (w : World) : ¬Awaits st g w := by
  cases h <;> exact id

/-- Nor has what makes a server call. -/
theorem CallSite.not_awaits {k : Api} {st st' : List Act} (hc : CallSite k st st') (g : Given) (w : World) : ¬Awaits st g w := by
  cases hc <;> exact id

/-- A server call is made in the same packet loops. -/
theorem CallSite.loopsGiven {k : Api} {st st' : List Act} (hc : CallSite k st st') : loopsGiven st' = EtherHouse.loopsGiven st := by
  cases hc <;> rfl

/-- The DHCP client's turn: if it sends nothing the frame stays where it is. -/
theorem Noticing.dhcp {plen : Nat} {st : List Act} {w : World} (h : Noticing (.packetLoop plen .dhcp :: st) w) (t₁ t₂ : Long) :
    Noticing (.packetLoop plen .offered :: st) ((w.emit (.dhcpTurn t₁)).update (Device.net (dhcpStateMachine t₁ t₂ plen))) := by
  have htold : List.Forall₂ Given.Tells ((plen, st.any Act.isSniffer) :: loopsGiven st) (givens w.trace) := h.told
  have hlater : ∀ {g : Given}, g.Noticed w →
      g.Noticed ((w.emit (.dhcpTurn t₁)).update (Device.net (dhcpStateMachine t₁ t₂ plen))) := fun hn => hn.later le_rfl rfl id
  have hgs : givens ((w.emit (.dhcpTurn t₁)).update (Device.net (dhcpStateMachine t₁ t₂ plen))).trace =
      (givens w.trace).modifyHead fun g => { g with kept := g.kept && !dhcpSends t₁ g.frame.length w.dev.ether } := rfl
  have hpast := h.past
  have htop := h.top
  have hbelow := h.below
  generalize givens w.trace = gs at htold hgs hpast htop hbelow
  cases htold with
  | @cons _ g _ gs ht hrest =>
    rw [List.modifyHead_cons] at hgs
    constructor
    · rw [hgs]
      exact .cons ⟨ht.length, ht.nested⟩ hrest
    · rw [hgs]
      intro g' hm
      rcases List.mem_cons.mp hm with rfl | hm
      · exact hpast g List.mem_cons_self
      · exact hpast g' (List.mem_cons_of_mem _ hm)
    · rw [hgs]
      intro g' hh hd
      cases hh
      obtain ⟨hkept, hsends⟩ : g.kept = true ∧ dhcpSends t₁ g.frame.length w.dev.ether = false := by simpa using hd.kept
      have hlen : g.frame.length = plen := ht.length
      have hd' : g.Heeded := ⟨hd.listened, hd.target, hd.outer, hkept⟩
      rcases htop g rfl hd' with hn | ho
      · exact Or.inl ⟨(hlater hn).stamped, (hlater hn).heard⟩
      · refine Or.inr ⟨?_, ho.sniffers, ho.nested⟩
        change (dhcpStateMachine t₁ t₂ plen w.dev.ether).buffer.slice 0 g.frame.length = g.frame
        rw [buffer_dhcpStateMachine (hlen ▸ hsends) t₂]
        exact ho.slice
    · rw [hgs]
      exact fun g' hm hd => hlater (hbelow g' hm hd)

/-- What logs has no frame to stamp. -/
theorem not_awaits_of_logs {st : List Act} (h : Logs st) (g : Given) (w : World) : ¬Awaits st g w := by
  unfold Awaits
  split <;> first | exact h.elim | exact id

/-- A step of the library from where no frame waits. -/
theorem Noticing.net {st st' : List Act} {w : World} (h : Noticing st w) (hloops : loopsGiven st' = loopsGiven st) {note : Option Event}
    (hg : givens (w.note note).trace = givens w.trace) (hl : lastHeard (w.note note).trace = lastHeard w.trace)
    (ha : ∀ g, (givens w.trace).head? = some g → g.Heeded → ¬Awaits st g w) (f : Ether → Ether) :
    Noticing st' ((w.note note).update (Device.net f)) := by
  refine h.move hloops hg ?_ ?_ ?_ fun g hh hd haw => (ha g hh hd haw).elim
  · rw [update_dev, note_dev, net_clock]
  · rw [update_dev, note_dev, net_absenseTimer]
  · rw [update_trace, hl]
    exact id

/-- The steps of the library stamp nothing, and forget no sighting. -/
theorem NetStep.noticing {st st' : List Act} {w : World} {note : Option Event} {f : Ether → Ether} (hs : NetStep st w.dev note f st')
    (h : Noticing st w) : Noticing st' ((w.note note).update (Device.net f)) := by
  have hl := hs.lastHeard
  cases hs with
  | dhcp plen t₁ t₂ st => exact h.dhcp t₁ t₂
  | log msg d hlogs => exact h.net (by rfl) (by rfl) hl (fun g _ _ => not_awaits_of_logs hlogs g w) _
  | idle up st =>
    refine h.net (by rfl) (by rfl) hl (fun g hg hd _ => ?_) _
    have hlen := hd.listened.length
    rw [(h.innermost hg).1] at hlen
    exact absurd hlen (by decide)
  | ret => exact h.net (by rfl) (by rfl) hl (fun _ _ _ => id) _
  | upcall => exact h.net (by rfl) (by rfl) hl (fun _ _ _ => id) _
  | close => exact h.net (by rfl) (by rfl) hl (fun _ _ _ => id) _
  | browse => exact h.net (by rfl) (by rfl) hl (fun _ _ _ => id) _
  | probe => exact h.net (by rfl) (by rfl) hl (fun _ _ _ => id) _
  | ping => exact h.net (by rfl) (by rfl) hl (fun _ _ _ => id) _
  | icmp => exact h.net (by rfl) (by rfl) hl (fun _ _ _ => id) _
  | boot => exact h.net (by rfl) (by rfl) hl (fun _ _ _ => id) _

/-- Nor do the steps of the stack, if the hook lets the frame pass. -/
theorem CtrlStep.noticing {st st' : List Act} {w : World} (hs : CtrlStep st w.dev st') (h : Noticing st w) : Noticing st' w := by
  cases hs with
  | noDhcp => exact h.move rfl rfl le_rfl rfl id fun _ _ _ ha => ha
  | unheard st hz hn =>
    refine h.move rfl rfl le_rfl rfl id fun g hg hd ha => ?_
    rw [← (h.innermost hg).1] at hn
    have ho : g.Offered w.dev := ha
    exact (ho.heard hd hn).elim
  | noParse => exact h.move rfl rfl le_rfl rfl id fun _ _ _ ha => ha.elim
  | alight => exact h.move rfl rfl le_rfl rfl id fun _ _ _ ha => ha.elim
  | drained => exact h.move rfl rfl le_rfl rfl id fun _ _ _ ha => ha.elim
  | skip => exact h.move rfl rfl le_rfl rfl id fun _ _ _ ha => ha.elim
  | absent => exact h.move rfl rfl le_rfl rfl id fun _ _ _ ha => ha.elim
  | confirmed => exact h.move rfl rfl le_rfl rfl id fun _ _ _ ha => ha.elim
  | present => exact h.move rfl rfl le_rfl rfl id fun _ _ _ ha => ha.elim

/-- Where no frame waits, all that are heeded have been noticed. -/
theorem Noticing.all {st : List Act} {w : World} (h : Noticing st w) (hn : ∀ g, ¬Awaits st g w) :
    ∀ g ∈ givens w.trace, g.Heeded → g.Noticed w := by
  intro g hm hd
  have htop := h.top
  have hbelow := h.below
  generalize givens w.trace = gs at hm htop hbelow
  cases hm with
  | head gs => exact (htop g rfl hd).resolve_right (hn g)
  | tail g' hm => exact hbelow g hm hd

/-- A packet loop returns. -/
theorem Noticing.polled {plen : Nat} {st : List Act} {w : World} (h : Noticing (.packetLoop plen .fin :: st) w) :
    Noticing st (w.emit (.leave .packetLoop)) := by
  have htold : List.Forall₂ Given.Tells ((plen, st.any Act.isSniffer) :: loopsGiven st) (givens w.trace) := h.told
  have hgs : givens (w.emit (.leave .packetLoop)).trace = (givens w.trace).tail := rfl
  have hnoticed : ∀ g ∈ (givens w.trace).tail, g.Heeded → g.Noticed (w.emit (.leave .packetLoop)) := fun g hm hd =>
    (h.below g hm hd).later le_rfl rfl id
  constructor
  · rw [hgs]
    generalize givens w.trace = gs at htold
    cases htold with
    | cons ht hrest => exact hrest
  · rw [hgs]
    exact fun g hm => h.past g (List.mem_of_mem_tail hm)
  · rw [hgs]
    exact fun g hh hd => Or.inl (hnoticed g (List.mem_of_mem_head? hh) hd)
  · rw [hgs]
    exact fun g hm hd => hnoticed g (List.mem_of_mem_tail hm) hd

/-- Whether a frame is still to be stamped depends on what the hook goes by. -/
theorem Awaits.congr {st : List Act} {g : Given} {w w' : World} (h : Awaits st g w) (he : w'.dev.ether = w.dev.ether)
    (hs : w'.dev.sniffers = w.dev.sniffers) (hn : w'.dev.snifferNested = w.dev.snifferNested)
    (hl : lastHeard w.trace ≠ none → lastHeard w'.trace ≠ none) : Awaits st g w' := by
  have hoff : g.Offered w.dev → g.Offered w'.dev := fun ho => ⟨by rw [he]; exact ho.slice, hs.trans ho.sniffers, hn.trans ho.nested⟩
  unfold Awaits at h ⊢
  split at h
  · exact hoff h
  · exact hoff h
  · exact hl h
  · exact h.elim

/-- A packet loop that ends has had its frame stamped, if it is heeded. -/
theorem MarkStep.noticing {st st' : List Act} {w : World} {ev : Event} (hs : MarkStep st w.dev ev st') (h : Noticing st w) :
    Noticing st' (w.emit ev) := by
  cases hs with
  | polled => exact h.polled
  | wdtReset => exact h.move rfl rfl le_rfl rfl id fun _ _ _ ha => ha.congr rfl rfl rfl id
  | compared => exact h.move rfl rfl le_rfl rfl id fun _ _ _ ha => ha.congr rfl rfl rfl id
  | ignored plen st hn =>
    refine h.move rfl rfl le_rfl rfl id fun g hg hd ha => ?_
    have ho : g.Offered w.dev := ha
    rw [ho.nested, hd.outer] at hn
    cases hn
  | abort hc => exact h.move hc.loopsGiven rfl le_rfl rfl id fun g _ _ ha => (hc.not_awaits g w ha).elim
  | enter hc => exact h.move hc.loopsGiven rfl le_rfl rfl id fun g _ _ ha => (hc.not_awaits g w ha).elim
  | hooked => exact h.move rfl rfl le_rfl rfl id fun _ _ _ ha => ha.elim
  | leave => exact h.move rfl rfl le_rfl rfl id fun _ _ _ ha => ha.elim
  | loopBegin => exact h.move rfl rfl le_rfl rfl id fun _ _ _ ha => ha.elim
  | loopEnd => exact h.move rfl rfl le_rfl rfl id fun _ _ _ ha => ha.elim
  | setupEnd => exact h.move rfl rfl le_rfl rfl id fun _ _ _ ha => ha.elim
  | sweepBegin => exact h.move rfl rfl le_rfl rfl id fun _ _ _ ha => ha.elim
  | sweepEnd => exact h.move rfl rfl le_rfl rfl id fun _ _ _ ha => ha.elim
  | lastDitchBegin => exact h.move rfl rfl le_rfl rfl id fun _ _ _ ha => ha.elim
  | lastDitchEnd => exact h.move rfl rfl le_rfl rfl id fun _ _ _ ha => ha.elim

/-- `absense_timer` is set to the clock: what was to be noticed is. -/
theorem Noticing.stamp {st st' : List Act} {w : World} (h : Noticing st w) (hloops : loopsGiven st' = loopsGiven st)
    (hl : ∀ g, Awaits st g w → lastHeard w.trace ≠ none) :
    Noticing st' (w.update fun d => { d with absenseTimer := w.dev.millis }) := by
  have hnoticed : ∀ g ∈ givens w.trace, lastHeard w.trace ≠ none →
      g.Noticed (w.update fun d => { d with absenseTimer := w.dev.millis }) := fun g hm hne =>
    ⟨⟨w.dev.clock, h.past g hm, le_rfl, rfl⟩, hne⟩
  constructor
  · rw [hloops]
    exact h.told
  · exact h.past
  · intro g hh hd
    refine Or.inl (hnoticed g (List.mem_of_mem_head? hh) ?_)
    rcases h.top g hh hd with hn | ha
    · exact hn.heard
    · exact hl g ha
  · exact fun g hm hd => hnoticed g (List.mem_of_mem_tail hm) (h.below g hm hd).heard

/-- A packet loop begins on what was received. -/
theorem Noticing.poll {st : List Act} {w : World} (h : Noticing st w) (hw : WellStacked st w) (hn : ∀ g, ¬Awaits st g w) (a : Arrival) :
    Noticing (.packetLoop (packetReceiveLen a) .dhcp :: st)
      (((w.update (Device.net (packetReceiveInto a))).emit (.received a)).emit (.enter .packetLoop)) where
  told := .cons ⟨length_delivered a, hw.any_sniffer.symm⟩ h.told
  past := fun g hm => by
    rcases List.mem_cons.mp hm with rfl | hm
    · exact le_rfl
    · exact h.past g hm
  top := fun g hh _ => by
    cases hh
    exact Or.inr ⟨slice_packetReceiveInto a w.dev.ether, rfl, rfl⟩
  below := fun g hm hd => (h.all hn g hm hd).later le_rfl rfl id

/-- A parse callback leaves timer and clock alone. -/
theorem browserCallback_absenseTimer (cb : BrowserCallback) (buf : Nat) (status : Byte) (off len : Nat) (d : Device) :
    (browserCallback cb buf status off len d).absenseTimer = d.absenseTimer ∧
      (browserCallback cb buf status off len d).clock = d.clock := by
  cases cb with
  | macsParse =>
    simp only [browserCallback, macsParseCallback, snifferListenForMac]
    split <;> exact ⟨rfl, rfl⟩
  | stateParse =>
    simp only [browserCallback, stateParseCallback]
    split
    · exact ⟨rfl, rfl⟩
    · simp
  | apiSet => exact ⟨rfl, rfl⟩

/-- A reply does not make a sighting unheard. -/
theorem lastHeard_parsed (cb : BrowserCallback) (status : Byte) (payload : List Byte) (d : Device) {past : Trace}
    (h : lastHeard past ≠ none) : lastHeard ((.parsed cb status payload, d) :: past) ≠ none := by
  cases cb with
  | stateParse =>
    simp only [lastHeard]
    split
    · exact Option.some_ne_none _
    · exact h
  | macsParse => exact h
  | apiSet => exact h

/-- Without a packet loop there is nothing to notice. -/
theorem noticing_of_no_loops {st : List Act} {w : World} (hl : loopsGiven st = []) (hg : givens w.trace = []) : Noticing st w where
  told := by
    rw [hl, hg]
    exact .nil
  past := fun g hm => by
    rw [hg] at hm
    exact absurd hm List.not_mem_nil
  top := fun g hh => by
    rw [hg] at hh
    cases hh
  below := fun g hm => by
    rw [hg] at hm
    exact absurd hm List.not_mem_nil

/-- Each step keeps it. -/
theorem Step.noticing {st st' : List Act} {w w' : World} (hs : Step st w st' w') (hw : WellStacked st w) (h : Noticing st w) :
    Noticing st' w' := by
  cases hs with
  | tick ms => exact h.move rfl rfl (Nat.le_add_right _ ms) rfl id fun _ _ _ ha => ha.congr rfl rfl rfl id
  | net hn => exact hn.noticing h
  | ctrl hc => exact hc.noticing h
  | mark hm => exact hm.noticing h
  | timer ht => cases ht with
    | stamp => exact h.stamp rfl fun g ha => ha.elim
    | bootAbsense => exact h.stamp rfl fun g ha => ha.elim
    | _ => exact h.move rfl rfl le_rfl rfl id fun _ _ _ ha => ha.elim
  | poll a hp => exact h.poll hw (fun g => hp.resumes.not_awaits g w) a
  | receive => exact h.move rfl rfl le_rfl rfl id fun _ _ _ ha => ha.elim
  | sniff => exact h.move rfl rfl le_rfl rfl (fun _ => nofun) fun _ _ _ _ => nofun
  | toggleOn => exact h.move rfl rfl le_rfl rfl id fun _ _ _ ha => ha.elim
  | toggleOff st =>
    obtain ⟨rfl, _⟩ := hw.absence_flags
    have hnone : givens w.trace = [] := by
      have htold := h.told
      generalize givens w.trace = gs at htold
      cases htold
      rfl
    exact noticing_of_no_loops rfl hnone
  | learn => exact h.move rfl rfl le_rfl rfl id fun _ _ _ ha => ha.elim
  | unsniff srcIp st => exact h.move rfl rfl le_rfl rfl id fun _ _ _ ha => ha.elim
  | requested => exact h.move rfl rfl le_rfl rfl id fun _ _ _ ha => ha.elim
  | parse =>
    refine h.move rfl rfl ?_ ?_ (lastHeard_parsed _ _ _ _) fun _ _ _ ha => ha.elim
    · rw [update_dev, (browserCallback_absenseTimer _ _ _ _ _ _).2, emit_dev]
    · rw [update_dev, (browserCallback_absenseTimer _ _ _ _ _ _).1, emit_dev]
  | lock => exact h.move rfl rfl le_rfl rfl id fun _ _ _ ha => ha.elim
  | forget => exact h.move rfl rfl le_rfl rfl id fun _ _ _ ha => ha.elim
  | bootApiIp => exact h.move rfl rfl le_rfl rfl id fun _ _ _ ha => ha.elim

/-- So it holds wherever a run has got. -/
theorem Reach.noticing {st : List Act} {w : World} (h : Reach PowerUp st w) : Noticing st w := by
  refine h.invariant (fun st w hi => ?_) fun st w st' w' hr hn hs => hs.noticing (hr.wellStacked powerUp_start) hn
  obtain ⟨rfl, eeprom, flash, rfl⟩ := hi
  exact noticing_of_no_loops rfl rfl

/-! ## Inside the callback -/

/-- A packet loop that is begun from within the callback is one of `api_set_on`. -/
theorem Disciplined.nested_call {plen : Nat} {p : LoopPhase} {st : List Act} {l : Bool}
    (h : Disciplined (.packetLoop plen p :: st) l true) :
    ∃ q srcIp rest, st = .api .on q :: .sniffer .lit srcIp :: rest ∧ q ≠ .calling := by
  have hhome : ∀ {k rest}, Home k rest true → ∃ srcIp rest', k = .on ∧ rest = .sniffer .lit srcIp :: rest' := by
    intro k rest hh
    cases hh with
    | inner plen srcIp ho => exact ⟨srcIp, _, rfl, rfl⟩
  have hwaits : ∀ {k rest}, Home k rest true →
      ∃ q srcIp rest', .api k .waiting :: rest = .api .on q :: .sniffer .lit srcIp :: rest' ∧ q ≠ .calling := by
    intro k rest hh
    obtain ⟨srcIp, rest', rfl, rfl⟩ := hhome hh
    exact ⟨.waiting, srcIp, rest', rfl, nofun⟩
  cases h with
  | calm hc =>
    cases hc
  | pollCalm hc =>
    cases hc with
    | inner hh =>
      obtain ⟨srcIp, rest', _, rfl⟩ := hhome hh
      exact ⟨.draining, srcIp, rest', rfl, nofun⟩
  | pollWaiting hh => exact hwaits hh
  | closing hh => exact hwaits hh
  | closed hh => exact hwaits hh

/-- With the callback past its start the house is on: what it sends for has no other answer than that of `api_set_on`. -/
structure Kindled (st : List Act) (d : Device) : Prop where
  bit : ∀ srcIp, .sniffer .lit srcIp ∈ st → bitRead d.state MY_ID = true
  answer : ∀ p rest, apis st = (.on, p) :: rest → p ≠ .calling → d.ether.tcp.clientBrowserCb = some .apiSet

/-- A step that brings no callback past its start. -/
theorem Kindled.move {st st' : List Act} {d d' : Device} (h : Kindled st d)
    (hm : ∀ srcIp, Act.sniffer .lit srcIp ∈ st' → .sniffer .lit srcIp ∈ st) (ha : apis st' = apis st)
    (hs : d'.state = d.state) (hc : d'.ether.tcp.clientBrowserCb = d.ether.tcp.clientBrowserCb) : Kindled st' d' where
  bit := fun srcIp hi => by rw [hs]; exact h.bit srcIp (hm srcIp hi)
  answer := fun p rest hp => by rw [hc]; exact h.answer p rest (ha ▸ hp)

/-- The steps of the library bring none there. -/
theorem NetStep.snifferLit {st st' : List Act} {d : Device} {note : Option Event} {f : Ether → Ether} (hs : NetStep st d note f st')
    (srcIp : Nat) : Act.sniffer .lit srcIp ∈ st' → .sniffer .lit srcIp ∈ st := by
  cases hs <;> simp

/-- So they keep it. -/
theorem NetStep.kindled {st st' : List Act} {d : Device} {note : Option Event} {f : Ether → Ether} (hs : NetStep st d note f st')
    (h : Kindled st d) : Kindled st' (d.net f) := by
  rcases hs.held with ⟨hheld, ha⟩ | ⟨k, rest, rfl, rfl, -, rfl⟩
  · exact h.move hs.snifferLit ha rfl (clientBrowserCb_of_held hheld)
  · constructor
    · exact fun srcIp hm => h.bit srcIp (hs.snifferLit srcIp hm)
    · intro p rest' hp _
      cases hp
      rfl

/-- Nor does a server call bring one there. -/
theorem CallSite.snifferLit {k : Api} {st st' : List Act} (hc : CallSite k st st') (srcIp : Nat) :
    Act.sniffer .lit srcIp ∈ st' → .sniffer .lit srcIp ∈ st := by
  cases hc <;> simp

/-- Below a call's site are the same server calls. -/
theorem CallSite.apis {k : Api} {st st' : List Act} (hc : CallSite k st st') : apis st' = EtherHouse.apis st := by
  cases hc <;> rfl

/-- A server call returns: the one below it, if there is one, is not `api_set_on`. -/
theorem Kindled.leave {k : Api} {st : List Act} {d : Device} {n : Bool} (h : Kindled (.api k .draining :: st) d) (hh : Home k st n) :
    Kindled st d where
  bit := fun srcIp hm => h.bit srcIp (List.mem_cons_of_mem _ hm)
  answer := fun p rest hp _ => by
    cases hh with
    | outer hs => cases hs <;> cases hp
    | inner plen srcIp ho =>
      cases ho with
      | draining hs => cases hs <;> cases hp
      | _ => cases hp

/-- What is noted keeps it. -/
theorem MarkStep.kindled {st st' : List Act} {d : Device} {ev : Event} (hs : MarkStep st d ev st')
    (hw : Disciplined st d.locked d.snifferNested) (h : Kindled st d) : Kindled st' d := by
  cases hs with
  | enter hc =>
    constructor
    · intro srcIp hm
      rcases List.mem_cons.mp hm with hm | hm
      · cases hm
      · exact h.bit srcIp (hc.snifferLit srcIp hm)
    · intro p rest hp hne
      cases hp
      exact absurd rfl hne
  | abort hc => exact h.move hc.snifferLit hc.apis rfl rfl
  | leave k st => exact h.leave hw.home.1
  | wdtReset => exact h
  | compared => exact h
  | _ => exact h.move (by simp) (by rfl) rfl rfl

/-- The step that finds the house on starts it. -/
theorem CtrlStep.kindled {st st' : List Act} {d : Device} (hs : CtrlStep st d st') (h : Kindled st d) : Kindled st' d := by
  cases hs with
  | alight srcIp st hb => exact ⟨fun _ _ => hb, h.answer⟩
  | drained k st =>
    constructor
    · exact fun srcIp hm => h.bit srcIp (by simpa using hm)
    · intro p rest hp hne
      cases hp
      exact h.answer .waiting _ rfl nofun
  | _ => exact h.move (by simp) (by rfl) rfl rfl

/-- A parse callback inside the callback's call is that of `api_set_on`, and leaves the house as it is. -/
theorem Kindled.parse {plen : Nat} {u : Upcall} {st : List Act} {d : Device} {n : Bool} (h : Kindled (.packetLoop plen (.upcall u) :: st) d)
    (hw : Disciplined (.packetLoop plen (.upcall u) :: st) d.locked n) {cb : BrowserCallback}
    (hc : d.ether.tcp.clientBrowserCb = some cb) (buf : Nat) (status : Byte) (off len : Nat) :
    Kindled (.packetLoop plen (.closing u) :: st) (browserCallback cb buf status off len d) := by
  constructor
  · intro srcIp hm
    have hm' : Act.sniffer .lit srcIp ∈ st := by simpa using hm
    have hn : n = true := by
      rw [← hw.any_sniffer]
      exact List.any_eq_true.mpr ⟨_, List.mem_cons_of_mem _ hm', rfl⟩
    subst hn
    obtain ⟨q, srcIp', rest, rfl, hq⟩ := hw.nested_call
    have hset := h.answer q (apis rest) rfl hq
    rw [hc] at hset
    cases hset
    exact h.bit srcIp (List.mem_cons_of_mem _ hm')
  · intro p rest hp hne
    rw [browserCallback_clientBrowserCb]
    exact h.answer p rest hp hne

/-- Each step keeps it. -/
theorem Step.kindled {st st' : List Act} {w w' : World} (hs : Step st w st' w') (hw : WellStacked st w) (h : Kindled st w.dev) :
    Kindled st' w'.dev := by
  cases hs with
  | tick => exact h.move (fun _ => id) rfl rfl rfl
  | net hn =>
    rw [update_dev, note_dev]
    exact hn.kindled h
  | ctrl hc => exact hc.kindled h
  | mark hm => exact hm.kindled hw h
  | timer ht => cases ht <;> exact h.move (by simp) (by rfl) rfl rfl
  | poll a =>
    refine h.move (by simp) (by rfl) rfl ?_
    cases a <;> rfl
  | receive a =>
    refine h.move (fun _ => id) rfl rfl ?_
    cases a <;> rfl
  | sniff => exact h.move (by simp) (by rfl) rfl rfl
  | toggleOn srcIp st =>
    constructor
    · exact fun _ _ => bitRead_bitWrite_self _ true (by decide)
    · exact h.answer
  | toggleOff st =>
    obtain ⟨rfl, _⟩ := hw.absence_flags
    exact ⟨fun _ hm => by simp at hm, nofun⟩
  | learn => exact h.move (fun _ => id) rfl rfl rfl
  | unsniff => exact h.move (fun _ => List.mem_cons_of_mem _) rfl rfl rfl
  | @requested plen _ w => exact h.move (by simp) (by rfl) rfl (clientBrowserCb_of_held (held_packetLoopReceived _ _))
  | parse _ _ _ hc => exact h.parse hw hc _ _ _ _
  | lock k st =>
    constructor
    · exact fun srcIp hm => h.bit srcIp (by simpa using hm)
    · intro p rest hp _
      cases hp
      exact h.answer .armed _ rfl nofun
  | forget st => exact h.move (fun _ => List.mem_cons_of_mem _) rfl rfl rfl
  | bootApiIp => exact h.move (fun _ => id) rfl rfl rfl

/-- So it holds wherever a run has got. -/
theorem Reach.kindled {st : List Act} {w : World} (h : Reach PowerUp st w) : Kindled st w.dev := by
  refine h.invariant (fun st w hi => ?_) fun st w st' w' hr hk hs => hs.kindled (hr.wellStacked powerUp_start) hk
  obtain ⟨rfl, eeprom, flash, rfl⟩ := hi
  exact ⟨fun _ hm => by simp at hm, nofun⟩

/-! ## The packet loop returns -/

/-- In every run from power-on, whenever a packet loop returns that was given a frame from a registered address, with no callback running,
of a kind that the hook takes and undisturbed by the DHCP client: `absense_timer` was set at the frame's time or later, and the house is
off exactly if a reply has put it out since. And whenever one returns that was begun from within the callback, the house is on. -/
theorem target_frame_counts (eeprom flash : Nat → Byte) (tape : List Input) :
    Always (fun ev d past => ev = .leave .packetLoop → ∀ g, (givens past).head? = some g →
      (g.Heeded → StampedSince g.dev.clock d ∧ (bitRead d.state MY_ID = true ↔ lastHeard past ≠ some false)) ∧
        (g.dev.snifferNested = true → bitRead d.state MY_ID = true)) (run eeprom flash tape).trace := by
  obtain ⟨st, hr⟩ := run_reached eeprom flash tape
  refine hr.always ?_ fun st w ev d past hr hn => ?_
  · rintro st w ⟨rfl, eeprom, flash, rfl⟩
    exact ⟨nofun, nofun, nofun, trivial⟩
  · cases hn with
    | mark hm => cases hm with
      | polled plen st =>
        intro _ g hg
        constructor
        · intro hd
          have hnoticed := (hr.noticing.top g hg hd).resolve_right id
          obtain ⟨v, hv⟩ := Option.ne_none_iff_exists'.mp hnoticed.heard
          refine ⟨hnoticed.stamped, ?_⟩
          rw [hr.heard.bit v hv nofun, hv]
          cases v <;> simp
        · intro hnested
          rw [(hr.noticing.innermost hg).2] at hnested
          have hw : Disciplined _ w.dev.locked w.dev.snifferNested := hr.wellStacked powerUp_start
          have hn : w.dev.snifferNested = true := hw.any_sniffer.symm.trans hnested
          rw [hn] at hw
          obtain ⟨q, srcIp, rest, rfl, _⟩ := hw.nested_call
          exact hr.kindled.bit srcIp (by simp)
      | _ => nofun
    | net hn => cases hn <;> nofun
    | _ => nofun

set_option maxRecDepth 10000 in
/-- The packet loop that was given the phone's datagram returns with `absense_timer` set and the house on. -/
theorem target_frame_counts_lit :
    Sometimes (fun ev d past => ∃ g, ev = .leave .packetLoop ∧ (givens past).head? = some g ∧ g.frame = phoneDatagram ∧ g.Heeded ∧
      StampedSince g.dev.clock d ∧ (bitRead d.state MY_ID = true ↔ lastHeard past ≠ some false)) (run blank blank litSighting).trace := by
  have hmet : Sometimes (fun ev _ past => ev = .leave .packetLoop ∧ ((givens past).head?.any fun g => decide (g.frame = phoneDatagram ∧
      linkAt g.frame ETH_SRC_MAC ∈ g.dev.sniffers.macs ∧ g.dev.snifferNested = false ∧ g.kept = true)) = true)
      (run blank blank litSighting).trace := by decide +kernel
  have hlistened : Listened phoneDatagram := by
    unfold Listened
    decide
  refine ((target_frame_counts blank blank litSighting).sometimes hmet).mono fun ev d past h => ?_
  obtain ⟨⟨hev, hany⟩, hcounts⟩ := h
  obtain ⟨g, hg, hd⟩ := (Option.any_eq_true _ _).mp hany
  obtain ⟨hframe, htarget, houter, hkept⟩ := of_decide_eq_true hd
  have hheeded : g.Heeded := ⟨hframe ▸ hlistened, htarget, houter, hkept⟩
  exact ⟨g, hev, hg, hframe, hheeded, (hcounts hev g hg).1 hheeded⟩

/-- A boot with the house off, and five seconds later the phone sends a datagram by IPv6. -/
def unheardPhone : List Input := bootWith 0xF0 ++ [{ elapsed := 5000, arrival := .frame phoneDatagramV6 }] ++ silence 2

set_option maxRecDepth 10000 in
/-- The packet loop returns with `absense_timer` as boot set it. -/
theorem phoneDatagramV6_unheard :
    ¬Always (fun ev d past => ev = .leave .packetLoop → ∀ g, (givens past).head? = some g → ETH_HEADER_LEN ≤ g.frame.length →
      g.FromTarget → StampedSince g.dev.clock d ∧ (lastHeard past ≠ some false → bitRead d.state MY_ID = true))
      (run blank blank unheardPhone).trace := by
  have hrun : ¬Always (fun ev d past => ev = .leave .packetLoop → ((givens past).head?.all fun g =>
      decide (ETH_HEADER_LEN ≤ g.frame.length → linkAt g.frame ETH_SRC_MAC ∈ g.dev.sniffers.macs → d.clock < 2 ^ 32 →
        g.dev.clock ≤ d.absenseTimer.toNat)) = true) (run blank blank unheardPhone).trace := by
    decide +kernel
  refine fun h => hrun (h.mono fun ev d past hp he => ?_)
  cases hg : (givens past).head? with
  | none => rfl
  | some g =>
    rw [Option.all_some, decide_eq_true_eq]
    exact fun hlen ht hc => (hp he g hg hlen ht).1.le_toNat hc

end EtherHouse
