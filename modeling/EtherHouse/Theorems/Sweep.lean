import EtherHouse.Machine.Exchange
import EtherHouse.Machine.Traffic
import EtherHouse.Net.Wire

/-!
# What a sweep asks for

`ping_sweep` does not ask for an address itself: it makes it the destination, and leaves the asking to the first poll that finds no
packet. Here is when every address of the network has been asked for by the time the sweep moves on.
-/

namespace EtherHouse

open Prog

/-! ## What is asked for -/

/-- A broadcast ARP request for this address. -/
def Wire.asksFor (ip : Ip) : Wire → Bool
  | .sent frame =>
    frame.take 6 == broadcastMac.toList && (frame.drop ETH_TYPE_H_P).take 10 == [ETHTYPE_ARP_H_V, ETHTYPE_ARP_L_V] ++ arpreqhdr &&
      addressAt frame ETH_ARP_DST_IP_P == ip
  | .received _ => false

/-- What has gone over the cable from one moment to a later one. -/
def passedSince (e e' : Ether) : List Wire := e'.wire.take (e'.wire.length - e.wire.length)

/-- A request for this address has been broadcast since. -/
def requested (ip : Ip) (e e' : Ether) : Bool := (passedSince e e').any (Wire.asksFor ip)

/-! ## Turns -/

/-- The turn of an address in a sweep: the device at its begin, whether a server call has begun in it, and whether a poll has found no
packet before that. -/
structure Turn where
  ip : Ip
  start : Device
  called : Bool
  idled : Bool

/-- The cache neither held the address at the begin of the turn nor waited for it. -/
def Turn.clear (t : Turn) : Bool :=
  !(t.start.ether.cfg.hisip == t.ip && (t.start.ether.arp.hasDestMac || t.start.ether.arp.waitingForDestMac))

/-- What is meant by a clear cache. -/
theorem Turn.clear_iff {t : Turn} : t.clear = true ↔ ¬(t.start.ether.cfg.hisip = t.ip ∧
    (t.start.ether.arp.hasDestMac = true ∨ t.start.ether.arp.waitingForDestMac = true)) := by
  rw [Turn.clear, Bool.not_eq_true', ← Bool.not_eq_true, Bool.and_eq_true, beq_iff_eq, Bool.or_eq_true]

/-- The turn that is under way. -/
def turn : Trace → Option Turn
  | [] => none
  | (.probe ip, d) :: _ => some ⟨ip, d, false, false⟩
  | (.enter .pingSweep, _) :: _ => none
  | (.leave .pingSweep, _) :: _ => none
  | (.enter (.api _), _) :: past => (turn past).map fun t => { t with called := true }
  | (.idle _, _) :: past => (turn past).map fun t => { t with idled := t.idled || !t.called }
  | _ :: past => turn past

/-- The last octets below this one have had their turn when the event comes. -/
def turnsOver : Event → Nat
  | .probe ip => (ip.get 3).toNat
  | .leave .pingSweep => 255
  | _ => 0

/-- With this event a turn is over, if one is under way. -/
def Event.endsTurn : Event → Bool
  | .probe _ => true
  | .leave .pingSweep => true
  | _ => false

/-- The turns that are over. -/
def overTurns : Trace → List Turn
  | [] => []
  | (ev, _) :: past => if ev.endsTurn then (turn past).toList ++ overTurns past else overTurns past

/-- The turn began with the cache clear, and had a poll without a packet before a server call. -/
def Turn.undisturbed (t : Turn) : Bool := t.clear && t.idled

/-- The device's address and the network's mask. -/
def Ether.network (e : Ether) : Ip × Ip := (e.cfg.myip, e.cfg.netmask)

/-- The lease is as it was. -/
def leased (d d' : Device) : Bool := d'.ether.network == d.ether.network

/-- `ping_sweep` from a given device, as far as the inputs take it. -/
def runSweep (d : Device) (tape : List Input) : World := (pingSweep ⟨d, []⟩ tape).state

/-! ## The request -/

section

variable {e e' e'' : Ether} {ip : Ip}

/-- Only what is newer counts. -/
theorem requested_append {newer : List Wire} (h : e'.wire = newer ++ e.wire) :
    requested ip e e' = newer.any (Wire.asksFor ip) := by
  rw [requested, passedSince, h, List.length_append, Nat.add_sub_cancel, List.take_left]

/-- What has been broadcast stays broadcast. -/
theorem requested_later (hr : requested ip e e' = true) (h : e.wire <:+ e'.wire) (h' : e'.wire <:+ e''.wire) :
    requested ip e e'' = true := by
  obtain ⟨newer, hn⟩ := h
  obtain ⟨later, hl⟩ := h'
  have hwire : e''.wire = (later ++ newer) ++ e.wire := by rw [← hl, ← hn, List.append_assoc]
  rw [requested_append hn.symm] at hr
  rw [requested_append hwire, List.any_append, hr, Bool.or_true]

/-- The request that is broadcast. -/
theorem wire_clientArpWhohas (ip : Ip) (e : Ether) : (clientArpWhohas ip e).wire =
    .sent (ethernetArp broadcastMac e.cfg.mymac (arp 1 e.cfg.mymac e.cfg.myip noMac ip)) :: e.wire := by
  have hmac : ∀ v : Mac, ∃ a b c d e f, v = #v[a, b, c, d, e, f] := fun v =>
    ⟨v[0], v[1], v[2], v[3], v[4], v[5], by ext i hi; interval_cases i <;> rfl⟩
  have hip : ∀ v : Ip, ∃ a b c d, v = #v[a, b, c, d] := fun v =>
    ⟨v[0], v[1], v[2], v[3], by ext i hi; interval_cases i <;> rfl⟩
  obtain ⟨m₀, m₁, m₂, m₃, m₄, m₅, hm⟩ := hmac e.cfg.mymac
  obtain ⟨s₀, s₁, s₂, s₃, hs⟩ := hip e.cfg.myip
  obtain ⟨i₀, i₁, i₂, i₃, rfl⟩ := hip ip
  simp only [clientArpWhohas, setMACs, packetSend, Ether.copyMac, Ether.copyIp, Ether.put, hm, hs]
  rfl

/-- It asks for its address. -/
theorem asksFor_arp (mac : Mac) (src ip : Ip) :
    (Wire.sent (ethernetArp broadcastMac mac (arp 1 mac src noMac ip))).asksFor ip = true := by
  have hframe : ethernetArp broadcastMac mac (arp 1 mac src noMac ip) =
      (broadcastMac.toList ++ mac.toList) ++ (([ETHTYPE_ARP_H_V, ETHTYPE_ARP_L_V] ++ arpreqhdr) ++
        (mac.toList ++ src.toList ++ noMac.toList ++ ip.toList)) := by
    simp only [ethernetArp, ethernet, arp, arpreqhdr, List.append_assoc, List.cons_append, List.nil_append]
    rfl
  have hdst : (ethernetArp broadcastMac mac (arp 1 mac src noMac ip)).take 6 = broadcastMac.toList := by
    rw [hframe, List.append_assoc]
    exact List.take_left' (by simp)
  have hkind : ((ethernetArp broadcastMac mac (arp 1 mac src noMac ip)).drop ETH_TYPE_H_P).take 10 =
      [ETHTYPE_ARP_H_V, ETHTYPE_ARP_L_V] ++ arpreqhdr := by
    rw [hframe, List.drop_left' (by simp [ETH_TYPE_H_P])]
    exact List.take_left' (by simp [arpreqhdr])
  have haddr : addressAt (ethernetArp broadcastMac mac (arp 1 mac src noMac ip)) ETH_ARP_DST_IP_P = ip := by
    refine addressAt_append (broadcastMac.toList ++ mac.toList ++ [ETHTYPE_ARP_H_V, ETHTYPE_ARP_L_V] ++ ([0, 1,
      ETH_ARP_PROTO_IPV4_H_V, ETH_ARP_PROTO_IPV4_L_V, 6, 4, 0, 1] ++ mac.toList ++ src.toList ++ noMac.toList)) [] ip ?_ ?_
    · simp only [ethernetArp, ethernet, arp, List.append_assoc, List.append_nil]
    · simp [ETH_ARP_DST_IP_P]
  simp only [Wire.asksFor, hdst, hkind, haddr, beq_self_eq_true, Bool.and_self]

/-- A poll without a packet asks for the destination, if the cache is clear of it. -/
theorem Unasked.requested (h : Unasked ip e') (up : Bool) (hl : isLan e' e'.cfg.myip ip = true) (hw : e.wire <:+ e'.wire) :
    requested ip e (packetLoopIdle up e') = true := by
  obtain ⟨g, hg, hsent⟩ := h.asks up hl
  obtain ⟨newer, hn⟩ := hw.trans hg
  rw [wire_clientArpWhohas, ← hn, ← List.cons_append] at hsent
  rw [requested_append hsent, List.any_cons, asksFor_arp, Bool.true_or]

end

/-! ## The network -/

/-- Address and mask are statics. -/
theorem network_of_statics {e e' : Ether} (h : e'.statics = e.statics) : e'.network = e.network := by
  rw [Ether.network, cfg_of_statics h, Ether.network]

/-- Every host of the network is on it. -/
theorem isLan_sweepIp {e : Ether} (hm : e.cfg.netmask = #v[255, 255, 255, 0]) (h0 : e.cfg.myip.get 0 ≠ 0) (i : Nat) :
    isLan e e.cfg.myip (sweepIp e.cfg.myip i) = true := by
  have hfront : ∀ k : Fin 4, k ≠ 3 → (sweepIp e.cfg.myip i).get k = e.cfg.myip.get k := by
    intro k hk
    have hk3 : (3 : Nat) ≠ k.val := fun h => hk (Fin.ext h.symm)
    simp [sweepIp, Vector.get_eq_getElem, hk3]
  have h0' : ¬(e.cfg.myip.get 0 = 0 ∨ (sweepIp e.cfg.myip i).get 0 = 0) := by
    rw [hfront 0 (by decide), or_self]
    exact h0
  rw [isLan, if_neg h0', decide_eq_true_eq]
  intro k
  by_cases hk : k = 3
  · subst hk
    rw [hm]
    change _ &&& 0#8 = _ &&& 0#8
    rw [BitVec.and_zero, BitVec.and_zero]
  · rw [hfront k hk]

/-- An idle round leaves them alone. -/
theorem network_packetLoopIdle (up : Bool) (e : Ether) : (packetLoopIdle up e).network = e.network := by
  rw [Ether.network, cfg_packetLoopIdle, Ether.network]

/-- So does a frame that is classified. -/
theorem network_packetLoopReceived (plen : Nat) (e : Ether) : (packetLoopReceived plen e).1.network = e.network := by
  rw [Ether.network, cfg_packetLoopReceived, Ether.network]

/-- So does what follows the result callback. -/
theorem network_packetLoopAfter (u : Upcall) (e : Ether) : (packetLoopAfter u e).network = e.network := by
  rw [Ether.network, cfg_packetLoopAfter, Ether.network]

/-- So does another destination. -/
theorem network_selectDestAddr (ip : Ip) (e : Ether) : (selectDestAddr ip e).network = e.network := by
  unfold selectDestAddr
  split
  · split <;> rfl
  · rfl

/-! ## A sweep under way -/

/-- The sweeps on the stack, and boot. -/
def sweeps (st : List Act) : List Act := st.filter fun a => match a with | .sweep _ _ => true | .setup _ => true | _ => false

/-- What has begun since the sweep on the stack, the innermost first. -/
def above (st : List Act) : List Act := st.takeWhile fun a => match a with | .sweep _ _ => false | _ => true

/-- The DHCP client has had its turn, and nothing has been noted since. -/
def AtHook (st : List Act) : Prop :=
  match st with
  | .packetLoop _ .offered :: _ => True
  | .packetLoop _ .hook :: _ => True
  | _ => False

/-- What holds during a turn: the address has been asked for, or is about to be. -/
structure Turn.Holds (d : Device) (e : Ether) (t : Turn) : Prop where
  address : ∃ j, t.ip = sweepIp d.ether.cfg.myip j
  asked : t.clear = true → t.idled = true → requested t.ip d.ether e = true
  unasked : t.clear = true → t.idled = false → t.called = false → Unasked t.ip e

/-- The turn of this address is among these, and was disturbed. -/
def Spoilt (turns : List Turn) (ip : Ip) : Prop := ∃ t ∈ turns, t.ip = ip ∧ t.undisturbed = false

/-- What the stack, the cable and the trace say of a sweep that began with device `d`, if the turns that are over by the end are these. -/
structure Asked (d : Device) (turns : List Turn) (st : List Act) (w : World) : Prop where
  awake : ∀ p, Act.setup p ∉ sweeps st
  network : AtHook st ∨ w.dev.ether.network = d.ether.network
  grown : d.ether.wire <:+ w.dev.ether.wire
  calling : ∀ k, Act.api k .calling ∈ above st → ∀ t, turn w.trace = some t → t.called = true
  under : ∀ t, turn w.trace = some t → sweeps st ≠ []
  holds : ∀ t, turn w.trace = some t → t.Holds d w.dev.ether
  progress : ∀ base next, Act.sweep base next ∈ sweeps st → base = d.ether.cfg.myip ∧
    ∀ j, 1 ≤ j → j < next → sweepIp base j ≠ base → requested (sweepIp base j) d.ether w.dev.ether = true ∨
      (∃ t, turn w.trace = some t ∧ t.ip = sweepIp base j) ∨ Spoilt turns (sweepIp base j)

section

variable {d : Device} {turns : List Turn} {st st' : List Act} {w w' : World}

/-- What a turn has come to stays so while the cable grows. -/
theorem Turn.Holds.later {e e' : Ether} {t : Turn} (h : t.Holds d e) (hg : d.ether.wire <:+ e.wire) (hg' : e.wire <:+ e'.wire)
    (hu : Unasked t.ip e → Unasked t.ip e') : t.Holds d e' where
  address := h.address
  asked := fun hc hi => requested_later (h.asked hc hi) hg hg'
  unasked := fun hc hi hn => hu (h.unasked hc hi hn)

/-- A step in the same turn of the same sweep. -/
theorem Asked.turned {f : Turn → Turn} (h : Asked d turns st w) (hst : sweeps st' = sweeps st)
    (hn : AtHook st' ∨ w'.dev.ether.network = d.ether.network) (hg : w.dev.ether.wire <:+ w'.dev.ether.wire)
    (hc : ∀ k, Act.api k .calling ∈ above st' → ∀ t, turn w'.trace = some t → t.called = true)
    (ht : turn w'.trace = (turn w.trace).map f) (hf : ∀ t, (f t).ip = t.ip)
    (hh : ∀ t, turn w.trace = some t → t.Holds d w.dev.ether → (f t).Holds d w'.dev.ether) : Asked d turns st' w' where
  awake := by rw [hst]; exact h.awake
  network := hn
  grown := h.grown.trans hg
  calling := hc
  under := fun t' ht' => by
    rw [ht] at ht'
    obtain ⟨t, hw, _⟩ := Option.map_eq_some_iff.mp ht'
    rw [hst]
    exact h.under t hw
  holds := fun t' ht' => by
    rw [ht] at ht'
    obtain ⟨t, hw, rfl⟩ := Option.map_eq_some_iff.mp ht'
    exact hh t hw (h.holds t hw)
  progress := fun base next hm => by
    rw [hst] at hm
    obtain ⟨hb, hp⟩ := h.progress base next hm
    refine ⟨hb, fun j h1 hj hne => ?_⟩
    rcases hp j h1 hj hne with hr | ⟨t, hw, hip⟩ | hs
    · exact Or.inl (requested_later hr h.grown hg)
    · exact Or.inr (Or.inl ⟨f t, by rw [ht, hw]; rfl, (hf t).trans hip⟩)
    · exact Or.inr (Or.inr hs)

/-- A step that leaves the turn as it was. -/
theorem Asked.move (h : Asked d turns st w) (hst : sweeps st' = sweeps st) (hn : AtHook st' ∨ w'.dev.ether.network = d.ether.network)
    (hg : w.dev.ether.wire <:+ w'.dev.ether.wire) (hc : ∀ k, Act.api k .calling ∈ above st' → Act.api k .calling ∈ above st)
    (ht : turn w'.trace = turn w.trace) (hu : ∀ ip, Unasked ip w.dev.ether → Unasked ip w'.dev.ether) : Asked d turns st' w' :=
  h.turned (f := id) hst hn hg (fun k hk t htt => h.calling k (hc k hk) t (ht ▸ htt)) (by rw [ht, Option.map_id_fun, id])
    (fun _ => rfl) fun t _ htt => htt.later h.grown hg (hu t.ip)

/-- The same on the same stack. -/
theorem Asked.same (h : Asked d turns st w) (hn : w'.dev.ether.network = w.dev.ether.network) (hg : w.dev.ether.wire <:+ w'.dev.ether.wire)
    (ht : turn w'.trace = turn w.trace) (hu : ∀ ip, Unasked ip w.dev.ether → Unasked ip w'.dev.ether) : Asked d turns st w' :=
  h.turned (f := id) rfl (h.network.imp_right hn.trans) hg (by rw [ht]; exact h.calling) (by rw [ht, Option.map_id_fun, id])
    (fun _ => rfl) fun t _ htt => htt.later h.grown hg (hu t.ip)

/-- A step that leaves the library in a given state. -/
theorem Asked.library {e' : Ether} (h : Asked d turns st w) (he : w'.dev.ether = e') (hst : sweeps st' = sweeps st)
    (hn : AtHook st' ∨ e'.network = d.ether.network) (hg : w.dev.ether.wire <:+ e'.wire)
    (hc : ∀ k, Act.api k .calling ∈ above st' → Act.api k .calling ∈ above st) (ht : turn w'.trace = turn w.trace)
    (hu : ∀ ip, Unasked ip w.dev.ether → Unasked ip e') : Asked d turns st' w' := by
  subst he
  exact h.move hst hn hg hc ht hu

/-- A step of the library within a turn. -/
theorem Asked.net {note : Option Event} {f : Ether → Ether} (h : Asked d turns st w) (hst : sweeps st' = sweeps st)
    (hn : AtHook st' ∨ (f w.dev.ether).network = d.ether.network) (hg : w.dev.ether.wire <:+ (f w.dev.ether).wire)
    (hc : ∀ k, Act.api k .calling ∈ above st' → Act.api k .calling ∈ above st) (ht : turn (w.note note).trace = turn w.trace)
    (hu : ∀ ip, Unasked ip w.dev.ether → Unasked ip (f w.dev.ether)) :
    Asked d turns st' ((w.note note).update (Device.net f)) :=
  h.library (by rw [update_dev, net_ether, note_dev]) hst hn hg hc ht hu

/-- Away from the hook the lease is as it was. -/
theorem Asked.off (h : Asked d turns st w) (hoff : ¬AtHook st) : w.dev.ether.network = d.ether.network := h.network.resolve_left hoff

/-- The lease is address and mask. -/
theorem network_of_leased {d' : Device} (h : leased d d' = true) :
    d'.ether.network = d.ether.network := by
  rw [leased, beq_iff_eq] at h
  exact h

/-- A turn that is over stays so. -/
theorem overTurns_suffix {tr tr' : Trace} (h : tr <:+ tr') : overTurns tr ⊆ overTurns tr' := by
  obtain ⟨later, rfl⟩ := h
  induction later with
  | nil => exact List.Subset.refl _
  | cons x later ih =>
    rw [List.cons_append, overTurns]
    split
    · exact List.Subset.trans ih (List.subset_append_right _ _)
    · exact ih

/-- With the event that ends it, an address has been asked for, or its turn was disturbed. -/
theorem Asked.ended {ev : Event} {past : Trace} (h : Asked d turns st w) (he : ev.endsTurn = true) (hp : past = w.trace)
    (ho : overTurns ((ev, w.dev) :: past) ⊆ turns) {base : Ip} {next : Nat} (hmem : Act.sweep base next ∈ sweeps st) {j : Nat} (h1 : 1 ≤ j)
    (hj : j < next) (hne : sweepIp base j ≠ base) :
    requested (sweepIp base j) d.ether w.dev.ether = true ∨ Spoilt turns (sweepIp base j) := by
  subst hp
  rcases (h.progress base next hmem).2 j h1 hj hne with hr | ⟨t, ht, hip⟩ | hs
  · exact Or.inl hr
  · cases hu : t.undisturbed with
    | true =>
      rw [Turn.undisturbed, Bool.and_eq_true] at hu
      rw [← hip]
      exact Or.inl ((h.holds t ht).asked hu.1 hu.2)
    | false =>
      refine Or.inr ⟨t, ho ?_, hip, hu⟩
      rw [overTurns, if_pos he, ht]
      exact List.mem_append_left _ (List.mem_singleton.mpr rfl)
  · exact Or.inr hs

/-- The sweep has the device's address, and every host of the network is on it. -/
theorem isLan_of_network (hm : d.ether.cfg.netmask = #v[255, 255, 255, 0]) (h0 : d.ether.cfg.myip.get 0 ≠ 0) {e : Ether}
    (hn : e.network = d.ether.network) (j : Nat) : isLan e e.cfg.myip (sweepIp d.ether.cfg.myip j) = true := by
  have hip : e.cfg.myip = d.ether.cfg.myip := congrArg (·.1) hn
  have hmask : e.cfg.netmask = d.ether.cfg.netmask := congrArg (·.2) hn
  rw [← hip]
  exact isLan_sweepIp (hmask.trans hm) (hip ▸ h0) j

/-! ## One step -/

/-- A poll without a packet. -/
theorem Turn.Holds.idle (hm : d.ether.cfg.netmask = #v[255, 255, 255, 0]) (h0 : d.ether.cfg.myip.get 0 ≠ 0) {e : Ether} {t : Turn}
    (h : t.Holds d e) (hn : e.network = d.ether.network) (hg : d.ether.wire <:+ e.wire) (up : Bool) :
    ({ t with idled := t.idled || !t.called } : Turn).Holds d (packetLoopIdle up e) where
  address := h.address
  asked := fun hc hi => by
    cases hidled : t.idled with
    | true => exact requested_later (h.asked hc hidled) hg (sends_packetLoopIdle e up)
    | false =>
      have hcalled : t.called = false := by simpa [hidled] using hi
      obtain ⟨j, hj⟩ := h.address
      have hlan : isLan e e.cfg.myip t.ip = true := by rw [hj]; exact isLan_of_network hm h0 hn j
      exact (h.unasked hc hidled hcalled).requested up hlan hg
  unasked := fun _ hi hcalled => by
    simp only [Bool.or_eq_false_iff, Bool.not_eq_false'] at hi
    exact absurd (hi.2.symm.trans hcalled) nofun

/-- An idle round asks for the turn's address, if no one else is to be asked for. -/
theorem Asked.idle (hm : d.ether.cfg.netmask = #v[255, 255, 255, 0]) (h0 : d.ether.cfg.myip.get 0 ≠ 0) {rest : List Act} {up : Bool}
    (h : Asked d turns (.packetLoop 0 .offered :: rest) w) (hn : w.dev.ether.network = d.ether.network) :
    Asked d turns (.packetLoop 0 .fin :: rest) ((w.emit (.idle up)).update (Device.net (packetLoopIdle up))) := by
  have ht : turn ((w.emit (.idle up)).update (Device.net (packetLoopIdle up))).trace =
      (turn w.trace).map fun t => { t with idled := t.idled || !t.called } := by
    rw [update_trace, emit_trace, turn]
  have he : ((w.emit (.idle up)).update (Device.net (packetLoopIdle up))).dev.ether = packetLoopIdle up w.dev.ether := by
    rw [update_dev, net_ether, emit_dev]
  refine h.turned rfl (Or.inr ?_) ?_ (fun k hk => ?_) ht (fun _ => rfl) fun t _ htt => ?_
  · rw [he, network_packetLoopIdle, hn]
  · rw [he]
    exact sends_packetLoopIdle w.dev.ether up
  · intro t' ht'
    rw [ht] at ht'
    obtain ⟨t, htt, rfl⟩ := Option.map_eq_some_iff.mp ht'
    exact h.calling k (by simpa [above] using hk) t htt
  · rw [he]
    exact htt.idle hm h0 hn h.grown up

/-- The next address's turn. -/
theorem Asked.probe (hm : d.ether.cfg.netmask = #v[255, 255, 255, 0]) (h0 : d.ether.cfg.myip.get 0 ≠ 0) {base : Ip} {next : Nat}
    {rest : List Act} (h : Asked d turns (.sweep base next :: rest) w)
    (ho : overTurns ((.probe (sweepIp base next), w.dev) :: w.trace) ⊆ turns) :
    Asked d turns (.sweep base (next + 1) :: rest)
      ((w.emit (.probe (sweepIp base next))).update (Device.net (selectDestAddr (sweepIp base next)))) := by
  have hbase := (h.progress base next (by simp [sweeps])).1
  have hwire : ((w.emit (.probe (sweepIp base next))).update (Device.net (selectDestAddr (sweepIp base next)))).dev.ether.wire =
      w.dev.ether.wire := wire_selectDestAddr w.dev.ether _
  have hnet := h.off id
  -- the turn before it is over
  have hover : ∀ {b : Ip} {n : Nat}, Act.sweep b n ∈ sweeps (.sweep base next :: rest) → ∀ j, 1 ≤ j → j < n → sweepIp b j ≠ b →
      requested (sweepIp b j) d.ether (selectDestAddr (sweepIp base next) w.dev.ether) = true ∨ Spoilt turns (sweepIp b j) :=
    fun hmem j h1 hj hne => (h.ended rfl rfl ho hmem h1 hj hne).imp_left fun hr =>
      requested_later hr h.grown (by rw [wire_selectDestAddr])
  refine ⟨by simpa [sweeps] using h.awake, Or.inr ((network_selectDestAddr _ _).trans hnet), by rw [hwire]; exact h.grown,
    by simp [above], by simp [sweeps], fun t ht => ?_, fun b n hmem => ?_⟩
  · cases ht
    refine ⟨⟨next, by rw [hbase]⟩, nofun, fun hc _ _ => ?_⟩
    have hlan := isLan_of_network hm h0 hnet next
    rw [← hbase] at hlan
    refine Unasked.select hlan ?_
    exact Turn.clear_iff.mp hc
  · rcases List.mem_cons.mp hmem with heq | hrest
    · cases heq
      refine ⟨hbase, fun j h1 hj hne => ?_⟩
      rcases Nat.lt_succ_iff_lt_or_eq.mp hj with hlt | rfl
      · exact (hover (by simp [sweeps]) j h1 hlt hne).imp_right Or.inr
      · exact Or.inr (Or.inl ⟨_, rfl, rfl⟩)
    · have hmem' : Act.sweep b n ∈ sweeps (.sweep base next :: rest) := List.mem_cons_of_mem _ hrest
      exact ⟨(h.progress b n hmem').1, fun j h1 hj hne => (hover hmem' j h1 hj hne).imp_right Or.inr⟩

/-- A message takes nothing back from the cable. -/
theorem sends_syslogF (msg : List Byte) (e : Ether) : e.wire <:+ (syslogF msg e).wire := sends_sendUdp e _ _ _ _ _

/-- The steps of the library keep it, an idle round and a probe among them. -/
theorem NetStep.asked (hm : d.ether.cfg.netmask = #v[255, 255, 255, 0]) (h0 : d.ether.cfg.myip.get 0 ≠ 0) {note : Option Event}
    {f : Ether → Ether} (hn : NetStep st w.dev note f st') (h : Asked d turns st w)
    (hu : ∀ ev, note = some ev → leased d w.dev = true ∧ overTurns ((ev, w.dev) :: w.trace) ⊆ turns) :
    Asked d turns st' ((w.note note).update (Device.net f)) := by
  have hnone : sweeps st = [] → ∀ t, turn w.trace ≠ some t := fun hs t ht => h.under t ht hs
  cases hn with
  | log msg =>
    have he : (w.update (Device.net (syslogF msg))).dev.ether = syslogF msg w.dev.ether := by rw [update_dev, net_ether]
    refine h.same ?_ ?_ rfl fun ip hi => ?_
    · exact (congrArg Ether.network he).trans (network_of_statics (statics_syslogF msg w.dev.ether))
    · exact he ▸ sends_syslogF msg w.dev.ether
    · exact he ▸ hi.of_statics (statics_syslogF msg w.dev.ether)
  | dhcp plen t₁ t₂ =>
    exact h.net rfl (Or.inl trivial) (sends_dhcpStateMachine w.dev.ether t₁ t₂ plen) (by simp [above]) rfl
      fun ip hi => hi.of_entry (entry_dhcpStateMachine w.dev.ether t₁ t₂ plen)
  | idle up => exact h.idle hm h0 (network_of_leased (hu _ rfl).1)
  | @ret plen pos =>
    exact h.net rfl (Or.inr ((network_packetLoopReceived plen w.dev.ether).trans (h.off id)))
      (sends_packetLoopReceived w.dev.ether plen) (by simp [above]) rfl fun ip hi => hi.received plen
  | @upcall plen =>
    exact h.net rfl (Or.inr ((network_packetLoopReceived plen w.dev.ether).trans (h.off id)))
      (sends_packetLoopReceived w.dev.ether plen) (by simp [above]) rfl fun ip hi => hi.received plen
  | close plen u =>
    exact h.net rfl (Or.inr ((network_packetLoopAfter u w.dev.ether).trans (h.off id))) (sends_packetLoopAfter w.dev.ether u)
      (by simp [above]) rfl fun ip hi => hi.of_entry (entry_packetLoopAfter w.dev.ether u)
  | browse k =>
    -- the call takes the destination away, and the turn is marked by it
    refine h.turned (f := id) rfl (Or.inr (h.off id)) List.suffix_rfl (fun k' hk' => h.calling k' ?_)
      (by rw [Option.map_id_fun, id]; rfl) (fun _ => rfl) fun t ht htt => ?_
    · exact List.mem_cons_of_mem _ ((List.mem_cons.mp hk').resolve_left nofun)
    have hcalled := h.calling k List.mem_cons_self t ht
    exact ⟨htt.address, htt.asked, fun _ _ hn => absurd (hcalled.symm.trans hn) nofun⟩
  | probe => exact h.probe hm h0 (hu _ rfl).2
  | ping =>
    exact h.turned (f := id) rfl (Or.inr (h.off id)) List.suffix_rfl (by simp [above])
      (by rw [Option.map_id_fun, id]; rfl) (fun _ => rfl) fun t ht => absurd ht (hnone rfl t)
  | icmp =>
    exact h.net rfl (Or.inr ((network_of_statics (statics_clientIcmpRequest w.dev.ether w.dev.targetIp)).trans (h.off id)))
      (sends_clientIcmpRequest w.dev.ether w.dev.targetIp) (by simp [above]) rfl
      fun ip hi => hi.of_statics (statics_clientIcmpRequest w.dev.ether w.dev.targetIp)
  | boot => exact absurd List.mem_cons_self (h.awake _)

/-- The steps of the stack keep it. -/
theorem CtrlStep.asked (hc : CtrlStep st w.dev st') (h : Asked d turns st w) : Asked d turns st' w := by
  cases hc with
  | noDhcp => exact h.move rfl (Or.inl trivial) List.suffix_rfl (by simp [above]) rfl fun _ => id
  | unheard => exact h.move rfl (Or.inl trivial) List.suffix_rfl (by simp [above]) rfl fun _ => id
  | @skip base next _ rest _ hown =>
    refine ⟨by simpa [sweeps] using h.awake, Or.inr (h.off id), h.grown, by simp [above], by simp [sweeps], h.holds, fun b n hmem => ?_⟩
    rcases List.mem_cons.mp hmem with heq | hrest
    · cases heq
      obtain ⟨hbase, hp⟩ := h.progress base next (by simp [sweeps])
      refine ⟨hbase, fun j h1 hj hne => ?_⟩
      rcases Nat.lt_succ_iff_lt_or_eq.mp hj with hlt | rfl
      · exact hp j h1 hlt hne
      · have hip : w.dev.ether.cfg.myip = d.ether.cfg.myip := congrArg (·.1) (h.off id)
        exact absurd (hown.trans (hip.trans hbase.symm)) hne
    · exact h.progress b n (List.mem_cons_of_mem _ hrest)
  | _ => exact h.move rfl (Or.inr (h.off id)) List.suffix_rfl (by simp [above]) rfl fun _ => id

/-- Between two turns: no sweep is on the stack, or it has just begun. -/
theorem asked_between (hn : w'.dev.ether.network = d.ether.network) (hg : d.ether.wire <:+ w'.dev.ether.wire)
    (ht : turn w'.trace = none) (ha : ∀ p, Act.setup p ∉ sweeps st')
    (hs : ∀ base next, Act.sweep base next ∈ sweeps st' → base = d.ether.cfg.myip ∧ next = 1) : Asked d turns st' w' where
  awake := ha
  network := Or.inr hn
  grown := hg
  calling := fun _ _ t h => absurd (ht.symm.trans h) nofun
  under := fun t h => absurd (ht.symm.trans h) nofun
  holds := fun t h => absurd (ht.symm.trans h) nofun
  progress := fun base next hm => ⟨(hs base next hm).1, fun j h1 hj => by rw [(hs base next hm).2] at hj; omega⟩

/-- A server call begins: the turn is marked by it. -/
theorem Asked.enter {k : Api} (h : Asked d turns st w) (hst : sweeps st' = sweeps st) (hn : w.dev.ether.network = d.ether.network) :
    Asked d turns (.api k .calling :: st') (w.emit (.enter (.api k))) := by
  have ht : turn (w.emit (.enter (.api k))).trace = (turn w.trace).map fun t => { t with called := true } := by
    rw [emit_trace, turn]
  refine h.turned hst (Or.inr hn) List.suffix_rfl (fun k' _ t' ht' => ?_) ht (fun _ => rfl) fun t _ htt => ?_
  · rw [ht] at ht'
    obtain ⟨t, _, rfl⟩ := Option.map_eq_some_iff.mp ht'
    rfl
  · exact ⟨htt.address, htt.asked, fun _ _ hcalled => absurd hcalled nofun⟩

/-- What is noted keeps it. -/
theorem MarkStep.asked {ev : Event} (hs : MarkStep st w.dev ev st') (h : Asked d turns st w)
    (hu : leased d w.dev = true) : Asked d turns st' (w.emit ev) := by
  have hn := network_of_leased hu
  have hip : w.dev.ether.cfg.myip = d.ether.cfg.myip := congrArg (·.1) hn
  cases hs with
  | wdtReset => exact h.same rfl List.suffix_rfl rfl fun _ => id
  | compared => exact h.same rfl List.suffix_rfl rfl fun _ => id
  | ignored => exact h.move rfl (Or.inl trivial) List.suffix_rfl (by simp [above]) rfl fun _ => id
  | hooked => exact h.move rfl (Or.inr hn) List.suffix_rfl (by simp [above]) rfl fun _ => id
  | abort hc =>
    cases hc with
    | targetMac => exact absurd List.mem_cons_self (h.awake _)
    | bootState => exact absurd List.mem_cons_self (h.awake _)
    | _ => exact h.move rfl (Or.inr hn) List.suffix_rfl (by simp [above]) rfl fun _ => id
  | enter hc =>
    cases hc with
    | targetMac => exact absurd List.mem_cons_self (h.awake _)
    | bootState => exact absurd List.mem_cons_self (h.awake _)
    | _ => exact h.enter rfl hn
  | leave => exact h.move rfl (Or.inr hn) List.suffix_rfl (by simp [above]) rfl fun _ => id
  | polled => exact h.move rfl (Or.inr hn) List.suffix_rfl (by simp [above]) rfl fun _ => id
  | loopBegin => exact h.move rfl (Or.inr hn) List.suffix_rfl (by simp [above]) rfl fun _ => id
  | loopEnd => exact h.move rfl (Or.inr hn) List.suffix_rfl (by simp [above]) rfl fun _ => id
  | setupEnd => exact absurd List.mem_cons_self (h.awake _)
  | sweepBegin => exact asked_between hn h.grown rfl (by simp [sweeps]) (by simpa [sweeps] using hip)
  | lastDitchBegin => exact asked_between hn h.grown rfl (by simp [sweeps]) (by simpa [sweeps] using hip)
  | sweepEnd => exact asked_between hn h.grown rfl (by simp [sweeps]) (by simp [sweeps])
  | lastDitchEnd => exact asked_between hn h.grown rfl (by simp [sweeps]) (by simp [sweeps])

/-- A parse callback takes nothing back from the cable. -/
theorem sends_browserCallback (cb : BrowserCallback) (buf : Nat) (status : Byte) (off len : Nat) (d : Device) :
    d.ether.wire <:+ (browserCallback cb buf status off len d).ether.wire := by
  cases cb with
  | macsParse =>
    simp only [browserCallback, macsParseCallback, snifferListenForMac]
    split <;> exact List.suffix_rfl
  | stateParse =>
    simp only [browserCallback, stateParseCallback]
    split
    · exact List.suffix_rfl
    · exact sends_syslogF _ _
  | apiSet => exact List.suffix_rfl

/-- Each step keeps it. -/
theorem Step.asked (hm : d.ether.cfg.netmask = #v[255, 255, 255, 0]) (h0 : d.ether.cfg.myip.get 0 ≠ 0) (hs : Step st w st' w')
    (hu : Always (fun _ d' _ => leased d d' = true) w'.trace) (ho : overTurns w'.trace ⊆ turns) (h : Asked d turns st w) :
    Asked d turns st' w' := by
  cases hs with
  | tick => exact h.same rfl List.suffix_rfl rfl fun _ => id
  | @net _ _ _ note _ hn =>
    refine hn.asked hm h0 h fun ev he => ?_
    subst he
    exact ⟨hu.1, ho⟩
  | ctrl hc => exact hc.asked h
  | mark hs => exact hs.asked h hu.1
  | timer ht => cases ht with
    | bootPinger => exact absurd List.mem_cons_self (h.awake _)
    | bootAbsense => exact absurd List.mem_cons_self (h.awake _)
    | bootPingsweep => exact absurd List.mem_cons_self (h.awake _)
    | bootSync => exact absurd List.mem_cons_self (h.awake _)
    | _ => exact h.move rfl (Or.inr (h.off id)) List.suffix_rfl (by simp [above]) rfl fun _ => id
  | poll a hp =>
    have hst := statics_packetReceiveInto w.dev.ether a
    have hoff : ¬AtHook st := by cases hp <;> exact id
    exact h.library (by simp only [emit_dev, update_dev, net_ether]) rfl
      (Or.inr ((network_of_statics hst).trans (h.off hoff))) (sends_packetReceiveInto w.dev.ether a) (by simp [above]) rfl
      fun ip hi => hi.of_statics hst
  | receive => exact absurd List.mem_cons_self (h.awake _)
  | sniff =>
    exact h.move rfl (Or.inr (network_of_leased hu.1)) List.suffix_rfl (by simp [above]) rfl fun _ => id
  | toggleOn => exact h.move rfl (Or.inr (h.off id)) List.suffix_rfl (by simp [above]) rfl fun _ => id
  | toggleOff => exact h.move rfl (Or.inr (h.off id)) List.suffix_rfl (by simp [above]) rfl fun _ => id
  | learn => exact h.same rfl List.suffix_rfl rfl fun _ => id
  | unsniff => exact h.move rfl (Or.inr (h.off id)) List.suffix_rfl (by simp [above]) rfl fun _ => id
  | @requested plen =>
    exact h.library (by simp only [emit_dev, update_dev, net_ether]) rfl
      (Or.inr ((network_packetLoopReceived plen w.dev.ether).trans (h.off id))) (sends_packetLoopReceived w.dev.ether plen)
      (by simp [above]) rfl fun ip hi => hi.received plen
  | @parse plen u status off len cb _ buf =>
    have hst := browserCallback_statics cb buf status off len w.dev
    exact h.library (by simp only [emit_dev, update_dev]) rfl (Or.inr ((network_of_statics hst).trans (h.off id)))
      (sends_browserCallback cb buf status off len w.dev) (by simp [above]) rfl fun ip hi => hi.of_statics hst
  | lock => exact h.move rfl (Or.inr (h.off id)) List.suffix_rfl (by simp [above]) rfl fun _ => id
  | forget => exact h.move rfl (Or.inr (h.off id)) List.suffix_rfl (by simp [above]) rfl fun _ => id
  | bootApiIp => exact absurd List.mem_cons_self (h.awake _)

/-! ## From a given device -/

/-- Where a sweep begins: in `loop`, with nothing noted. -/
def SweepFrom (d : Device) (st : List Act) (w : World) : Prop := st = [.loop] ∧ w = ⟨d, []⟩

/-- Every sweep goes through configurations that can be reached from its start. -/
theorem runSweep_reached (d : Device) (tape : List Input) : Reached (SweepFrom d) (runSweep d tape) := by
  have h : Triple (Reach (SweepFrom d) [.loop]) pingSweep (fun _ => Reach (SweepFrom d) [.loop]) (Reached (SweepFrom d)) :=
    pingSweep_reach .sweepBegin .sweepEnd
  exact h.state_of (.init ⟨rfl, rfl⟩) tape (fun _ _ h' => h'.reached) fun _ h' => h'

/-- So it holds wherever a sweep has got. -/
theorem Reach.asked (hm : d.ether.cfg.netmask = #v[255, 255, 255, 0]) (h0 : d.ether.cfg.myip.get 0 ≠ 0)
    (h : Reach (SweepFrom d) st w) : Always (fun _ d' _ => leased d d' = true) w.trace → overTurns w.trace ⊆ turns →
      Asked d turns st w := by
  refine h.invariant (P := fun st w => Always (fun _ d' _ => leased d d' = true) w.trace → overTurns w.trace ⊆ turns →
    Asked d turns st w) ?_ fun st w st' w' _ ih hs hu ho => ?_
  · rintro st w ⟨rfl, rfl⟩ _ _
    have hs : sweeps [.loop] = [] := rfl
    exact asked_between rfl List.suffix_rfl rfl (by rw [hs]; simp) (by rw [hs]; simp)
  · have hbefore := hu.of_suffix hs.trace_suffix
    exact hs.asked hm h0 hu ho (ih hbefore (List.Subset.trans (overTurns_suffix hs.trace_suffix) ho))

end

/-- When the probe for an octet comes, the octets below it have had their turn. -/
theorem turnsOver_probe (base : Ip) {next : Nat} (h : next < 255) : turnsOver (.probe (sweepIp base next)) = next := by
  have hget : (sweepIp base next).get 3 = (sweepIp base next)[3] := rfl
  have hlast : (sweepIp base next).get 3 = BitVec.ofNat 8 next := by rw [hget, sweepIp, Vector.getElem_set_self]
  change ((sweepIp base next).get 3).toNat = next
  rw [hlast, BitVec.toNat_ofNat]
  omega

/-- In every run of a sweep, from any device on a network of 254 hosts, whatever its cache holds: while the lease is as it was, every
host whose turn is over and was not disturbed has been asked for, but for the device itself, whatever the other turns were like. -/
theorem sweep_probes (d : Device) (hm : d.ether.cfg.netmask = #v[255, 255, 255, 0]) (h0 : d.ether.cfg.myip.get 0 ≠ 0)
    (tape : List Input) :
    Always (fun ev d' past => Always (fun _ d' _ => leased d d' = true) ((ev, d') :: past) →
      ∀ j < turnsOver ev, 0 < j → sweepIp d.ether.cfg.myip j ≠ d.ether.cfg.myip →
        (∀ t ∈ overTurns ((ev, d') :: past), t.ip = sweepIp d.ether.cfg.myip j → t.undisturbed = true) →
          requested (sweepIp d.ether.cfg.myip j) d.ether d'.ether = true) (runSweep d tape).trace := by
  obtain ⟨st, hr⟩ := runSweep_reached d tape
  refine hr.always ?_ fun st w ev d' past hr hn => ?_
  · rintro st w ⟨rfl, rfl⟩
    trivial
  intro hu j hj h1 hne hkept
  -- at the end of a turn, every address up to this one has been asked for, or its turn was disturbed
  have hover : ∀ {base next}, past = w.trace → d' = w.dev → ev.endsTurn = true → Act.sweep base next ∈ sweeps st → j < next →
      requested (sweepIp d.ether.cfg.myip j) d.ether d'.ether = true := by
    rintro base next rfl rfl he hmem hlt
    have h : Asked d (overTurns ((ev, w.dev) :: w.trace)) st w := hr.asked hm h0 hu.2 (overTurns_suffix (List.suffix_cons _ _))
    obtain ⟨rfl, -⟩ := h.progress base next hmem
    refine (h.ended he rfl (List.Subset.refl _) hmem h1 hlt hne).resolve_right fun hs => ?_
    obtain ⟨t, ht, hip, hspoilt⟩ := hs
    rw [hkept t ht hip] at hspoilt
    cases hspoilt
  cases hn with
  | net hn => cases hn with
    | probe _ hlt =>
      rw [turnsOver_probe _ hlt] at hj
      exact hover rfl rfl rfl List.mem_cons_self hj
    | _ => exact absurd hj (Nat.not_lt_zero j)
  | mark hs => cases hs with
    | sweepEnd base => exact hover rfl rfl rfl List.mem_cons_self hj
    | lastDitchEnd base => exact hover rfl rfl rfl List.mem_cons_self hj
    | _ => exact absurd hj (Nat.not_lt_zero j)
  | _ => exact absurd hj (Nat.not_lt_zero j)

/-- A device on the network, with nothing in its cache. -/
def networked : Device :=
  { powerOn blank blank with
    ether := { etherStatics with cfg := { etherStatics.cfg with mymac := myMac, myip := houseIp, netmask := #v[255, 255, 255, 0] } } }

/-- The first turn of a sweep, with the phone's datagram at its only poll, and the begin of the next. -/
def crowdedTurn : List Input := silence 2 ++ arrives phoneDatagram ++ passes 5 ++ silence 1

/-- The same with no packet there. -/
def quietTurn : List Input := silence 4 ++ passes 5 ++ silence 1

set_option maxRecDepth 10000 in
/-- The sweep goes on to the second host without having asked for the first. -/
theorem crowdedTurn_unasked : ¬∀ (d : Device), d.ether.cfg.netmask = #v[255, 255, 255, 0] → d.ether.cfg.myip.get 0 ≠ 0 →
    ∀ tape : List Input, Always (fun ev d' _ => ∀ j < turnsOver ev, 0 < j → sweepIp d.ether.cfg.myip j ≠ d.ether.cfg.myip →
      requested (sweepIp d.ether.cfg.myip j) d.ether d'.ether = true) (runSweep d tape).trace := by
  have hrun : ¬Always (fun ev d' _ => ∀ j < turnsOver ev, 0 < j → sweepIp networked.ether.cfg.myip j ≠ networked.ether.cfg.myip →
      requested (sweepIp networked.ether.cfg.myip j) networked.ether d'.ether = true) (runSweep networked crowdedTurn).trace := by
    decide +kernel
  exact fun h => hrun (h networked rfl (by decide) crowdedTurn)

set_option maxRecDepth 10000 in
/-- A quiet turn and then a crowded one: the first host has been asked for, and the sweep goes on to a third. -/
theorem sweep_probes_quiet :
    Sometimes (fun ev d' past => ev = .probe (sweepIp houseIp 4) ∧ (overTurns ((ev, d') :: past)).any (fun t => !t.undisturbed) = true ∧
      requested (sweepIp houseIp 1) networked.ether d'.ether = true) (runSweep networked (quietTurn ++ crowdedTurn.tail)).trace := by
  have hmet : Sometimes (fun ev d' past => ev = .probe (sweepIp houseIp 4) ∧
      (overTurns ((ev, d') :: past)).any (fun t => !t.undisturbed) = true ∧
      Always (fun _ d' _ => leased networked d' = true) ((ev, d') :: past) ∧
      ∀ t ∈ overTurns ((ev, d') :: past), t.ip = sweepIp houseIp 1 → t.undisturbed = true)
      (runSweep networked (quietTurn ++ crowdedTurn.tail)).trace := by decide +kernel
  refine ((sweep_probes networked rfl (by decide) (quietTurn ++ crowdedTurn.tail)).sometimes hmet).mono fun ev d' past h => ?_
  obtain ⟨⟨hev, hspoilt, hleased, hkept⟩, hprobes⟩ := h
  exact ⟨hev, hspoilt, hprobes hleased 1 (by rw [hev]; decide) (by decide) (by decide) hkept⟩

end EtherHouse
