import EtherHouse.Net.LinkCache
import EtherHouse.Theorems.Syn

/-!
# Where a SYN goes

The link address on the SYN that opens a server call's connection: the gateway's, or, where the server is on the local network, what
the ARP cache holds. Four writers share that one entry, and the gateway can change before its address does: here is whose the two are.
-/

namespace EtherHouse

/-! ## ARP messages -/

/-- Who sent an ARP message: the protocol address and the link address. -/
def arpSender (frame : List Byte) : Option (Ip × Mac) :=
  if ETH_ARP_DST_MAC_P ≤ frame.length ∧ frame.getD ETH_TYPE_H_P 0 = ETHTYPE_ARP_H_V ∧ frame.getD ETH_TYPE_L_P 0 = ETHTYPE_ARP_L_V then
    some (addressAt frame ETH_ARP_SRC_IP_P, linkAt frame ETH_ARP_SRC_MAC_P)
  else none

/-- An ARP message of this sender was received. -/
def heardFrom (sender : Ip × Mac) : Trace → Bool
  | [] => false
  | (.received a, _) :: past => arpSender (delivered a) == some sender || heardFrom sender past
  | _ :: past => heardFrom sender past

/-- The frame that the innermost packet loop was given. -/
def loopFrame (past : Trace) : List Byte := ((openLoops past).head?.map (·.1)).getD []

/-- Who sent the ARP message that a packet loop reads, if the buffer still holds that as it was received: a request has been overwritten
with its answer. -/
def messageOwner (plen : Nat) (d : Device) (past : Trace) : Option Ip :=
  if d.ether.buffer.slice 0 plen = loopFrame past ∧ d.ether.gPB ETH_ARP_OPCODE_L_P ≠ ETH_ARP_OPCODE_REQ_L_V then
    some (d.ether.buffer.ip ETH_ARP_SRC_IP_P)
  else none

/-- Whose link address the cache holds: the sender's of the ARP message that it was taken from; no one's, if it was forced or has never
been set. -/
def cacheOwner : Trace → Option Ip
  | [] => none
  | (.pinged, _) :: _ => none
  | (.classify plen, d) :: past => if fillsCache d.ether plen then messageOwner plen d past else cacheOwner past
  | _ :: past => cacheOwner past

/-- Whose link address is held for the gateway: the sender's of the reply that it was taken from, whatever the gateway is now. -/
def gatewayOwner : Trace → Option Ip
  | [] => none
  | (.classify plen, d) :: past => if fillsGateway d.ether plen then messageOwner plen d past else gatewayOwner past
  | _ :: past => gatewayOwner past

/-- The last frame was received. -/
theorem heardFrom_lastFrame {sender : Ip × Mac} {tr : Trace} (h : arpSender (lastFrame tr) = some sender) :
    heardFrom sender tr = true := by
  induction tr with
  | nil => cases h
  | cons x past ih =>
    obtain ⟨ev, d⟩ := x
    cases ev with
    | received a =>
      have h' : arpSender (delivered a) = some sender := h
      simp [heardFrom, h']
    | _ => exact ih h

/-- The frame of an open packet loop was received. -/
theorem heardFrom_openLoops {sender : Ip × Mac} {tr : Trace} :
    ∀ l ∈ openLoops tr, arpSender l.1 = some sender → heardFrom sender tr = true := by
  induction tr with
  | nil => nofun
  | cons x past ih =>
    obtain ⟨ev, d⟩ := x
    have hmono : heardFrom sender past = true → heardFrom sender ((ev, d) :: past) = true := by
      intro h
      cases ev with
      | received a => simp [heardFrom, h]
      | _ => exact h
    -- the flag may change, the frame does not
    have hhead : ∀ f : List Byte × Bool → Bool, ∀ l ∈ (openLoops past).modifyHead fun l => (l.1, f l), arpSender l.1 = some sender →
        heardFrom sender past = true := by
      intro f l hl hs
      cases hp : openLoops past with
      | nil =>
        rw [hp] at hl
        cases hl
      | cons b rest =>
        rw [hp, List.modifyHead_cons, List.mem_cons] at hl
        rcases hl with rfl | hl
        · exact ih b (hp ▸ List.mem_cons_self) hs
        · exact ih l (hp ▸ List.mem_cons_of_mem b hl) hs
    intro l hl hs
    refine hmono ?_
    cases ev with
    | enter c =>
      cases c with
      | packetLoop =>
        rcases List.mem_cons.mp hl with rfl | hl
        · exact heardFrom_lastFrame hs
        · exact ih l hl hs
      | sniffer => exact hhead (fun l => l.2 && (bitRead d.state MY_ID || d.locked)) l hl hs
      | _ => exact ih l hl hs
    | leave c =>
      cases c with
      | packetLoop => exact ih l (List.mem_of_mem_tail hl) hs
      | _ => exact ih l hl hs
    | dhcpTurn now => exact hhead (fun l => l.2 && !dhcpSends now l.1.length d.ether) l hl hs
    | _ => exact ih l hl hs

/-! ## The cache -/

/-- The link addresses that are held, or will be once the packet loop is through with its frame. -/
def heldLinks (st : List Act) (d : Device) : Mac × Mac :=
  match st with
  | .packetLoop plen .tail :: _ => (packetLoopReceived plen d.ether).1.links
  | _ => d.ether.links

/-- What is returned to has no frame in hand. -/
theorem Resumes.heldLinks {st : List Act} (h : Resumes st) (d : Device) : heldLinks st d = d.ether.links := by
  cases h <;> rfl

/-- Nor has what makes a server call. -/
theorem CallSite.heldLinks {k : Api} {st st' : List Act} (h : CallSite k st st') (d : Device) : heldLinks st d = d.ether.links := by
  cases h <;> rfl

/-- Nor has what logs. -/
theorem heldLinks_of_logs {st : List Act} (h : Logs st) (d : Device) : heldLinks st d = d.ether.links := by
  unfold EtherHouse.heldLinks
  split
  · exact h.elim
  · rfl

/-- The owners of both entries. -/
def owners (tr : Trace) : Option Ip × Option Ip := (cacheOwner tr, gatewayOwner tr)

/-- Each address that is held came in an ARP message of its owner. -/
structure Owned (st : List Act) (w : World) : Prop where
  dest : ∀ ip, cacheOwner w.trace = some ip → heardFrom (ip, (heldLinks st w.dev).1) w.trace = true
  gateway : ∀ ip, gatewayOwner w.trace = some ip → heardFrom (ip, (heldLinks st w.dev).2) w.trace = true

/-- A step that leaves both entries alone. -/
theorem Owned.same {st st' : List Act} {w w' : World} (h : Owned st w) (hc : heldLinks st' w'.dev = heldLinks st w.dev)
    (ho : owners w'.trace = owners w.trace) (ht : ∀ s, heardFrom s w.trace = true → heardFrom s w'.trace = true) :
    Owned st' w' where
  dest := by
    have hsame : cacheOwner w'.trace = cacheOwner w.trace := congrArg (·.1) ho
    intro ip hip
    rw [hc]
    exact ht _ (h.dest ip (hsame ▸ hip))
  gateway := by
    have hsame : gatewayOwner w'.trace = gatewayOwner w.trace := congrArg (·.2) ho
    intro ip hip
    rw [hc]
    exact ht _ (h.gateway ip (hsame ▸ hip))

/-- The steps of the library leave the owners theirs; a forced address has none. -/
theorem NetStep.owned {st st' : List Act} {w : World} {note : Option Event} {f : Ether → Ether} (hs : NetStep st w.dev note f st')
    (h : Owned st w) : Owned st' ((w.note note).update (Device.net f)) := by
  cases hs with
  | log msg _ hl =>
    refine h.same ?_ rfl fun _ => id
    rw [heldLinks_of_logs hl, heldLinks_of_logs hl]
    exact links_of_statics (statics_syslogF msg w.dev.ether)
  | dhcp plen t₁ t₂ st =>
    refine h.same (links_of_entry (entry_dhcpStateMachine _ _ _ _)) ?_ fun _ => id
    simp only [update_trace, note_some, emit_trace, owners, cacheOwner, gatewayOwner]
  | idle up st =>
    refine h.same ?_ ?_ fun _ => ?_
    · simp only [heldLinks, update_dev, note_dev, net_ether]
      exact links_packetLoopIdle _ _
    · simp only [update_trace, note_some, emit_trace, owners, cacheOwner, gatewayOwner]
    · simp only [update_trace, note_some, emit_trace, heardFrom]
      exact id
  | ret st hr => exact h.same rfl rfl fun _ => id
  | upcall st hu hr hq => exact h.same rfl rfl fun _ => id
  | close plen u st => exact h.same (links_of_entry (entry_packetLoopAfter _ _)) rfl fun _ => id
  | browse k st hl => exact h.same rfl rfl fun _ => id
  | probe => exact h.same (links_selectDestAddr _ _) rfl fun _ => id
  | ping => exact ⟨nofun, h.gateway⟩
  | icmp => exact h.same (links_of_statics (statics_clientIcmpRequest _ _)) rfl fun _ => id
  | boot hf =>
    refine h.same ?_ rfl fun _ => id
    cases hf with
    | begin => rfl
    | dhcpBegin => rfl
    | dhcp t₁ t₂ len => exact links_of_entry (entry_dhcpStateMachine _ _ _ _)
    | dhcpEnd => rfl
    | noHisip => rfl
    | dnsRequest name => exact links_dnsRequest _ _
    | dnsAnswer len => exact links_checkForDnsAnswer _ _

/-- An ARP message that lies in the buffer as it was received. -/
theorem arpSender_of_slice {e : Ether} {frame : List Byte} (h : e.buffer.slice 0 frame.length = frame)
    (harp : ethTypeIsArpAndMyIp frame.length e = true) :
    arpSender frame = some (e.buffer.ip ETH_ARP_SRC_IP_P, e.buffer.mac ETH_ARP_SRC_MAC_P) := by
  simp only [ethTypeIsArpAndMyIp, Bool.and_eq_true, decide_eq_true_eq, beq_iff_eq] at harp
  obtain ⟨⟨⟨hlen, hh⟩, hl⟩, _⟩ := harp
  have hget : ∀ i < 41, e.buffer.get i = frame.getD i 0 := fun i hi => gPB_of_slice h (by omega)
  rw [Ether.gPB, hget _ (by decide)] at hh hl
  unfold arpSender
  rw [if_pos ⟨by unfold ETH_ARP_DST_MAC_P; omega, hh, hl⟩]
  unfold Buffer.ip Buffer.mac addressAt linkAt
  rw [hget _ (by decide), hget _ (by decide), hget _ (by decide), hget _ (by decide), hget _ (by decide), hget _ (by decide),
    hget _ (by decide), hget _ (by decide), hget _ (by decide), hget _ (by decide)]

/-- An address that is taken from a message in the buffer as it was received is the one that its sender gave. -/
theorem heardFrom_of_messageOwner {plen : Nat} {d : Device} {past : Trace} {ip : Ip} (harp : ethTypeIsArpAndMyIp plen d.ether = true)
    (hip : messageOwner plen d past = some ip) : heardFrom (ip, (arpAnswered d.ether).buffer.mac ETH_ARP_SRC_MAC_P) past = true := by
  unfold messageOwner at hip
  split at hip
  · next hsame =>
    obtain ⟨hslice, hreq⟩ := hsame
    cases hip
    have hanswered : arpAnswered d.ether = d.ether := if_neg hreq
    have hlen : (loopFrame past).length = plen := by rw [← hslice, Buffer.length_slice]
    rw [← hlen] at hslice harp
    rw [hanswered]
    have hsender := arpSender_of_slice hslice harp
    cases hl : openLoops past with
    | nil =>
      have hnone : loopFrame past = [] := by
        unfold loopFrame
        rw [hl]
        rfl
      rw [hnone] at hsender
      cases hsender
    | cons l rest =>
      have hframe : loopFrame past = l.1 := by
        unfold loopFrame
        rw [hl]
        rfl
      exact heardFrom_openLoops l (hl ▸ List.mem_cons_self) (hframe ▸ hsender)
  · cases hip

/-- The packet loop begins to classify. -/
theorem Owned.hooked {plen : Nat} {st : List Act} {w : World} (h : Owned (.packetLoop plen .hook :: st) w) :
    Owned (.packetLoop plen .tail :: st) (w.emit (.classify plen)) where
  dest := by
    have howner : cacheOwner ((.classify plen, w.dev) :: w.trace) =
        if fillsCache w.dev.ether plen then messageOwner plen w.dev w.trace else cacheOwner w.trace := rfl
    intro ip hip
    rw [emit_trace, howner] at hip
    change heardFrom (ip, (packetLoopReceived plen w.dev.ether).1.arp.destmacaddr) w.trace = true
    rw [destmacaddr_packetLoopReceived]
    by_cases hfills : fillsCache w.dev.ether plen = true
    · rw [if_pos hfills] at hip ⊢
      simp only [fillsCache, Bool.and_eq_true] at hfills
      exact heardFrom_of_messageOwner hfills.1 hip
    · rw [if_neg hfills] at hip ⊢
      exact h.dest ip hip
  gateway := by
    have howner : gatewayOwner ((.classify plen, w.dev) :: w.trace) =
        if fillsGateway w.dev.ether plen then messageOwner plen w.dev w.trace else gatewayOwner w.trace := rfl
    intro ip hip
    rw [emit_trace, howner] at hip
    change heardFrom (ip, (packetLoopReceived plen w.dev.ether).1.arp.gwmacaddr) w.trace = true
    rw [gwmacaddr_packetLoopReceived]
    by_cases hfills : fillsGateway w.dev.ether plen = true
    · rw [if_pos hfills] at hip ⊢
      simp only [fillsGateway, Bool.and_eq_true] at hfills
      exact heardFrom_of_messageOwner hfills.1 hip
    · rw [if_neg hfills] at hip ⊢
      exact h.gateway ip hip

/-- A frame that is classified brings its sender's address, if it is taken in. -/
theorem MarkStep.owned {st st' : List Act} {w : World} {ev : Event} (hs : MarkStep st w.dev ev st') (hw : WellStacked st w)
    (h : Owned st w) : Owned st' (w.emit ev) := by
  cases hs with
  | hooked => exact h.hooked
  | abort hc => exact h.same (((hc.resumes hw).heldLinks _).trans (hc.heldLinks _).symm) rfl fun _ => id
  | enter hc => exact h.same (hc.heldLinks _).symm rfl fun _ => id
  | leave k => exact h.same (hw.home.1.resumes.heldLinks _) rfl fun _ => id
  | polled => exact h.same (hw.resumes.heldLinks _) rfl fun _ => id
  | wdtReset => exact h.same rfl rfl fun _ => id
  | compared => exact h.same rfl rfl fun _ => id
  | ignored => exact h.same rfl rfl fun _ => id
  | loopBegin => exact h.same rfl rfl fun _ => id
  | loopEnd => exact h.same rfl rfl fun _ => id
  | setupEnd => exact h.same rfl rfl fun _ => id
  | sweepBegin => exact h.same rfl rfl fun _ => id
  | sweepEnd => exact h.same rfl rfl fun _ => id
  | lastDitchBegin => exact h.same rfl rfl fun _ => id
  | lastDitchEnd => exact h.same rfl rfl fun _ => id

/-- Each step keeps it. -/
theorem Step.owned {st st' : List Act} {w w' : World} (hs : Step st w st' w') (hw : WellStacked st w) (h : Owned st w) :
    Owned st' w' := by
  cases hs with
  | tick => exact h.same rfl rfl fun _ => id
  | net hn => exact hn.owned h
  | ctrl hc => cases hc <;> exact h.same rfl rfl fun _ => id
  | mark hm => exact hm.owned hw h
  | timer ht => cases ht <;> exact h.same rfl rfl fun _ => id
  | poll a hp =>
    refine h.same ?_ rfl fun s hs => by simp [heardFrom, hs]
    rw [hp.resumes.heldLinks]
    exact links_of_statics (statics_packetReceiveInto w.dev.ether a)
  | receive a =>
    refine h.same ?_ rfl fun s hs => by simp [heardFrom, hs]
    exact links_of_statics (statics_packetReceiveInto w.dev.ether a)
  | sniff => exact h.same rfl rfl fun _ => id
  | toggleOn => exact h.same rfl rfl fun _ => id
  | toggleOff => exact h.same rfl rfl fun _ => id
  | learn => exact h.same rfl rfl fun _ => id
  | unsniff => exact h.same (hw.sniffed.1.resumes.heldLinks _) rfl fun _ => id
  | requested => exact h.same rfl rfl fun _ => id
  | parse =>
    refine h.same ?_ rfl fun _ => id
    exact links_of_statics (browserCallback_statics _ _ _ _ _ _)
  | lock => exact h.same rfl rfl fun _ => id
  | forget =>
    obtain ⟨rfl, _⟩ := hw.absence_flags
    exact h.same rfl rfl fun _ => id
  | bootApiIp => exact h.same rfl rfl fun _ => id

/-- So it holds wherever a run has got. -/
theorem Reach.owned {st : List Act} {w : World} (h : Reach PowerUp st w) : Owned st w := by
  refine h.invariant (fun st w hi => ?_) fun st w st' w' hr ho hs => hs.owned (hr.wellStacked powerUp_start) ho
  obtain ⟨rfl, eeprom, flash, rfl⟩ := hi
  exact ⟨nofun, nofun⟩

/-! ## The SYN -/

/-- The host on the local network that a packet for the server is to go to: the server itself, or the gateway. -/
def nextHop (d : Device) : Ip := if isLan d.ether d.ether.cfg.myip d.apiIp then d.apiIp else d.ether.cfg.gwip

/-- Whose link address is held for that host. -/
def routeOwner (d : Device) (past : Trace) : Option Ip :=
  if isLan d.ether d.ether.cfg.myip d.apiIp then cacheOwner past else gatewayOwner past

/-- A SYN's link address is one that this host gave in an ARP message. -/
def RightLink (d : Device) (past : Trace) (frame : List Byte) : Prop :=
  heardFrom (nextHop d, linkAt frame ETH_DST_MAC) past = true

instance (d : Device) (past : Trace) (frame : List Byte) : Decidable (RightLink d past frame) := inferInstanceAs (Decidable (_ = _))

/-- A SYN's link address is the route's. -/
theorem linkAt_synFrame {e : Ether} {up : Bool} {frame : List Byte} (h : synFrame e up = some frame) :
    linkAt frame ETH_DST_MAC = routeMac (idleGateway up e) e.cfg.hisip := by
  obtain ⟨_, hdst, _⟩ := synFrame_addresses e h
  refine Vector.ext fun k hk => ?_
  rw [← hdst k hk]
  have hk' : k = 0 ∨ k = 1 ∨ k = 2 ∨ k = 3 ∨ k = 4 ∨ k = 5 := by omega
  rcases hk' with rfl | rfl | rfl | rfl | rfl | rfl <;> rfl

/-- Asking for the gateway changes no route. -/
theorem routeMac_idleGateway (e : Ether) (up : Bool) (ip : Ip) : routeMac (idleGateway up e) ip = routeMac e ip := by
  have hlinks := links_of_entry (entry_idleGateway e up)
  have hdest : (idleGateway up e).arp.destmacaddr = e.arp.destmacaddr := congrArg (·.1) hlinks
  have hgw : (idleGateway up e).arp.gwmacaddr = e.arp.gwmacaddr := congrArg (·.2) hlinks
  unfold routeMac
  rw [hdest, hgw, cfg_idleGateway]
  unfold isLan
  rw [cfg_idleGateway]

/-- In every run, a SYN goes to a link address that the next host on the way to the server gave in an ARP message, if the address held for
it is still that host's: the server's own on the local network, else the gateway's, as the DHCP client has it. -/
theorem syn_link (eeprom flash : Nat → Byte) (tape : List Input) :
    Always (fun ev d past => ∀ frame, synOf ev d = some frame → routeOwner d past = some (nextHop d) → RightLink d past frame)
      (run eeprom flash tape).trace := by
  obtain ⟨st, hr⟩ := run_reached eeprom flash tape
  refine hr.always ?_ fun st w ev d past hr hn => ?_
  · rintro st w ⟨rfl, eeprom, flash, rfl⟩
    exact ⟨nofun, nofun, nofun, trivial⟩
  · cases hn with
    | net hn => cases hn with
      | idle up st =>
        intro frame hf howner
        obtain ⟨hready, _⟩ := synFrame_addresses _ hf
        have hpeer : w.dev.ether.cfg.hisip = w.dev.apiIp := by
          obtain ⟨k, hk⟩ := Option.ne_none_iff_exists'.mp (hr.syn_pending hready)
          exact ((hr.exchange powerUp_start powerUp_exchange).requested k hk).peer
        have hlink : linkAt frame ETH_DST_MAC = routeMac w.dev.ether w.dev.apiIp := by
          rw [← hpeer, ← routeMac_idleGateway _ up]
          exact linkAt_synFrame hf
        unfold RightLink
        rw [hlink]
        unfold routeOwner at howner
        unfold routeMac
        split at howner
        · next hl =>
          rw [if_pos hl]
          exact hr.owned.dest _ howner
        · next hl =>
          rw [if_neg hl]
          exact hr.owned.gateway _ howner
      | _ => nofun
    | mark hm => cases hm <;> nofun
    | _ => nofun

set_option maxRecDepth 10000 in
/-- In a boot, the first SYN goes to the gateway, from which an ARP reply has come. -/
theorem syn_link_boot :
    Sometimes (fun ev d past => nextHop d = gatewayIp ∧ ∃ frame, synOf ev d = some frame ∧ linkAt frame ETH_DST_MAC = gatewayMac ∧
      RightLink d past frame) (run blank blank (networkUp dayLease ++ silence 1 ++ idlePoll)).trace := by
  have hmet : Sometimes (fun ev d past => nextHop d = gatewayIp ∧ routeOwner d past = some (nextHop d) ∧
      ((synOf ev d).any fun frame => decide (linkAt frame ETH_DST_MAC = gatewayMac)) = true)
      (run blank blank (networkUp dayLease ++ silence 1 ++ idlePoll)).trace := by decide +kernel
  refine ((syn_link blank blank (networkUp dayLease ++ silence 1 ++ idlePoll)).sometimes hmet).mono fun ev d past h => ?_
  obtain ⟨⟨hhop, howner, hany⟩, hright⟩ := h
  obtain ⟨frame, hf, hdst⟩ := (Option.any_eq_true _ _).mp hany
  exact ⟨hhop, frame, hf, of_decide_eq_true hdst, hright frame hf howner⟩

/-- The SYN that is sent with an event, if one is, goes where it should. -/
def RightlySent (ev : Event) (d : Device) (past : Trace) : Prop := ∀ frame, synOf ev d = some frame → RightLink d past frame

instance (ev : Event) (d : Device) (past : Trace) : Decidable (RightlySent ev d past) :=
  decidable_of_iff ((synOf ev d).all (fun frame => decide (RightLink d past frame)) = true) <| by
    rw [Option.all_eq_true]
    exact forall_congr' fun frame => by simp

/-- A boot with a server on the local network, up to the first SYN. -/
def localServer : List Input := networkUpTo dayLease #v[10, 0, 0, 5] ++ silence 1 ++ idlePoll

set_option maxRecDepth 10000 in
/-- The SYN is sent before the server has been asked for its link address. -/
theorem localServer_misdirected : ¬Always RightlySent (run blank blank localServer).trace := by decide +kernel

end EtherHouse
