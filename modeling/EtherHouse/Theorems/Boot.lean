import EtherHouse.Machine.Exchange
import EtherHouse.Theorems.Reply

/-!
# Booting

What `setup` leaves behind: the listener for the target's address. `macs_parse_callback` frees the lock whatever it was told, so `setup`
goes on; the listener is armed exactly if the reply was one that the callback accepts.
-/

namespace EtherHouse

/-! ## The body of a reply -/

/-- What stands behind the first header end. -/
def bodyOf : List Byte → List Byte
  | [] => []
  | b :: rest => if headerEnd <+: b :: rest then (b :: rest).drop headerEnd.length else bodyOf rest

/-- The first six bytes of the body, if it has so many. -/
def bodyMac (payload : List Byte) : Option Mac := if 6 ≤ (bodyOf payload).length then some (linkAt (bodyOf payload) 0) else none

/-- The body is what follows the first blank line. -/
theorem bodyOf_eq {payload : List Byte} {i : Nat} (hp : headerEnd <+: payload.drop i) (hfirst : ∀ j < i, ¬headerEnd <+: payload.drop j) :
    bodyOf payload = payload.drop (i + headerEnd.length) := by
  induction payload generalizing i with
  | nil =>
    rw [List.drop_nil] at hp
    exact absurd (List.prefix_nil.mp hp) (by decide)
  | cons b rest ih =>
    cases i with
    | zero =>
      rw [List.drop_zero] at hp
      rw [bodyOf, if_pos hp, Nat.zero_add]
    | succ i =>
      have hno : ¬headerEnd <+: b :: rest := hfirst 0 (Nat.succ_pos i)
      rw [bodyOf, if_neg hno, ih hp fun j hj => hfirst (j + 1) (Nat.succ_lt_succ hj), Nat.add_right_comm, List.drop_succ_cons]

/-- Where there is a body, it stands behind the first header end. -/
theorem firstHeaderEnd_of_bodyOf {payload : List Byte} (h : bodyOf payload ≠ []) :
    ∃ i, FirstHeaderEnd payload i ∧ bodyOf payload = payload.drop (i + headerEnd.length) := by
  have hplace : ∃ i, headerEnd <+: payload.drop i ∧ ∀ j < i, ¬headerEnd <+: payload.drop j := by
    induction payload with
    | nil => exact absurd rfl h
    | cons b rest ih =>
      by_cases hp : headerEnd <+: b :: rest
      · exact ⟨0, hp, fun j hj => absurd hj (Nat.not_lt_zero j)⟩
      · rw [bodyOf, if_neg hp] at h
        obtain ⟨i, hi, hfirst⟩ := ih h
        refine ⟨i + 1, hi, fun j hj => ?_⟩
        cases j with
        | zero => exact hp
        | succ j => exact hfirst j (Nat.lt_of_succ_lt_succ hj)
  obtain ⟨i, hi, hfirst⟩ := hplace
  have hbody := bodyOf_eq hi hfirst
  refine ⟨i, ⟨?_, hi, hfirst⟩, hbody⟩
  rw [hbody] at h
  by_contra hlen
  exact h (List.drop_eq_nil_of_le (by omega))

/-! ## The callback -/

/-- What the callback makes of a payload: a listener for the first six bytes of the body, or nothing. -/
structure Settled (payload : List Byte) (d : Device) : Prop where
  accepted : HasOk payload → ∀ mac, bodyMac payload = some mac → d.sniffers.macs = [mac] ∧ d.targetMac = mac
  refused : d.sniffers.macs ≠ [] → HasOk payload

/-- The one listener is the address that is asked for. -/
theorem macs_listen {t : Sniffers} (h : t.macs = []) (mac : Mac) : (t.listen mac).macs = [mac] := by
  simp [Sniffers.listen, h, SNIFFER_MAXLISTENERS]

/-- An address in a slice is the buffer's. -/
theorem linkAt_slice {b : Buffer} {off len pos : Nat} (h : pos + 6 ≤ len) : linkAt ((b.slice off len).drop pos) 0 = b.mac (off + pos) := by
  have hget : ∀ k < 6, ((b.slice off len).drop pos).getD k 0 = b.get (off + pos + k) := by
    intro k hk
    rw [List.getD_eq_getElem?_getD, List.getElem?_drop, ← List.getD_eq_getElem?_getD, Buffer.getD_slice _ _ (by omega), Nat.add_assoc]
  simp only [linkAt, Buffer.mac, hget 0 (by omega), hget (0 + 1) (by omega), hget (0 + 2) (by omega), hget (0 + 3) (by omega),
    hget (0 + 4) (by omega), hget (0 + 5) (by omega), Nat.add_zero, Nat.zero_add]

/-- The callback settles what is listened for. -/
theorem settled_macsParseCallback {d : Device} (hnone : d.sniffers.macs = []) (status : Byte) (off len : Nat) :
    Settled (d.ether.buffer.slice off len) (macsParseCallback status off len d) := by
  rcases findResponse_payload d off len with ⟨hr, hno⟩ | ⟨i, hi, hok, hr⟩
  · have hsame : macsParseCallback status off len d = { d with locked := false } := by
      simp only [macsParseCallback, hr, if_true]
    rw [hsame]
    refine ⟨fun hok mac hmac => ?_, fun hne => absurd hnone hne⟩
    have hbody : bodyOf (d.ether.buffer.slice off len) ≠ [] := by
      rintro hnil
      rw [bodyMac, hnil, if_neg (by decide)] at hmac
      cases hmac
    obtain ⟨i, hi, _⟩ := firstHeaderEnd_of_bodyOf hbody
    exact absurd ⟨hok, i, hi⟩ hno
  · obtain ⟨htarget, htable⟩ := macsParseCallback_targetMac hr status
    refine ⟨fun _ mac hmac => ?_, fun _ => hok⟩
    have hbody := bodyOf_eq hi.2.1 hi.2.2
    rw [bodyMac] at hmac
    split at hmac
    · next hsix =>
      rw [hbody, List.length_drop, Buffer.length_slice] at hsix
      have hmac' := Option.some.inj hmac
      rw [hbody, linkAt_slice (by omega)] at hmac'
      rw [htable, macs_listen hnone, htarget, hmac']
      exact ⟨rfl, rfl⟩
    · cases hmac

/-- Told of no data, it does nothing but free the lock. -/
theorem macsParseCallback_empty (d : Device) (status : Byte) (off : Nat) : macsParseCallback status off 0 d = { d with locked := false } := by
  have hr : findResponse (bufferAt d off) 0 = -1 := rfl
  simp only [macsParseCallback, hr, if_true]

/-! ## The reply of a run -/

/-- The payload that the address callback was told of first. -/
def macReply : Trace → Option (List Byte)
  | [] => none
  | (.parsed .macsParse _ payload, _) :: past => some ((macReply past).getD payload)
  | _ :: past => macReply past

/-- Only the first callback's payload is the boot's reply. -/
theorem macReply_parsed {cb : BrowserCallback} (h : cb ≠ .macsParse) (status : Byte) (payload : List Byte) (d : Device) (past : Trace) :
    macReply ((.parsed cb status payload, d) :: past) = macReply past := by
  cases cb with
  | macsParse => exact absurd rfl h
  | stateParse => rfl
  | apiSet => rfl

/-- How far boot has got with the target's address: up to the reply nothing listens, and afterwards what the reply has made of it. -/
structure Arming (st : List Act) (w : World) : Prop where
  network : Act.setup .network ∈ st → macReply w.trace = none ∧ w.dev.ether.tcp.clientBrowserCb ≠ some .macsParse
  calling : ∀ rest, st = .api .targetMac .calling :: rest → macReply w.trace = none
  asked : pending st w.dev.locked = some .targetMac → macReply w.trace = none
  heard : w.dev.ether.tcp.clientBrowserCb = some .macsParse →
    pending st w.dev.locked = some .targetMac ∨ macReply w.trace ≠ none
  unheard : macReply w.trace = none → w.dev.sniffers.macs = []
  settled : ∀ payload, macReply w.trace = some payload → Settled payload w.dev

/-- What is settled stays so while listener and target do. -/
theorem Settled.congr {payload : List Byte} {d d' : Device} (h : Settled payload d) (hs : d'.sniffers = d.sniffers)
    (hm : d'.targetMac = d.targetMac) : Settled payload d' := by
  constructor
  · rw [hs, hm]
    exact h.accepted
  · rw [hs]
    exact h.refused

/-- A step that changes no callback, hears no reply, and leaves the calls as they are. -/
theorem Arming.move {st st' : List Act} {w w' : World} (h : Arming st w) (hnet : Act.setup .network ∈ st' → Act.setup .network ∈ st)
    (hcall : ∀ rest, st' ≠ .api .targetMac .calling :: rest) (hp : pending st' w'.dev.locked = pending st w.dev.locked)
    (hr : macReply w'.trace = macReply w.trace)
    (hc : w'.dev.ether.tcp.clientBrowserCb = w.dev.ether.tcp.clientBrowserCb) (hs : w'.dev.sniffers = w.dev.sniffers)
    (hm : w'.dev.targetMac = w.dev.targetMac) : Arming st' w' where
  network := fun hn => by rw [hr, hc]; exact h.network (hnet hn)
  calling := fun rest he => absurd he (hcall rest)
  asked := fun ha => by rw [hr]; exact h.asked (hp ▸ ha)
  heard := fun hh => by rw [hp, hr]; exact h.heard (hc ▸ hh)
  unheard := fun hn => by rw [hs]; exact h.unheard (hr ▸ hn)
  settled := fun payload he => (h.settled payload (hr ▸ he)).congr hs hm

/-- A step on the same stack. -/
theorem Arming.same {st : List Act} {w w' : World} (h : Arming st w) (hl : w'.dev.locked = w.dev.locked)
    (hr : macReply w'.trace = macReply w.trace)
    (hc : w'.dev.ether.tcp.clientBrowserCb = w.dev.ether.tcp.clientBrowserCb) (hs : w'.dev.sniffers = w.dev.sniffers)
    (hm : w'.dev.targetMac = w.dev.targetMac) : Arming st w' where
  network := fun hn => by rw [hr, hc]; exact h.network hn
  calling := fun rest he => by rw [hr]; exact h.calling rest he
  asked := fun ha => by rw [hr]; exact h.asked (hl ▸ ha)
  heard := fun hh => by rw [hl, hr]; exact h.heard (hc ▸ hh)
  unheard := fun hn => by rw [hs]; exact h.unheard (hr ▸ hn)
  settled := fun payload he => (h.settled payload (hr ▸ he)).congr hs hm

/-- Only `get_target_mac` has that callback. -/
theorem callback_eq_macsParse {k : Api} (h : k.callback = .macsParse) : k = .targetMac := by
  cases k with
  | targetMac => rfl
  | _ => cases h

/-- The request for the target's address is made from `setup` once it has its network. -/
theorem Home.targetMac {st : List Act} {n : Bool} (h : Home .targetMac st n) : st = [.setup .listening] := by
  cases h with
  | outer h => cases h with
    | targetMac => rfl

/-- A request is noted. -/
theorem Arming.browse {k : Api} {rest : List Act} {w : World} {n : Bool} (h : Arming (.api k .calling :: rest) w) (hh : Home k rest n) :
    Arming (.api k .armed :: rest) (w.update (Device.net (browse k w.dev.apiIp))) where
  network := fun hn => by
    have hrest : Act.setup .network ∈ rest := by simpa using hn
    refine ⟨(h.network (List.mem_cons_of_mem _ hrest)).1, fun hcb => ?_⟩
    have hk : k = .targetMac := callback_eq_macsParse (Option.some.inj hcb)
    subst hk
    rw [hh.targetMac] at hrest
    simp at hrest
  calling := nofun
  asked := fun ha => by
    have hk : k = .targetMac := Option.some.inj ha
    subst hk
    exact h.calling rest rfl
  heard := fun hh => by
    have hk : k = .targetMac := callback_eq_macsParse (Option.some.inj hh)
    subst hk
    exact Or.inl rfl
  unheard := h.unheard
  settled := fun payload he => (h.settled payload he).congr rfl rfl

/-- The other callbacks have nothing to do with the listener. -/
theorem browserCallback_sniffers {cb : BrowserCallback} (hcb : cb ≠ .macsParse) (buf : Nat) (status : Byte) (off len : Nat) (d : Device) :
    (browserCallback cb buf status off len d).sniffers = d.sniffers ∧
      (browserCallback cb buf status off len d).targetMac = d.targetMac := by
  cases cb with
  | macsParse => exact absurd rfl hcb
  | stateParse =>
    refine ⟨?_, stateParseCallback_targetMac d off len buf status⟩
    simp only [browserCallback, stateParseCallback]
    split <;> rfl
  | apiSet => exact ⟨rfl, rfl⟩

/-- A callback is told of a reply. -/
theorem Arming.parse {plen : Nat} {u : Upcall} {st : List Act} {w : World} {cb : BrowserCallback} {status : Byte} {off len : Nat}
    (h : Arming (.packetLoop plen (.upcall u) :: st) w) (hx : Exchange (.packetLoop plen (.upcall u) :: st) w.dev)
    (hna : ∀ k rest, apis st ≠ (k, .armed) :: rest)
    (hr : wwwClientInternalResultCb w.dev.ether u = some (status, off, len)) (hc : w.dev.ether.tcp.clientBrowserCb = some cb)
    (buf : Nat) :
    Arming (.packetLoop plen (.closing u) :: st)
      ((w.emit (.parsed cb status (w.dev.ether.buffer.slice off len))).update (browserCallback cb buf status off len)) := by
  have hcb := browserCallback_clientBrowserCb cb buf status off len w.dev
  have hfree : pending (.packetLoop plen (.closing u) :: st)
      ((w.emit (.parsed cb status (w.dev.ether.buffer.slice off len))).update (browserCallback cb buf status off len)).dev.locked =
      none := by
    rw [update_dev, browserCallback_locked]
    exact pending_unlocked hna
  by_cases hmacs : cb = .macsParse
  · subst hmacs
    have hsome : macReply ((w.emit (.parsed .macsParse status (w.dev.ether.buffer.slice off len))).update
        (browserCallback .macsParse buf status off len)).trace =
        some ((macReply w.trace).getD (w.dev.ether.buffer.slice off len)) := rfl
    constructor
    · exact fun hn => absurd hc (h.network (by simpa using hn)).2
    · nofun
    · intro ha
      rw [hfree] at ha
      cases ha
    · intro _
      exact Or.inr (by rw [hsome]; exact Option.some_ne_none _)
    · intro hn
      rw [hsome] at hn
      cases hn
    · rw [hsome]
      rintro payload ⟨⟩
      rcases hx.callback hr hc with ⟨hnone, _, rfl, rfl⟩ | ⟨k, hk, hcallback⟩
      · -- told of another session's segment, after the reply
        cases hreply : macReply w.trace with
        | none => exact absurd hreply ((h.heard hc).resolve_left (by rw [hnone]; nofun))
        | some first =>
          have hempty : browserCallback .macsParse buf status 0 0 w.dev = { w.dev with locked := false } :=
            macsParseCallback_empty w.dev status 0
          rw [update_dev, emit_dev, hempty]
          exact (h.settled first hreply).congr rfl rfl
      · have hk' : k = .targetMac := callback_eq_macsParse hcallback.symm
        subst hk'
        have hfirst := h.asked hk
        rw [hfirst]
        exact settled_macsParseCallback (h.unheard hfirst) status off len
  · obtain ⟨hs, hm⟩ := browserCallback_sniffers hmacs buf status off len w.dev
    have hr' : macReply ((w.emit (.parsed cb status (w.dev.ether.buffer.slice off len))).update
        (browserCallback cb buf status off len)).trace = macReply w.trace := macReply_parsed hmacs _ _ _ _
    constructor
    · intro hn
      rw [hr', update_dev, emit_dev, hcb]
      exact h.network (by simpa using hn)
    · nofun
    · intro ha
      rw [hfree] at ha
      cases ha
    · intro hh
      rw [update_dev, emit_dev, hcb, hc] at hh
      exact absurd (Option.some.inj hh) hmacs
    · intro hn
      rw [update_dev, emit_dev, hs]
      exact h.unheard (hr' ▸ hn)
    · intro payload he
      exact (h.settled payload (hr' ▸ he)).congr hs hm

/-- The steps of the library leave listener and target alone. -/
theorem NetStep.arming {st st' : List Act} {w : World} {note : Option Event} {f : Ether → Ether} (hn : NetStep st w.dev note f st')
    (hw : WellStacked st w) (h : Arming st w) : Arming st' ((w.note note).update (Device.net f)) := by
  have hr : macReply ((w.note note).update (Device.net f)).trace = macReply w.trace := by cases hn <;> rfl
  have hs : ((w.note note).update (Device.net f)).dev.sniffers = w.dev.sniffers := by simp
  have hm : ((w.note note).update (Device.net f)).dev.targetMac = w.dev.targetMac := by simp
  have hl : ((w.note note).update (Device.net f)).dev.locked = w.dev.locked := by simp
  rcases hn.held with ⟨hheld, ha⟩ | ⟨k, rest, rfl, rfl, rfl, rfl⟩
  · have hc : ((w.note note).update (Device.net f)).dev.ether.tcp.clientBrowserCb = w.dev.ether.tcp.clientBrowserCb := by
      rw [update_dev, note_dev]
      exact clientBrowserCb_of_held hheld
    have hp : pending st' ((w.note note).update (Device.net f)).dev.locked = pending st w.dev.locked := by
      rw [hl]
      exact pending_congr ha _
    cases hn with
    | log => exact h.same hl hr hc hs hm
    | _ => exact h.move (by simp) nofun hp hr hc hs hm
  · exact h.browse hw.home.1

/-- So do the steps of the stack. -/
theorem CtrlStep.arming {st st' : List Act} {w : World} (hc : CtrlStep st w.dev st') (h : Arming st w) : Arming st' w := by
  cases hc with
  | drained k st hl =>
    have hfree : pending (.api k .waiting :: st) w.dev.locked = none := by
      rw [hl]
      rfl
    exact h.move (by simp) nofun hfree.symm rfl rfl rfl rfl
  | _ => exact h.move (by simp) nofun rfl rfl rfl rfl rfl

/-- After a server call boot is not back before it. -/
theorem CallSite.network {k : Api} {st st' : List Act} (hc : CallSite k st st') : Act.setup .network ∈ st' → Act.setup .network ∈ st := by
  cases hc <;> simp

/-- What is noted keeps the listener. -/
theorem MarkStep.arming {st st' : List Act} {w : World} {ev : Event} (hmk : MarkStep st w.dev ev st') (hw : WellStacked st w)
    (h : Arming st w) : Arming st' (w.emit ev) := by
  cases hmk with
  | wdtReset => exact h.same rfl rfl rfl rfl rfl
  | compared => exact h.same rfl rfl rfl rfl rfl
  | abort hc hl =>
    have ha : apis st' = apis st := by cases hc <;> rfl
    have hcall : ∀ rest, st' ≠ .api .targetMac .calling :: rest := fun rest he =>
      (hc.resumes hw).not_calling _ rest he
    exact h.move hc.network hcall (pending_congr ha _) rfl rfl rfl rfl
  | enter hc hl =>
    have hnone := hc.not_pending ((hc.disciplined hw).1 hl) w.dev.locked
    constructor
    · exact fun hn => h.network (hc.network (by simpa using hn))
    · rintro rest ⟨⟩
      cases hc with
      | targetMac => exact (h.network List.mem_cons_self).1
    · nofun
    · intro hh
      exact Or.inr ((h.heard hh).resolve_left (by rw [hnone]; nofun))
    · exact h.unheard
    · exact h.settled
  | leave k st =>
    have hh := hw.home.1
    have hp : pending st' w.dev.locked = none := pending_of_draining hh.below _
    exact h.move (List.mem_cons_of_mem _) (fun rest he => hh.resumes.not_calling _ rest he) hp rfl rfl rfl rfl
  | polled plen st => exact h.move (List.mem_cons_of_mem _) (fun rest he => hw.resumes.not_calling _ rest he) rfl rfl rfl rfl rfl
  | _ => exact h.move (by simp) nofun rfl rfl rfl rfl rfl

/-- Each step keeps it. -/
theorem Step.arming {st st' : List Act} {w w' : World} (hs : Step st w st' w') (hw : WellStacked st w) (hx : Exchange st w.dev)
    (h : Arming st w) : Arming st' w' := by
  cases hs with
  | tick => exact h.same rfl rfl rfl rfl rfl
  | net hn => exact hn.arming hw h
  | ctrl hc => exact hc.arming h
  | mark hm => exact hm.arming hw h
  | timer ht => cases ht <;> exact h.move (by simp) nofun rfl rfl rfl rfl rfl
  | poll a =>
    have hc := clientBrowserCb_of_held (held_of_statics (statics_packetReceiveInto w.dev.ether a))
    exact h.move (by simp) nofun rfl rfl hc rfl rfl
  | receive a =>
    have hc := clientBrowserCb_of_held (held_of_statics (statics_packetReceiveInto w.dev.ether a))
    exact h.same rfl rfl hc rfl rfl
  | sniff => exact h.move (by simp) nofun rfl rfl rfl rfl rfl
  | toggleOn => exact h.move (by simp) nofun rfl rfl rfl rfl rfl
  | toggleOff => exact h.move (by simp) nofun rfl rfl rfl rfl rfl
  | learn => exact h.same rfl rfl rfl rfl rfl
  | unsniff => exact h.move (List.mem_cons_of_mem _) (hw.sniffed.1.resumes.not_calling _) rfl rfl rfl rfl rfl
  | requested => exact h.move (by simp) nofun rfl rfl (clientBrowserCb_of_held (held_packetLoopReceived _ _)) rfl rfl
  | parse buf st hr hc => exact h.parse hx hw.not_armed hr hc buf
  | lock k st => exact ⟨fun hn => h.network (by simpa using hn), nofun, h.asked, h.heard, h.unheard, fun p he => (h.settled p he).congr rfl rfl⟩
  | forget =>
    obtain ⟨rfl, _⟩ := hw.absence_flags
    exact h.move (by simp) nofun rfl rfl rfl rfl rfl
  | bootApiIp => exact h.same rfl rfl rfl rfl rfl

/-- So it holds wherever a run has got. -/
theorem Reach.arming {st : List Act} {w : World} (h : Reach PowerUp st w) : Arming st w := by
  refine h.invariant (fun st w hi => ?_) fun st w st' w' hr ha hs =>
    hs.arming (hr.wellStacked powerUp_start) (hr.exchange powerUp_start powerUp_exchange) ha
  obtain ⟨rfl, eeprom, flash, rfl⟩ := hi
  have hcb : (loadedFrom ⟨powerOn eeprom flash, []⟩).dev.ether.tcp.clientBrowserCb = none := by
    simp only [loadedFrom, emit_dev, update_dev, readStateFromEeprom_ether]
    rfl
  refine ⟨fun _ => ⟨rfl, ?_⟩, fun _ _ => rfl, fun _ => rfl, fun hmacs => ?_, fun _ => ?_, fun payload hreply => ?_⟩
  · rw [hcb]
    exact (Option.some_ne_none _).symm
  · rw [hcb] at hmacs
    cases hmacs
  · simp only [loadedFrom, emit_dev, update_dev, readStateFromEeprom_sniffers]
    rfl
  · cases hreply

/-! ## The end of boot -/

/-- The listener listens for the address that a reply with status 200 has brought. -/
def Armed (d : Device) (past : Trace) : Prop :=
  ∃ payload mac, macReply past = some payload ∧ isOkStatusLine (firstLine payload) = true ∧ bodyMac payload = some mac ∧
    d.sniffers.macs = [mac] ∧ d.targetMac = mac

/-- In every run from power-on in which `setup` comes to its end, the listener is armed if and only if the reply to `/target_mac` had the
status 200, with `200 OK` somewhere in front of its last byte, and a body of six bytes at least. -/
theorem listener_armed_iff (eeprom flash : Nat → Byte) (tape : List Input) :
    Always (fun ev d past => ev = .leave .setup → (Armed d past ↔
      ∃ payload, macReply past = some payload ∧ isOkStatusLine (firstLine payload) = true ∧ HasOk payload ∧
        (bodyMac payload).isSome = true)) (run eeprom flash tape).trace := by
  obtain ⟨st, hr⟩ := run_reached eeprom flash tape
  refine hr.always ?_ fun st w ev d past hr hn => ?_
  · rintro st w ⟨rfl, eeprom, flash, rfl⟩
    exact ⟨nofun, nofun, nofun, trivial⟩
  · have ha := hr.arming
    cases hn with
    | mark hm => cases hm with
      | setupEnd =>
        intro _
        constructor
        · rintro ⟨payload, mac, hreply, hstatus, hmac, htable, _⟩
          have hok := (ha.settled payload hreply).refused (by rw [htable]; exact List.cons_ne_nil _ _)
          exact ⟨payload, hreply, hstatus, hok, by rw [hmac]; rfl⟩
        · rintro ⟨payload, hreply, hstatus, hok, hsome⟩
          obtain ⟨mac, hmac⟩ := Option.isSome_iff_exists.mp hsome
          obtain ⟨htable, htarget⟩ := (ha.settled payload hreply).accepted hok mac hmac
          exact ⟨payload, mac, hreply, hstatus, hmac, htable, htarget⟩
      | _ => nofun
    | net hn => cases hn <;> nofun
    | _ => nofun

/-- The server's answer when something is wrong with it. -/
def serverError : List Byte := ascii "HTTP/1.0 500 Internal Server Error\r\n\r\n"

set_option maxRecDepth 10000 in
/-- After an error `setup` goes on, and nothing listens. -/
theorem serverError_unarmed :
    ¬Always (fun ev d past => ev = .leave .setup → Armed d past) (run blank blank (boot serverError (okReply [0]))).trace := by
  have hrun : ¬Always (fun ev d _ => ev = .leave .setup → d.sniffers.macs.length = 1)
      (run blank blank (boot serverError (okReply [0]))).trace := by
    decide +kernel
  refine fun h => hrun (h.mono fun ev d past hp he => ?_)
  obtain ⟨payload, mac, _, _, _, htable, _⟩ := hp he
  rw [htable, List.length_singleton]

end EtherHouse
