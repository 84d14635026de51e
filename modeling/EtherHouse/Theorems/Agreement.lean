import EtherHouse.Theorems.Boot
import EtherHouse.Theorems.Lights
import EtherHouse.Machine.Traffic

/-!
# The house and the server

`toggle_house` flips the house's bit first and reports it afterwards. The server keeps the bit that was reported last, so the two agree
between two calls of `loop` unless a report is lost: `api_set_on` gives up while `locked` is set, and a call also ends if its connection
is refused before its request is out.
-/

namespace EtherHouse

/-! ## The server's side -/

/-- The house's bit at the server, from the requests that went out. -/
def serverBit (start : Bool) : Trace → Bool
  | [] => start
  | (.request url, _) :: past =>
    if url = Api.on.url then true else if url = Api.off.url then false else serverBit start past
  | _ :: past => serverBit start past

/-- A request went out since the last server call began. -/
def asked : Trace → Bool
  | [] => false
  | (.enter (.api _), _) :: _ => false
  | (.request _, _) :: _ => true
  | _ :: past => asked past

/-- The house was switched on since the last server call began. -/
def turnedOn : Trace → Bool
  | [] => false
  | (.enter (.api _), _) :: _ => false
  | (.toggled _ true, _) :: _ => true
  | _ :: past => turnedOn past

/-- The call that the innermost packet loop is polling for. -/
def poller (past : Trace) : Option Call := (openCalls past)[1]?

/-- The byte that a sync stores is the server's. -/
def served (start : Bool) : Event → Device → Trace → Bool
  | .parsed .stateParse _ payload, _, past => (storedByte payload).all fun b => bitRead b MY_ID == serverBit start past
  | _, _, _ => true

/-- No report is lost: the target is not heard of while `api_set_off` waits, no callback ends a report's wait before its request is out,
and a sync in which the house was switched on does not end without a byte to store. -/
def unlost : Event → Device → Trace → Bool
  | .enter .sniffer, d, past => !(d.locked && poller past == some (.api .off))
  | .parsed _ _ payload, d, past =>
    !d.locked || match poller past with
      | some (.api .on) => asked past
      | some (.api .off) => asked past
      | some (.api .state) => !turnedOn past || (storedByte payload).isSome
      | _ => true
  | _, _, _ => true

/-- A run in which the server does its part and no report is lost. -/
def Smooth (start : Bool) (tr : Trace) : Prop :=
  Always (fun ev d past => served start ev d past = true) tr ∧ Always (fun ev d past => unlost ev d past = true) tr

/-! ## What is owed -/

/-- The bit that a server call reports. -/
def Api.reports : Api → Option Bool
  | .on => some true
  | .off => some false
  | _ => none

/-- The bit that is still to be reported: by `toggle_house`, by a call about to make its request, or by one that waits. -/
def owed (st : List Act) (locked : Bool) : Option Bool :=
  match st with
  | .toggle v :: _ => some v
  | .api k .calling :: _ => k.reports
  | st => (pending st locked).bind Api.reports

/-- Neither `toggle_house` nor a call about to make its request is on top. -/
def Plain : List Act → Prop
  | .toggle _ :: _ => False
  | .api _ .calling :: _ => False
  | _ => True

/-- The sniffer's callback is on top, or has just switched the house on. -/
def Sniffing : List Act → Prop
  | .sniffer _ _ :: _ => True
  | .toggle true :: _ => True
  | _ => False

/-- Elsewhere the bit is owed by the call that waits. -/
theorem owed_plain {st : List Act} (h : Plain st) (l : Bool) : owed st l = (pending st l).bind Api.reports := by
  unfold owed
  split
  · exact h.elim
  · exact h.elim
  · rfl

/-- What is returned to is neither of the two. -/
theorem Resumes.plain {st : List Act} (h : Resumes st) : Plain st := by
  cases h <;> trivial

/-- A packet loop does not stand on the sniffer's callback. -/
theorem Disciplined.not_sniffing {plen : Nat} {p : LoopPhase} {st : List Act} {l n : Bool}
    (h : Disciplined (.packetLoop plen p :: st) l n) : ¬Sniffing st := by
  have hcalm : ∀ {st n}, Calm st n → ¬Sniffing st := by
    intro st n h
    cases h with
    | outer h => cases h <;> exact id
    | inner h => exact id
  cases h with
  | calm h => cases h with
    | outer h => cases h
  | pollCalm h => exact hcalm h
  | pollWaiting => exact id
  | closing => exact id
  | closed => exact id

/-- The house is switched on with the lock taken in the callback, under a call that waits. -/
theorem Disciplined.toggled {st : List Act} {n : Bool} (h : Disciplined (.toggle true :: st) true n) :
    ∃ srcIp plen k rest, st = .sniffer .lit srcIp :: .packetLoop plen .hook :: .api k .waiting :: rest := by
  cases h with
  | toggleOn h srcIp => cases h with
    | waiting plen h => exact ⟨srcIp, plen, _, _, rfl⟩

/-- While a bit is owed the house has it; else the server has the house's bit, unless a sync waits in which the house was switched on. -/
structure Agreed (start : Bool) (st : List Act) (w : World) : Prop where
  awake : ∀ p, Act.setup p ∉ st
  owing : ∀ v, owed st w.dev.locked = some v → bitRead w.dev.state MY_ID = v
  told : ∀ k v, pending st w.dev.locked = some k → k.reports = some v → asked w.trace = true → serverBit start w.trace = v
  fresh : ∀ k rest, st = .api k .calling :: rest → asked w.trace = false
  agreed : owed st w.dev.locked = none → bitRead w.dev.state MY_ID = serverBit start w.trace ∨
    (pending st w.dev.locked = some .state ∧ bitRead w.dev.state MY_ID = true ∧ turnedOn w.trace = true)
  sniffing : Sniffing st → ∀ k, pending st w.dev.locked = some k → k = .state
  risen : ∀ rest, st = .toggle true :: rest → turnedOn w.trace = true

/-- A step that changes neither the house nor what the trace says of the server, on the same stack. -/
theorem Agreed.same {start : Bool} {st : List Act} {w w' : World} (h : Agreed start st w) (hl : w'.dev.locked = w.dev.locked)
    (hs : w'.dev.state = w.dev.state) (hb : serverBit start w'.trace = serverBit start w.trace)
    (ha : asked w'.trace = asked w.trace) (ht : turnedOn w'.trace = turnedOn w.trace) : Agreed start st w' := by
  obtain ⟨hawake, howing, htold, hfresh, hagreed, hsniffing, hrisen⟩ := h
  refine ⟨hawake, ?_, ?_, ?_, ?_, ?_, ?_⟩
  · rw [hl, hs]; exact howing
  · rw [hl, ha, hb]; exact htold
  · rw [ha]; exact hfresh
  · rw [hl, hs, hb, ht]; exact hagreed
  · rw [hl]; exact hsniffing
  · rw [ht]; exact hrisen

/-- The same from one plain stack to another, with the same call waiting. -/
theorem Agreed.move {start : Bool} {st st' : List Act} {w w' : World} (h : Agreed start st w) (hawake : ∀ p, Act.setup p ∈ st' → Act.setup p ∈ st)
    (hplain : Plain st) (hplain' : Plain st') (hsniff : Sniffing st' → Sniffing st ∨ pending st' w'.dev.locked = none)
    (hp : pending st' w'.dev.locked = pending st w.dev.locked) (hs : w'.dev.state = w.dev.state)
    (hb : serverBit start w'.trace = serverBit start w.trace) (ha : asked w'.trace = asked w.trace)
    (ht : turnedOn w'.trace = turnedOn w.trace) : Agreed start st' w' := by
  have ho : owed st' w'.dev.locked = owed st w.dev.locked := by rw [owed_plain hplain', owed_plain hplain, hp]
  constructor
  · exact fun p hm => h.awake p (hawake p hm)
  · rw [ho, hs]; exact h.owing
  · rw [hp, ha, hb]; exact h.told
  · rintro k rest rfl
    exact hplain'.elim
  · rw [ho, hp, hs, hb, ht]; exact h.agreed
  · intro hn k hk
    rcases hsniff hn with hn' | hnone
    · exact h.sniffing hn' k (hp ▸ hk)
    · rw [hnone] at hk
      cases hk
  · rintro rest rfl
    exact hplain'.elim

/-! ## One step -/

/-- The steps of the library leave bit, report and server alone. -/
theorem NetStep.agreed {start : Bool} {st st' : List Act} {w : World} {note : Option Event} {f : Ether → Ether}
    (hn : NetStep st w.dev note f st') (h : Agreed start st w) : Agreed start st' ((w.note note).update (Device.net f)) := by
  have hl : ((w.note note).update (Device.net f)).dev.locked = w.dev.locked := by simp
  have hs : ((w.note note).update (Device.net f)).dev.state = w.dev.state := by simp
  have hb : serverBit start ((w.note note).update (Device.net f)).trace = serverBit start w.trace := by cases hn <;> rfl
  have ha : asked ((w.note note).update (Device.net f)).trace = asked w.trace := by cases hn <;> rfl
  have ht : turnedOn ((w.note note).update (Device.net f)).trace = turnedOn w.trace := by cases hn <;> rfl
  rcases hn.held with ⟨_, hapis⟩ | ⟨k, rest, rfl, rfl, rfl, rfl⟩
  · have hp : pending st' ((w.note note).update (Device.net f)).dev.locked = pending st w.dev.locked := by
      rw [hl]
      exact pending_congr hapis _
    cases hn with
    | log => exact h.same hl hs hb ha ht
    | browse => exact absurd hapis (by simp [apis, Act.api?])
    | _ => exact h.move (by simp) trivial trivial nofun hp hs hb ha ht
  · constructor
    · simpa using h.awake
    · exact h.owing
    · intro k' v _ _ hasked
      rw [ha, h.fresh k rest rfl] at hasked
      cases hasked
    · nofun
    · intro ho
      have hnone : pending (.api k .calling :: rest) w.dev.locked = none := rfl
      refine Or.inl ((h.agreed ho).resolve_right ?_)
      rw [hnone]
      nofun
    · nofun
    · nofun

/-- So do the steps of the stack. -/
theorem CtrlStep.agreed {start : Bool} {st st' : List Act} {w : World} (hc : CtrlStep st w.dev st') (h : Agreed start st w) :
    Agreed start st' w := by
  cases hc with
  | drained k st hl =>
    have hfree : pending (.api k .waiting :: st) w.dev.locked = none := by
      rw [hl]
      rfl
    exact h.move (by simp) trivial trivial nofun hfree.symm rfl rfl rfl rfl
  | alight => exact h.move (by simp) trivial trivial (fun _ => Or.inl trivial) rfl rfl rfl rfl rfl
  | _ => exact h.move (by simp) trivial trivial nofun rfl rfl rfl rfl rfl

/-- A call begins. -/
theorem Agreed.enter {start : Bool} {k : Api} {st st' : List Act} {w : World} (h : Agreed start st w) (hc : CallSite k st st')
    (hp : pending st w.dev.locked = none) : Agreed start (.api k .calling :: st') (w.emit (.enter (.api k))) := by
  have howes : owed st w.dev.locked = k.reports := by
    cases hc with
    | targetMac => exact absurd List.mem_cons_self (h.awake _)
    | bootState => exact absurd List.mem_cons_self (h.awake _)
    | sync => rfl
    | on => rfl
    | off => rfl
  constructor
  · intro p hm
    refine h.awake p ?_
    have hm' : Act.setup p ∈ st' := by simpa using hm
    cases hc with
    | targetMac => exact absurd List.mem_cons_self (h.awake _)
    | bootState => exact absurd List.mem_cons_self (h.awake _)
    | sync => exact hm'
    | on => exact List.mem_cons_of_mem _ hm'
    | off => exact List.mem_cons_of_mem _ hm'
  · intro v hv
    exact h.owing v (howes.trans hv)
  · nofun
  · intro k' rest _
    rfl
  · intro hnone
    refine Or.inl ((h.agreed (howes.trans hnone)).resolve_right ?_)
    rw [hp]
    nofun
  · nofun
  · nofun

/-- A call gives up: it was made from the callback, in a sync that waits. -/
theorem Agreed.abort {start : Bool} {k : Api} {st st' : List Act} {w : World} (h : Agreed start st w) (hc : CallSite k st st')
    (hw : WellStacked st w) (hl : w.dev.locked = true) : Agreed start st' (w.emit (.aborted k)) := by
  have hp : pending st' w.dev.locked = pending st w.dev.locked := pending_congr (by cases hc <;> rfl) _
  obtain ⟨rfl, _⟩ := (hc.disciplined hw).2 hl
  cases hc with
  | on =>
    have hd : Disciplined (.toggle true :: st') w.dev.locked w.dev.snifferNested := hw
    rw [hl] at hd
    obtain ⟨srcIp, plen, k, rest, rfl⟩ := hd.toggled
    have hk : pending (.toggle true :: .sniffer .lit srcIp :: .packetLoop plen .hook :: .api k .waiting :: rest) w.dev.locked = some k := by
      rw [hl]
      rfl
    have hstate := h.sniffing trivial k hk
    subst hstate
    constructor
    · exact fun p hm => h.awake p (List.mem_cons_of_mem _ hm)
    · intro v hv
      change (pending _ _).bind Api.reports = some v at hv
      rw [emit_dev, hp, hk] at hv
      cases hv
    · intro k v hk' hv
      rw [emit_dev, hp, hk] at hk'
      cases hk'
      cases hv
    · nofun
    · exact fun _ => Or.inr ⟨hp.trans hk, h.owing true rfl, h.risen _ rfl⟩
    · intro _ k hk'
      rw [emit_dev, hp, hk] at hk'
      exact (Option.some.inj hk').symm
    · nofun

/-- A call that gives up, or begins, leaves the bit owed where it was. -/
theorem MarkStep.agreed {start : Bool} {st st' : List Act} {w : World} {ev : Event} (hm : MarkStep st w.dev ev st')
    (hw : WellStacked st w) (h : Agreed start st w) : Agreed start st' (w.emit ev) := by
  cases hm with
  | wdtReset => exact h.same rfl rfl rfl rfl rfl
  | compared => exact h.same rfl rfl rfl rfl rfl
  | abort hc hl => exact h.abort hc hw hl
  | enter hc hl => exact h.enter hc (hc.not_pending ((hc.disciplined hw).1 hl) _)
  | leave k =>
    have hh := hw.home.1
    have hp : pending st' w.dev.locked = none := pending_of_draining hh.below _
    exact h.move (fun _ => List.mem_cons_of_mem _) trivial hh.resumes.plain (fun _ => Or.inr hp) hp rfl rfl rfl rfl
  | polled plen =>
    have hd : Disciplined (.packetLoop plen .fin :: st') w.dev.locked w.dev.snifferNested := hw
    exact h.move (fun _ => List.mem_cons_of_mem _) trivial hd.resumes.plain (fun hs => absurd hs hd.not_sniffing) rfl rfl rfl rfl rfl
  | _ => exact h.move (by simp) trivial trivial nofun rfl rfl rfl rfl rfl

/-- The callback begins: the call that waits, if one does, is a sync. -/
theorem Agreed.sniff {start : Bool} {plen srcIp : Nat} {st : List Act} {w : World} (h : Agreed start (.packetLoop plen .offered :: st) w)
    (hw : WellStacked (.packetLoop plen .offered :: st) w) (hn : w.dev.snifferNested = false)
    (ho : openCalls w.trace = calls (.packetLoop plen .offered :: st)) (hu : unlost (.enter .sniffer) w.dev w.trace = true) :
    Agreed start (.sniffer .fresh srcIp :: .packetLoop plen .hook :: st)
      ((w.emit (.enter .sniffer)).update fun d => { d with snifferNested := true }) := by
  have hstate : ∀ k, pending (.packetLoop plen .offered :: st) w.dev.locked = some k → k = .state := by
    have hd : Disciplined (.packetLoop plen .offered :: st) w.dev.locked false := hn ▸ hw
    simp only [unlost, poller, ho] at hu
    intro k hk
    generalize w.dev.locked = l at hd hk hu
    have hs := hd.sniff
    cases hs with
    | calm _ hcalm =>
      have hnone : pending (.packetLoop plen .offered :: st) false = none := pending_unlocked hd.not_armed
      rw [hnone] at hk
      cases hk
    | waiting _ hsite =>
      cases hk
      cases hsite with
      | targetMac => exact absurd (by simp) (h.awake .listening)
      | bootState => rfl
      | sync => rfl
      | off => cases hu
  constructor
  · simpa using h.awake
  · exact h.owing
  · exact h.told
  · nofun
  · exact h.agreed
  · exact fun _ => hstate
  · nofun

/-- The callback switches the house on. -/
theorem Agreed.toggleOn {start : Bool} {srcIp : Nat} {st : List Act} {w : World} (h : Agreed start (.sniffer .stamped srcIp :: st) w) :
    Agreed start (.toggle true :: .sniffer .lit srcIp :: st) ((w.update (setMyHouse true)).emit (.toggled MY_ID true)) where
  awake := by simpa using h.awake
  owing := by
    rintro v ⟨⟩
    exact bitRead_bitWrite_self _ true (by decide)
  told := fun k v hk hv => by
    have hstate := h.sniffing trivial k hk
    subst hstate
    cases hv
  fresh := nofun
  agreed := nofun
  sniffing := fun _ => h.sniffing trivial
  risen := fun _ _ => rfl

/-- The absence branch switches it off. -/
theorem agreed_toggleOff (start : Bool) (w : World) :
    Agreed start [.toggle false, .absence .forgetting, .loop] ((w.update (setMyHouse false)).emit (.toggled MY_ID false)) where
  awake := by simp
  owing := by
    rintro v ⟨⟩
    exact bitRead_bitWrite_self _ false (by decide)
  told := nofun
  fresh := nofun
  agreed := nofun
  sniffing := nofun
  risen := nofun

/-- A request goes out: it reports what is owed. -/
theorem Agreed.request {start : Bool} {plen : Nat} {url : List Byte} {st : List Act} {w : World}
    (h : Agreed start (.packetLoop plen .tail :: st) w) (hx : Exchange (.packetLoop plen .tail :: st) w.dev)
    (hq : (packetLoopReceived plen w.dev.ether).2 = .requested url) :
    Agreed start (.packetLoop plen .fin :: st)
      ((w.update (Device.net fun e => (packetLoopReceived plen e).1)).emit (.request url)) := by
  obtain ⟨k, hk, rfl⟩ := hx.request hq
  have ho : owed (.packetLoop plen .tail :: st) w.dev.locked = k.reports := congrArg (Option.bind · Api.reports) hk
  have hbit : ∀ d, serverBit start ((.request k.url, d) :: w.trace) = k.reports.getD (serverBit start w.trace) := by
    intro d
    cases k <;> simp [serverBit, Api.reports, Api.url, ascii]
  constructor
  · simpa using h.awake
  · exact h.owing
  · intro k' v hk' hv _
    have hsame : k' = k := Option.some.inj (hk'.symm.trans hk)
    rw [emit_trace, update_trace, hbit, ← hsame, hv]
    rfl
  · nofun
  · intro hnone
    have hrep : k.reports = none := ho.symm.trans hnone
    rw [emit_trace, update_trace, hbit, hrep]
    exact h.agreed hnone
  · nofun
  · nofun

/-- A packet loop whose result callback is due, under a call that waits. -/
theorem Disciplined.polling {plen : Nat} {u : Upcall} {st : List Act} {l n : Bool} {k : Api}
    (h : Disciplined (.packetLoop plen (.upcall u) :: st) l n) (hk : pending (.packetLoop plen (.upcall u) :: st) l = some k) :
    l = true ∧ ∃ rest, st = .api k .waiting :: rest ∧ Home k rest n := by
  have hcalm : ∀ {st n}, Calm st n → pending (.packetLoop plen (.upcall u) :: st) false ≠ some k := by
    intro st n hc
    have hnone : pending (.packetLoop plen (.upcall u) :: st) false = none :=
      pending_unlocked (Disciplined.pollCalm hc plen (.upcall u)).not_armed
    rw [hnone]
    nofun
  cases h with
  | calm h => cases h with
    | outer h => cases h
  | pollCalm h => exact absurd hk (hcalm h)
  | pollWaiting h =>
    cases hk
    exact ⟨rfl, _, rfl, h⟩

/-- Told of no data, no callback touches the state. -/
theorem browserCallback_empty (cb : BrowserCallback) (buf : Nat) (status : Byte) (d : Device) :
    (browserCallback cb buf status 0 0 d).state = d.state := by
  cases cb with
  | macsParse => rw [browserCallback, macsParseCallback_empty]
  | stateParse =>
    rcases stateParseCallback_storedByte d 0 0 buf status with ⟨_, hc⟩ | ⟨b, hb, _⟩
    · rw [browserCallback, hc]
    · cases hb
  | apiSet => rfl

/-- A report's callback: the request is out, and the house as it was. -/
theorem Agreed.reported {start : Bool} {plen : Nat} {u : Upcall} {st : List Act} {w : World} {k : Api} {v : Bool}
    (h : Agreed start (.packetLoop plen (.upcall u) :: st) w) (hk : pending (.packetLoop plen (.upcall u) :: st) w.dev.locked = some k)
    (hv : k.reports = some v) (ha : asked w.trace = true) : bitRead w.dev.state MY_ID = serverBit start w.trace := by
  have ho : owed (.packetLoop plen (.upcall u) :: st) w.dev.locked = some v :=
    (congrArg (Option.bind · Api.reports) hk).trans hv
  rw [h.owing v ho, h.told k v hk hv ha]

/-- A sync's callback: it stores the server's byte, or none, and then the house was not switched on meanwhile. -/
theorem Agreed.synced {start : Bool} {plen : Nat} {u : Upcall} {st : List Act} {w : World} {status : Byte} {off len : Nat}
    (h : Agreed start (.packetLoop plen (.upcall u) :: st) w)
    (hk : pending (.packetLoop plen (.upcall u) :: st) w.dev.locked = some .state)
    (hs : ∀ b, storedByte (w.dev.ether.buffer.slice off len) = some b → bitRead b MY_ID = serverBit start w.trace)
    (hu : storedByte (w.dev.ether.buffer.slice off len) = none → turnedOn w.trace = false) (buf : Nat) :
    bitRead (browserCallback .stateParse buf status off len w.dev).state MY_ID = serverBit start w.trace := by
  rcases stateParseCallback_storedByte w.dev off len buf status with ⟨hnone, hc⟩ | ⟨b, hb, hc⟩
  · have ho : owed (.packetLoop plen (.upcall u) :: st) w.dev.locked = none := congrArg (Option.bind · Api.reports) hk
    rw [browserCallback, hc]
    exact (h.agreed ho).resolve_right fun hr => absurd hr.2.2 (by rw [hu hnone]; decide)
  · rw [browserCallback, hc]
    exact hs b hb

/-- A callback ends a wait: of a report that is out, or of a sync, which stores the server's byte. -/
theorem Agreed.answer {start : Bool} {plen : Nat} {u : Upcall} {st : List Act} {w : World} {cb : BrowserCallback} {status : Byte}
    {off len : Nat} (h : Agreed start (.packetLoop plen (.upcall u) :: st) w) (hw : WellStacked (.packetLoop plen (.upcall u) :: st) w)
    (hx : Exchange (.packetLoop plen (.upcall u) :: st) w.dev) (ho : openCalls w.trace = calls (.packetLoop plen (.upcall u) :: st))
    (hr : wwwClientInternalResultCb w.dev.ether u = some (status, off, len)) (hc : w.dev.ether.tcp.clientBrowserCb = some cb)
    (hs : served start (.parsed cb status (w.dev.ether.buffer.slice off len)) w.dev w.trace = true)
    (hu : unlost (.parsed cb status (w.dev.ether.buffer.slice off len)) w.dev w.trace = true) (buf : Nat) :
    bitRead (browserCallback cb buf status off len w.dev).state MY_ID = serverBit start w.trace := by
  rcases hx.callback hr hc with ⟨hnone, _, rfl, rfl⟩ | ⟨k, hk, rfl⟩
  · have howes : owed (.packetLoop plen (.upcall u) :: st) w.dev.locked = none := congrArg (Option.bind · Api.reports) hnone
    rw [browserCallback_empty]
    exact (h.agreed howes).resolve_right (by rw [hnone]; nofun)
  · obtain ⟨hl, rest, rfl, hh⟩ := hw.polling hk
    have hpoller : poller w.trace = some (.api k) := by
      rw [poller, ho]
      rfl
    simp only [unlost, hl, hpoller, Bool.not_true, Bool.false_or] at hu
    cases k with
    | targetMac =>
      obtain rfl := hh.targetMac
      exact absurd (by simp) (h.awake .listening)
    | state =>
      refine h.synced hk (fun b hb => ?_) (fun hnone => ?_) buf
      · simpa [served, Api.callback, hb] using hs
      · simpa [hnone] using hu
    | on => exact h.reported hk rfl hu
    | off => exact h.reported hk rfl hu

/-- A callback ends the wait: what was owed is reported, or a sync has brought the server's byte. -/
theorem Agreed.parse {start : Bool} {plen : Nat} {u : Upcall} {st : List Act} {w : World} {cb : BrowserCallback} {status : Byte}
    {off len : Nat} (h : Agreed start (.packetLoop plen (.upcall u) :: st) w) (hw : WellStacked (.packetLoop plen (.upcall u) :: st) w)
    (hx : Exchange (.packetLoop plen (.upcall u) :: st) w.dev) (ho : openCalls w.trace = calls (.packetLoop plen (.upcall u) :: st))
    (hr : wwwClientInternalResultCb w.dev.ether u = some (status, off, len)) (hc : w.dev.ether.tcp.clientBrowserCb = some cb)
    (hs : served start (.parsed cb status (w.dev.ether.buffer.slice off len)) w.dev w.trace = true)
    (hu : unlost (.parsed cb status (w.dev.ether.buffer.slice off len)) w.dev w.trace = true) (buf : Nat) :
    Agreed start (.packetLoop plen (.closing u) :: st)
      ((w.emit (.parsed cb status (w.dev.ether.buffer.slice off len))).update (browserCallback cb buf status off len)) := by
  have hfree : pending (.packetLoop plen (.closing u) :: st)
      ((w.emit (.parsed cb status (w.dev.ether.buffer.slice off len))).update (browserCallback cb buf status off len)).dev.locked =
      none := by
    rw [update_dev, browserCallback_locked]
    exact pending_unlocked hw.not_armed
  have howes : owed (.packetLoop plen (.closing u) :: st)
      ((w.emit (.parsed cb status (w.dev.ether.buffer.slice off len))).update (browserCallback cb buf status off len)).dev.locked =
      none := congrArg (Option.bind · Api.reports) hfree
  have hagree := h.answer hw hx ho hr hc hs hu buf
  constructor
  · simpa using h.awake
  · rw [howes]
    nofun
  · rw [hfree]
    nofun
  · nofun
  · exact fun _ => Or.inl hagree
  · nofun
  · nofun

/-- Each step keeps it, if the server does its part and no report is lost. -/
theorem Step.agreed {start : Bool} {st st' : List Act} {w w' : World} (hs : Step st w st' w') (hw : WellStacked st w)
    (hx : Exchange st w.dev) (ho : EtherHouse.openCalls w.trace = calls st) (hsm : Smooth start w'.trace) (h : Agreed start st w) :
    Agreed start st' w' := by
  cases hs with
  | tick => exact h.same rfl rfl rfl rfl rfl
  | net hn => exact hn.agreed h
  | ctrl hc => exact hc.agreed h
  | mark hm => exact hm.agreed hw h
  | timer ht => cases ht with
    | stamp => exact h.move (by simp) trivial trivial (fun _ => Or.inl trivial) rfl rfl rfl rfl rfl
    | bootAbsense => exact absurd List.mem_cons_self (h.awake _)
    | _ => exact h.move (by simp) trivial trivial nofun rfl rfl rfl rfl rfl
  | poll a hp => exact h.move (by simp) hp.resumes.plain trivial nofun rfl rfl rfl rfl rfl
  | receive => exact h.same rfl rfl rfl rfl rfl
  | sniff st hn => exact h.sniff hw hn ho hsm.2.1
  | toggleOn => exact h.toggleOn
  | toggleOff =>
    obtain ⟨rfl, _⟩ := hw.absence_flags
    exact agreed_toggleOff start w
  | learn => exact h.same rfl rfl rfl rfl rfl
  | unsniff => exact h.move (fun _ => List.mem_cons_of_mem _) trivial hw.sniffed.1.resumes.plain (fun _ => Or.inl trivial) rfl rfl rfl rfl rfl
  | requested st hq => exact h.request hx hq
  | parse buf st hr hc => exact h.parse hw hx ho hr hc hsm.1.1 hsm.2.1 buf
  | lock => exact h.move (by simp) trivial trivial nofun rfl rfl rfl rfl rfl
  | forget =>
    obtain ⟨rfl, _⟩ := hw.absence_flags
    exact h.move (by simp) trivial trivial nofun rfl rfl rfl rfl rfl
  | bootApiIp => exact h.same rfl rfl rfl rfl rfl

/-- What the assumptions are about can only grow. -/
theorem Step.smooth {start : Bool} {st st' : List Act} {w w' : World} (hs : Step st w st' w') (h : Smooth start w'.trace) :
    Smooth start w.trace := ⟨h.1.of_suffix hs.trace_suffix, h.2.of_suffix hs.trace_suffix⟩

/-! ## Between two calls of `loop` -/

/-- A device as a run from power-on leaves it between two calls of `loop`, or when `setup` has ended. -/
def BetweenLoops (d : Device) : Prop := ∃ w, Reach PowerUp [] w ∧ w.dev = d

/-- Between two calls of `loop` no call is open and neither flag is set. -/
theorem BetweenLoops.start {d : Device} (h : BetweenLoops d) : Start (LoopFrom d) := by
  obtain ⟨w, hr, rfl⟩ := h
  have hw : Disciplined [] w.dev.locked w.dev.snifferNested := hr.wellStacked powerUp_start
  obtain ⟨hl, hn⟩ := hw.idle_flags
  exact loopFrom_start hl hn

/-- No request is noted either. -/
theorem BetweenLoops.exchange {d : Device} (h : BetweenLoops d) {st : List Act} {w : World} (hi : LoopFrom d st w) :
    Exchange st w.dev := by
  obtain ⟨w₀, hr, rfl⟩ := h
  obtain ⟨rfl, rfl⟩ := hi
  exact hr.exchange powerUp_start powerUp_exchange

/-- So it holds of what `loop` can reach. -/
theorem Reach.agreed {d : Device} (hd : BetweenLoops d) {st : List Act} {w : World} (h : Reach (LoopFrom d) st w) :
    Smooth (bitRead d.state MY_ID) w.trace → Agreed (bitRead d.state MY_ID) st w := by
  refine h.invariant (P := fun st w => Smooth (bitRead d.state MY_ID) w.trace → Agreed (bitRead d.state MY_ID) st w) ?_
    fun st w st' w' hr ih hs hsm => ?_
  · rintro st w ⟨rfl, rfl⟩ _
    exact ⟨nofun, nofun, nofun, nofun, fun _ => Or.inl rfl, nofun, nofun⟩
  · exact hs.agreed (hr.wellStacked hd.start) (hr.exchange hd.start hd.exchange) (hr.openCalls hd.start) hsm (ih (hs.smooth hsm))

/-- In every run of `loop` from a device between two calls of it, with the house's bit at the server as the device has it: whenever `loop`
returns, if the server has done its part and no report was lost, the two agree. -/
theorem house_agrees (d : Device) (hd : BetweenLoops d) (tape : List Input) :
    Always (fun ev d' past => ev = .leave .loop →
      Always (fun ev d' past => served (bitRead d.state MY_ID) ev d' past = true) past →
      Always (fun ev d' past => unlost ev d' past = true) past →
      serverBit (bitRead d.state MY_ID) past = bitRead d'.state MY_ID) (runLoop d tape).trace := by
  obtain ⟨st, hr⟩ := runLoop_reached d tape
  refine hr.always ?_ fun st w ev d' past hr hn => ?_
  · rintro st w ⟨rfl, rfl⟩
    trivial
  · cases hn with
    | mark hm => cases hm with
      | loopEnd =>
        intro _ hserved hunlost
        have h := hr.agreed hd ⟨hserved, hunlost⟩
        have ho : owed [.loop] w.dev.locked = none := rfl
        have hnone : pending [.loop] w.dev.locked = none := rfl
        exact ((h.agreed ho).resolve_right (by rw [hnone]; nofun)).symm
      | _ => nofun
    | net hn => cases hn <;> nofun
    | _ => nofun

/-- A device that has just booted, with the house on. -/
def home : Device := (setup ⟨powerOn blank blank, []⟩ (bootWith 0x01)).state.dev

/-- A call of `loop` that sweeps and syncs, eleven minutes after boot. -/
def sweptAndSynced : List Input :=
  idlePoll ++ passes 700000 ++ silence 5 ++ sweepProbes ++ silence 2 ++ serverCall 3 (okReply [0x01]) ++ silence 1

/-- A call of `loop` that finds the target absent; it comes back while the server is told that the house is off. -/
def recalled : List Input :=
  idlePoll ++ passes 205000 ++ silence 4 ++ sweepProbes ++ silence 1 ++ callUp (clientPort 4) ++ framePoll phoneDatagram ++ silence 2 ++
    callDown (clientPort 4) (okReply []) ++ silence 3

set_option maxRecDepth 10000 in
/-- The device is one that boot leaves. -/
theorem home_betweenLoops : BetweenLoops home := by
  have hd : (setup ⟨powerOn blank blank, []⟩ (bootWith 0x01)).returned = true := by decide +kernel
  exact ⟨_, setup_reach.of_returned (.init ⟨rfl, blank, blank, rfl⟩) hd, rfl⟩

set_option maxRecDepth 10000 in
/-- `loop` returns with the house on, and at the server it is off. -/
theorem recalled_unreported : ¬∀ (d : Device), BetweenLoops d → ∀ tape : List Input,
    Always (fun ev d' past => ev = .leave .loop →
      Always (fun ev d' past => served (bitRead d.state MY_ID) ev d' past = true) past →
      serverBit (bitRead d.state MY_ID) past = bitRead d'.state MY_ID) (runLoop d tape).trace := by
  have hrun : ¬Always (fun ev d' past => ev = .leave .loop →
      Always (fun ev d' past => served (bitRead home.state MY_ID) ev d' past = true) past →
      serverBit (bitRead home.state MY_ID) past = bitRead d'.state MY_ID) (runLoop home (sweptAndSynced ++ recalled)).trace := by
    decide +kernel
  exact fun h => hrun (h home home_betweenLoops (sweptAndSynced ++ recalled))

/-- A call of `loop` that finds the target absent: the house goes off, and that is reported. -/
def leaves : List Input :=
  idlePoll ++ passes 205000 ++ silence 4 ++ sweepProbes ++ silence 1 ++ serverCall 4 (okReply []) ++ silence 3

/-- A call of `loop` that hears of it again: the house goes on, and that is reported. -/
def returns : List Input := framePoll phoneDatagram ++ silence 1 ++ serverCall 5 (okReply []) ++ silence 7

set_option maxRecDepth 10000 in
/-- After a sync, an absence and a sighting, with the server doing its part and every report out, `loop` returns with the two agreed. -/
theorem house_agrees_home :
    Sometimes (fun ev d' past => ev = .leave .loop ∧
      List.Sublist [.request Api.on.url, .toggled MY_ID true, .request Api.off.url, .toggled MY_ID false] (past.map Prod.fst) ∧
      serverBit (bitRead home.state MY_ID) past = bitRead d'.state MY_ID)
      (runLoop home (sweptAndSynced ++ leaves ++ returns)).trace := by
  have hmet : Sometimes (fun ev d' past => ev = .leave .loop ∧
      List.Sublist [.request Api.on.url, .toggled MY_ID true, .request Api.off.url, .toggled MY_ID false] (past.map Prod.fst) ∧
      Always (fun ev d' past => served (bitRead home.state MY_ID) ev d' past = true) past ∧
      Always (fun ev d' past => unlost ev d' past = true) past) (runLoop home (sweptAndSynced ++ leaves ++ returns)).trace := by
    decide +kernel
  refine ((house_agrees home home_betweenLoops (sweptAndSynced ++ leaves ++ returns)).sometimes hmet).mono fun ev d' past h => ?_
  obtain ⟨⟨hret, hreports, hserved, hunlost⟩, hagree⟩ := h
  exact ⟨hret, hreports, hagree hret hserved hunlost⟩

end EtherHouse
