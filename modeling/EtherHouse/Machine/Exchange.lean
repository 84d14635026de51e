import EtherHouse.Machine.Discipline
import EtherHouse.Net.Connection

/-!
# Server calls and the connection

What a server call on the stack says of the library's client: while a call waits for its reply, the client holds that call's request;
while none does, no connection is pending or open. And how the calls on the stack are told by the trace.
-/

namespace EtherHouse

/-- Below a server call there is none that waits. -/
theorem Home.below {k : Api} {st : List Act} {n : Bool} (h : Home k st n) :
    ∀ k' p rest, apis st = (k', p) :: rest → p = .draining := by
  have hsite : ∀ {k st}, Site k st → apis st = [] := by
    intro k st h
    cases h <;> rfl
  intro k' p rest he
  cases h with
  | outer h =>
    rw [hsite h] at he
    cases he
  | inner plen srcIp h =>
    cases h with
    | @draining k st h =>
      have hd : apis (.sniffer .lit srcIp :: .packetLoop plen .hook :: .api k .draining :: st) = (k, .draining) :: apis st := rfl
      rw [hd] at he
      cases he
      rfl
    | setup => cases he
    | loop => cases he
    | sweep => cases he
    | lastDitch => cases he

/-! ## Which call waits -/

/-- The server call that waits for its reply. -/
def pending (st : List Act) (locked : Bool) : Option Api :=
  match apis st with
  | (k, .armed) :: _ => some k
  | (k, .waiting) :: _ => if locked then some k else none
  | _ => none

/-- Which call waits depends on the server calls on the stack only. -/
theorem pending_congr {st st' : List Act} (h : apis st' = apis st) (l : Bool) : pending st' l = pending st l := by
  unfold pending
  rw [h]

/-- Where the innermost call is past its wait, none waits. -/
theorem pending_of_draining {st : List Act} (h : ∀ k p rest, apis st = (k, p) :: rest → p = .draining) (l : Bool) :
    pending st l = none := by
  unfold pending
  split
  · next he => cases h _ _ _ he
  · next he => cases h _ _ _ he
  · rfl

/-- With the lock free none waits, unless one is about to take it. -/
theorem pending_unlocked {st : List Act} (h : ∀ k rest, apis st ≠ (k, .armed) :: rest) : pending st false = none := by
  unfold pending
  split
  · next he => exact absurd he (h _ _)
  · rfl
  · rfl

/-- The call that waits is the innermost. -/
theorem apis_of_pending {st : List Act} {l : Bool} {k : Api} (h : pending st l = some k) :
    ∃ p rest, apis st = (k, p) :: rest ∧ (p = .armed ∨ p = .waiting ∧ l = true) := by
  unfold pending at h
  split at h
  · next he =>
    cases h
    exact ⟨_, _, he, Or.inl rfl⟩
  · next he =>
    split at h
    · next hl =>
      cases h
      exact ⟨_, _, he, Or.inr ⟨rfl, hl⟩⟩
    · cases h
  · cases h

/-- Where a server call can begin, none waits. -/
theorem CallSite.not_pending {k : Api} {st st' : List Act} {n : Bool} (hc : CallSite k st st') (hh : Home k st' n) (l : Bool) :
    pending st l = none := by
  have ha : apis st' = apis st := by cases hc <;> rfl
  rw [← pending_congr ha]
  exact pending_of_draining hh.below l

/-! ## What the client holds -/

/-- The client holds a call's request, for the server. -/
structure Requested (k : Api) (d : Device) : Prop where
  callback : d.ether.tcp.clientBrowserCb = some k.callback
  url : d.ether.tcp.clientUrlbuf = k.url
  session : d.ether.tcp.wwwFd = d.ether.tcp.tcpFd
  listening : d.ether.tcp.clientTcpCb = true
  peer : d.ether.cfg.hisip = d.apiIp

/-- A packet loop stands before or behind the result callback. -/
def AtUpcall (st : List Act) : Prop :=
  ∃ plen u rest, st = .packetLoop plen (.upcall u) :: rest ∨ st = .packetLoop plen (.closing u) :: rest

def Closing (st : List Act) : Prop := ∃ plen u rest, st = .packetLoop plen (.closing u) :: rest

/-- While a call waits the client holds its request; while none does, no connection is pending or open, or it is about to be closed. -/
structure Exchange (st : List Act) (d : Device) : Prop where
  persist : d.ether.cfg.persistTcpConnection = false
  upcall : ∀ plen u rest, st = .packetLoop plen (.upcall u) :: rest →
    packetLoopReceived plen d.ether = (d.ether, u) ∧ u.Ends
  closing : ∀ plen u rest, st = .packetLoop plen (.closing u) :: rest → u.Ends
  quiet : pending st d.locked = none → Closing st ∨ ¬d.ether.tcp.Busy
  requested : ∀ k, pending st d.locked = some k → Requested k d

/-- A request stays noted while what the connection keeps, and its peer, do. -/
theorem Requested.congr {k : Api} {d d' : Device} (h : Requested k d) (he : d'.ether.held = d.ether.held)
    (hp : d'.ether.cfg.hisip = d.ether.cfg.hisip) (ha : d'.apiIp = d.apiIp) : Requested k d' := by
  have ht : d'.ether.tcp.atRest = d.ether.tcp.atRest := congrArg (·.2.2) he
  have hcb := congrArg TcpClient.clientBrowserCb ht
  have hurl := congrArg TcpClient.clientUrlbuf ht
  have hfd := congrArg TcpClient.wwwFd ht
  have htfd := congrArg TcpClient.tcpFd ht
  have hon := congrArg TcpClient.clientTcpCb ht
  constructor
  · exact hcb.trans h.callback
  · exact hurl.trans h.url
  · exact hfd.trans (h.session.trans htfd.symm)
  · exact hon.trans h.listening
  · rw [hp, ha]
    exact h.peer

/-- A step that leaves the library's state alone, and does not begin or end a result callback. -/
theorem Exchange.move {st st' : List Act} {d d' : Device} (h : Exchange st d) (he : d'.ether = d.ether)
    (ha : d'.apiIp = d.apiIp) (hp : pending st' d'.locked = pending st d.locked)
    (hst : st' = st ∨ ¬Closing st ∧ ¬AtUpcall st') : Exchange st' d' := by
  rcases hst with rfl | ⟨hc, hu⟩
  · constructor
    · rw [he]; exact h.persist
    · rw [he]; exact h.upcall
    · exact h.closing
    · rw [he, hp]; exact h.quiet
    · intro k hk
      rw [hp] at hk
      exact (h.requested k hk).congr (congrArg Ether.held he) (congrArg (·.cfg.hisip) he) ha
  · constructor
    · rw [he]; exact h.persist
    · exact fun plen u rest hs => absurd ⟨plen, u, rest, Or.inl hs⟩ hu
    · exact fun plen u rest hs => absurd ⟨plen, u, rest, Or.inr hs⟩ hu
    · intro hk
      rw [hp] at hk
      rw [he]
      exact Or.inr ((h.quiet hk).resolve_left hc)
    · intro k hk
      rw [hp] at hk
      exact (h.requested k hk).congr (congrArg Ether.held he) (congrArg (·.cfg.hisip) he) ha

/-- A step of the library that opens no connection, and keeps what is held. -/
theorem Exchange.net {st st' : List Act} {d : Device} {f : Ether → Ether} (h : Exchange st d)
    (hheld : (f d.ether).held = d.ether.held)
    (hpeer : pending st d.locked = none ∨ (f d.ether).cfg.hisip = d.ether.cfg.hisip)
    (hbusy : (f d.ether).tcp.Busy → d.ether.tcp.Busy) (ha : apis st' = apis st) (hc : ¬Closing st) (hu : ¬AtUpcall st') :
    Exchange st' (d.net f) := by
  have hp : pending st' d.locked = pending st d.locked := pending_congr ha _
  constructor
  · rw [net_ether]
    have hpersist := congrArg (·.2.1) hheld
    exact hpersist.trans h.persist
  · exact fun plen u rest hs => absurd ⟨plen, u, rest, Or.inl hs⟩ hu
  · exact fun plen u rest hs => absurd ⟨plen, u, rest, Or.inr hs⟩ hu
  · intro hk
    rw [net_locked, hp] at hk
    rw [net_ether]
    exact Or.inr fun hb => (h.quiet hk).resolve_left hc (hbusy hb)
  · intro k hk
    rw [net_locked, hp] at hk
    refine (h.requested k hk).congr hheld ?_ rfl
    rcases hpeer with hn | hpeer
    · rw [hn] at hk
      cases hk
    · exact hpeer

/-- An activation that logs is not a packet loop about to close. -/
theorem not_closing_of_logs {st : List Act} (h : Logs st) : ¬Closing st := by
  rintro ⟨plen, u, rest, rfl⟩
  exact h

/-- Nor one at the callback. -/
theorem not_atUpcall_of_logs {st : List Act} (h : Logs st) : ¬AtUpcall st := by
  rintro ⟨plen, u, rest, rfl | rfl⟩
  · exact h
  · exact h

/-- Between two calls of `loop` no packet loop is at the callback. -/
theorem not_atUpcall_nil : ¬AtUpcall [] := by
  rintro ⟨plen, u, rest, h | h⟩ <;> cases h

/-- A packet loop that stands elsewhere. -/
theorem not_atUpcall_packetLoop {plen : Nat} {p : LoopPhase} {st : List Act} (hu : ∀ u, p ≠ .upcall u) (hc : ∀ u, p ≠ .closing u) :
    ¬AtUpcall (.packetLoop plen p :: st) := by
  rintro ⟨plen', u, rest, h | h⟩
  · cases h; exact hu u rfl
  · cases h; exact hc u rfl

/-- A packet loop elsewhere is not about to close. -/
theorem not_closing_packetLoop {plen : Nat} {p : LoopPhase} {st : List Act} (hc : ∀ u, p ≠ .closing u) :
    ¬Closing (.packetLoop plen p :: st) := by
  rintro ⟨plen', u, rest, h⟩
  cases h
  exact hc u rfl

/-- The steps of the library keep the invariant. -/
theorem NetStep.exchange {st st' : List Act} {d : Device} {note : Option Event} {f : Ether → Ether} (hs : NetStep st d note f st')
    (hw : Disciplined st d.locked d.snifferNested) (h : Exchange st d) : Exchange st' (d.net f) := by
  cases hs with
  | log msg _ hl =>
    have hstat := statics_syslogF msg d.ether
    exact h.net (held_of_statics hstat) (Or.inr (by rw [cfg_of_statics hstat])) (fun hb => by rwa [tcp_of_statics hstat] at hb) rfl
      (not_closing_of_logs hl) (not_atUpcall_of_logs hl)
  | dhcp plen t₁ t₂ st =>
    have hc := client_dhcpStateMachine d.ether t₁ t₂ plen
    have htcp : (dhcpStateMachine t₁ t₂ plen d.ether).tcp = d.ether.tcp := congrArg (·.1) hc
    exact h.net (held_dhcpStateMachine _ _ _ _) (Or.inr (congrArg (·.2) hc)) (fun hb => by rwa [htcp] at hb) rfl
      (not_closing_packetLoop nofun) (not_atUpcall_packetLoop nofun nofun)
  | idle up st =>
    exact h.net (held_packetLoopIdle _ _) (Or.inr (by rw [cfg_packetLoopIdle])) (busy_packetLoopIdle _) rfl
      (not_closing_packetLoop nofun) (not_atUpcall_packetLoop nofun nofun)
  | ret st hr =>
    exact h.net (held_packetLoopReceived _ _) (Or.inr (by rw [cfg_packetLoopReceived])) (busy_packetLoopReceived _) rfl
      (not_closing_packetLoop nofun) (not_atUpcall_packetLoop nofun nofun)
  | @upcall plen u _ st hu hr hq =>
    obtain ⟨heq, hends⟩ := packetLoopReceived_ends d.ether hu hr hq
    have he : (d.net fun e => (packetLoopReceived plen e).1).ether = d.ether := by
      rw [net_ether, heq]
    constructor
    · rw [he]; exact h.persist
    · intro plen' u' rest hs
      cases hs
      rw [he]
      exact ⟨heq, hends⟩
    · intro plen' u' rest hs
      cases hs
    · intro hk
      rw [he]
      exact Or.inr ((h.quiet hk).resolve_left (not_closing_packetLoop nofun))
    · intro k hk
      exact (h.requested k hk).congr (congrArg Ether.held he) (congrArg (·.cfg.hisip) he) rfl
  | close plen u st =>
    have hends := h.closing plen u st rfl
    have hheld := held_packetLoopAfter d.ether u
    constructor
    · rw [net_ether, cfg_packetLoopAfter]
      exact h.persist
    · exact fun plen u rest hs => absurd ⟨plen, u, rest, Or.inl hs⟩ (not_atUpcall_packetLoop nofun nofun)
    · exact fun plen u rest hs => absurd ⟨plen, u, rest, Or.inr hs⟩ (not_atUpcall_packetLoop nofun nofun)
    · exact fun _ => Or.inr (not_busy_packetLoopAfter _ hends h.persist)
    · intro k hk
      exact (h.requested k hk).congr hheld (by rw [net_ether, cfg_packetLoopAfter]) rfl
  | browse k st =>
    constructor
    · exact h.persist
    · nofun
    · nofun
    · nofun
    · intro k' hk
      cases hk
      exact ⟨rfl, rfl, rfl, rfl, rfl⟩
  | @probe base next _ st =>
    have hp : pending (.sweep base next :: st) d.locked = none := by
      obtain ⟨hl, hn⟩ := hw.sweep_flags
      rw [hl, hn] at hw
      rw [hl]
      cases hw with
      | calm h => cases h with
        | outer h => cases h <;> rfl
    exact h.net (held_selectDestAddr _ _) (Or.inl hp) (fun hb => by rwa [tcp_selectDestAddr] at hb) rfl
      (not_closing_of_logs trivial) (not_atUpcall_of_logs trivial)
  | ping =>
    exact h.net (held_forceDestMac _ _) (Or.inr rfl) id rfl (not_closing_of_logs trivial) (not_atUpcall_of_logs trivial)
  | icmp =>
    have hstat := statics_clientIcmpRequest d.ether d.targetIp
    exact h.net (held_of_statics hstat) (Or.inl rfl) (fun hb => by rwa [tcp_of_statics hstat] at hb) rfl
      (not_closing_of_logs trivial) (not_atUpcall_of_logs trivial)
  | boot hf =>
    have hn : NetStep [.setup .network] d none f [.setup .network] := .boot hf d
    have htcp : (f d.ether).tcp = d.ether.tcp := by
      cases hf with
      | begin => rfl
      | dhcpBegin => rfl
      | dhcp t₁ t₂ len => exact congrArg (·.1) (client_dhcpStateMachine d.ether t₁ t₂ len)
      | dhcpEnd => rfl
      | noHisip => rfl
      | dnsRequest name => exact tcp_dnsRequest _ _
      | dnsAnswer len => exact tcp_checkForDnsAnswer _ _
    rcases hn.held with ⟨hheld, _⟩ | ⟨_, _, hst, _⟩
    · exact h.net hheld (Or.inl rfl) (fun hb => by rwa [htcp] at hb) rfl (not_closing_of_logs trivial) (not_atUpcall_of_logs trivial)
    · cases hst

/-- What is returned to is no packet loop at its callback. -/
theorem Resumes.not_atUpcall {st : List Act} (h : Resumes st) : ¬AtUpcall st := by
  rintro ⟨plen, u, rest, rfl | rfl⟩
  · cases h
  · cases h

/-- What can go on is not a packet loop about to close. -/
theorem Resumes.not_closing {st : List Act} (h : Resumes st) : ¬Closing st := by
  rintro ⟨plen, u, rest, rfl⟩
  cases h

/-- What is noted keeps the invariant. -/
theorem MarkStep.exchange {st st' : List Act} {d : Device} {ev : Event} (hs : MarkStep st d ev st')
    (hw : Disciplined st d.locked d.snifferNested) (h : Exchange st d) : Exchange st' d := by
  cases hs with
  | wdtReset => exact h.move rfl rfl rfl (Or.inl rfl)
  | compared => exact h.move rfl rfl rfl (Or.inl rfl)
  | ignored =>
    exact h.move rfl rfl rfl (Or.inr ⟨not_closing_packetLoop nofun, not_atUpcall_packetLoop nofun nofun⟩)
  | hooked =>
    exact h.move rfl rfl rfl (Or.inr ⟨not_closing_packetLoop nofun, not_atUpcall_packetLoop nofun nofun⟩)
  | abort hc hl =>
    have ha : apis st' = apis st := by cases hc <;> rfl
    refine h.move rfl rfl (pending_congr ha _) (Or.inr ⟨?_, (hc.resumes hw).not_atUpcall⟩)
    cases hc <;> exact nofun
  | enter hc hl =>
    have hp := hc.not_pending ((hc.disciplined hw).1 hl) d.locked
    refine h.move rfl rfl ?_ (Or.inr ⟨?_, not_atUpcall_of_logs trivial⟩)
    · rw [hp]
      rfl
    · cases hc <;> exact nofun
  | leave k =>
    have hh := hw.home.1
    exact h.move rfl rfl (pending_of_draining hh.below _) (Or.inr ⟨not_closing_of_logs trivial, hh.resumes.not_atUpcall⟩)
  | polled plen =>
    exact h.move rfl rfl rfl (Or.inr ⟨not_closing_packetLoop nofun, hw.resumes.not_atUpcall⟩)
  | loopBegin => exact h.move rfl rfl rfl (Or.inr ⟨nofun, not_atUpcall_of_logs trivial⟩)
  | loopEnd => exact h.move rfl rfl rfl (Or.inr ⟨nofun, not_atUpcall_nil⟩)
  | setupEnd => exact h.move rfl rfl rfl (Or.inr ⟨nofun, not_atUpcall_nil⟩)
  | sweepBegin => exact h.move rfl rfl rfl (Or.inr ⟨nofun, not_atUpcall_of_logs trivial⟩)
  | sweepEnd => exact h.move rfl rfl rfl (Or.inr ⟨nofun, not_atUpcall_of_logs trivial⟩)
  | lastDitchBegin => exact h.move rfl rfl rfl (Or.inr ⟨nofun, not_atUpcall_of_logs trivial⟩)
  | lastDitchEnd => exact h.move rfl rfl rfl (Or.inr ⟨nofun, not_atUpcall_of_logs trivial⟩)

/-- A callback frees the lock: what waited waits no longer, and the connection is about to be closed. -/
theorem Exchange.parse {plen : Nat} {u : Upcall} {st : List Act} {d d' : Device}
    (h : Exchange (.packetLoop plen (.upcall u) :: st) d) (hl : d'.locked = false)
    (hs : d'.ether.statics = d.ether.statics) (ha : ∀ k rest, apis st ≠ (k, .armed) :: rest) : Exchange (.packetLoop plen (.closing u) :: st) d' where
  persist := by
    rw [cfg_of_statics hs]
    exact h.persist
  upcall := nofun
  closing := fun plen' u' rest hs => by
    cases hs
    exact (h.upcall plen u st rfl).2
  quiet := fun _ => Or.inl ⟨plen, u, st, rfl⟩
  requested := fun k hk => by
    have hn : pending (.packetLoop plen (.closing u) :: st) false = none := pending_unlocked ha
    rw [hl, hn] at hk
    cases hk

/-- The steps of the stack keep it. -/
theorem CtrlStep.exchange {st st' : List Act} {d : Device} (hs : CtrlStep st d st') (h : Exchange st d) : Exchange st' d := by
  cases hs with
  | noDhcp => exact h.move rfl rfl rfl (Or.inr ⟨not_closing_packetLoop nofun, not_atUpcall_packetLoop nofun nofun⟩)
  | unheard => exact h.move rfl rfl rfl (Or.inr ⟨not_closing_packetLoop nofun, not_atUpcall_packetLoop nofun nofun⟩)
  | @noParse _ u plen st hn =>
    constructor
    · exact h.persist
    · nofun
    · intro plen' u' rest hs
      cases hs
      exact (h.upcall plen u st rfl).2
    · exact fun _ => Or.inl ⟨plen, u, st, rfl⟩
    · exact h.requested
  | alight => exact h.move rfl rfl rfl (Or.inr ⟨nofun, nofun⟩)
  | drained k st hl =>
    have hp : pending (.api k .waiting :: st) d.locked = none := by
      rw [hl]
      rfl
    exact h.move rfl rfl (by rw [hp]; rfl) (Or.inr ⟨nofun, nofun⟩)
  | skip => exact h.move rfl rfl rfl (Or.inr ⟨nofun, nofun⟩)
  | absent => exact h.move rfl rfl rfl (Or.inr ⟨nofun, nofun⟩)
  | confirmed => exact h.move rfl rfl rfl (Or.inr ⟨nofun, nofun⟩)
  | present => exact h.move rfl rfl rfl (Or.inr ⟨nofun, nofun⟩)

/-- Where a callback runs, no call is about to wait. -/
theorem Disciplined.not_armed {plen : Nat} {p : LoopPhase} {st : List Act} {l n : Bool}
    (h : Disciplined (.packetLoop plen p :: st) l n) : ∀ k rest, apis st ≠ (k, .armed) :: rest := by
  have hcalm : ∀ {st n}, Calm st n → ∀ k rest, apis st ≠ (k, .armed) :: rest := by
    intro st n h k rest he
    cases h with
    | outer h => cases h <;> cases he
    | inner h => cases he
  intro k rest he
  cases h with
  | calm h => cases h with
    | outer h => cases h
  | pollCalm h => exact hcalm h k rest he
  | pollWaiting => cases he
  | closing => cases he
  | closed => cases he

/-- A parse callback logs, and changes no other part of the library's state. -/
theorem browserCallback_statics (cb : BrowserCallback) (buf : Nat) (status : Byte) (off len : Nat) (d : Device) :
    (browserCallback cb buf status off len d).ether.statics = d.ether.statics := by
  cases cb with
  | macsParse =>
    simp only [browserCallback, macsParseCallback, snifferListenForMac]
    split <;> rfl
  | stateParse =>
    simp only [browserCallback, stateParseCallback]
    split
    · rfl
    · exact statics_syslogF _ _
  | apiSet => rfl

/-- Each step keeps it. -/
theorem Step.exchange {st st' : List Act} {w w' : World} (hs : Step st w st' w') (hw : WellStacked st w) (h : Exchange st w.dev) :
    Exchange st' w'.dev := by
  cases hs with
  | tick => exact h.move rfl rfl rfl (Or.inl rfl)
  | net hn =>
    rw [update_dev, note_dev]
    exact hn.exchange hw h
  | ctrl hc => exact hc.exchange h
  | mark hm => exact hm.exchange hw h
  | timer ht => cases ht <;> exact h.move rfl rfl rfl (Or.inr ⟨nofun, nofun⟩)
  | poll a hp =>
    have hstat := statics_packetReceiveInto w.dev.ether a
    exact h.net (held_of_statics hstat) (Or.inr (by rw [cfg_of_statics hstat])) (fun hb => by rwa [tcp_of_statics hstat] at hb) rfl
      hp.resumes.not_closing (not_atUpcall_packetLoop nofun nofun)
  | receive a =>
    have hstat := statics_packetReceiveInto w.dev.ether a
    exact h.net (held_of_statics hstat) (Or.inl rfl) (fun hb => by rwa [tcp_of_statics hstat] at hb) rfl
      (not_closing_of_logs trivial) (not_atUpcall_of_logs trivial)
  | sniff => exact h.move rfl rfl rfl (Or.inr ⟨not_closing_packetLoop nofun, nofun⟩)
  | toggleOn => exact h.move rfl rfl rfl (Or.inr ⟨nofun, nofun⟩)
  | toggleOff => exact h.move rfl rfl rfl (Or.inr ⟨nofun, nofun⟩)
  | learn => exact h.move rfl rfl rfl (Or.inl rfl)
  | unsniff srcIp => exact h.move rfl rfl rfl (Or.inr ⟨nofun, hw.sniffed.1.resumes.not_atUpcall⟩)
  | @requested plen _ _ st hq =>
    exact h.net (f := fun e => (packetLoopReceived plen e).1) (held_packetLoopReceived _ _)
      (Or.inr (by rw [cfg_packetLoopReceived])) (busy_packetLoopReceived _) rfl
      (not_closing_packetLoop nofun) (not_atUpcall_packetLoop nofun nofun)
  | parse buf st hr hc =>
    exact h.parse (browserCallback_locked _ _ _ _ _ _) (browserCallback_statics _ _ _ _ _ _) hw.not_armed
  | lock k st => exact h.move rfl rfl rfl (Or.inr ⟨nofun, nofun⟩)
  | forget =>
    obtain ⟨rfl, _⟩ := hw.absence_flags
    exact h.move rfl rfl rfl (Or.inr ⟨nofun, nofun⟩)
  | bootApiIp =>
    constructor
    · exact h.persist
    · nofun
    · nofun
    · exact fun hk => Or.inr ((h.quiet hk).resolve_left nofun)
    · nofun

/-- Between two calls of `loop`, and when boot begins, no connection is pending or open. -/
theorem exchange_of_not_busy {st : List Act} {d : Device} (hp : d.ether.cfg.persistTcpConnection = false) (hb : ¬d.ether.tcp.Busy)
    (ha : apis st = []) (hu : ¬AtUpcall st) : Exchange st d where
  persist := hp
  upcall := fun plen u rest hs => absurd ⟨plen, u, rest, Or.inl hs⟩ hu
  closing := fun plen u rest hs => absurd ⟨plen, u, rest, Or.inr hs⟩ hu
  quiet := fun _ => Or.inr hb
  requested := fun k hk => by
    have hn := pending_of_draining (fun k p rest he => by rw [ha] at he; cases he) d.locked
    rw [hn] at hk
    cases hk

/-- At power-on no request is noted. -/
theorem powerUp_exchange {st : List Act} {w : World} (h : PowerUp st w) : Exchange st w.dev := by
  obtain ⟨rfl, eeprom, flash, rfl⟩ := h
  have he : (loadedFrom ⟨powerOn eeprom flash, []⟩).dev.ether = etherStatics := by
    simp only [loadedFrom, emit_dev, update_dev, readStateFromEeprom_ether]
    rfl
  refine exchange_of_not_busy ?_ ?_ rfl (not_atUpcall_of_logs trivial)
  · rw [he]
    rfl
  · rw [he]
    rintro (h | h | h) <;> cases h

/-- Every reached configuration, from where this holds. -/
theorem Reach.exchange {I : List Act → World → Prop} (hI : Start I) (hE : ∀ {st w}, I st w → Exchange st w.dev) {st : List Act}
    {w : World} (h : Reach I st w) : Exchange st w.dev :=
  h.invariant (fun _ _ hi => hE hi) fun _ _ _ _ hr he hs => hs.exchange (hr.wellStacked hI) he

/-! ## Requests and callbacks -/

/-- A request goes out for the call that waits. -/
theorem Exchange.request {plen : Nat} {url : List Byte} {st : List Act} {d : Device} (h : Exchange (.packetLoop plen .tail :: st) d)
    (hq : (packetLoopReceived plen d.ether).2 = .requested url) :
    ∃ k, pending (.packetLoop plen .tail :: st) d.locked = some k ∧ url = k.url := by
  obtain ⟨hs, hurl⟩ := packetLoopReceived_requested d.ether hq
  cases hp : pending (.packetLoop plen .tail :: st) d.locked with
  | none =>
    rcases h.quiet hp with hc | hb
    · exact absurd hc (not_closing_packetLoop nofun)
    · exact absurd (Or.inr (Or.inl hs)) hb
  | some k => exact ⟨k, rfl, hurl.trans (h.requested k hp).url⟩

/-- The callback that runs while a call waits is its own; while none does, it is told of another session's segment. -/
theorem Exchange.callback {plen : Nat} {u : Upcall} {st : List Act} {d : Device} (h : Exchange (.packetLoop plen (.upcall u) :: st) d)
    {status : Byte} {off len : Nat} {cb : BrowserCallback} (hr : wwwClientInternalResultCb d.ether u = some (status, off, len))
    (hc : d.ether.tcp.clientBrowserCb = some cb) :
    (pending (.packetLoop plen (.upcall u) :: st) d.locked = none ∧ status = 4 ∧ off = 0 ∧ len = 0) ∨
      ∃ k, pending (.packetLoop plen (.upcall u) :: st) d.locked = some k ∧ cb = k.callback := by
  cases hp : pending (.packetLoop plen (.upcall u) :: st) d.locked with
  | none =>
    left
    rcases wwwClientInternalResultCb_cases d.ether hr with h4 | ⟨_, datapos, ackLen, hu⟩
    · exact ⟨rfl, h4⟩
    · -- data comes on an open connection only
      obtain ⟨heq, _⟩ := h.upcall plen u st rfl
      have hdata : (packetLoopReceived plen d.ether).2 = .data d.ether.tcp.wwwFd datapos len ackLen := by rw [heq, hu]
      obtain ⟨_, _, hs, _⟩ := packetLoopReceived_data plen d.ether hdata
      rcases h.quiet hp with hcl | hb
      · exact absurd hcl (not_closing_packetLoop nofun)
      · exact absurd (Or.inr (Or.inr hs)) hb
  | some k =>
    have hk := (h.requested k hp).callback
    rw [hc] at hk
    exact Or.inr ⟨k, rfl, Option.some.inj hk⟩

/-! ## Every call is answered -/

/-- No parse callback makes a request. -/
theorem browserCallback_clientBrowserCb (cb : BrowserCallback) (buf : Nat) (status : Byte) (off len : Nat) (d : Device) :
    (browserCallback cb buf status off len d).ether.tcp.clientBrowserCb = d.ether.tcp.clientBrowserCb :=
  clientBrowserCb_of_held (held_of_statics (browserCallback_statics cb buf status off len d))

/-- A server call on the stack and the same in the trace: past its wait its callback has run. -/
def Ran (a : Api × ApiPhase) (b : Api × Bool) : Prop := b.1 = a.1 ∧ (a.2 = .draining → b.2 = true)

/-- The server calls on the stack are those of the trace; the innermost, while it waits, is waited for with its own callback, and if
it is no longer, that has run. -/
structure Answered (st : List Act) (w : World) : Prop where
  ran : List.Forall₂ Ran (apis st) (openApis w.trace)
  free : ∀ k rest, apis st = (k, .waiting) :: rest → w.dev.locked = false → (openApis w.trace).head? = some (k, true)
  pending : ∀ k p rest, apis st = (k, p) :: rest → p = .armed ∨ p = .waiting →
    w.dev.ether.tcp.clientBrowserCb = some k.callback

/-- A step that changes neither the calls on the stack nor the trace, nor the callback, nor frees the lock. -/
theorem Answered.same {st st' : List Act} {w w' : World} (h : Answered st w) (ha : apis st' = apis st)
    (ht : openApis w'.trace = openApis w.trace) (hl : w'.dev.locked = false → w.dev.locked = false)
    (hc : w'.dev.ether.tcp.clientBrowserCb = w.dev.ether.tcp.clientBrowserCb) : Answered st' w' where
  ran := by rw [ha, ht]; exact h.ran
  free := fun k rest he hw => by rw [ht]; exact h.free k rest (ha ▸ he) (hl hw)
  pending := fun k p rest he hp => by rw [hc]; exact h.pending k p rest (ha ▸ he) hp

/-- The innermost call goes on to another place, with its own callback waited for and the lock not free while it waits. -/
theorem Answered.moved {k : Api} {p p' : ApiPhase} {rest : List Act} {w w' : World} (h : Answered (.api k p :: rest) w)
    (hp : p' ≠ .draining) (ht : openApis w'.trace = openApis w.trace) (hl : p' = .waiting → w'.dev.locked = true)
    (hc : w'.dev.ether.tcp.clientBrowserCb = some k.callback) : Answered (.api k p' :: rest) w' := by
  have hran : List.Forall₂ Ran ((k, p) :: apis rest) (openApis w.trace) := h.ran
  constructor
  · rw [ht]
    generalize openApis w.trace = os at hran ⊢
    cases hran with
    | cons ha hrest => exact .cons ⟨ha.1, fun hd => absurd hd hp⟩ hrest
  · intro k' rest' he hw
    cases he
    rw [hl rfl] at hw
    cases hw
  · intro k' p'' rest' he _
    cases he
    exact hc

/-- The callback runs: if the innermost call waits, it is its own. -/
theorem Answered.parse {plen : Nat} {u : Upcall} {st : List Act} {w : World} {cb : BrowserCallback}
    (h : Answered (.packetLoop plen (.upcall u) :: st) w) (hc : w.dev.ether.tcp.clientBrowserCb = some cb) {status : Byte}
    {payload : List Byte} {f : Device → Device} (hf : (f w.dev).ether.tcp.clientBrowserCb = w.dev.ether.tcp.clientBrowserCb) :
    Answered (.packetLoop plen (.closing u) :: st) ((w.emit (.parsed cb status payload)).update f) := by
  have hran : List.Forall₂ Ran (apis st) (openApis w.trace) := h.ran
  have hopen : openApis ((w.emit (.parsed cb status payload)).update f).trace =
      (openApis w.trace).modifyHead fun a => (a.1, a.2 || cb == a.1.callback) := rfl
  constructor
  · rw [hopen]
    change List.Forall₂ Ran (apis st) _
    generalize apis st = as, openApis w.trace = os at hran ⊢
    cases hran with
    | nil => exact .nil
    | cons ha hrest => exact .cons ⟨ha.1, fun hd => by simp [ha.2 hd]⟩ hrest
  · intro k rest he _
    have hst : apis st = (k, .waiting) :: rest := he
    have hcb : cb = k.callback := by
      have hk := h.pending k .waiting rest he (Or.inr rfl)
      rw [hc] at hk
      exact Option.some.inj hk
    rw [hopen]
    rw [hst] at hran
    generalize openApis w.trace = os at hran ⊢
    cases hran with
    | @cons _ b _ _ ha hrest =>
      have hb : b.1 = k := ha.1
      simp [hcb, hb]
  · intro k p rest he hp
    have hk := h.pending k p rest he hp
    rwa [← hf] at hk

/-- A call is past its wait because the lock is free, so its callback has run. -/
theorem CtrlStep.answered {st st' : List Act} {w : World} (hs : CtrlStep st w.dev st') (h : Answered st w) : Answered st' w := by
  cases hs with
  | drained k st hl =>
    have hcons : apis (.api k .waiting :: st) = (k, .waiting) :: apis st := rfl
    have hfree := h.free k (apis st) hcons hl
    have hran := h.ran
    rw [hcons] at hran
    constructor
    · generalize openApis w.trace = os at hran hfree ⊢
      cases hran with
      | cons ha hrest =>
        simp only [List.head?_cons, Option.some.injEq] at hfree
        exact .cons ⟨ha.1, fun _ => by rw [hfree]⟩ hrest
    · intro k' rest he
      cases he
    · intro k' p rest he hp
      cases he
      rcases hp with hp | hp <;> cases hp
  | noDhcp => exact h.same rfl rfl id rfl
  | unheard => exact h.same rfl rfl id rfl
  | noParse => exact h.same rfl rfl id rfl
  | alight => exact h.same rfl rfl id rfl
  | skip => exact h.same rfl rfl id rfl
  | absent => exact h.same rfl rfl id rfl
  | confirmed => exact h.same rfl rfl id rfl
  | present => exact h.same rfl rfl id rfl

/-- A call begins: so far its callback has not run. -/
theorem Answered.enter {k : Api} {st st' : List Act} {w : World} (h : Answered st w) (hc : CallSite k st st') :
    Answered (.api k .calling :: st') (w.emit (.enter (.api k))) := by
  have ha : apis st' = apis st := by cases hc <;> rfl
  have hcons : apis (.api k .calling :: st') = (k, .calling) :: apis st := by rw [← ha]; rfl
  constructor
  · rw [hcons]
    exact .cons ⟨rfl, nofun⟩ h.ran
  · intro k' rest he
    rw [hcons] at he
    cases he
  · intro k' p rest he hp
    rw [hcons] at he
    cases he
    rcases hp with hp | hp <;> cases hp

/-- A call returns: those below it, if any, are past their wait. -/
theorem Answered.leave {k : Api} {st : List Act} {w : World} {n : Bool} (h : Answered (.api k .draining :: st) w) (hh : Home k st n) :
    Answered st (w.emit (.leave (.api k))) := by
  have hran : List.Forall₂ Ran ((k, .draining) :: apis st) (openApis w.trace) := h.ran
  constructor
  · simp only [emit_trace, openApis]
    generalize openApis w.trace = os at hran ⊢
    cases hran with
    | cons _ hrest => exact hrest
  · intro k' rest he
    cases hh.below k' _ rest he
  · intro k' p rest he hp
    rw [hh.below k' p rest he] at hp
    rcases hp with hp | hp <;> cases hp

/-- What is noted keeps what a returning call has. -/
theorem MarkStep.answered {st st' : List Act} {w : World} {ev : Event} (hs : MarkStep st w.dev ev st')
    (hw : WellStacked st w) (h : Answered st w) : Answered st' (w.emit ev) := by
  cases hs with
  | wdtReset => exact h.same rfl rfl id rfl
  | compared => exact h.same rfl rfl id rfl
  | ignored => exact h.same rfl rfl id rfl
  | hooked => exact h.same rfl rfl id rfl
  | abort hc => exact h.same (by cases hc <;> rfl) rfl id rfl
  | enter hc hl => exact h.enter hc
  | leave k => exact h.leave hw.home.1
  | polled => exact h.same rfl rfl id rfl
  | loopBegin => exact h.same rfl rfl id rfl
  | loopEnd => exact h.same rfl rfl id rfl
  | setupEnd => exact h.same rfl rfl id rfl
  | sweepBegin => exact h.same rfl rfl id rfl
  | sweepEnd => exact h.same rfl rfl id rfl
  | lastDitchBegin => exact h.same rfl rfl id rfl
  | lastDitchEnd => exact h.same rfl rfl id rfl

/-- Each step keeps it. -/
theorem Step.answered {st st' : List Act} {w w' : World} (hs : Step st w st' w') (hw : WellStacked st w) (h : Answered st w) :
    Answered st' w' := by
  cases hs with
  | tick => exact h.same rfl rfl id rfl
  | @net st st' w note f hn =>
    have ht : EtherHouse.openApis (w.note note).trace = EtherHouse.openApis w.trace := by cases hn <;> rfl
    rcases hn.held with ⟨hheld, ha⟩ | ⟨k, rest, rfl, rfl, rfl, rfl⟩
    · refine h.same ha ht (fun hl => ?_) ?_
      · rwa [update_dev, note_dev] at hl
      · rw [update_dev, note_dev]
        exact clientBrowserCb_of_held hheld
    · exact h.moved nofun rfl nofun rfl
  | ctrl hc => exact hc.answered h
  | mark hm => exact hm.answered hw h
  | timer ht => cases ht <;> exact h.same rfl rfl id rfl
  | poll a =>
    have hk := clientBrowserCb_of_held (held_of_statics (statics_packetReceiveInto w.dev.ether a))
    exact h.same rfl rfl id hk
  | receive a =>
    have hk := clientBrowserCb_of_held (held_of_statics (statics_packetReceiveInto w.dev.ether a))
    exact h.same rfl rfl id hk
  | sniff => exact h.same rfl rfl id rfl
  | toggleOn => exact h.same rfl rfl id rfl
  | toggleOff => exact h.same rfl rfl id rfl
  | learn => exact h.same rfl rfl id rfl
  | unsniff => exact h.same rfl rfl id rfl
  | requested => exact h.same rfl rfl id (clientBrowserCb_of_held (held_packetLoopReceived _ _))
  | parse buf st hr hc => exact h.parse hc (browserCallback_clientBrowserCb _ _ _ _ _ _)
  | lock k st => exact h.moved nofun rfl (fun _ => rfl) (h.pending k .armed (apis st) rfl (Or.inl rfl))
  | forget => exact h.same rfl rfl id rfl
  | bootApiIp => exact h.same rfl rfl id rfl

/-- Every reached configuration is answered. -/
theorem Reach.answered {I : List Act → World → Prop} (hI : Start I) {st : List Act} {w : World} (h : Reach I st w) :
    Answered st w := by
  refine h.invariant (fun st w hi => ?_) fun st w st' w' hr ha hs => hs.answered (hr.wellStacked hI) ha
  obtain ⟨ha, ht⟩ := hI.bare hi
  constructor
  · rw [ha, ht]
    exact .nil
  · intro k rest he
    rw [ha] at he
    cases he
  · intro k p rest he
    rw [ha] at he
    cases he

end EtherHouse
