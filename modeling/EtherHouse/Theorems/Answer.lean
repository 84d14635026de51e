import EtherHouse.Machine.Exchange
import EtherHouse.Machine.Traffic
import EtherHouse.Net.Ports

/-!
# A server call and its own reply

Whether a server call that returns has sent its request and been given data on its own connection, and which segments keep it from
that.
-/

namespace EtherHouse

/-! ## Conversations -/

/-- What a server call's conversation has come to: the numbers of its connection, that its request went out on this, that its wait was
ended by a callback, that this was given data of the connection, and that a segment that strayed was taken for one of it. -/
structure Talk where
  call : Api
  numbers : Numbers
  asked : Bool
  ended : Bool
  heard : Bool
  strayed : Bool

def Talk.begin (k : Api) : Talk := ⟨k, ⟨0, 0, 0, 0⟩, false, false, false, false⟩

/-- The numbers of a connection whose SYN goes out, if one does. -/
def Numbers.syn (frame : Option (List Byte)) (c : Numbers) : Numbers :=
  match frame with
  | some frame => { c with iss := numberOf ((frame.drop TCP_SEQ_H_P).take 4) }
  | none => c

/-- The numbers of a connection whose request is in the buffer. -/
def Numbers.request (e : Ether) (c : Numbers) : Numbers :=
  { c with rcv := ackNumber e, window := numberOf (e.buffer.slice TCP_WIN_SIZE 2), sent := (getRequest e.tcp).length }

/-- What an event adds to a conversation, as long as its call waits. -/
def Talk.note (ev : Event) (d : Device) (t : Talk) : Talk :=
  if t.ended then t
  else
    match ev with
    | .idle up => { t with numbers := t.numbers.syn (synFrame d.ether up) }
    | .request url =>
      { t with asked := t.asked || url == t.call.url && sentOnConnection d.ether t.numbers, numbers := t.numbers.request d.ether }
    | .classify plen => { t with strayed := t.strayed || strays plen d.ether t.numbers }
    | .parsed cb status _ =>
      { t with ended := true, heard := cb == t.call.callback && status != 4 && ofConnection d.ether t.numbers }
    | _ => t

/-- The conversations of the server calls that are open, the innermost first. -/
def talks : Trace → List Talk
  | [] => []
  | (.enter (.api k), _) :: past => .begin k :: talks past
  | (.leave (.api _), _) :: past => (talks past).tail
  | (.idle up, d) :: past => (talks past).modifyHead (Talk.note (.idle up) d)
  | (.request url, d) :: past => (talks past).modifyHead (Talk.note (.request url) d)
  | (.classify plen, d) :: past => (talks past).modifyHead (Talk.note (.classify plen) d)
  | (.parsed cb status payload, d) :: past => (talks past).modifyHead (Talk.note (.parsed cb status payload) d)
  | _ :: past => talks past

/-- While the innermost server call waited, a segment that strayed was taken for one of its connection. -/
def strayed (past : Trace) : Bool := (talks past).head?.any fun t => t.strayed

/-- An event does not change whose conversation it is. -/
theorem Talk.note_call (ev : Event) (d : Device) (t : Talk) : (t.note ev d).call = t.call := by
  unfold Talk.note
  split
  · rfl
  · split <;> rfl

/-- Only the SYN and the request say anything of the numbers. -/
theorem Talk.numbers_note_classify (t : Talk) (plen : Nat) (d : Device) : (t.note (.classify plen) d).numbers = t.numbers := by
  unfold Talk.note
  split <;> rfl

/-- A conversation that has ended stays as it is. -/
theorem Talk.note_ended {t : Talk} (h : t.ended = true) (ev : Event) (d : Device) : t.note ev d = t := by
  unfold Talk.note
  rw [if_pos h]

/-! ## The invariant -/

/-- A conversation that has ended: with its own reply exactly if no segment strayed. -/
structure Talk.Done (t : Talk) : Prop where
  ended : t.ended = true
  own : (t.asked = true ∧ t.heard = true) ↔ t.strayed = false

/-- A conversation that goes on, by the state of the connection; the first argument says whether the packet loop has a segment in hand
that strayed. -/
structure Talk.Waits (hand : Bool) (c : TcpClient) (t : Talk) : Prop where
  going : t.ended = false
  own : sessionId c.portL = c.wwwFd
  taken : hand = true → t.strayed = true
  opening : c.tcpClientState = 1 ∨ c.tcpClientState = 2 → t.asked = false ∧ (hand = false → t.strayed = false)
  opened : c.tcpClientState = 3 → hand = false → t.asked = !t.strayed

/-- The packet loop has a segment in hand that strays from a connection of these numbers. -/
def inHand (st : List Act) (d : Device) (c : Numbers) : Bool :=
  match st with
  | .packetLoop plen .tail :: _ => strays plen d.ether c
  | .packetLoop plen (.upcall _) :: _ => strays plen d.ether c
  | .packetLoop plen (.closing _) :: _ => strays plen d.ether c
  | _ => false

/-- A server call on the stack and its conversation. -/
def Carries (a : Api × ApiPhase) (t : Talk) : Prop := t.call = a.1 ∧ (a.2 = .draining → t.Done)

/-- The conversations are those of the calls on the stack; the innermost stands as its call does. -/
structure Conversing (st : List Act) (w : World) : Prop where
  told : List.Forall₂ Carries (apis st) (talks w.trace)
  freed : ∀ k rest, apis st = (k, .waiting) :: rest → w.dev.locked = false → ∀ t, (talks w.trace).head? = some t → t.Done
  waits : ∀ k, pending st w.dev.locked = some k → ∀ t, (talks w.trace).head? = some t →
    t.Waits (inHand st w.dev t.numbers) w.dev.ether.tcp
  begun : ∀ k rest, st = .api k .calling :: rest → ∀ t, (talks w.trace).head? = some t → t = .begin k

/-! ## What the connection's steps do to a conversation -/

section waits

variable {hand : Bool} {c c' : TcpClient} {t : Talk}

/-- How a conversation stands depends on the connection only. -/
theorem Talk.Waits.congr (h : t.Waits hand c) (hs : c'.tcpClientState = c.tcpClientState) (hp : c'.portL = c.portL)
    (hf : c'.wwwFd = c.wwwFd) : t.Waits hand c' where
  going := h.going
  own := by rw [hp, hf]; exact h.own
  taken := h.taken
  opening := fun hw => h.opening (hs ▸ hw)
  opened := fun hw => h.opened (hs ▸ hw)

/-- The connection is closed. -/
theorem Talk.Waits.closed (h : t.Waits hand c) {s : Nat} (hc : c' = { c with tcpClientState := s }) (h1 : s ≠ 1) (h2 : s ≠ 2) (h3 : s ≠ 3) :
    t.Waits false c' where
  going := h.going
  own := by rw [hc]; exact h.own
  taken := nofun
  opening := by
    rintro (hw | hw)
    · rw [hc] at hw; exact absurd hw h1
    · rw [hc] at hw; exact absurd hw h2
  opened := fun hw => by rw [hc] at hw; exact absurd hw h3

/-- The result callback is through, whether or not it has called anyone. -/
theorem Talk.Waits.after {e : Ether} (h : t.Waits hand e.tcp) {u : Upcall} (hu : u.Ends) (hp : e.cfg.persistTcpConnection = false) :
    t.Waits false (packetLoopAfter u e).tcp := by
  cases u with
  | ret pos => exact hu.elim
  | requested url => exact hu.elim
  | reset fd => exact h.closed rfl (by decide) (by decide) (by decide)
  | data fd datapos len ackLen =>
    have htcp : (packetLoopAfter (.data fd datapos len ackLen) e).tcp = { e.tcp with tcpClientState := 6 } := by
      unfold packetLoopAfter
      dsimp only
      rw [hp, if_neg Bool.false_ne_true, tcp_of_statics (statics_makeTcpAckFromAny _ _ _)]
    exact h.closed htcp (by decide) (by decide) (by decide)

/-- The packet loop finds no frame: it may send the SYN. -/
theorem Talk.Waits.idle {d : Device} (h : t.Waits false d.ether.tcp) (up : Bool) :
    (t.note (.idle up) d).Waits false (packetLoopIdle up d.ether).tcp := by
  have hnote : t.note (.idle up) d = { t with numbers := t.numbers.syn (synFrame d.ether up) } := by
    unfold Talk.note
    rw [if_neg (by rw [h.going]; nofun)]
  rw [hnote]
  replace h : ({ t with numbers := t.numbers.syn (synFrame d.ether up) } : Talk).Waits false d.ether.tcp :=
    ⟨h.going, h.own, h.taken, h.opening, h.opened⟩
  generalize ({ t with numbers := t.numbers.syn (synFrame d.ether up) } : Talk) = t' at h ⊢
  generalize d.ether = e at h ⊢
  rw [tcp_packetLoopIdle]
  split
  · next hready =>
    unfold SynReady at hready
    rw [tcp_idleGateway] at hready
    have hnew := h.opening (Or.inl hready.1)
    constructor
    · exact h.going
    · have hown := h.own
      rw [sessionId_portL] at hown ⊢
      exact hown
    · nofun
    · exact fun _ => hnew
    · nofun
  · exact h

/-- The packet loop begins to classify a frame. -/
theorem Talk.Waits.classify {d : Device} (h : t.Waits false d.ether.tcp) (plen : Nat) :
    (t.note (.classify plen) d).Waits (strays plen d.ether t.numbers) d.ether.tcp := by
  have hnote : t.note (.classify plen) d = { t with strayed := t.strayed || strays plen d.ether t.numbers } := by
    unfold Talk.note
    rw [if_neg (by rw [h.going]; nofun)]
  rw [hnote]
  constructor
  · exact h.going
  · exact h.own
  · intro hs
    simp [hs]
  · intro hw
    obtain ⟨hasked, hclean⟩ := h.opening hw
    exact ⟨hasked, fun hs => by simp [hs, hclean rfl]⟩
  · intro hw hs
    simp [hs, h.opened hw rfl]

/-- A frame that ends the packet loop. -/
theorem Talk.Waits.ret {plen pos : Nat} {e e' : Ether} (h : t.Waits (strays plen e t.numbers) e.tcp)
    (ht : Taken plen e t.numbers (e', .ret pos)) :
    t.Waits false e'.tcp := by
  cases ht with
  | kept _ hc hs =>
    rw [hs] at h
    have hstate := congrArg TcpClient.tcpClientState hc
    have hport := congrArg TcpClient.portL hc
    have hfd := congrArg TcpClient.wwwFd hc
    exact h.congr hstate hport hfd
  | closed hc h1 h2 h3 => exact h.closed hc h1 h2 h3
  | refused hc h2 hs =>
    obtain ⟨hasked, hclean⟩ := h.opening (Or.inr h2)
    rw [hc]
    exact ⟨h.going, h.own, nofun, fun _ => ⟨hasked, fun _ => hclean hs⟩, nofun⟩
  | mute hc h2 hs =>
    -- no request has gone out, and none will
    obtain ⟨hasked, _⟩ := h.opening (Or.inr h2)
    rw [hc]
    refine ⟨h.going, h.own, nofun, ?_, fun _ _ => ?_⟩
    · rintro (hw | hw) <;> cases hw
    · rw [hasked, h.taken hs]
      rfl

/-- The request goes out: on the connection, unless the SYN-ACK strayed. -/
theorem Talk.Waits.request {plen : Nat} {url : List Byte} {e : Ether} {d : Device} (h : t.Waits (strays plen e t.numbers) e.tcp)
    (ht : Taken plen e t.numbers (d.ether, .requested url)) (hurl : url = t.call.url) :
    (t.note (.request url) d).Waits false d.ether.tcp := by
  have hnote : t.note (.request url) d = { t with
      asked := t.asked || url == t.call.url && sentOnConnection d.ether t.numbers, numbers := t.numbers.request d.ether } := by
    unfold Talk.note
    rw [if_neg (by rw [h.going]; nofun)]
  rw [hnote, hurl, beq_self_eq_true, Bool.true_and]
  generalize d.ether = e' at ht ⊢
  cases ht with
  | opened _ hc h2 hs =>
    obtain ⟨hasked, hclean⟩ := h.opening (Or.inr h2)
    rw [hc, hasked, Bool.false_or]
    refine ⟨h.going, h.own, nofun, ?_, fun _ _ => ?_⟩
    · rintro (hw | hw) <;> cases hw
    · cases hb : strays plen e t.numbers with
      | false =>
        have hsent : sentOnConnection e' t.numbers = true := by simpa [hb] using hs
        rw [hclean hb, hsent]
        rfl
      | true =>
        have hsent : sentOnConnection e' t.numbers = false := by simpa [hb] using hs
        rw [h.taken hb, hsent]
        rfl

/-- A callback ends the wait: with data of the connection, after the request, exactly if no segment has strayed. -/
theorem Talk.Waits.parse {plen : Nat} {u : Upcall} {d : Device} (h : t.Waits (strays plen d.ether t.numbers) d.ether.tcp)
    (ht : Taken plen d.ether t.numbers (d.ether, u)) {status : Byte} {off len : Nat}
    (hr : wwwClientInternalResultCb d.ether u = some (status, off, len)) (payload : List Byte) :
    (t.note (.parsed t.call.callback status payload) d).Done := by
  have hnote : t.note (.parsed t.call.callback status payload) d =
      { t with ended := true, heard := t.call.callback == t.call.callback && status != 4 && ofConnection d.ether t.numbers } := by
    unfold Talk.note
    rw [if_neg (by rw [h.going]; nofun)]
  rw [hnote]
  refine ⟨rfl, ?_⟩
  cases ht with
  | reset hs =>
    simp only [wwwClientInternalResultCb] at hr
    split at hr
    · next hfd =>
      cases hr
      have hstray : strays plen d.ether t.numbers = true := by rw [hs]; simpa using hfd
      exact iff_of_false (by simp) (by simp [h.taken hstray])
    · cases hr
  | data datapos len' ackLen h3 hfd hs =>
    cases ho : ofConnection d.ether t.numbers with
    | false =>
      have hstray : strays plen d.ether t.numbers = true := by rw [hs, ho]; rfl
      exact iff_of_false (by simp) (by simp [h.taken hstray])
    | true =>
      have hstray : strays plen d.ether t.numbers = false := by rw [hs, ho]; rfl
      -- it is of the session, so the status is not 4
      have hport := ho
      simp only [ofConnection, onPorts, Bool.and_eq_true, beq_iff_eq] at hport
      rw [hport.1.1.2, h.own] at hfd
      have hstatus : status ≠ 4 := by
        simp only [wwwClientInternalResultCb, hfd, ne_eq, not_true_eq_false, if_false] at hr
        split at hr
        · cases hr
          split <;> decide
        · cases hr
      have hstatus' : (status != 4) = true := by simpa using hstatus
      rw [hstatus', h.opened h3 hstray]
      simp
  | _ => cases hr

end waits

/-! ## One step -/

/-- A step that changes no conversation. -/
theorem Conversing.move {st st' : List Act} {w w' : World} (h : Conversing st w) (ha : apis st' = apis st)
    (ht : talks w'.trace = talks w.trace) (hl : w'.dev.locked = w.dev.locked)
    (hw : ∀ (k : Api) (t : Talk), pending st w.dev.locked = some k → t.Waits (inHand st w.dev t.numbers) w.dev.ether.tcp →
      t.Waits (inHand st' w'.dev t.numbers) w'.dev.ether.tcp)
    (hb : st' = st ∨ ∀ k rest, st' ≠ .api k .calling :: rest) : Conversing st' w' where
  told := by rw [ha, ht]; exact h.told
  freed := fun k rest he hf t => by rw [ht]; exact h.freed k rest (ha ▸ he) (hl ▸ hf) t
  waits := fun k hp t hh => by
    rw [hl, pending_congr ha] at hp
    exact hw k t hp (h.waits k hp t (ht ▸ hh))
  begun := fun k rest hs t hh => by
    rcases hb with rfl | hb
    · exact h.begun k rest hs t (ht ▸ hh)
    · exact absurd hs (hb k rest)

/-- An event changes no conversation's call. -/
theorem forall₂_modifyHead {as : List (Api × ApiPhase)} {ts : List Talk} (h : List.Forall₂ Carries as ts) (ev : Event) (d : Device) :
    List.Forall₂ Carries as (ts.modifyHead (Talk.note ev d)) := by
  cases h with
  | nil => exact .nil
  | cons ht hrest =>
    refine .cons ⟨(Talk.note_call ev d _).trans ht.1, fun hd => ?_⟩ hrest
    rw [Talk.note_ended (ht.2 hd).ended]
    exact ht.2 hd

/-- The innermost conversation is that of the call that waits. -/
theorem Conversing.call {st : List Act} {w : World} (h : Conversing st w) {k : Api} (hp : pending st w.dev.locked = some k) {t : Talk}
    (ht : (talks w.trace).head? = some t) : t.call = k := by
  obtain ⟨p, rest, he, _⟩ := apis_of_pending hp
  have htold := h.told
  rw [he] at htold
  generalize talks w.trace = ts at htold ht
  cases htold with
  | cons hc _ =>
    cases ht
    exact hc.1

/-- An event is noted by the innermost conversation. -/
theorem Conversing.noted {st st' : List Act} {w w' : World} (h : Conversing st w) {ev : Event} {d : Device}
    (ha : apis st' = apis st) (ht : talks w'.trace = (talks w.trace).modifyHead (Talk.note ev d))
    (hl : w'.dev.locked = w.dev.locked)
    (hw : ∀ (k : Api) (t : Talk), pending st w.dev.locked = some k → t.call = k → t.Waits (inHand st w.dev t.numbers) w.dev.ether.tcp →
      (t.note ev d).Waits (inHand st' w'.dev (t.note ev d).numbers) w'.dev.ether.tcp)
    (hb : ∀ k rest, st' ≠ .api k .calling :: rest) : Conversing st' w' := by
  have hhead : ∀ t, (talks w'.trace).head? = some t → ∃ t₀, (talks w.trace).head? = some t₀ ∧ t = t₀.note ev d := by
    intro t hh
    rw [ht, List.head?_modifyHead] at hh
    obtain ⟨t₀, h₀, rfl⟩ := Option.map_eq_some_iff.mp hh
    exact ⟨t₀, h₀, rfl⟩
  constructor
  · rw [ha, ht]
    exact forall₂_modifyHead h.told ev d
  · intro k rest he hf t hh
    obtain ⟨t₀, h₀, rfl⟩ := hhead t hh
    have hd := h.freed k rest (ha ▸ he) (hl ▸ hf) t₀ h₀
    rw [Talk.note_ended hd.ended]
    exact hd
  · intro k hp t hh
    obtain ⟨t₀, h₀, rfl⟩ := hhead t hh
    rw [hl, pending_congr ha] at hp
    exact hw k t₀ hp (h.call hp h₀) (h.waits k hp t₀ h₀)
  · exact fun k rest hs => absurd hs (hb k rest)

/-- What is returned to has no segment in hand. -/
theorem Resumes.inHand {st : List Act} (h : Resumes st) (d : Device) (c : Numbers) : inHand st d c = false := by
  cases h <;> rfl

/-- Nor has what makes a server call. -/
theorem CallSite.inHand {k : Api} {st st' : List Act} (h : CallSite k st st') (d : Device) (c : Numbers) : inHand st d c = false := by
  cases h <;> rfl

/-- Nor has what logs. -/
theorem inHand_of_logs {st : List Act} (h : Logs st) (d : Device) (c : Numbers) : inHand st d c = false := by
  unfold EtherHouse.inHand
  split
  · exact h.elim
  · exact h.elim
  · exact h.elim
  · rfl

/-- The request is noted: the connection is pending. -/
theorem Conversing.browse {k : Api} {st : List Act} {w : World} (h : Conversing (.api k .calling :: st) w) :
    Conversing (.api k .armed :: st) (w.update (Device.net (browse k w.dev.apiIp))) := by
  have hbegun := h.begun k st rfl
  have htold : List.Forall₂ Carries ((k, .calling) :: apis st) (talks w.trace) := h.told
  constructor
  · change List.Forall₂ Carries ((k, .armed) :: apis st) (talks w.trace)
    generalize talks w.trace = ts at htold
    cases htold with
    | cons hc hrest => exact .cons ⟨hc.1, nofun⟩ hrest
  · nofun
  · intro k' hp t hh
    rw [hbegun t hh]
    constructor
    · rfl
    · rw [sessionId_portL]
      change (w.dev.ether.tcp.tcpFd + 1) &&& 7 &&& 7 = (w.dev.ether.tcp.tcpFd + 1) &&& 7
      rw [BitVec.and_assoc, BitVec.and_self]
    · nofun
    · exact fun _ => ⟨rfl, fun _ => rfl⟩
    · nofun
  · nofun

/-- The steps of the library keep the conversations. -/
theorem NetStep.conversing {st st' : List Act} {w : World} {note : Option Event} {f : Ether → Ether}
    (hs : NetStep st w.dev note f st') (hw : WellStacked st w) (hx : Exchange st w.dev) (h : Conversing st w) :
    Conversing st' ((w.note note).update (Device.net f)) := by
  cases hs with
  | log msg _ hl =>
    refine h.move rfl rfl rfl (fun k t hp ht => ?_) (Or.inl rfl)
    rw [inHand_of_logs hl] at ht ⊢
    rw [update_dev, note_dev, net_ether, tcp_of_statics (statics_syslogF _ _)]
    exact ht
  | dhcp plen t₁ t₂ st =>
    have htcp : (dhcpStateMachine t₁ t₂ plen w.dev.ether).tcp = w.dev.ether.tcp :=
      congrArg (·.1) (client_dhcpStateMachine w.dev.ether t₁ t₂ plen)
    refine h.move rfl rfl rfl (fun k t hp ht => ?_) (Or.inr nofun)
    rw [update_dev, note_dev, net_ether, htcp]
    exact ht
  | idle up st =>
    refine h.noted rfl rfl rfl (fun k t hp _ ht => ?_) nofun
    rw [update_dev, note_dev, net_ether]
    exact ht.idle up
  | @ret plen pos _ st hr =>
    refine h.move rfl rfl rfl (fun k t hp ht => ?_) (Or.inr nofun)
    have htaken := packetLoopReceived_taken plen w.dev.ether t.numbers (hx.requested k hp).listening ht.own
    rw [← Prod.mk.eta (p := packetLoopReceived plen w.dev.ether), hr] at htaken
    exact ht.ret htaken
  | @upcall plen u _ st hu hr hq =>
    have heq := (packetLoopReceived_ends w.dev.ether hu hr hq).1
    refine h.move rfl rfl rfl (fun k t hp ht => ?_) (Or.inr nofun)
    simp only [inHand, update_dev, note_dev, net_ether, heq] at ht ⊢
    exact ht
  | close plen u st =>
    refine h.move rfl rfl rfl (fun k t hp ht => ?_) (Or.inr nofun)
    exact ht.after (hx.closing plen u st rfl) hx.persist
  | browse k st hl => exact h.browse
  | probe =>
    refine h.move rfl rfl rfl (fun k t hp ht => ?_) (Or.inr nofun)
    rw [update_dev, note_dev, net_ether, tcp_selectDestAddr]
    exact ht
  | ping => exact h.move rfl rfl rfl (fun k t hp ht => ht) (Or.inl rfl)
  | icmp => exact h.move rfl rfl rfl (fun k t hp ht => by cases hp) (Or.inl rfl)
  | boot hf => exact h.move rfl rfl rfl (fun k t hp ht => by cases hp) (Or.inl rfl)

/-- A call begins, and with it its conversation. -/
theorem Conversing.enter {k : Api} {st st' : List Act} {w : World} (h : Conversing st w) (hc : CallSite k st st') :
    Conversing (.api k .calling :: st') (w.emit (.enter (.api k))) := by
  have ha : apis st' = apis st := by cases hc <;> rfl
  have hcons : apis (.api k .calling :: st') = (k, .calling) :: apis st := by rw [← ha]; rfl
  constructor
  · rw [hcons]
    exact .cons ⟨rfl, nofun⟩ h.told
  · intro k' rest he
    rw [hcons] at he
    cases he
  · nofun
  · intro k' rest hs t ht
    cases hs
    cases ht
    rfl

/-- What is noted keeps them. -/
theorem MarkStep.conversing {st st' : List Act} {w : World} {ev : Event} (hs : MarkStep st w.dev ev st') (hw : WellStacked st w)
    (h : Conversing st w) : Conversing st' (w.emit ev) := by
  cases hs with
  | hooked st d hplen =>
    refine h.noted rfl rfl rfl (fun k t hp hc ht => ?_) nofun
    rw [Talk.numbers_note_classify]
    exact ht.classify _
  | abort hc hl =>
    have ha : apis st' = apis st := by cases hc <;> rfl
    refine h.move ha rfl rfl (fun k t hp ht => ?_) (Or.inr (hc.resumes hw).not_calling)
    rw [hc.inHand] at ht
    rw [(hc.resumes hw).inHand]
    exact ht
  | enter hc => exact h.enter hc
  | leave k st =>
    have hh := hw.home.1
    have htold : List.Forall₂ Carries ((k, .draining) :: apis _) (talks w.trace) := h.told
    constructor
    · simp only [emit_trace, talks]
      generalize talks w.trace = ts at htold
      cases htold with
      | cons _ hrest => exact hrest
    · intro k' rest he
      cases hh.below k' _ rest he
    · intro k' hp
      rw [pending_of_draining hh.below] at hp
      cases hp
    · exact fun k' rest he => absurd he (hh.resumes.not_calling k' rest)
  | polled plen =>
    refine h.move rfl rfl rfl (fun k t hp ht => ?_) (Or.inr hw.resumes.not_calling)
    rw [hw.resumes.inHand]
    exact ht
  | wdtReset => exact h.move rfl rfl rfl (fun k t hp ht => ht) (Or.inl rfl)
  | compared => exact h.move rfl rfl rfl (fun k t hp ht => ht) (Or.inl rfl)
  | ignored => exact h.move rfl rfl rfl (fun k t hp ht => ht) (Or.inr nofun)
  | loopBegin => exact h.move rfl rfl rfl (fun k t hp ht => ht) (Or.inr nofun)
  | loopEnd => exact h.move rfl rfl rfl (fun k t hp ht => ht) (Or.inr nofun)
  | setupEnd => exact h.move rfl rfl rfl (fun k t hp ht => ht) (Or.inr nofun)
  | sweepBegin => exact h.move rfl rfl rfl (fun k t hp ht => ht) (Or.inr nofun)
  | sweepEnd => exact h.move rfl rfl rfl (fun k t hp ht => ht) (Or.inr nofun)
  | lastDitchBegin => exact h.move rfl rfl rfl (fun k t hp ht => ht) (Or.inr nofun)
  | lastDitchEnd => exact h.move rfl rfl rfl (fun k t hp ht => ht) (Or.inr nofun)

/-- The steps of the stack keep them. -/
theorem CtrlStep.conversing {st st' : List Act} {w : World} (hs : CtrlStep st w.dev st') (h : Conversing st w) : Conversing st' w := by
  cases hs with
  | drained k st hl =>
    -- the lock is free, so the conversation has ended
    have hfree := h.freed k (apis st) rfl hl
    have htold : List.Forall₂ Carries ((k, .waiting) :: apis st) (talks w.trace) := h.told
    constructor
    · change List.Forall₂ Carries ((k, .draining) :: apis st) (talks w.trace)
      generalize talks w.trace = ts at htold hfree
      cases htold with
      | cons hc hrest => exact .cons ⟨hc.1, fun _ => hfree _ rfl⟩ hrest
    · nofun
    · nofun
    · nofun
  | noDhcp => exact h.move rfl rfl rfl (fun k t hp ht => ht) (Or.inr nofun)
  | unheard => exact h.move rfl rfl rfl (fun k t hp ht => ht) (Or.inr nofun)
  | noParse => exact h.move rfl rfl rfl (fun k t hp ht => ht) (Or.inr nofun)
  | alight => exact h.move rfl rfl rfl (fun k t hp ht => ht) (Or.inr nofun)
  | skip => exact h.move rfl rfl rfl (fun k t hp ht => ht) (Or.inr nofun)
  | absent => exact h.move rfl rfl rfl (fun k t hp ht => ht) (Or.inr nofun)
  | confirmed => exact h.move rfl rfl rfl (fun k t hp ht => ht) (Or.inr nofun)
  | present => exact h.move rfl rfl rfl (fun k t hp ht => ht) (Or.inr nofun)

/-- A callback runs: if a call waits, its conversation ends. -/
theorem Conversing.parse {plen : Nat} {u : Upcall} {st : List Act} {w : World} (h : Conversing (.packetLoop plen (.upcall u) :: st) w)
    (hw : WellStacked (.packetLoop plen (.upcall u) :: st) w) (hx : Exchange (.packetLoop plen (.upcall u) :: st) w.dev)
    {cb : BrowserCallback} {status : Byte} {off len buf : Nat}
    (hr : wwwClientInternalResultCb w.dev.ether u = some (status, off, len)) (hc : w.dev.ether.tcp.clientBrowserCb = some cb) :
    Conversing (.packetLoop plen (.closing u) :: st)
      ((w.emit (.parsed cb status (w.dev.ether.buffer.slice off len))).update (browserCallback cb buf status off len)) := by
  have hlocked : ∀ d, (browserCallback cb buf status off len d).locked = false := fun d => browserCallback_locked d _ _ _ _ _
  constructor
  · exact forall₂_modifyHead h.told _ _
  · intro k rest he _ t ht
    have he' : apis (.packetLoop plen (.upcall u) :: st) = (k, .waiting) :: rest := he
    rw [update_trace, emit_trace, talks, List.head?_modifyHead] at ht
    obtain ⟨t₀, h₀, rfl⟩ := Option.map_eq_some_iff.mp ht
    cases hl : w.dev.locked with
    | false =>
      have hd := h.freed k rest he' hl t₀ h₀
      rw [Talk.note_ended hd.ended]
      exact hd
    | true =>
      have hp : pending (.packetLoop plen (.upcall u) :: st) w.dev.locked = some k := by
        unfold pending
        rw [he', hl]
        rfl
      have hk := h.call hp h₀
      have hwaits := h.waits k hp t₀ h₀
      have hreq := hx.requested k hp
      have htaken := packetLoopReceived_taken plen w.dev.ether t₀.numbers hreq.listening hwaits.own
      rw [(hx.upcall plen u st rfl).1] at htaken
      have hcb : cb = t₀.call.callback := by
        rw [hk]
        have hcall := hreq.callback
        rw [hc] at hcall
        exact Option.some.inj hcall
      rw [hcb]
      exact hwaits.parse htaken hr _
  · intro k hp
    have hn : pending (.packetLoop plen (.closing u) :: st) false = none := pending_unlocked hw.not_armed
    rw [update_dev, hlocked, hn] at hp
    cases hp
  · nofun

/-- Each step keeps them. -/
theorem Step.conversing {st st' : List Act} {w w' : World} (hs : Step st w st' w') (hw : WellStacked st w) (hx : Exchange st w.dev)
    (h : Conversing st w) : Conversing st' w' := by
  cases hs with
  | tick => exact h.move rfl rfl rfl (fun k t hp ht => ht) (Or.inl rfl)
  | net hn => exact hn.conversing hw hx h
  | ctrl hc => exact hc.conversing h
  | mark hm => exact hm.conversing hw h
  | timer ht => cases ht <;> exact h.move rfl rfl rfl (fun k t hp ht => ht) (Or.inr nofun)
  | poll a hp =>
    refine h.move rfl rfl rfl (fun k t hk ht => ?_) (Or.inr nofun)
    rw [hp.resumes.inHand] at ht
    simp only [emit_dev, update_dev, net_ether, tcp_of_statics (statics_packetReceiveInto _ _)]
    exact ht
  | receive => exact h.move rfl rfl rfl (fun k t hp ht => by cases hp) (Or.inl rfl)
  | sniff => exact h.move rfl rfl rfl (fun k t hp ht => ht) (Or.inr nofun)
  | toggleOn => exact h.move rfl rfl rfl (fun k t hp ht => ht) (Or.inr nofun)
  | toggleOff => exact h.move rfl rfl rfl (fun k t hp ht => ht) (Or.inr nofun)
  | learn => exact h.move rfl rfl rfl (fun k t hp ht => ht) (Or.inl rfl)
  | unsniff =>
    refine h.move rfl rfl rfl (fun k t hp ht => ?_) (Or.inr hw.sniffed.1.resumes.not_calling)
    rw [hw.sniffed.1.resumes.inHand]
    exact ht
  | @requested plen url _ st hq =>
    refine h.noted rfl rfl rfl (fun k t hp hk ht => ?_) nofun
    have htaken := packetLoopReceived_taken plen w.dev.ether t.numbers (hx.requested k hp).listening ht.own
    rw [← Prod.mk.eta (p := packetLoopReceived plen w.dev.ether), hq] at htaken
    obtain ⟨k', hp', hurl⟩ := hx.request hq
    rw [hp] at hp'
    cases hp'
    rw [← hk] at hurl
    exact ht.request htaken hurl
  | parse buf st hr hc => exact h.parse hw hx hr hc
  | lock k st =>
    have htold : List.Forall₂ Carries ((k, .armed) :: apis st) (talks w.trace) := h.told
    constructor
    · change List.Forall₂ Carries ((k, .waiting) :: apis st) (talks w.trace)
      generalize talks w.trace = ts at htold
      cases htold with
      | cons hc hrest => exact .cons ⟨hc.1, nofun⟩ hrest
    · nofun
    · intro k' hp t ht
      exact h.waits k rfl t ht
    · nofun
  | forget =>
    obtain ⟨rfl, _⟩ := hw.absence_flags
    exact h.move rfl rfl rfl (fun k t hp ht => ht) (Or.inr nofun)
  | bootApiIp => exact h.move rfl rfl rfl (fun k t hp ht => ht) (Or.inl rfl)

/-- So the conversations are in order wherever a run has got. -/
theorem Reach.conversing {st : List Act} {w : World} (h : Reach PowerUp st w) : Conversing st w := by
  refine h.invariant (fun st w hi => ?_) fun st w st' w' hr hc hs =>
    hs.conversing (hr.wellStacked powerUp_start) (hr.exchange powerUp_start powerUp_exchange) hc
  obtain ⟨rfl, eeprom, flash, rfl⟩ := hi
  exact ⟨.nil, nofun, nofun, nofun⟩

end EtherHouse
