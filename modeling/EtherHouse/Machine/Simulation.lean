import EtherHouse.Machine.Steps
import EtherHouse.Net.Frame

/-!
# The firmware runs on the machine

Every run of the firmware goes through configurations that `Step` reaches: for each function, from a configuration reached to the
configuration reached when it returns, and to one that is reached if it never returns.
-/

namespace EtherHouse

open Prog

/-- The world is one that the machine reaches, on some stack. -/
def Reached (I : List Act → World → Prop) (w : World) : Prop := ∃ st, Reach I st w

section

variable {I : List Act → World → Prop} {st : List Act}

/-- A configuration that can be reached has a world that can. -/
theorem Reach.reached {w : World} (h : Reach I st w) : Reached I w := ⟨st, h⟩

/-! ### One step at a time -/

namespace Reach

variable {st' : List Act} {w : World}

/-- Time passes under a call. -/
theorem tick {a : Act} (h : Reach I (a :: st) w) (ms : Nat) : Reach I (a :: st) (w.update (Device.tick ms)) := h.step (.tick ms a st w)

/-- Time passes where anything is on the stack. -/
theorem pause (h : Reach I st w) (hne : st ≠ []) (ms : Nat) : Reach I st (w.update (Device.tick ms)) := by
  cases st with
  | nil => exact absurd rfl hne
  | cons a st => exact h.tick ms

/-- A step of the library that nothing is noted of. -/
theorem net {f : Ether → Ether} (h : Reach I st w) (hf : NetStep st w.dev none f st') :
    Reach I st' (w.update (Device.net f)) := h.step (.net hf)

/-- A step of the library that an event goes with. -/
theorem noted {ev : Event} {f : Ether → Ether} (h : Reach I st w) (hf : NetStep st w.dev (some ev) f st') :
    Reach I st' ((w.emit ev).update (Device.net f)) := h.step (.net hf)

/-- A step of the stack. -/
theorem ctrl (h : Reach I st w) (hc : CtrlStep st w.dev st') : Reach I st' w := h.step (.ctrl hc)

/-- An event. -/
theorem mark {ev : Event} (h : Reach I st w) (hm : MarkStep st w.dev ev st') : Reach I st' (w.emit ev) := h.step (.mark hm)

/-- A timer is set. -/
theorem timer {f : Device → Device} (h : Reach I st w) (ht : TimerStep st w.dev f st') : Reach I st' (w.update f) :=
  h.step (.timer ht)

/-- A message goes out. -/
theorem log (h : Reach I st w) (hl : Logs st) (msg : List Byte) : Reach I st (w.update (Device.net (syslogF msg))) :=
  h.net (.log msg w.dev hl)

/-- The watchdog is reset. -/
theorem wdt (h : Reach I st w) : Reach I st (w.emit .wdtReset) := h.mark (.wdtReset st w.dev)

end Reach

/-- What logs is a call under way. -/
theorem Logs.ne_nil (h : Logs st) : st ≠ [] := by
  rintro rfl
  exact h

/-! ### Reboots -/

/-- A reboot ends the run where something is on the stack that logs. -/
theorem reboot_reach {α : Type} (hl : Logs st) (Q : α → World → Prop) : Triple (Reach I st) (reboot : M α) Q (Reached I) := by
  intro w inp h
  simp only [reboot, syslog, wp_bind, wp_net, wp_delay, wp_halt]
  exact ((h.log hl _).pause hl.ne_nil 100).reached

/-- So does one after its delay. -/
theorem rebootAfterDelay_reach {α : Type} (hl : Logs st) (Q : α → World → Prop) :
    Triple (Reach I st) (rebootAfterDelay : M α) Q (Reached I) := by
  intro w inp h
  simp only [rebootAfterDelay, syslog, wp_bind, wp_net, wp_delay, wp_wdtReset]
  have hn := hl.ne_nil
  exact reboot_reach hl Q _ _ (((((((h.log hl _).wdt).pause hn _).wdt).pause hn _).wdt).pause hn _)

/-- Past the check, the device's address is one of its network's. -/
theorem validateDhcp_reach (hl : Logs st) : Triple (Reach I st) validateDhcp
    (fun _ w => Reach I st w ∧ isIpLocal w.dev.ether w.dev.ether.cfg.myip = true) (Reached I) := by
  intro w inp h
  simp only [validateDhcp, syslog, wp_bind, wp_dev]
  refine wp_ite_of (fun _ => ?_) fun hv => ⟨h, by simpa using hv⟩
  simp only [wp_bind, wp_net]
  exact reboot_reach hl _ _ _ (h.log hl _)

/-- A message leaves the library's statics alone. -/
theorem statics_syslogF (msg : List Byte) (e : Ether) : (syslogF msg e).statics = e.statics := statics_sendUdp _ _ _ _ _ _

/-- Logging changes no address. -/
theorem isIpLocal_syslogF (msg : List Byte) (e : Ether) :
    isIpLocal (syslogF msg e) (syslogF msg e).cfg.myip = isIpLocal e e.cfg.myip := by
  unfold isIpLocal
  rw [cfg_of_statics (statics_syslogF msg e)]

/-! ### Server calls -/

/-- What polls is a call under way. -/
theorem CanPoll.ne_nil {d : Device} (h : CanPoll st d) : st ≠ [] := by
  cases h <;> exact List.cons_ne_nil _ _

/-- It still polls when time has passed. -/
theorem CanPoll.tick {d : Device} (h : CanPoll st d) (ms : Nat) : CanPoll st (d.tick ms) := by
  cases h with
  | setup => exact .setup _
  | loop => exact .loop _
  | sweep base next st => exact .sweep base next st _
  | waiting k st h => exact .waiting k st h
  | draining k st => exact .draining k st _

/-- A poll that stays on the machine: from any activation that polls, back to it. -/
def PollReach (I : List Act → World → Prop) (poll : M Unit) : Prop :=
  ∀ st, Triple (fun w => Reach I st w ∧ CanPoll st w.dev) poll (fun _ => Reach I st) (Reached I)

variable {poll : M Unit}

/-- The loop of `wait_for_tcp`, up to any time. -/
theorem drain_reach (hp : PollReach I poll) (k : Api) (timer : Long) :
    Triple (Reach I (.api k .draining :: st))
      (repeatUntil do
        if (← millis) < timer then
          poll
          return none
        else
          return some ())
      (fun _ => Reach I (.api k .draining :: st)) (Reached I) := by
  refine Triple.repeatUntil (fun _ h => h.reached) ?_
  intro w inp h
  simp only [wp_bind]
  refine wp_millis_of h.reached fun ms rest => ?_
  refine wp_ite_of (fun _ => ?_) fun _ => h.tick ms
  rw [wp_bind]
  exact (hp _).wp ⟨h.tick ms, .draining k st _⟩ fun _ _ _ h' => h'

/-- `wait_for_tcp` polls, and is through where it began. -/
theorem waitForTcp_reach (hp : PollReach I poll) (k : Api) :
    Triple (Reach I (.api k .draining :: st)) (waitForTcp poll) (fun _ => Reach I (.api k .draining :: st)) (Reached I) := by
  intro w inp h
  simp only [waitForTcp, wp_bind, wp_wdtReset]
  refine wp_millis_of h.wdt.reached fun ms rest => ?_
  exact (drain_reach hp k _).wp (h.wdt.tick ms) fun _ _ _ h' => h'.wdt

/-- `while (locked)`: as long as the call waits it polls, and a poll that does not answer in time never comes back. -/
theorem apiWait_reach (hp : PollReach I poll) (k : Api) (timer : Long) (timedOut : List Byte) {onTimeout : M Unit}
    (ho : ∀ s, Logs s → Triple (Reach I s) onTimeout (fun _ _ => False) (Reached I)) :
    Triple (Reach I (.api k .waiting :: st))
      (repeatUntil do
        if (← dev).locked then
          poll
          if (← millis) > timer then
            syslog timedOut
            onTimeout
          return none
        else
          return some ())
      (fun _ => Reach I (.api k .draining :: st)) (Reached I) := by
  refine Triple.repeatUntil (fun _ h => h.reached) ?_
  intro w inp h
  simp only [wp_bind, wp_dev]
  refine wp_ite_of (fun hl => ?_) fun hl => ?_
  · simp only [wp_bind]
    refine (hp _).wp ⟨h, .waiting k st hl⟩ fun _ w₁ _ h₁ => ?_
    refine wp_millis_of h₁.reached fun ms rest => ?_
    refine wp_ite_of (fun _ => ?_) fun _ => h₁.tick ms
    simp only [syslog, wp_bind, wp_net]
    exact (ho _ (logs_api _ _ _)).wp ((h₁.tick ms).log trivial _) fun _ _ _ hf => hf.elim
  · exact h.ctrl (.drained k st (by simpa using hl))

/-- Pointing `hisip` at the server and noting the request, in two steps or in one. -/
theorem browse_update (k : Api) (w : World) :
    (w.update fun d => d.net fun e => { e with cfg := { e.cfg with hisip := d.apiIp } }).update
      (Device.net (browseUrl k.url [] apiServer k.callback)) = w.update (Device.net (browse k w.dev.apiIp)) := by
  unfold browse World.update Device.net
  rfl

/-- A server call returns to where it was made from, or ends the run. -/
theorem apiCall_reach (hp : PollReach I poll) {k : Api} {st' : List Act} (hs : CallSite k st st') {r : Request}
    (hu : r.url = k.url) (hc : r.callback = k.callback) {onTimeout : M Unit}
    (ho : ∀ s, Logs s → Triple (Reach I s) onTimeout (fun _ _ => False) (Reached I)) :
    Triple (Reach I st) (apiCall poll k r onTimeout) (fun _ => Reach I st') (Reached I) := by
  intro w inp h
  simp only [apiCall, wp_bind, wp_dev]
  refine wp_ite_of (fun hl => h.mark (.abort hs hl)) fun hl => ?_
  simp only [wp_bind, wp_emit]
  refine (validateDhcp_reach (logs_api k _ st')).wp (h.mark (.enter hs (by simpa using hl))) fun _ w₁ _ h₁ => ?_
  obtain ⟨h₁, hv⟩ := h₁
  simp only [syslog, wp_net, wp_update]
  rw [hu, hc, browse_update]
  have hv' : isIpLocal (syslogF r.started w₁.dev.ether) (syslogF r.started w₁.dev.ether).cfg.myip = true := by
    rw [isIpLocal_syslogF]
    exact hv
  have h₂ := (h₁.log trivial r.started).net (.browse k st' hv')
  refine wp_millis_of h₂.reached fun ms rest => ?_
  have h₃ := (h₂.tick ms).step (.lock k st' _)
  refine (apiWait_reach hp k _ r.timedOut ho).wp h₃ fun _ w₄ rest₄ h₄ => ?_
  exact (waitForTcp_reach hp k).wp h₄ fun _ _ _ h₅ => h₅.mark (.leave k st' _)

/-- `get_target_mac` is made in `setup`, which then listens. -/
theorem getTargetMac_reach (hp : PollReach I poll) :
    Triple (Reach I [.setup .network]) (getTargetMac poll) (fun _ => Reach I [.setup .listening]) (Reached I) :=
  apiCall_reach hp .targetMac rfl rfl fun _ hl => reboot_reach hl _

/-- `get_remote_state` returns to where it is made from. -/
theorem getRemoteState_reach (hp : PollReach I poll) (hs : CallSite .state st st) :
    Triple (Reach I st) (getRemoteState poll) (fun _ => Reach I st) (Reached I) :=
  apiCall_reach hp hs rfl rfl fun _ hl => rebootAfterDelay_reach hl _

/-- `api_set_on` returns to below `toggle_house`. -/
theorem apiSetOn_reach (hp : PollReach I poll) :
    Triple (Reach I (.toggle true :: st)) (apiSetOn poll) (fun _ => Reach I st) (Reached I) :=
  apiCall_reach hp (.on st) rfl rfl fun _ hl => rebootAfterDelay_reach hl _

/-- So does `api_set_off`. -/
theorem apiSetOff_reach (hp : PollReach I poll) :
    Triple (Reach I (.toggle false :: st)) (apiSetOff poll) (fun _ => Reach I st) (Reached I) :=
  apiCall_reach hp (.off st) rfl rfl fun _ hl => rebootAfterDelay_reach hl _

/-! ### The sniffer's callback -/

/-- The sniffer's callback goes on with the house on. -/
theorem turnMyHouseOn_reach (hp : PollReach I poll) (srcIp : Nat) :
    Triple (Reach I (.sniffer .stamped srcIp :: st)) (turnMyHouseOn poll) (fun _ => Reach I (.sniffer .lit srcIp :: st))
      (Reached I) := by
  intro w inp h
  simp only [turnMyHouseOn, toggleHouse, wp_bind, wp_dev]
  refine wp_ite_of (fun hb => ?_) fun hb => h.ctrl (.alight srcIp st (by simpa using hb))
  simp only [wp_bind, wp_update, wp_emit, and_self, if_true]
  exact (apiSetOn_reach hp).wp (h.step (.toggleOn srcIp st (by simpa using hb))) fun _ _ _ h' => h'

/-- `packet_sniffer_callback`, called for a frame from a registered address. -/
theorem packetSnifferCallback_reach (hp : PollReach I poll) {plen srcIp : Nat} :
    Triple (fun w => Reach I (.packetLoop plen .offered :: st) w ∧ snifferSrcIp plen w.dev.ether = some srcIp ∧
        w.dev.ether.buffer.mac ETH_SRC_MAC ∈ w.dev.sniffers.macs)
      (packetSnifferCallback poll srcIp) (fun _ => Reach I (.packetLoop plen .hook :: st)) (Reached I) := by
  rintro w inp ⟨h, hs, hm⟩
  simp only [packetSnifferCallback, wp_bind, wp_dev]
  refine wp_ite_of (fun hn => h.mark (.ignored plen st hn)) fun hn => ?_
  have h₁ := h.step (.sniff st (by simpa using hn) hs hm)
  simp only [wp_bind, wp_emit, wp_update]
  refine wp_millis_of h₁.reached fun ms rest => ?_
  refine (turnMyHouseOn_reach hp srcIp).wp ((h₁.tick ms).timer (.stamp srcIp _ _)) fun _ w₂ _ h₂ => ?_
  refine wp_ite_of (fun hl => wp_ite_of (fun hne => ?_) fun _ => ?_) fun _ => ?_
  · exact (h₂.step (.learn srcIp _ hl hne)).step (.unsniff srcIp _ _)
  · exact h₂.step (.unsniff srcIp _ _)
  · exact h₂.step (.unsniff srcIp _ _)

/-- The hook, for a frame. The table has one entry at most, so the callback is called with the frame still in the buffer. -/
theorem snifferProcessPacket_reach (hp : PollReach I poll) {plen : Nat} (hz : plen ≠ 0) :
    Triple (Reach I (.packetLoop plen .offered :: st)) (snifferProcessPacket (packetSnifferCallback poll) plen)
      (fun _ => Reach I (.packetLoop plen .hook :: st)) (Reached I) := by
  intro w inp h
  simp only [snifferProcessPacket, wp_bind, wp_dev]
  cases hs : snifferSrcIp plen w.dev.ether with
  | none => exact h.ctrl (.unheard st hz (Or.inl hs))
  | some srcIp =>
    have hb := w.dev.sniffers.bounded
    simp only
    generalize hm : w.dev.sniffers.macs = macs at hb ⊢
    rcases macs with _ | ⟨mac, _ | ⟨mac', rest⟩⟩
    · refine h.ctrl (.unheard st hz (Or.inr ?_))
      rw [hm]
      exact List.not_mem_nil
    · have hone : ∀ f : Mac → M Unit, [mac].forM f = (f mac >>= fun _ => pure ()) := fun f => rfl
      simp only [hone, wp_bind, wp_dev, wp_pure]
      refine wp_ite_of (fun hc => ?_) fun hc => ?_
      · have hmem : w.dev.ether.buffer.mac ETH_SRC_MAC ∈ w.dev.sniffers.macs := by
          rw [hm]
          simpa [checkMacMessageIsFrom] using hc
        exact (packetSnifferCallback_reach hp).wp ⟨h, hs, hmem⟩ fun _ _ _ h' => h'
      · refine h.ctrl (.unheard st hz (Or.inr ?_))
        rw [hm]
        simpa [checkMacMessageIsFrom] using hc
    · exact absurd hb (by simp [SNIFFER_MAXLISTENERS])

/-! ### The packet loop -/

/-- Behind the result callback the packet loop is about to close. -/
theorem resultCallback_reach (plen : Nat) (u : Upcall) :
    Triple (Reach I (.packetLoop plen (.upcall u) :: st)) (resultCallback u)
      (fun _ => Reach I (.packetLoop plen (.closing u) :: st)) (Reached I) := by
  intro w inp h
  simp only [resultCallback, wp_bind, wp_dev]
  split
  · next status off len cb hr hc =>
    simp only [wp_bind]
    refine wp_input_of h.reached fun i rest => ?_
    exact (h.tick i.elapsed).step (.parse i.addr st hr hc)
  · next hn =>
    refine h.ctrl (.noParse plen st ?_)
    cases hr : wwwClientInternalResultCb w.dev.ether u with
    | none => exact .inl rfl
    | some r =>
      cases hc : w.dev.ether.tcp.clientBrowserCb with
      | none => exact .inr rfl
      | some cb => exact (hn r.1 r.2.1 r.2.2 cb hr hc).elim

/-- A packet loop comes to its hook, or to its end where it has no frame. -/
theorem packetLoopHead_reach (hp : PollReach I poll) (plen : Nat) :
    Triple (Reach I (.packetLoop plen .dhcp :: st)) (packetLoopHead (snifferProcessPacket (packetSnifferCallback poll)) plen)
      (fun _ => Reach I (.packetLoop plen (if plen = 0 then .fin else .hook) :: st)) (Reached I) := by
  -- what follows the DHCP client's turn
  have hrest : ∀ w inp, Reach I (.packetLoop plen .offered :: st) w →
      wp (if plen = 0 then do
            let up ← isLinkUp
            emit (.idle up)
            net (packetLoopIdle up)
          else snifferProcessPacket (packetSnifferCallback poll) plen)
        (fun _ w' _ => Reach I (.packetLoop plen (if plen = 0 then .fin else .hook) :: st) w') (Reached I) w inp := by
    intro w inp h
    refine wp_ite_of (fun hz => ?_) fun hz => ?_
    · subst hz
      simp only [wp_bind, wp_emit, wp_net]
      exact wp_isLinkUp_of h.reached fun up ms rest => (h.tick ms).noted (.idle up st _)
    · refine (snifferProcessPacket_reach hp hz).wp h fun _ w' _ h' => ?_
      rw [if_neg hz]
      exact h'
  intro w inp h
  simp only [packetLoopHead, wp_bind, wp_dev]
  refine wp_ite_of (fun _ => ?_) fun hn => hrest _ _ (h.ctrl (.noDhcp plen st (by simpa using hn)))
  simp only [wp_bind]
  refine wp_millis_of h.reached fun ms rest => ?_
  refine wp_millis_of (h.tick ms).reached fun ms' rest' => ?_
  exact hrest _ _ (((h.tick ms).tick ms').noted (.dhcp plen _ _ st _))

/-- From its hook it comes to its end. -/
theorem packetLoopTail_reach {plen : Nat} (hz : plen ≠ 0) :
    Triple (Reach I (.packetLoop plen .hook :: st)) (packetLoopTail plen) (fun _ => Reach I (.packetLoop plen .fin :: st))
      (Reached I) := by
  intro w inp h
  replace h := h.mark (.hooked st _ hz)
  simp only [packetLoopTail, wp_bind, wp_emit, wp_dev, wp_net]
  split
  · next pos hu => exact h.net (.ret st hu)
  · next url hu => exact h.step (.requested st hu)
  · next hr hq =>
    simp only [wp_bind, wp_net, wp_pure]
    have h₁ := h.net (.upcall st rfl hr hq)
    exact (resultCallback_reach plen _).wp h₁ fun _ w' _ h' => h'.net (.close plen _ st _)

/-- A packet loop returns to what polled. -/
theorem packetLoop_reach (hp : PollReach I poll) (plen : Nat) :
    Triple (fun w => Reach I (.packetLoop plen .dhcp :: st) (w.emit (.enter .packetLoop)))
      (packetLoop (snifferProcessPacket (packetSnifferCallback poll)) plen) (fun _ => Reach I st) (Reached I) := by
  intro w inp h
  simp only [packetLoop, wp_bind, wp_emit]
  refine (packetLoopHead_reach hp plen).wp h fun _ w₁ _ h₁ => ?_
  refine wp_ite_of (fun hz => ?_) fun hz => ?_
  · rw [if_pos hz] at h₁
    exact h₁.mark (.polled plen st _)
  · rw [if_neg hz] at h₁
    rw [wp_bind]
    exact (packetLoopTail_reach hz).wp h₁ fun _ w₂ _ h₂ => h₂.mark (.polled plen st _)

/-- `packetReceive` delivers whatever the controller holds. -/
theorem wp_packetReceive_of {Q : Nat → World → List Input → Prop} {E : World → Prop} {w : World} {inp : List Input} (hE : E w)
    (hQ : ∀ ms a rest, Q (packetReceiveLen a)
      (((w.update (Device.tick ms)).update (Device.net (packetReceiveInto a))).emit (.received a)) rest) :
    wp packetReceive Q E w inp := by
  unfold packetReceive
  simp only [wp_bind, wp_net, wp_emit, wp_pure]
  exact wp_input_of hE fun i rest => hQ i.elapsed i.arrival rest

/-- The recursion: `poll` returns to the activation that called it, whichever that is. -/
theorem poll_reach : PollReach I EtherHouse.poll := by
  refine Triple.fix (fun _ _ h => h.1.reached) fun p hp k => ?_
  rintro w inp ⟨h, hk⟩
  simp only [wp_bind]
  refine wp_packetReceive_of h.reached fun ms a rest => ?_
  have h₁ := (h.pause hk.ne_nil ms).step (.poll a (hk.tick ms))
  exact (packetLoop_reach hp (packetReceiveLen a)).wp h₁ fun _ _ _ h₂ => h₂

/-! ### Pings -/

/-- The turn of one address in a sweep. -/
theorem selectAndArpDestAddr_reach {base : Ip} {i : Nat} (hi : i < 255) (timeout : Long) :
    Triple (fun w => Reach I (.sweep base i :: st) w ∧ sweepIp base i ≠ w.dev.ether.cfg.myip)
      (selectAndArpDestAddr (sweepIp base i) timeout) (fun _ => Reach I (.sweep base (i + 1) :: st)) (Reached I) := by
  rintro w inp ⟨h, hn⟩
  simp only [selectAndArpDestAddr, wp_bind, wp_dev, wp_net, wp_emit]
  refine wp_millis_of h.reached fun ms rest => ?_
  refine Triple.repeatUntil (fun _ h => h.reached) ?_ _ _ ((h.tick ms).noted (.probe st hi hn))
  intro w' inp' h'
  simp only [wp_bind]
  refine wp_millis_of h'.reached fun ms' rest' => ?_
  refine wp_ite_of (fun _ => ?_) fun _ => h'.tick ms'
  simp only [wp_bind, wp_dev]
  refine wp_ite_of (fun _ => ?_) fun _ => h'.tick ms'
  rw [wp_bind]
  exact (poll_reach _).wp ⟨h'.tick ms', .sweep base (i + 1) st _⟩ fun _ _ _ h'' => h''

/-- A sweep polls on top of the activation it is called from, and goes back to it. -/
theorem pingSweep_reach {st' st'' : List Act} (hb : ∀ d, MarkStep st d (.enter .pingSweep) (.sweep d.ether.cfg.myip 1 :: st'))
    (he : ∀ base d, MarkStep (.sweep base 255 :: st') d (.leave .pingSweep) st'') :
    Triple (Reach I st) pingSweep (fun _ => Reach I st'') (Reached I) := by
  intro w inp h
  simp only [pingSweep, syslog, wp_bind, wp_emit, wp_dev, wp_net]
  have hloop : Triple (Reach I (.sweep w.dev.ether.cfg.myip 1 :: st')) ((List.range' 1 254).forM fun i => do
      let ip := w.dev.ether.cfg.myip.set 3 (BitVec.ofNat 8 i)
      if ip ≠ (← dev).ether.cfg.myip then
        selectAndArpDestAddr ip 5
        delay 2) (fun _ => Reach I (.sweep w.dev.ether.cfg.myip 255 :: st')) (Reached I) := by
    refine Triple.forM_range' (I := fun i => Reach I (.sweep w.dev.ether.cfg.myip i :: st')) fun i _ hi w' inp' h' => ?_
    simp only [wp_bind, wp_dev]
    refine wp_ite_of (fun hn => ?_) fun hn => h'.ctrl (.skip _ hi (not_not.mp hn))
    simp only [wp_bind, wp_delay]
    exact (selectAndArpDestAddr_reach hi 5).wp ⟨h', hn⟩ fun _ _ _ h'' => h''.tick 2
  exact hloop.wp ((h.mark (hb _)).log trivial _) fun _ w' _ h' => h'.mark (he _ _)

/-- `ping_target` returns to `loop`. -/
theorem pingTarget_reach : Triple (Reach I [.loop]) pingTarget (fun _ => Reach I [.loop]) (Reached I) := by
  intro w inp h
  simp only [pingTarget, wp_bind, wp_dev]
  refine wp_ite_of (fun _ => ?_) fun _ => h
  simp only [wp_bind, wp_net]
  exact (h.noted (.ping _)).net (.icmp _)

/-! ### The main loop -/

/-- What compares the clock is a call under way. -/
theorem Compares.ne_nil {d : Device} {timer interval : Long} (h : Compares st d timer interval) : st ≠ [] := by
  cases h <;> exact List.cons_ne_nil _ _

/-- What a comparison finds, with the clock as it was read; what does not depend on the time stays. -/
theorem overdue_reach {timer : Device → Long} {interval : Long} (hc : ∀ d, Compares st d (timer d) interval) {F : Device → Prop}
    (hF : ∀ d ms, F d → F (d.tick ms)) :
    Triple (fun w => Reach I st w ∧ F w.dev) (overdue timer interval)
      (fun r w => Reach I st w ∧ F w.dev ∧ (r = true → w.dev.millis > timer w.dev + interval)) (Reached I) := by
  rintro w inp ⟨h, hf⟩
  simp only [overdue, wp_bind, wp_dev, wp_emit]
  refine wp_millis_of h.reached fun ms _ => ⟨(h.pause (hc w.dev).ne_nil ms).mark (.compared (hc _)), hF _ ms hf, fun hr => ?_⟩
  exact of_decide_eq_true hr

/-- A branch that is taken once a timer has run out. -/
theorem whenOverdue_reach {body : M Unit} {timer : Device → Long} {interval : Long} (hc : ∀ d, Compares st d (timer d) interval)
    (hb : Triple (Reach I st) body (fun _ => Reach I st) (Reached I)) :
    Triple (Reach I st) (do if ← overdue timer interval then body) (fun _ => Reach I st) (Reached I) := by
  intro w inp h
  rw [wp_bind]
  have ho := overdue_reach (I := I) hc (F := fun _ => True) fun _ _ => id
  exact ho.wp ⟨h, trivial⟩ fun r _ _ h₁ => wp_ite_of (fun _ => hb _ _ h₁.1) fun _ => h₁.1

/-- Such a branch begins by setting a timer to the clock. -/
theorem restart_reach {body : M Unit} {f : Long → Device → Device} (ht : ∀ d, TimerStep st d (f d.millis) st) (hne : st ≠ [])
    (hb : Triple (Reach I st) body (fun _ => Reach I st) (Reached I)) :
    Triple (Reach I st) (do let now ← millis; update (f now); body) (fun _ => Reach I st) (Reached I) := by
  intro w inp h
  simp only [wp_bind, wp_update]
  exact wp_millis_of h.reached fun ms _ => hb _ _ ((h.pause hne ms).timer (ht _))

/-- The first stage of `loop`. -/
theorem loopPinger_reach : Triple (Reach I [.loop]) loopPinger (fun _ => Reach I [.loop]) (Reached I) :=
  whenOverdue_reach .pinger (restart_reach (f := fun now d => { d with pingerTimer := now }) .pinger (List.cons_ne_nil _ _)
    (whenOverdue_reach .target pingTarget_reach))

/-- What `absent` finds: the house is on and the timer has run out; the clock was read on the way. -/
theorem absent_reach (hc : ∀ d, Compares st d d.absenseTimer ABSENSE_TIMEOUT) :
    Triple (Reach I st) absent
      (fun r w => Reach I st w ∧
        (r = true → bitRead w.dev.state MY_ID = true ∧ w.dev.millis > w.dev.absenseTimer + ABSENSE_TIMEOUT)) (Reached I) := by
  intro w inp h
  simp only [absent, wp_bind, wp_dev]
  refine wp_ite_of (fun hb => ?_) fun _ => ⟨h, fun hr => absurd hr Bool.false_ne_true⟩
  have ho := overdue_reach (I := I) hc (F := fun d => bitRead d.state MY_ID = true) fun _ _ => id
  exact ho.wp ⟨h, hb⟩ fun r _ _ h₁ => ⟨h₁.1, fun hr => ⟨h₁.2.1, h₁.2.2 hr⟩⟩

/-- The absence branch goes on with the house off. -/
theorem turnMyHouseOff_reach :
    Triple (fun w => Reach I (.absence .confirmed :: st) w ∧ bitRead w.dev.state MY_ID = true)
      (turnMyHouseOff EtherHouse.poll) (fun _ => Reach I (.absence .forgetting :: st)) (Reached I) := by
  rintro w inp ⟨h, hb⟩
  simp only [turnMyHouseOff, toggleHouse, wp_bind, wp_dev]
  refine wp_ite_of (fun _ => ?_) fun hn => absurd hb (by simpa using hn)
  simp only [wp_bind, wp_update, wp_emit, and_false, if_false, and_self, if_true, Bool.false_eq_true]
  exact (apiSetOff_reach poll_reach).wp (h.step (.toggleOff st hb)) fun _ _ _ h' => h'

/-- Forgetting the target's address and saving, in two steps or in one. -/
theorem forget_update (w : World) :
    (w.update fun d => { d with targetIp := allOnes }).update saveStateToEeprom = w.update forgetIp := by
  unfold forgetIp World.update
  rfl

/-- The second stage of `loop`. -/
theorem loopAbsence_reach : Triple (Reach I [.loop]) loopAbsence (fun _ => Reach I [.loop]) (Reached I) := by
  intro w inp h
  simp only [loopAbsence, wp_bind]
  refine (absent_reach .absense).wp h fun a w₁ _ h₁ => wp_ite_of (fun hr => ?_) fun _ => h₁.1
  obtain ⟨h₁, ha⟩ := h₁
  obtain ⟨hbit, htime⟩ := ha hr
  have h₂ := h₁.ctrl (.absent hbit htime)
  simp only [wp_bind, wp_update]
  refine wp_millis_of h₂.reached fun ms _ => ?_
  refine (pingSweep_reach .lastDitchBegin .lastDitchEnd).wp ((h₂.tick ms).timer (.lastDitch _)) fun _ w₃ _ h₃ => ?_
  simp only [wp_wdtReset]
  refine (absent_reach .swept).wp h₃.wdt fun a' w₄ _ h₄ => wp_ite_of (fun hr' => ?_) fun _ => h₄.1.ctrl (.present _)
  obtain ⟨h₄, ha'⟩ := h₄
  obtain ⟨hbit', htime'⟩ := ha' hr'
  have h₅ := (h₄.ctrl (.confirmed hbit' htime')).log trivial (ascii "Absense timeout of target. Turning off light 0")
  simp only [syslog, wp_bind, wp_net, wp_emit, wp_update, forget_update]
  have hb₅ : ∀ f : Ether → Ether, bitRead (w₄.update (Device.net f)).dev.state MY_ID = true := fun f => by
    rw [update_dev, net_state]
    exact hbit'
  exact turnMyHouseOff_reach.wp ⟨h₅, hb₅ _⟩ fun _ w₆ _ h₆ => h₆.step (.forget _ _)

/-- The third stage of `loop`. -/
theorem loopSweep_reach : Triple (Reach I [.loop]) loopSweep (fun _ => Reach I [.loop]) (Reached I) := by
  have hsweep : ∀ interval, (∀ d, Compares [.loop] d d.pingsweepTimer interval) →
      Triple (Reach I [.loop]) (do
        if ← overdue Device.pingsweepTimer interval then
          let now ← millis
          update fun d => { d with pingsweepTimer := now }
          pingSweep) (fun _ => Reach I [.loop]) (Reached I) := fun interval hc =>
    whenOverdue_reach hc (restart_reach (f := fun now d => { d with pingsweepTimer := now }) .pingsweep (List.cons_ne_nil _ _)
      (pingSweep_reach .sweepBegin .sweepEnd))
  intro w inp h
  refine hsweep (if w.dev.targetIp = allOnes then PINGSWEEP_INTERVAL_FIND_TARGET else PINGSWEEP_INTERVAL_RESCAN) (fun d => ?_) w inp h
  split
  · exact .findTarget d
  · exact .rescan d

/-- The fourth stage of `loop`. -/
theorem loopSync_reach : Triple (Reach I [.loop]) loopSync (fun _ => Reach I [.loop]) (Reached I) :=
  whenOverdue_reach .sync (restart_reach (f := fun now d => { d with syncTimer := now }) .sync (List.cons_ne_nil _ _)
    (getRemoteState_reach poll_reach .sync))

/-- Behind the daily reboot, the clock has not passed its time. -/
theorem loopReboot_reach : Triple (Reach I [.loop]) loopReboot
    (fun _ w => Reach I [.loop] w ∧ ¬w.dev.millis > REBOOT_INTERVAL) (Reached I) := by
  intro w inp h
  simp only [loopReboot, syslog, wp_bind]
  refine wp_millis_of h.reached fun ms _ => wp_ite_of (fun _ => ?_) fun hn => ⟨h.tick ms, hn⟩
  simp only [wp_bind, wp_net]
  exact reboot_reach logs_loop _ _ _ ((h.tick ms).log trivial _)

/-- A call of `loop` ends where it began, or ends the run. -/
theorem loop_reach : Triple (Reach I []) loop (fun _ => Reach I []) (Reached I) := by
  intro w inp h
  simp only [loop, wp_bind, wp_emit, wp_wdtReset]
  have h₁ := (h.mark (.loopBegin _)).wdt
  refine (poll_reach _).wp ⟨h₁, .loop _⟩ fun _ _ _ h₂ => ?_
  refine loopPinger_reach.wp h₂.wdt fun _ _ _ h₃ => ?_
  refine loopAbsence_reach.wp h₃ fun _ _ _ h₄ => ?_
  refine loopSweep_reach.wp h₄ fun _ _ _ h₅ => ?_
  refine loopSync_reach.wp h₅ fun _ _ _ h₆ => ?_
  exact loopReboot_reach.wp h₆ fun _ _ _ h₇ => h₇.1.mark (.loopEnd h₇.2)

/-- So do all calls of `loop`. -/
theorem mainLoop_reach : Triple (Reach I []) mainLoop (fun _ => Reach I []) (Reached I) := by
  refine Triple.repeatUntil (fun _ h => h.reached) ?_
  intro w inp h
  rw [wp_bind]
  exact loop_reach.wp h fun _ _ _ h' => h'

/-! ### Boot -/

/-- `ether.begin` is a stage of boot. -/
theorem begin_reach : Triple (Reach I [.setup .network]) EtherHouse.begin (fun _ => Reach I [.setup .network]) (Reached I) := by
  intro w inp h
  simp only [EtherHouse.begin, wp_bind, wp_net, wp_pure]
  have h₁ := h.net (.boot .begin _)
  exact wp_input_of h₁.reached fun i _ => h₁.tick i.elapsed

/-- So is `ether.dhcpSetup`. -/
theorem dhcpSetup_reach : Triple (Reach I [.setup .network]) dhcpSetup (fun _ => Reach I [.setup .network]) (Reached I) := by
  intro w inp h
  simp only [dhcpSetup, wp_bind, wp_net, wp_dev, wp_pure]
  have h₁ := h.net (.boot .dhcpBegin _)
  refine wp_millis_of h₁.reached fun ms _ => ?_
  refine Triple.wp (Q := fun _ => Reach I [.setup .network]) (Triple.repeatUntil (fun _ h => h.reached) ?_) (h₁.tick ms)
    fun _ _ _ h₂ => h₂.net (.boot .dhcpEnd _)
  intro w' inp' h'
  simp only [wp_bind, wp_dev]
  refine wp_ite_of (fun _ => ?_) fun _ => h'
  simp only [wp_bind]
  refine wp_millis_of h'.reached fun ms' _ => wp_ite_of (fun _ => ?_) fun _ => h'.tick ms'
  simp only [wp_bind]
  refine wp_isLinkUp_of (h'.tick ms').reached fun up ms₁ _ => wp_ite_of (fun _ => ?_) fun _ => (h'.tick ms').tick ms₁
  have h₂ := (h'.tick ms').tick ms₁
  simp only [wp_bind, wp_net]
  refine wp_packetReceive_of h₂.reached fun ms₂ a _ => ?_
  have h₃ := (h₂.tick ms₂).step (.receive a _)
  refine wp_millis_of h₃.reached fun ms₃ _ => ?_
  refine wp_millis_of (h₃.tick ms₃).reached fun ms₄ _ => ?_
  exact ((h₃.tick ms₃).tick ms₄).net (.boot (.dhcp _ _ _) _)

/-- A look at the clock is part of boot. -/
theorem dnsTimeout_reach (start : Word) :
    Triple (Reach I [.setup .network]) (dnsTimeout start) (fun _ => Reach I [.setup .network]) (Reached I) := by
  intro w inp h
  simp only [dnsTimeout, wp_bind, wp_pure]
  exact wp_millis_of h.reached fun ms _ => h.tick ms

/-- The wait for the link is. -/
theorem dnsAwaitLink_reach (start : Word) :
    Triple (Reach I [.setup .network]) (dnsAwaitLink start) (fun _ => Reach I [.setup .network]) (Reached I) := by
  refine Triple.repeatUntil (fun _ h => h.reached) ?_
  intro w inp h
  simp only [wp_bind]
  refine wp_isLinkUp_of h.reached fun up ms _ => wp_ite_of (fun _ => h.tick ms) fun _ => ?_
  rw [wp_bind]
  exact (dnsTimeout_reach start).wp (h.tick ms) fun _ _ _ h₁ => wp_ite_of (fun _ => h₁) fun _ => h₁

/-- The wait for the name server's link address is. -/
theorem dnsAwaitServer_reach (start : Word) :
    Triple (Reach I [.setup .network]) (dnsAwaitServer start) (fun _ => Reach I [.setup .network]) (Reached I) := by
  refine Triple.repeatUntil (fun _ h => h.reached) ?_
  intro w inp h
  simp only [wp_bind, wp_dev]
  refine wp_ite_of (fun _ => ?_) fun _ => h
  simp only [wp_bind]
  refine (poll_reach _).wp ⟨h, .setup _⟩ fun _ _ _ h₁ => ?_
  exact (dnsTimeout_reach start).wp h₁ fun _ _ _ h₂ => wp_ite_of (fun _ => h₂) fun _ => h₂

/-- The wait for the answer is. -/
theorem dnsAwaitAnswer_reach (start : Word) :
    Triple (Reach I [.setup .network]) (dnsAwaitAnswer start) (fun _ => Reach I [.setup .network]) (Reached I) := by
  refine Triple.repeatUntil (fun _ h => h.reached) ?_
  intro w inp h
  simp only [wp_bind, wp_dev]
  refine wp_ite_of (fun _ => ?_) fun _ => h
  simp only [wp_bind]
  refine (dnsTimeout_reach start).wp h fun _ w₁ _ h₁ => wp_ite_of (fun _ => h₁) fun _ => ?_
  simp only [wp_bind]
  refine wp_packetReceive_of h₁.reached fun ms a _ => ?_
  refine wp_ite_of (fun _ => ?_) fun _ => (h₁.tick ms).step (.receive a _)
  have h₂ := (h₁.tick ms).step (.poll a (.setup _))
  rw [wp_bind]
  refine (packetLoop_reach poll_reach (packetReceiveLen a)).wp h₂ fun _ w₃ _ h₃ => ?_
  refine wp_ite_of (fun _ => ?_) fun _ => h₃
  have h₄ := h₃.net (.boot (.dnsAnswer (packetReceiveLen a)) _)
  simp only [wp_bind, wp_dev, wp_net, wp_pure]
  split
  · next hf => split at hf <;> exact h₄
  · exact h₄

/-- `ether.dnsLookup` is these in turn. -/
theorem dnsLookup_reach (name : List Byte) :
    Triple (Reach I [.setup .network]) (dnsLookup name) (fun _ => Reach I [.setup .network]) (Reached I) := by
  intro w inp h
  simp only [dnsLookup, wp_bind]
  refine wp_millis_of h.reached fun ms _ => ?_
  refine (dnsAwaitLink_reach _).wp (h.tick ms) fun _ _ _ h₁ => wp_ite_of (fun _ => h₁) fun _ => ?_
  simp only [wp_bind]
  refine (dnsAwaitServer_reach _).wp h₁ fun _ w₂ _ h₂ => wp_ite_of (fun _ => h₂) fun _ => ?_
  simp only [wp_bind, wp_net]
  have h₃ := (h₂.net (.boot .noHisip _)).net (.boot (.dnsRequest name) _)
  refine wp_millis_of h₃.reached fun ms' _ => ?_
  exact dnsAwaitAnswer_reach _ _ _ (h₃.tick ms')

/-- The timers start with the addresses listened for. -/
theorem startTimers_reach : Triple (Reach I [.setup .listening]) startTimers (fun _ => Reach I [.setup .timed]) (Reached I) := by
  intro w inp h
  simp only [startTimers, wp_bind, wp_update]
  refine wp_millis_of h.reached fun ms₁ _ => ?_
  have h₁ := (h.tick ms₁).timer (.bootPinger _)
  refine wp_millis_of h₁.reached fun ms₂ _ => ?_
  have h₂ := (h₁.tick ms₂).timer (.bootAbsense _)
  refine wp_millis_of h₂.reached fun ms₃ _ => ?_
  have h₃ := (h₂.tick ms₃).timer (.bootPingsweep _)
  exact wp_millis_of h₃.reached fun ms₄ _ => (h₃.tick ms₄).timer (.bootSync _)

/-- `setup` up to the saved record. -/
def loadedFrom (w : World) : World := (((w.emit (.enter .setup)).emit .wdtReset).update readStateFromEeprom).emit .loaded

/-- `setup` from `ether.begin` on, wherever that leads onto the machine. -/
theorem setupFrom_reach {J : World → Prop} (hJ : Triple J EtherHouse.begin (fun _ => Reach I [.setup .network]) (Reached I)) :
    Triple (fun w => J ((loadedFrom w).emit .wdtReset)) setup (fun _ => Reach I []) (Reached I) := by
  intro w inp h
  simp only [setup, syslog, wp_bind, wp_emit, wp_wdtReset, wp_update]
  refine hJ.wp h fun _ w₂ _ h₂ => wp_ite_of (fun _ => ?_) fun _ => ?_
  · rw [wp_bind]
    exact (reboot_reach (logs_setup _) fun _ _ => False).wp h₂ fun _ _ _ hf => hf.elim
  simp only [wp_bind, wp_wdtReset]
  refine dhcpSetup_reach.wp h₂.wdt fun _ w₃ _ h₃ => wp_ite_of (fun _ => ?_) fun _ => ?_
  · simp only [wp_bind, wp_net]
    exact (reboot_reach (logs_setup _) fun _ _ => False).wp (h₃.log trivial _) fun _ _ _ hf => hf.elim
  simp only [wp_bind, wp_wdtReset]
  refine (dnsLookup_reach apiServer).wp h₃.wdt fun _ w₄ _ h₄ => wp_ite_of (fun _ => ?_) fun _ => ?_
  · simp only [wp_bind, wp_net]
    exact (rebootAfterDelay_reach (logs_setup _) fun _ _ => False).wp (h₄.log trivial _) fun _ _ _ hf => hf.elim
  simp only [wp_bind, wp_wdtReset, wp_update, wp_net, wp_emit]
  have h₅ := ((h₄.step (.bootApiIp _)).log trivial (ascii "etherhouse0 booted!")).wdt
  refine (getTargetMac_reach poll_reach).wp h₅ fun _ w₆ _ h₆ => ?_
  refine (getRemoteState_reach poll_reach .bootState).wp h₆.wdt fun _ w₇ _ h₇ => ?_
  exact startTimers_reach.wp h₇.wdt fun _ w₈ _ h₈ => h₈.mark (.setupEnd _)

/-- Boot ends with nothing on the stack. -/
theorem setup_reach :
    Triple (fun w => Reach I [.setup .network] (loadedFrom w)) setup (fun _ => Reach I []) (Reached I) :=
  fun w inp h => setupFrom_reach begin_reach w inp h.wdt

/-- The firmware runs on the machine: whatever the inputs, every run goes through configurations that the machine reaches. -/
theorem firmware_reach :
    Triple (fun w => Reach I [.setup .network] (loadedFrom w)) firmware (fun _ => Reach I []) (Reached I) := by
  intro w inp h
  simp only [firmware, wp_bind]
  exact setup_reach.wp h fun _ _ _ h₁ => mainLoop_reach _ _ h₁

end

end EtherHouse
