import EtherHouse.Sketch.Firmware

/-!
# The source's recursion

A packet loop may call the server, and the call polls: `poll` is defined with a depth that the inputs bound, and so is each loop.
Every poll reads an input, so the bound is never met: `poll` is what the source's calls make of it, and `mainLoop` is `loop`, and
`mainLoop` again.
-/

namespace EtherHouse

open Prog

section

variable {n : Nat}

/-! ## Instructions -/

/-- Reading the device. -/
theorem tied_dev : Tied n dev dev := fun _ _ _ => ⟨rfl, le_rfl⟩

/-- Changing it. -/
theorem tied_update (f : Device → Device) : Tied n (update f) (update f) := Tied.modify _

/-- A step of the library. -/
theorem tied_net (f : Ether → Ether) : Tied n (net f) (net f) := Tied.modify _

/-- An event. -/
theorem tied_emit (ev : Event) : Tied n (emit ev) (emit ev) := Tied.modify _

/-- An input. -/
theorem tied_input : Tied n input input := Tied.next.bind fun _ => (tied_update _).bind fun _ => Tied.pure _

/-- The clock. -/
theorem tied_millis : Tied n millis millis := tied_input.bind fun _ => tied_dev.bind fun _ => Tied.pure _

/-- The link. -/
theorem tied_isLinkUp : Tied n isLinkUp isLinkUp := tied_input.bind fun _ => Tied.pure _

/-- A delay. -/
theorem tied_delay (ms : Nat) : Tied n (delay ms) (delay ms) := tied_update _

/-- The watchdog. -/
theorem tied_wdtReset : Tied n wdtReset wdtReset := tied_emit _

/-- A frame, or none. -/
theorem tied_packetReceive : Tied n packetReceive packetReceive :=
  tied_input.bind fun _ => (tied_net _).bind fun _ => (tied_emit _).bind fun _ => Tied.pure _

/-- It takes an input either way. -/
theorem reads_packetReceive : Reads packetReceive := by
  intro s inp
  cases inp with
  | nil => exact trivial
  | cons i rest => exact Nat.lt_succ_self _

/-! ## What does not poll -/

/-- A reboot. -/
theorem tied_reboot {α : Type} : Tied n (reboot : M α) reboot := (tied_net _).bind fun _ => (tied_delay 100).bind fun _ => Tied.halt

/-- A reboot after a while. -/
theorem tied_rebootAfterDelay {α : Type} : Tied n (rebootAfterDelay : M α) rebootAfterDelay :=
  (tied_net _).bind fun _ => tied_wdtReset.bind fun _ => (tied_delay 7000).bind fun _ => tied_wdtReset.bind fun _ =>
    (tied_delay 7000).bind fun _ => tied_wdtReset.bind fun _ => (tied_delay 7000).bind fun _ => tied_reboot

/-- The lease's check. -/
theorem tied_validateDhcp : Tied n validateDhcp validateDhcp :=
  tied_dev.bind fun _ => Tied.ite ((tied_net _).bind fun _ => tied_reboot) (Tied.pure _)

/-- The result callback. -/
theorem tied_resultCallback (u : Upcall) : Tied n (resultCallback u) (resultCallback u) := by
  refine tied_dev.bind fun d => ?_
  generalize wwwClientInternalResultCb d.ether u = r
  generalize d.ether.tcp.clientBrowserCb = cb
  cases r with
  | none => exact Tied.pure _
  | some a => cases cb with
    | none => exact Tied.pure _
    | some cb => exact tied_input.bind fun _ => (tied_emit _).bind fun _ => tied_update _

/-- A packet loop from the classification on. -/
theorem tied_packetLoopTail (plen : Nat) : Tied n (packetLoopTail plen) (packetLoopTail plen) := by
  refine (tied_emit _).bind fun _ => tied_dev.bind fun d => (tied_net _).bind fun _ => ?_
  generalize (packetLoopReceived plen d.ether).2 = u
  cases u with
  | ret pos => exact Tied.pure _
  | requested url => exact (tied_emit _).bind fun _ => Tied.pure _
  | _ => exact (tied_resultCallback _).bind fun _ => (tied_net _).bind fun _ => Tied.pure _

/-! ## What polls -/

variable {hook hook' : Nat → M Unit} {poll poll' : M Unit}

/-- A packet loop up to the classification calls the hook. -/
theorem tied_packetLoopHead (hh : ∀ plen, Tied n (hook plen) (hook' plen)) (plen : Nat) :
    Tied n (packetLoopHead hook plen) (packetLoopHead hook' plen) := by
  have hrest : Tied n (if plen = 0 then isLinkUp >>= fun up => emit (.idle up) >>= fun _ => net (packetLoopIdle up) else hook plen)
      (if plen = 0 then isLinkUp >>= fun up => emit (.idle up) >>= fun _ => net (packetLoopIdle up) else hook' plen) :=
    Tied.ite (tied_isLinkUp.bind fun up => (tied_emit _).bind fun _ => tied_net _) (hh plen)
  refine tied_dev.bind fun d => Tied.ite ?_ hrest
  exact tied_millis.bind fun t₁ => tied_millis.bind fun t₂ => (tied_emit _).bind fun _ => (tied_net _).bind fun _ => hrest

/-- So does the packet loop. -/
theorem tied_packetLoop (hh : ∀ plen, Tied n (hook plen) (hook' plen)) (plen : Nat) : Tied n (packetLoop hook plen) (packetLoop hook' plen) := by
  refine (tied_emit _).bind fun _ => (tied_packetLoopHead hh plen).bind fun _ => ?_
  dsimp only
  refine Tied.ite ?_ ?_
  · exact (Tied.pure _).bind fun _ => (tied_emit _).bind fun _ => Tied.pure _
  · exact (tied_packetLoopTail plen).bind fun _ => (tied_emit _).bind fun _ => Tied.pure _

/-- The hook calls the callback, for each listener. -/
theorem tied_snifferProcessPacket {callback callback' : Nat → M Unit} (hc : ∀ srcIp, Tied n (callback srcIp) (callback' srcIp)) (plen : Nat) :
    Tied n (snifferProcessPacket callback plen) (snifferProcessPacket callback' plen) := by
  refine tied_dev.bind fun d => ?_
  generalize snifferSrcIp plen d.ether = r
  cases r with
  | none => exact Tied.pure _
  | some srcIp => exact Tied.forM (fun _ => tied_dev.bind fun _ => Tied.ite (hc srcIp) (Tied.pure _)) _

/-- A call waits for its connection's end. -/
theorem tied_waitForTcp (hp : Tied n poll poll') : Tied n (waitForTcp poll) (waitForTcp poll') := by
  refine tied_wdtReset.bind fun _ => tied_millis.bind fun _ => Tied.bind (Tied.repeatUntil ?_) fun _ => tied_wdtReset
  exact tied_millis.bind fun _ => Tied.ite (hp.bind fun _ => Tied.pure _) (Tied.pure _)

/-- A server call polls for its reply. -/
theorem tied_apiCall (hp : Tied n poll poll') {k : Api} {r : Request} {onTimeout : M Unit} (ht : Tied n onTimeout onTimeout) :
    Tied n (apiCall poll k r onTimeout) (apiCall poll' k r onTimeout) := by
  refine tied_dev.bind fun _ => Tied.ite (tied_emit _) ?_
  refine (tied_emit _).bind fun _ => tied_validateDhcp.bind fun _ => (tied_net _).bind fun _ => (tied_update _).bind fun _ =>
    (tied_net _).bind fun _ => tied_millis.bind fun _ => (tied_update _).bind fun _ => Tied.bind (Tied.repeatUntil ?_) fun _ =>
      (tied_waitForTcp hp).bind fun _ => tied_emit _
  refine tied_dev.bind fun _ => Tied.ite ?_ (Tied.pure _)
  refine hp.bind fun _ => tied_millis.bind fun _ => Tied.ite ?_ (Tied.pure _)
  exact (tied_net _).bind fun _ => ht.bind fun _ => Tied.pure _

/-- The house's switch reports to the server. -/
theorem tied_toggleHouse (hp : Tied n poll poll') (house : Nat) (value : Bool) :
    Tied n (toggleHouse poll house value) (toggleHouse poll' house value) := by
  refine tied_dev.bind fun _ => Tied.ite ?_ (Tied.pure _)
  refine (tied_update _).bind fun _ => (tied_update _).bind fun _ => (tied_emit _).bind fun _ => ?_
  exact Tied.ite (tied_apiCall hp tied_rebootAfterDelay) (Tied.ite (tied_apiCall hp tied_rebootAfterDelay) (Tied.pure _))

/-- The sniffer's callback switches the house on. -/
theorem tied_packetSnifferCallback (hp : Tied n poll poll') (srcIp : Nat) :
    Tied n (packetSnifferCallback poll srcIp) (packetSnifferCallback poll' srcIp) := by
  have hend : Tied n (update (fun d => { d with snifferNested := false }) >>= fun _ => emit (.leave .sniffer))
      (update (fun d => { d with snifferNested := false }) >>= fun _ => emit (.leave .sniffer)) :=
    (tied_update _).bind fun _ => tied_emit _
  refine tied_dev.bind fun _ => Tied.ite (tied_emit _) ?_
  refine (tied_emit _).bind fun _ => (tied_update _).bind fun _ => tied_millis.bind fun _ => (tied_update _).bind fun _ =>
    (tied_toggleHouse hp MY_ID true).bind fun _ => tied_dev.bind fun _ => Tied.ite (Tied.ite ?_ hend) hend
  exact (tied_update _).bind fun _ => (tied_update _).bind fun _ => (tied_emit _).bind fun _ => hend

/-- What a poll does with a frame. -/
theorem tied_polled (hp : Tied n poll poll') (plen : Nat) :
    Tied n (packetLoop (snifferProcessPacket (packetSnifferCallback poll)) plen)
      (packetLoop (snifferProcessPacket (packetSnifferCallback poll')) plen) :=
  tied_packetLoop (fun _ => tied_snifferProcessPacket (tied_packetSnifferCallback hp) _) plen

end

/-- A poll receives, and runs the packet loop, whose hook's callback may poll again, however deep. -/
theorem poll_eq : poll = (do
    let plen ← packetReceive
    let _ ← packetLoop (snifferProcessPacket (packetSnifferCallback poll)) plen) :=
  fix_eq fun _ _ _ h => Tied.bind_of_reads reads_packetReceive fun plen => (tied_polled h plen).bind fun _ => Tied.pure _

/-! ## The main loop -/

section

variable {n : Nat}

/-- A poll gives back no input. -/
theorem tied_poll : Tied n poll poll :=
  Tied.fix fun _ _ h => tied_packetReceive.bind fun plen => (tied_polled h plen).bind fun _ => Tied.pure _

/-- It takes at least one. -/
theorem reads_poll : Reads poll := by
  rw [poll_eq]
  exact reads_packetReceive.bind_of_reads fun n plen => (tied_polled tied_poll plen).bind fun _ => Tied.pure _

/-- A timer's comparison. -/
theorem tied_overdue (timer : Device → Long) (interval : Long) : Tied n (overdue timer interval) (overdue timer interval) :=
  tied_millis.bind fun _ => tied_dev.bind fun _ => (tied_emit _).bind fun _ => Tied.pure _

/-- A ping. -/
theorem tied_pingTarget : Tied n pingTarget pingTarget :=
  tied_dev.bind fun _ => Tied.ite ((tied_emit _).bind fun _ => (tied_net _).bind fun _ => tied_net _) (Tied.pure _)

/-- A sweep's probe polls in its window. -/
theorem tied_selectAndArpDestAddr (destip : Ip) (timeout : Long) :
    Tied n (selectAndArpDestAddr destip timeout) (selectAndArpDestAddr destip timeout) := by
  refine tied_millis.bind fun _ => tied_dev.bind fun _ => (tied_emit _).bind fun _ => (tied_net _).bind fun _ => Tied.repeatUntil ?_
  refine tied_millis.bind fun _ => Tied.ite ?_ (Tied.pure _)
  exact tied_dev.bind fun _ => Tied.ite (tied_poll.bind fun _ => Tied.pure _) (Tied.pure _)

/-- A sweep. -/
theorem tied_pingSweep : Tied n pingSweep pingSweep := by
  refine (tied_emit _).bind fun _ => tied_dev.bind fun _ => (tied_net _).bind fun _ => Tied.bind (Tied.forM (fun i => ?_) _) fun _ =>
    tied_emit _
  exact tied_dev.bind fun _ => Tied.ite ((tied_selectAndArpDestAddr _ _).bind fun _ => tied_delay 2) (Tied.pure _)

/-- The pinger. -/
theorem tied_loopPinger : Tied n loopPinger loopPinger := by
  refine (tied_overdue _ _).bind fun _ => Tied.ite ?_ (Tied.pure _)
  exact tied_millis.bind fun _ => (tied_update _).bind fun _ => (tied_overdue _ _).bind fun _ => Tied.ite tied_pingTarget (Tied.pure _)

/-- Has the target been silent? -/
theorem tied_absent : Tied n absent absent := tied_dev.bind fun _ => Tied.ite (tied_overdue _ _) (Tied.pure _)

/-- The absence branch. -/
theorem tied_loopAbsence : Tied n loopAbsence loopAbsence := by
  refine tied_absent.bind fun _ => Tied.ite ?_ (Tied.pure _)
  refine tied_millis.bind fun _ => (tied_update _).bind fun _ => tied_pingSweep.bind fun _ => tied_wdtReset.bind fun _ =>
    tied_absent.bind fun _ => Tied.ite ?_ (Tied.pure _)
  exact (tied_net _).bind fun _ => (tied_toggleHouse tied_poll MY_ID false).bind fun _ => (tied_update _).bind fun _ =>
    (tied_update _).bind fun _ => tied_emit _

/-- The regular sweep. -/
theorem tied_loopSweep : Tied n loopSweep loopSweep := by
  refine tied_dev.bind fun _ => (tied_overdue _ _).bind fun _ => Tied.ite ?_ (Tied.pure _)
  exact tied_millis.bind fun _ => (tied_update _).bind fun _ => tied_pingSweep

/-- The sync. -/
theorem tied_loopSync : Tied n loopSync loopSync := by
  refine (tied_overdue _ _).bind fun _ => Tied.ite ?_ (Tied.pure _)
  exact tied_millis.bind fun _ => (tied_update _).bind fun _ => tied_apiCall tied_poll tied_rebootAfterDelay

/-- The daily reboot. -/
theorem tied_loopReboot : Tied n loopReboot loopReboot :=
  tied_millis.bind fun _ => Tied.ite ((tied_net _).bind fun _ => tied_reboot) (Tied.pure _)

end

/-- Each turn of `loop` polls. -/
theorem reads_loop : Reads loop := by
  refine Reads.bind_of_tied (fun n => tied_emit _) fun _ => Reads.bind_of_tied (fun n => tied_wdtReset) fun _ =>
    reads_poll.bind_of_reads fun n _ => ?_
  exact tied_wdtReset.bind fun _ => tied_loopPinger.bind fun _ => tied_loopAbsence.bind fun _ => tied_loopSweep.bind fun _ =>
    tied_loopSync.bind fun _ => tied_loopReboot.bind fun _ => tied_emit _

/-- `loop`, and then `loop` again, for ever. -/
theorem mainLoop_eq : mainLoop = (do
    loop
    mainLoop) := by
  have hreads : Reads (loop >>= fun _ => (pure none : M (Option Unit))) := reads_loop.bind_of_reads fun n _ => Tied.pure _
  have hturn := repeatUntil_eq hreads
  rw [bind_assoc] at hturn
  exact hturn

end EtherHouse
