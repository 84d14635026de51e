import EtherHouse.Sketch.Firmware

/-!
# The firmware as a machine with a call stack

The same firmware, one step at a time: a configuration is the stack of the activations under way, each with the place it has
reached, and the world. `Step` lists what can happen next, from any configuration; nothing in it bounds the stack. `Reach` is what
can be reached by steps. `Simulation.lean` shows that every run of the firmware goes through configurations that can be reached, so
what the steps keep holds at every moment of every run.

The steps are sorted by what they change: only the library's state (`NetStep`), nothing but the stack (`CtrlStep`), the trace
(`MarkStep`), a timer (`TimerStep`); the others are constructors of `Step`.
-/

namespace EtherHouse

/-! ## Activations -/

/-- Where a packet loop stands: before the DHCP client's turn, before the sniffer's hook, in it or past it, before the classification,
about to call the client's result callback, after it, at its end. -/
inductive LoopPhase where
  | dhcp
  | offered
  | hook
  | tail
  | upcall (u : Upcall)
  | closing (u : Upcall)
  | fin

/-- Where a server call stands: past its guard, with the request noted, in `while (locked)`, in `wait_for_tcp`. -/
inductive ApiPhase where
  | calling
  | armed
  | waiting
  | draining

/-- Where the sniffer's callback stands: at its start, with the timer set, with the house on. -/
inductive SniffPhase where
  | fresh
  | stamped
  | lit

/-- Where the absence branch stands: in the last-ditch sweep, after it, with the absence confirmed, past `turn_my_house_off`. -/
inductive AbsencePhase where
  | lastDitch
  | swept
  | confirmed
  | forgetting

/-- Where boot stands: before `get_target_mac`, from it on, with `absense_timer` started. -/
inductive BootPhase where
  | network
  | listening
  | timed

/-- An activation on the call stack. A sweep has the network's address and the octet whose turn is next. -/
inductive Act where
  | setup (p : BootPhase)
  | loop
  | absence (p : AbsencePhase)
  | sweep (base : Ip) (next : Nat)
  | toggle (value : Bool)
  | api (k : Api) (p : ApiPhase)
  | packetLoop (plen : Nat) (p : LoopPhase)
  | sniffer (p : SniffPhase) (srcIp : Nat)

/-! ## The server calls' own values -/

def Api.url : Api → List Byte
  | .targetMac => ascii "/target_mac?id=0&api_key=testkey"
  | .state => ascii "/state?id=0&api_key=testkey"
  | .on => ascii "/on?id=0&api_key=testkey"
  | .off => ascii "/off?id=0&api_key=testkey"

def Api.callback : Api → BrowserCallback
  | .targetMac => .macsParse
  | .state => .stateParse
  | .on => .apiSet
  | .off => .apiSet

/-- From where the calls are made, and the stack after the call. -/
inductive CallSite : Api → List Act → List Act → Prop where
  | targetMac : CallSite .targetMac [.setup .network] [.setup .listening]
  | bootState : CallSite .state [.setup .listening] [.setup .listening]
  | sync : CallSite .state [.loop] [.loop]
  | on (st : List Act) : CallSite .on (.toggle true :: st) st
  | off (st : List Act) : CallSite .off (.toggle false :: st) st

/-- The activations that poll; a server call that waits does so while `locked` is set. -/
inductive CanPoll : List Act → Device → Prop where
  | setup (d : Device) : CanPoll [.setup .network] d
  | loop (d : Device) : CanPoll [.loop] d
  | sweep (base : Ip) (next : Nat) (st : List Act) (d : Device) : CanPoll (.sweep base next :: st) d
  | waiting (k : Api) (st : List Act) {d : Device} (h : d.locked = true) : CanPoll (.api k .waiting :: st) d
  | draining (k : Api) (st : List Act) (d : Device) : CanPoll (.api k .draining :: st) d

/-- The activations that log: a packet loop does not, nor does the sniffer's callback, nor `toggle_house`. -/
def Logs : List Act → Prop
  | [] => False
  | .packetLoop _ _ :: _ => False
  | .sniffer _ _ :: _ => False
  | .toggle _ :: _ => False
  | _ => True

/-- A server call logs. -/
theorem logs_api (k : Api) (p : ApiPhase) (st : List Act) : Logs (.api k p :: st) := trivial

/-- `setup` does. -/
theorem logs_setup (p : BootPhase) : Logs [.setup p] := trivial

/-- `loop` does. -/
theorem logs_loop : Logs [.loop] := trivial

/-! ## Device functions of the steps -/

/-- Set the house's own bit and the lights. -/
def setMyHouse (value : Bool) (d : Device) : Device := syncLeds { d with state := bitWrite d.state MY_ID value }

/-- Point `hisip` at the server and note a request. -/
def browse (k : Api) (apiIp : Ip) (e : Ether) : Ether :=
  browseUrl k.url [] apiServer k.callback { e with cfg := { e.cfg with hisip := apiIp } }

/-- Store the address at a place of the buffer, and save. -/
def learnIp (srcIp : Nat) (d : Device) : Device := saveStateToEeprom { d with targetIp := d.ether.buffer.ip srcIp }

/-- Forget the target's address, and save. -/
def forgetIp (d : Device) : Device := saveStateToEeprom { d with targetIp := allOnes }

/-! ## Steps -/

/-- What boot does to the library's state. -/
inductive BootFn : (Ether → Ether) → Prop where
  | begin : BootFn fun e => { e with cfg := { e.cfg with usingDhcp := false, mymac := myMac } }
  | dhcpBegin : BootFn dhcpSetupBegin
  | dhcp (t₁ t₂ : Long) (len : Nat) : BootFn (dhcpStateMachine t₁ t₂ len)
  | dhcpEnd : BootFn dhcpSetupEnd
  | noHisip : BootFn fun e => { e with cfg := { e.cfg with hisip := allZeros } }
  | dnsRequest (name : List Byte) : BootFn (dnsRequest name)
  | dnsAnswer (len : Nat) : BootFn fun e => (checkForDnsAnswer len e).1

/-- Steps that change the library's state only; some are noted by an event first. -/
inductive NetStep : List Act → Device → Option Event → (Ether → Ether) → List Act → Prop where
  | log (msg : List Byte) {st : List Act} (d : Device) (h : Logs st) : NetStep st d none (syslogF msg) st
  /-- the DHCP client's turn in a packet loop -/
  | dhcp (plen : Nat) (t₁ t₂ : Long) (st : List Act) (d : Device) :
      NetStep (.packetLoop plen .dhcp :: st) d (some (.dhcpTurn t₁)) (dhcpStateMachine t₁ t₂ plen)
        (.packetLoop plen .offered :: st)
  | idle (up : Bool) (st : List Act) (d : Device) :
      NetStep (.packetLoop 0 .offered :: st) d (some (.idle up)) (packetLoopIdle up) (.packetLoop 0 .fin :: st)
  | ret {plen pos : Nat} {d : Device} (st : List Act) (h : (packetLoopReceived plen d.ether).2 = .ret pos) :
      NetStep (.packetLoop plen .tail :: st) d none (fun e => (packetLoopReceived plen e).1) (.packetLoop plen .fin :: st)
  | upcall {plen : Nat} {u : Upcall} {d : Device} (st : List Act) (h : (packetLoopReceived plen d.ether).2 = u)
      (hr : ∀ pos, u ≠ .ret pos) (hq : ∀ url, u ≠ .requested url) :
      NetStep (.packetLoop plen .tail :: st) d none (fun e => (packetLoopReceived plen e).1) (.packetLoop plen (.upcall u) :: st)
  | close (plen : Nat) (u : Upcall) (st : List Act) (d : Device) :
      NetStep (.packetLoop plen (.closing u) :: st) d none (packetLoopAfter u) (.packetLoop plen .fin :: st)
  | browse (k : Api) (st : List Act) {d : Device} (h : isIpLocal d.ether d.ether.cfg.myip = true) :
      NetStep (.api k .calling :: st) d none (browse k d.apiIp) (.api k .armed :: st)
  /-- the next octet's turn; `skip` if the address is the device's own -/
  | probe {base : Ip} {next : Nat} {d : Device} (st : List Act) (h : next < 255) (hn : sweepIp base next ≠ d.ether.cfg.myip) :
      NetStep (.sweep base next :: st) d (some (.probe (sweepIp base next))) (selectDestAddr (sweepIp base next))
        (.sweep base (next + 1) :: st)
  | ping (d : Device) : NetStep [.loop] d (some .pinged) (forceDestMac d.targetMac) [.loop]
  | icmp (d : Device) : NetStep [.loop] d none (clientIcmpRequest d.targetIp) [.loop]
  | boot {f : Ether → Ether} (hf : BootFn f) (d : Device) : NetStep [.setup .network] d none f [.setup .network]

/-- Steps that only move the stack. -/
inductive CtrlStep : List Act → Device → List Act → Prop where
  | noDhcp {d : Device} (plen : Nat) (st : List Act) (h : d.ether.cfg.usingDhcp = false) :
      CtrlStep (.packetLoop plen .dhcp :: st) d (.packetLoop plen .offered :: st)
  /-- the hook does not look at the frame, or it comes from no registered address -/
  | unheard {d : Device} {plen : Nat} (st : List Act) (hz : plen ≠ 0)
      (h : snifferSrcIp plen d.ether = none ∨ d.ether.buffer.mac ETH_SRC_MAC ∉ d.sniffers.macs) :
      CtrlStep (.packetLoop plen .offered :: st) d (.packetLoop plen .hook :: st)
  | noParse {d : Device} {u : Upcall} (plen : Nat) (st : List Act)
      (h : wwwClientInternalResultCb d.ether u = none ∨ d.ether.tcp.clientBrowserCb = none) :
      CtrlStep (.packetLoop plen (.upcall u) :: st) d (.packetLoop plen (.closing u) :: st)
  | alight {d : Device} (srcIp : Nat) (st : List Act) (h : bitRead d.state MY_ID = true) :
      CtrlStep (.sniffer .stamped srcIp :: st) d (.sniffer .lit srcIp :: st)
  | drained {d : Device} (k : Api) (st : List Act) (h : d.locked = false) :
      CtrlStep (.api k .waiting :: st) d (.api k .draining :: st)
  | skip {base : Ip} {next : Nat} {d : Device} (st : List Act) (h : next < 255) (hn : sweepIp base next = d.ether.cfg.myip) :
      CtrlStep (.sweep base next :: st) d (.sweep base (next + 1) :: st)
  | absent {d : Device} (h : bitRead d.state MY_ID = true) (ht : d.millis > d.absenseTimer + ABSENSE_TIMEOUT) :
      CtrlStep [.loop] d [.absence .lastDitch, .loop]
  | confirmed {d : Device} (h : bitRead d.state MY_ID = true) (ht : d.millis > d.absenseTimer + ABSENSE_TIMEOUT) :
      CtrlStep [.absence .swept, .loop] d [.absence .confirmed, .loop]
  | present (d : Device) : CtrlStep [.absence .swept, .loop] d [.loop]

/-- The comparisons of `loop`: a timer, and the interval that is added to it. -/
inductive Compares : List Act → Device → Long → Long → Prop where
  | pinger (d : Device) : Compares [.loop] d d.pingerTimer PINGER_INTERVAL
  | target (d : Device) : Compares [.loop] d d.absenseTimer PINGER_INTERVAL
  | absense (d : Device) : Compares [.loop] d d.absenseTimer ABSENSE_TIMEOUT
  | swept (d : Device) : Compares [.absence .swept, .loop] d d.absenseTimer ABSENSE_TIMEOUT
  | findTarget (d : Device) : Compares [.loop] d d.pingsweepTimer PINGSWEEP_INTERVAL_FIND_TARGET
  | rescan (d : Device) : Compares [.loop] d d.pingsweepTimer PINGSWEEP_INTERVAL_RESCAN
  | sync (d : Device) : Compares [.loop] d d.syncTimer SYNC_INTERVAL

/-- Steps that note an event. -/
inductive MarkStep : List Act → Device → Event → List Act → Prop where
  | wdtReset (st : List Act) (d : Device) : MarkStep st d .wdtReset st
  | ignored {d : Device} (plen : Nat) (st : List Act) (h : d.snifferNested = true) :
      MarkStep (.packetLoop plen .offered :: st) d .ignored (.packetLoop plen .hook :: st)
  | hooked {plen : Nat} (st : List Act) (d : Device) (h : plen ≠ 0) :
      MarkStep (.packetLoop plen .hook :: st) d (.classify plen) (.packetLoop plen .tail :: st)
  | abort {k : Api} {st st' : List Act} {d : Device} (hs : CallSite k st st') (h : d.locked = true) :
      MarkStep st d (.aborted k) st'
  | enter {k : Api} {st st' : List Act} {d : Device} (hs : CallSite k st st') (h : d.locked = false) :
      MarkStep st d (.enter (.api k)) (.api k .calling :: st')
  | leave (k : Api) (st : List Act) (d : Device) : MarkStep (.api k .draining :: st) d (.leave (.api k)) st
  | polled (plen : Nat) (st : List Act) (d : Device) : MarkStep (.packetLoop plen .fin :: st) d (.leave .packetLoop) st
  | loopBegin (d : Device) : MarkStep [] d (.enter .loop) [.loop]
  | compared {st : List Act} {d : Device} {timer interval : Long} (h : Compares st d timer interval) :
      MarkStep st d (.compared timer interval) st
  | loopEnd {d : Device} (h : ¬d.millis > REBOOT_INTERVAL) : MarkStep [.loop] d (.leave .loop) []
  | setupEnd (d : Device) : MarkStep [.setup .timed] d (.leave .setup) []
  | sweepBegin (d : Device) : MarkStep [.loop] d (.enter .pingSweep) [.sweep d.ether.cfg.myip 1, .loop]
  | sweepEnd (base : Ip) (d : Device) : MarkStep [.sweep base 255, .loop] d (.leave .pingSweep) [.loop]
  | lastDitchBegin (d : Device) :
      MarkStep [.absence .lastDitch, .loop] d (.enter .pingSweep) [.sweep d.ether.cfg.myip 1, .absence .lastDitch, .loop]
  | lastDitchEnd (base : Ip) (d : Device) :
      MarkStep [.sweep base 255, .absence .lastDitch, .loop] d (.leave .pingSweep) [.absence .swept, .loop]

/-- Steps that set a timer to the clock. -/
inductive TimerStep : List Act → Device → (Device → Device) → List Act → Prop where
  | stamp (srcIp : Nat) (st : List Act) (d : Device) :
      TimerStep (.sniffer .fresh srcIp :: st) d (fun d' => { d' with absenseTimer := d.millis }) (.sniffer .stamped srcIp :: st)
  | pinger (d : Device) : TimerStep [.loop] d (fun d' => { d' with pingerTimer := d.millis }) [.loop]
  | pingsweep (d : Device) : TimerStep [.loop] d (fun d' => { d' with pingsweepTimer := d.millis }) [.loop]
  | lastDitch (d : Device) :
      TimerStep [.absence .lastDitch, .loop] d (fun d' => { d' with pingsweepTimer := d.millis }) [.absence .lastDitch, .loop]
  | sync (d : Device) : TimerStep [.loop] d (fun d' => { d' with syncTimer := d.millis }) [.loop]
  | bootPinger (d : Device) : TimerStep [.setup .listening] d (fun d' => { d' with pingerTimer := d.millis }) [.setup .listening]
  | bootAbsense (d : Device) : TimerStep [.setup .listening] d (fun d' => { d' with absenseTimer := d.millis }) [.setup .timed]
  | bootPingsweep (d : Device) :
      TimerStep [.setup .timed] d (fun d' => { d' with pingsweepTimer := d.millis - PINGSWEEP_INTERVAL_FIND_TARGET }) [.setup .timed]
  | bootSync (d : Device) : TimerStep [.setup .timed] d (fun d' => { d' with syncTimer := d.millis }) [.setup .timed]

/-- One step of the machine. -/
inductive Step : List Act → World → List Act → World → Prop where
  /-- time passes inside the calls only -/
  | tick (ms : Nat) (a : Act) (st : List Act) (w : World) : Step (a :: st) w (a :: st) (w.update (Device.tick ms))
  | net {st st' : List Act} {w : World} {note : Option Event} {f : Ether → Ether} (h : NetStep st w.dev note f st') :
      Step st w st' ((w.note note).update (Device.net f))
  | ctrl {st st' : List Act} {w : World} (h : CtrlStep st w.dev st') : Step st w st' w
  | mark {st st' : List Act} {w : World} {ev : Event} (h : MarkStep st w.dev ev st') : Step st w st' (w.emit ev)
  | timer {st st' : List Act} {w : World} {f : Device → Device} (h : TimerStep st w.dev f st') :
      Step st w st' (w.update f)
  /-- a poll that is followed by a packet loop -/
  | poll {st : List Act} {w : World} (a : Arrival) (h : CanPoll st w.dev) :
      Step st w (.packetLoop (packetReceiveLen a) .dhcp :: st)
        (((w.update (Device.net (packetReceiveInto a))).emit (.received a)).emit (.enter .packetLoop))
  /-- a poll of boot without one -/
  | receive (a : Arrival) (w : World) :
      Step [.setup .network] w [.setup .network] ((w.update (Device.net (packetReceiveInto a))).emit (.received a))
  /-- the sniffer's callback is called for a frame from a registered address, and none is running -/
  | sniff {plen srcIp : Nat} {w : World} (st : List Act) (hn : w.dev.snifferNested = false)
      (hs : snifferSrcIp plen w.dev.ether = some srcIp) (hm : w.dev.ether.buffer.mac ETH_SRC_MAC ∈ w.dev.sniffers.macs) :
      Step (.packetLoop plen .offered :: st) w (.sniffer .fresh srcIp :: .packetLoop plen .hook :: st)
        ((w.emit (.enter .sniffer)).update fun d => { d with snifferNested := true })
  | toggleOn {w : World} (srcIp : Nat) (st : List Act) (h : bitRead w.dev.state MY_ID = false) :
      Step (.sniffer .stamped srcIp :: st) w (.toggle true :: .sniffer .lit srcIp :: st)
        ((w.update (setMyHouse true)).emit (.toggled MY_ID true))
  | toggleOff {w : World} (st : List Act) (h : bitRead w.dev.state MY_ID = true) :
      Step (.absence .confirmed :: st) w (.toggle false :: .absence .forgetting :: st)
        ((w.update (setMyHouse false)).emit (.toggled MY_ID false))
  | learn {w : World} (srcIp : Nat) (st : List Act) (hl : isIpLocal w.dev.ether (w.dev.ether.buffer.ip srcIp) = true)
      (hne : w.dev.ether.buffer.ip srcIp ≠ w.dev.targetIp) :
      Step (.sniffer .lit srcIp :: st) w (.sniffer .lit srcIp :: st) ((w.update (learnIp srcIp)).emit .learned)
  | unsniff (srcIp : Nat) (st : List Act) (w : World) :
      Step (.sniffer .lit srcIp :: st) w st ((w.update fun d => { d with snifferNested := false }).emit (.leave .sniffer))
  | requested {plen : Nat} {url : List Byte} {w : World} (st : List Act)
      (h : (packetLoopReceived plen w.dev.ether).2 = .requested url) :
      Step (.packetLoop plen .tail :: st) w (.packetLoop plen .fin :: st)
        ((w.update (Device.net fun e => (packetLoopReceived plen e).1)).emit (.request url))
  | parse {plen : Nat} {u : Upcall} {status : Byte} {off len : Nat} {cb : BrowserCallback} {w : World} (buf : Nat) (st : List Act)
      (h : wwwClientInternalResultCb w.dev.ether u = some (status, off, len)) (hc : w.dev.ether.tcp.clientBrowserCb = some cb) :
      Step (.packetLoop plen (.upcall u) :: st) w (.packetLoop plen (.closing u) :: st)
        ((w.emit (.parsed cb status (w.dev.ether.buffer.slice off len))).update (browserCallback cb buf status off len))
  | lock (k : Api) (st : List Act) (w : World) :
      Step (.api k .armed :: st) w (.api k .waiting :: st) (w.update fun d => { d with locked := true })
  | forget (st : List Act) (w : World) :
      Step (.absence .forgetting :: st) w st ((w.update forgetIp).emit .forgot)
  | bootApiIp (w : World) : Step [.setup .network] w [.setup .network] (w.update fun d => { d with apiIp := d.ether.cfg.hisip })

/-- The configurations that can be reached from given ones. -/
inductive Reach (I : List Act → World → Prop) : List Act → World → Prop where
  | init {st : List Act} {w : World} (h : I st w) : Reach I st w
  | step {st st' : List Act} {w w' : World} (h : Reach I st w) (hs : Step st w st' w') : Reach I st' w'

/-- The induction rule: an invariant that holds initially and that every step keeps. -/
theorem Reach.invariant {I : List Act → World → Prop} {P : List Act → World → Prop} (hI : ∀ st w, I st w → P st w)
    (hS : ∀ st w st' w', Reach I st w → P st w → Step st w st' w' → P st' w') {st : List Act} {w : World}
    (h : Reach I st w) : P st w := by
  induction h with
  | init h => exact hI _ _ h
  | step h hs ih => exact hS _ _ _ _ h ih hs

end EtherHouse
