import EtherHouse.Sketch.Response

/-!
# The firmware

The functions of the sketch that wait, poll or call each other, and the parts of the library they run on. A packet loop calls the
sniffer's callback, the callback may call the server, and a call to the server polls: everything below `poll` takes the poll it is
to use, and `poll` is the recursion. The depth that the inputs allow it is no restriction: `Recursion.lean` has its equation.
-/

namespace EtherHouse

open Prog

def syslog (logstring : List Byte) : M Unit := net (syslogF logstring)

/-! ## Reboots -/

def reboot {α : Type} : M α := do
  syslog (ascii "Rebooting now.")
  delay 100
  halt

def rebootAfterDelay {α : Type} : M α := do
  syslog (ascii "Delayed reboot initiated.")
  wdtReset
  delay 7000
  wdtReset
  delay 7000
  wdtReset
  delay 7000
  reboot

/-! ## Addresses -/

/-- `is_ip_local`. -/
def isIpLocal (e : Ether) (ip : Ip) : Bool :=
  if ip = allOnes ∨ ip = allZeros then false
  else decide (∀ i : Fin 4, e.cfg.myip.get i &&& e.cfg.netmask.get i = ip.get i &&& e.cfg.netmask.get i)

def validateDhcp : M Unit := do
  let e := (← dev).ether
  if isIpLocal e e.cfg.myip = false then
    syslog (ascii "Invalid dhcp")
    reboot

/-! ## The library's packet loop -/

/-- `client_tcp_result_cb`, the web client's: it may call the browser callback. -/
def resultCallback (u : Upcall) : M Unit := do
  let d ← dev
  match wwwClientInternalResultCb d.ether u, d.ether.tcp.clientBrowserCb with
  | some (status, off, len), some cb =>
    let i ← input
    emit (.parsed cb status (d.ether.buffer.slice off len))
    update (browserCallback cb i.addr status off len)
  | _, _ => pure ()

/-- `snifferProcessPacket`, with the callback of the listeners. -/
def snifferProcessPacket (callback : Nat → M Unit) (plen : Nat) : M Unit := do
  let d ← dev
  match snifferSrcIp plen d.ether with
  | none => pure ()
  | some srcIp =>
    d.sniffers.macs.forM fun srcmacaddr => do
      if checkMacMessageIsFrom ((← dev).ether.buffer.mac ETH_SRC_MAC) srcmacaddr then callback srcIp

/-- `packetLoop` up to the classification: the DHCP client's turn, then the idle branch or the sniffer. -/
def packetLoopHead (hook : Nat → M Unit) (plen : Nat) : M Unit := do
  if (← dev).ether.cfg.usingDhcp then
    let t₁ ← millis
    let t₂ ← millis
    emit (.dhcpTurn t₁)
    net (dhcpStateMachine t₁ t₂ plen)
  if plen = 0 then
    let up ← isLinkUp
    emit (.idle up)
    net (packetLoopIdle up)
  else
    hook plen

/-- `packetLoop` from the classification on. -/
def packetLoopTail (plen : Nat) : M Nat := do
  emit (.classify plen)
  let u := (packetLoopReceived plen (← dev).ether).2
  net fun e => (packetLoopReceived plen e).1
  match u with
  | .ret pos => return pos
  | .requested url =>
    emit (.request url)
    return 0
  | u =>
    resultCallback u
    net (packetLoopAfter u)
    return 0

/-- `packetLoop`. -/
def packetLoop (hook : Nat → M Unit) (plen : Nat) : M Nat := do
  emit (.enter .packetLoop)
  packetLoopHead hook plen
  let pos ← if plen = 0 then pure 0 else packetLoopTail plen
  emit (.leave .packetLoop)
  return pos

/-! ## Server calls -/

section

variable (poll : M Unit)

def waitForTcp : M Unit := do
  wdtReset
  let timer := (← millis) + HTTP_TIMEOUT
  repeatUntil do
    if (← millis) < timer then
      poll
      return none
    else
      return some ()
  wdtReset

/-- What a server call is made with. -/
structure Request where
  url : List Byte
  callback : BrowserCallback
  started : List Byte
  timedOut : List Byte

/-- The shape of `get_target_mac`, `get_remote_state`, `api_set_off` and `api_set_on`. -/
def apiCall (k : Api) (r : Request) (onTimeout : M Unit) : M Unit := do
  if (← dev).locked then
    emit (.aborted k)
  else
    emit (.enter (.api k))
    validateDhcp
    syslog r.started
    update fun d => d.net fun e => { e with cfg := { e.cfg with hisip := d.apiIp } }
    net (browseUrl r.url [] apiServer r.callback)
    let timer := (← millis) + HTTP_TIMEOUT
    update fun d => { d with locked := true }
    repeatUntil do
      if (← dev).locked then
        poll
        if (← millis) > timer then
          syslog r.timedOut
          onTimeout
        return none
      else
        return some ()
    waitForTcp poll
    emit (.leave (.api k))

def getTargetMac : M Unit :=
  apiCall poll .targetMac
    { url := ascii "/target_mac?id=0&api_key=testkey"
      callback := .macsParse
      started := ascii "Retrieving target MAC address from server..."
      timedOut := ascii "Timeout occured when trying to get mac" }
    reboot

def getRemoteState : M Unit :=
  apiCall poll .state
    { url := ascii "/state?id=0&api_key=testkey"
      callback := .stateParse
      started := ascii "Syncing State from Server."
      timedOut := ascii "Timeout occured when trying to fetch state" }
    rebootAfterDelay

def apiSetOff : M Unit :=
  apiCall poll .off
    { url := ascii "/off?id=0&api_key=testkey"
      callback := .apiSet
      started := ascii "Sending OFF for my house: 0"
      timedOut := ascii "Timeout occured when trying to set on/off" }
    rebootAfterDelay

def apiSetOn : M Unit :=
  apiCall poll .on
    { url := ascii "/on?id=0&api_key=testkey"
      callback := .apiSet
      started := ascii "Sending ON for my house: 0"
      timedOut := ascii "Timeout occured when trying to set on/off" }
    rebootAfterDelay

/-! ## Lights -/

def toggleHouse (house : Nat) (value : Bool) : M Unit := do
  if bitRead (← dev).state house ≠ value then
    update fun d => { d with state := bitWrite d.state house value }
    update syncLeds
    emit (.toggled house value)
    if house = MY_ID ∧ value = true then apiSetOn poll
    else if house = MY_ID ∧ value = false then apiSetOff poll

def turnMyHouseOn : M Unit := toggleHouse poll MY_ID true

def turnMyHouseOff : M Unit := toggleHouse poll MY_ID false

/-! ## The sniffer's callback -/

/-- `packet_sniffer_callback`; `srcIp` is the place in the buffer that its second argument points to. -/
def packetSnifferCallback (srcIp : Nat) : M Unit := do
  if (← dev).snifferNested then
    emit .ignored
  else
    emit (.enter .sniffer)
    update fun d => { d with snifferNested := true }
    let now ← millis
    update fun d => { d with absenseTimer := now }
    turnMyHouseOn poll
    let d ← dev
    if isIpLocal d.ether (d.ether.buffer.ip srcIp) then
      if d.ether.buffer.ip srcIp ≠ d.targetIp then
        update fun d => { d with targetIp := d.ether.buffer.ip srcIp }
        update saveStateToEeprom
        emit .learned
    update fun d => { d with snifferNested := false }
    emit (.leave .sniffer)

end

/-- `ether.packetLoop(ether.packetReceive())`. -/
def poll : M Unit :=
  fix fun poll => do
    let plen ← packetReceive
    let _ ← packetLoop (snifferProcessPacket (packetSnifferCallback poll)) plen

/-! ## Pings -/

/-- `selectAndArpDestAddr`. -/
def selectAndArpDestAddr (destip : Ip) (timeout : Long) : M Unit := do
  let start ← millis
  let e := (← dev).ether
  let waitFunc := if isLan e e.cfg.myip destip then clientWaitingDestAddr else clientWaitingGw
  emit (.probe destip)
  net (selectDestAddr destip)
  repeatUntil do
    if (← millis) - start < timeout then
      if waitFunc (← dev).ether then
        poll
        return none
      else
        return some ()
    else
      return some ()

/-- The address of a sweep with this last octet. -/
def sweepIp (base : Ip) (i : Nat) : Ip := base.set 3 (BitVec.ofNat 8 i)

def pingSweep : M Unit := do
  emit (.enter .pingSweep)
  let ip := (← dev).ether.cfg.myip
  syslog (ascii "Starting Ping Sweep")
  (List.range' 1 254).forM fun i => do
    let ip := ip.set 3 (BitVec.ofNat 8 i)
    if ip ≠ (← dev).ether.cfg.myip then
      selectAndArpDestAddr ip 5
      delay 2
  emit (.leave .pingSweep)

def pingTarget : M Unit := do
  let d ← dev
  if isIpLocal d.ether d.targetIp then
    emit .pinged
    net (forceDestMac d.targetMac)
    net (clientIcmpRequest d.targetIp)

/-! ## Boot -/

/-- `ether.begin`: `false` if the controller does not answer. -/
def begin : M Bool := do
  net fun e => { e with cfg := { e.cfg with usingDhcp := false, mymac := myMac } }
  let i ← input
  return i.up

/-- `ether.dhcpSetup`. -/
def dhcpSetup : M Bool := do
  net dhcpSetupBegin
  let start := (← millis).setWidth 16
  repeatUntil do
    if (← dev).ether.dhcp.dhcpState ≠ .bound then
      if (← millis).setWidth 16 - start < 60000 then
        if ← isLinkUp then
          let len ← packetReceive
          let t₁ ← millis
          let t₂ ← millis
          net (dhcpStateMachine t₁ t₂ len)
        return none
      else
        return some ()
    else
      return some ()
  net dhcpSetupEnd
  return (← dev).ether.dhcp.dhcpState = .bound

/-- Is a `word` timer older than thirty seconds? -/
def dnsTimeout (start : Word) : M Bool := do
  return (← millis).setWidth 16 - start ≥ 30000

/-- `while (!isLinkUp())`: `false` if that takes too long. -/
def dnsAwaitLink (start : Word) : M Bool :=
  repeatUntil do
    if ← isLinkUp then return some true
    else if ← dnsTimeout start then return some false
    else return none

/-- `while (clientWaitingDns())`: `false` if that takes too long. -/
def dnsAwaitServer (start : Word) : M Bool :=
  repeatUntil do
    if clientWaitingDns (← dev).ether then
      poll
      if ← dnsTimeout start then return some false else return none
    else return some true

/-- `while (hisip[0] == 0)`: `false` if that takes too long or the answer is an error. -/
def dnsAwaitAnswer (start : Word) : M Bool :=
  repeatUntil do
    if (← dev).ether.cfg.hisip.get 0 = 0 then
      if ← dnsTimeout start then return some false
      else
        let len ← packetReceive
        if len > 0 then
          let pos ← packetLoop (snifferProcessPacket (packetSnifferCallback poll)) len
          if pos = 0 then
            let failed := (checkForDnsAnswer len (← dev).ether).2
            net fun e => (checkForDnsAnswer len e).1
            return if failed then some false else none
          else return none
        else return none
    else return some true

/-- `ether.dnsLookup`. -/
def dnsLookup (name : List Byte) : M Bool := do
  let start := (← millis).setWidth 16
  if (← dnsAwaitLink start) = false then return false
  if (← dnsAwaitServer start) = false then return false
  net fun e => { e with cfg := { e.cfg with hisip := allZeros } }
  net (dnsRequest name)
  let start := (← millis).setWidth 16
  dnsAwaitAnswer start

/-- The end of `setup`: the four timers start. -/
def startTimers : M Unit := do
  let now ← millis
  update fun d => { d with pingerTimer := now }
  let now ← millis
  update fun d => { d with absenseTimer := now }
  let now ← millis
  update fun d => { d with pingsweepTimer := now - PINGSWEEP_INTERVAL_FIND_TARGET }
  let now ← millis
  update fun d => { d with syncTimer := now }

/-- `setup`. -/
def setup : M Unit := do
  emit (.enter .setup)
  wdtReset
  update readStateFromEeprom
  emit .loaded
  wdtReset
  if (← begin) = false then reboot
  wdtReset
  if (← dhcpSetup) = false then
    syslog (ascii "DHCP failed")
    reboot
  wdtReset
  if (← dnsLookup apiServer) = false then
    syslog (ascii "DNS failed")
    rebootAfterDelay
  update fun d => { d with apiIp := d.ether.cfg.hisip }
  syslog (ascii "etherhouse0 booted!")
  wdtReset
  getTargetMac poll
  wdtReset
  getRemoteState poll
  wdtReset
  startTimers
  emit (.leave .setup)

/-! ## The main loop -/

/-- `millis() > timer + interval`, for one of the timers. -/
def overdue (timer : Device → Long) (interval : Long) : M Bool := do
  let now ← millis
  let t := timer (← dev)
  emit (.compared t interval)
  return now > t + interval

/-- Ping the target if it has not been heard of for a while. -/
def loopPinger : M Unit := do
  if ← overdue Device.pingerTimer PINGER_INTERVAL then
    let now ← millis
    update fun d => { d with pingerTimer := now }
    if ← overdue Device.absenseTimer PINGER_INTERVAL then pingTarget

/-- `bitRead(state, MY_ID) && millis() > absense_timer + ABSENSE_TIMEOUT`; the clock is read only if the house is on. -/
def absent : M Bool := do
  if bitRead (← dev).state MY_ID then overdue Device.absenseTimer ABSENSE_TIMEOUT else return false

/-- The absence branch of `loop`. -/
def loopAbsence : M Unit := do
  if ← absent then
    let now ← millis
    update fun d => { d with pingsweepTimer := now }
    pingSweep
    wdtReset
    if ← absent then
      syslog (ascii "Absense timeout of target. Turning off light 0")
      turnMyHouseOff poll
      update fun d => { d with targetIp := allOnes }
      update saveStateToEeprom
      emit .forgot

/-- The regular sweep of `loop`. -/
def loopSweep : M Unit := do
  let pingsweepInterval :=
    if (← dev).targetIp = allOnes then PINGSWEEP_INTERVAL_FIND_TARGET else PINGSWEEP_INTERVAL_RESCAN
  if ← overdue Device.pingsweepTimer pingsweepInterval then
    let now ← millis
    update fun d => { d with pingsweepTimer := now }
    pingSweep

/-- The server sync of `loop`. -/
def loopSync : M Unit := do
  if ← overdue Device.syncTimer SYNC_INTERVAL then
    let now ← millis
    update fun d => { d with syncTimer := now }
    getRemoteState poll

/-- The daily reboot of `loop`. -/
def loopReboot : M Unit := do
  let now ← millis
  if now > REBOOT_INTERVAL then
    syslog (ascii "Rebooting after 24 hours")
    reboot

/-- `loop`. -/
def loop : M Unit := do
  emit (.enter .loop)
  wdtReset
  poll
  wdtReset
  loopPinger
  loopAbsence
  loopSweep
  loopSync
  loopReboot
  emit (.leave .loop)

/-- `loop` for ever. -/
def mainLoop : M Unit :=
  repeatUntil do
    loop
    return none

/-- The firmware from power-on. -/
def firmware : M Unit := do
  setup
  mainLoop

end EtherHouse
