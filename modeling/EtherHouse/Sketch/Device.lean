import EtherHouse.Lib.Prog
import EtherHouse.Net.PacketLoop

/-!
# The device

The globals of the sketch (`client_firmware.ino`), the peripherals it drives, and the clock. A run of the firmware is a `Prog` over
`World`: the device and the trace of what it did, the latest event first, each with the device as it stood at that moment. What
the hardware delivers is a list of inputs: a poll, a reading of the clock, a question about the link each take one, and time may
pass with any of them. The serial port, the pin modes and the controller's receive filter are left out.
-/

namespace EtherHouse

open Prog

/-! ## Constants of the sketch -/

def SECONDS : Nat := 1000
def MINUTES : Nat := 60 * SECONDS
def HOURS : Nat := 60 * MINUTES
def PINGER_INTERVAL : Long := BitVec.ofNat 32 (2 * SECONDS)
def PINGSWEEP_INTERVAL_FIND_TARGET : Long := BitVec.ofNat 32 (1 * MINUTES)
def PINGSWEEP_INTERVAL_RESCAN : Long := BitVec.ofNat 32 (1 * HOURS)
def SYNC_INTERVAL : Long := BitVec.ofNat 32 (5 * MINUTES)
def HTTP_TIMEOUT : Long := BitVec.ofNat 32 (5 * SECONDS)
def ABSENSE_TIMEOUT : Long := BitVec.ofNat 32 (15 * MINUTES)
def REBOOT_INTERVAL : Long := BitVec.ofNat 32 (24 * HOURS)

def NUM_HOUSES : Nat := 8
def MY_ID : Nat := 0

def myMac : Mac := #v[0x74, 0x69, 0x69, 0x2D, 0x30, BitVec.ofNat 8 MY_ID]
def apiServer : List Byte := ascii "etherhouse.xkyle.com"

/-- `SNIFFER_MAXLISTENERS` of `sniffer.cpp`. -/
def SNIFFER_MAXLISTENERS : Nat := 1

/-- `bitRead`. -/
def bitRead (value : Byte) (bit : Nat) : Bool := value.getLsbD bit

/-- `bitWrite`. -/
def bitWrite (value : Byte) (bit : Nat) (b : Bool) : Byte :=
  if b then value ||| (1#8 <<< bit) else value &&& ~~~(1#8 <<< bit)

/-- A bit that is written reads back. -/
@[simp] theorem bitRead_bitWrite_self (v : Byte) {i : Nat} (b : Bool) (hi : i < 8) : bitRead (bitWrite v i b) i = b := by
  cases b <;> simp [bitRead, bitWrite, hi]

/-- The other bits stay. -/
theorem bitRead_bitWrite_of_ne (v : Byte) {i j : Nat} (b : Bool) (h : i ≠ j) :
    bitRead (bitWrite v i b) j = bitRead v j := by
  have hs : (1#8 <<< i).getLsbD j = false := by
    simp only [BitVec.getLsbD_shiftLeft, BitVec.getLsbD_one]
    by_cases hj : j < i
    · simp [hj]
    · have : j - i ≠ 0 := by omega
      simp [this]
  by_cases hj : j < 8
  · cases b
    · simp only [bitRead, bitWrite, Bool.false_eq_true, if_false, BitVec.getLsbD_and, BitVec.getLsbD_not, hs, hj]
      simp
    · simp [bitRead, bitWrite, BitVec.getLsbD_or, hs]
  · have hj' : 8 ≤ j := by omega
    rw [bitRead, bitRead, BitVec.getLsbD_of_ge (bitWrite v i b) j hj', BitVec.getLsbD_of_ge v j hj']

/-! ## State -/

/-- The server calls of `api_client.ino`. -/
inductive Api where
  | targetMac
  | state
  | on
  | off
  deriving DecidableEq

/-- The calls a trace marks. -/
inductive Call where
  | setup
  | loop
  | pingSweep
  | packetLoop
  | sniffer
  | api (k : Api)
  deriving DecidableEq

/-- The listener table of `sniffer.cpp`: the hardware addresses in `sniffers[0..numSniffers)`. -/
structure Sniffers where
  macs : List Mac
  bounded : macs.length ≤ SNIFFER_MAXLISTENERS

/-- The table of a device that has just been switched on. -/
def noSniffers : Sniffers where
  macs := []
  bounded := Nat.zero_le _

/-- `snifferListenForMac`: nothing happens once the table is full. -/
def Sniffers.listen (srcmacaddr : Mac) (t : Sniffers) : Sniffers :=
  if h : t.macs.length < SNIFFER_MAXLISTENERS then
    { macs := t.macs ++ [srcmacaddr]
      bounded := by rw [List.length_append, List.length_singleton]; exact h }
  else t

/-- The device between two instructions. The listeners' callback is always `packet_sniffer_callback`. -/
structure Device where
  ether : Ether
  sniffers : Sniffers
  targetMac : Mac
  targetIp : Ip
  apiIp : Ip
  state : Byte
  pingerTimer : Long
  absenseTimer : Long
  pingsweepTimer : Long
  syncTimer : Long
  locked : Bool
  snifferNested : Bool
  eeprom : Nat → Byte
  pins : Nat → Bool
  flash : Nat → Byte
  clock : Nat

/-- What a trace records. -/
inductive Event where
  /-- a call begins, past its guard -/
  | enter (c : Call)
  | leave (c : Call)
  /-- a server call gives up because `locked` is set -/
  | aborted (k : Api)
  /-- `packet_sniffer_callback` returns at once because one is running -/
  | ignored
  /-- `packetReceive` took this from the controller -/
  | received (a : Arrival)
  /-- the packet loop gives the DHCP client its turn, at this time -/
  | dhcpTurn (now : Long)
  /-- the packet loop has no frame; is the link up? -/
  | idle (linkUp : Bool)
  /-- the packet loop goes on behind the sniffer's hook, with a frame of this length -/
  | classify (plen : Nat)
  /-- the HTTP request for this URL was sent -/
  | request (url : List Byte)
  /-- the browser callback is called with this status and these payload bytes -/
  | parsed (cb : BrowserCallback) (status : Byte) (payload : List Byte)
  /-- `toggle_house` changed a bit -/
  | toggled (house : Nat) (value : Bool)
  /-- `target_ip` was set from a frame, or reset -/
  | learned
  | forgot
  /-- the saved record was read -/
  | loaded
  /-- `selectAndArpDestAddr` begins -/
  | probe (ip : Ip)
  /-- `ping_target` forces the destination's link address -/
  | pinged
  /-- `loop` compares the clock with a timer and an interval -/
  | compared (timer interval : Long)
  | wdtReset
  deriving DecidableEq

/-- The device and the trace of the run so far, the latest event first. -/
structure World where
  dev : Device
  trace : List (Event × Device)

/-- What the outside contributes to one reading: time, what the controller holds, a yes or no (is the link up, did the controller
answer), and an address on the stack. -/
structure Input where
  elapsed : Nat := 0
  arrival : Arrival := .nothing
  up : Bool := true
  addr : Nat := 0

abbrev M (α : Type) : Type := Prog World Input α

/-- The reading of `millis()`. -/
def Device.millis (d : Device) : Long := BitVec.ofNat 32 d.clock

/-- Time passes. -/
def Device.tick (ms : Nat) (d : Device) : Device := { d with clock := d.clock + ms }

/-- A step of the library. -/
def Device.net (f : Ether → Ether) (d : Device) : Device := { d with ether := f d.ether }

/-- A step of the device. -/
def World.update (f : Device → Device) (w : World) : World := { w with dev := f w.dev }

/-- An event, noted with the device as it stands. -/
def World.emit (ev : Event) (w : World) : World := { w with trace := (ev, w.dev) :: w.trace }

/-- An event, or none. -/
def World.note (ev : Option Event) (w : World) : World :=
  match ev with
  | none => w
  | some ev => w.emit ev

/-! ## Power-on -/

def noMac : Mac := #v[0, 0, 0, 0, 0, 0]

/-- The library's statics as the program starts. -/
def etherStatics : Ether where
  buffer := Buffer.zero
  wire := []
  cfg :=
    { mymac := noMac, myip := allZeros, netmask := allZeros, broadcastip := allZeros, gwip := allZeros, dhcpip := allZeros
      dnsip := allZeros, hisip := allZeros, hisport := 80, usingDhcp := false, persistTcpConnection := false, delaycnt := 0 }
  arp :=
    { destmacaddr := noMac, waitingForDnsMac := false, hasDnsMac := false, waitingForDestMac := false, hasDestMac := false
      gwmacaddr := noMac, waitgwmac := 0 }
  tcp :=
    { tcpclientSrcPortL := 1, tcpFd := 0, tcpClientState := 0, tcpClientPortH := 0, tcpClientPortL := 0, clientTcpCb := false
      wwwFd := 0, clientBrowserCb := none, clientAdditionalheaderline := [], clientUrlbuf := [], clientUrlbufVar := []
      clientHoststr := [], infoDataLen := 0, seqnum := 0xa }
  dhcp :=
    { dhcpState := .init, hostname := ascii "Arduino-00", currentXid := 0, stateTimer := 0, leaseStart := 0, leaseTime := 0 }
  dnstidL := 0

/-- A device that has just been switched on, or has rebooted, with what its memories hold. -/
def powerOn (eeprom flash : Nat → Byte) : Device where
  ether := etherStatics
  sniffers := noSniffers
  targetMac := broadcastMac
  targetIp := allOnes
  apiIp := allZeros
  state := 0
  pingerTimer := 0
  absenseTimer := 0
  pingsweepTimer := 0
  syncTimer := 0
  locked := false
  snifferNested := false
  eeprom := eeprom
  pins := fun _ => false
  flash := flash
  clock := 0

/-! ## Instructions -/

def dev : M Device := fun w inp => .done w.dev w inp

def update (f : Device → Device) : M Unit := modify (World.update f)

def net (f : Ether → Ether) : M Unit := update (Device.net f)

def emit (ev : Event) : M Unit := modify (World.emit ev)

/-- Take an input; its time passes. -/
def input : M Input := do
  let i ← next
  update (Device.tick i.elapsed)
  return i

def millis : M Long := do
  let _ ← input
  return (← dev).millis

def isLinkUp : M Bool := do
  let i ← input
  return i.up

def delay (ms : Nat) : M Unit := update (Device.tick ms)

def wdtReset : M Unit := emit .wdtReset

/-- `packetReceive`. -/
def packetReceive : M Nat := do
  let i ← input
  net (packetReceiveInto i.arrival)
  emit (.received i.arrival)
  return packetReceiveLen i.arrival

/-! ## What the instructions do -/

section frame

variable (d : Device) (f : Ether → Ether) (ms : Nat)

/-- A step of the library changes the library's state, and nothing else of the device. -/
@[simp] theorem net_ether : (d.net f).ether = f d.ether := rfl
@[simp] theorem net_sniffers : (d.net f).sniffers = d.sniffers := rfl
@[simp] theorem net_targetMac : (d.net f).targetMac = d.targetMac := rfl
@[simp] theorem net_targetIp : (d.net f).targetIp = d.targetIp := rfl
@[simp] theorem net_apiIp : (d.net f).apiIp = d.apiIp := rfl
@[simp] theorem net_state : (d.net f).state = d.state := rfl
@[simp] theorem net_locked : (d.net f).locked = d.locked := rfl
@[simp] theorem net_snifferNested : (d.net f).snifferNested = d.snifferNested := rfl
@[simp] theorem net_eeprom : (d.net f).eeprom = d.eeprom := rfl
@[simp] theorem net_pins : (d.net f).pins = d.pins := rfl
@[simp] theorem net_flash : (d.net f).flash = d.flash := rfl
@[simp] theorem net_clock : (d.net f).clock = d.clock := rfl
@[simp] theorem net_absenseTimer : (d.net f).absenseTimer = d.absenseTimer := rfl
@[simp] theorem net_millis : (d.net f).millis = d.millis := rfl

/-- Time changes the clock, and nothing else of the device. -/
@[simp] theorem tick_ether : (d.tick ms).ether = d.ether := rfl
@[simp] theorem tick_sniffers : (d.tick ms).sniffers = d.sniffers := rfl
@[simp] theorem tick_targetMac : (d.tick ms).targetMac = d.targetMac := rfl
@[simp] theorem tick_targetIp : (d.tick ms).targetIp = d.targetIp := rfl
@[simp] theorem tick_apiIp : (d.tick ms).apiIp = d.apiIp := rfl
@[simp] theorem tick_state : (d.tick ms).state = d.state := rfl
@[simp] theorem tick_locked : (d.tick ms).locked = d.locked := rfl
@[simp] theorem tick_snifferNested : (d.tick ms).snifferNested = d.snifferNested := rfl
@[simp] theorem tick_eeprom : (d.tick ms).eeprom = d.eeprom := rfl
@[simp] theorem tick_pins : (d.tick ms).pins = d.pins := rfl
@[simp] theorem tick_flash : (d.tick ms).flash = d.flash := rfl
@[simp] theorem tick_absenseTimer : (d.tick ms).absenseTimer = d.absenseTimer := rfl

end frame

/-- A step of the device leaves the trace. -/
@[simp] theorem update_dev (w : World) (f : Device → Device) : (w.update f).dev = f w.dev := rfl
@[simp] theorem update_trace (w : World) (f : Device → Device) : (w.update f).trace = w.trace := rfl
/-- An event leaves the device. -/
@[simp] theorem emit_dev (w : World) (ev : Event) : (w.emit ev).dev = w.dev := rfl
@[simp] theorem emit_trace (w : World) (ev : Event) : (w.emit ev).trace = (ev, w.dev) :: w.trace := rfl

/-- An event that may be none leaves it too. -/
@[simp] theorem note_dev (w : World) (ev : Option Event) : (w.note ev).dev = w.dev := by cases ev <;> rfl
@[simp] theorem note_none (w : World) : w.note none = w := rfl
@[simp] theorem note_some (w : World) (ev : Event) : w.note (some ev) = w.emit ev := rfl

section wp

variable {E : World → Prop} {w : World} {inp : List Input}

/-- The rules for the instructions. -/
@[simp] theorem wp_dev {Q : Device → World → List Input → Prop} : wp dev Q E w inp ↔ Q w.dev w inp := Iff.rfl

@[simp] theorem wp_update (f : Device → Device) {Q : Unit → World → List Input → Prop} :
    wp (update f) Q E w inp ↔ Q () (w.update f) inp := Iff.rfl

@[simp] theorem wp_net (f : Ether → Ether) {Q : Unit → World → List Input → Prop} :
    wp (net f) Q E w inp ↔ Q () (w.update (Device.net f)) inp := Iff.rfl

@[simp] theorem wp_emit (ev : Event) {Q : Unit → World → List Input → Prop} :
    wp (emit ev) Q E w inp ↔ Q () (w.emit ev) inp := Iff.rfl

@[simp] theorem wp_delay (ms : Nat) {Q : Unit → World → List Input → Prop} :
    wp (delay ms) Q E w inp ↔ Q () (w.update (Device.tick ms)) inp := Iff.rfl

@[simp] theorem wp_wdtReset {Q : Unit → World → List Input → Prop} :
    wp wdtReset Q E w inp ↔ Q () (w.emit .wdtReset) inp := Iff.rfl

/-- An input may be missing, which ends the run; else its time passes. -/
theorem wp_input_of {Q : Input → World → List Input → Prop} (hE : E w)
    (hQ : ∀ i rest, Q i (w.update (Device.tick i.elapsed)) rest) : wp input Q E w inp := by
  unfold input
  simp only [wp_bind, wp_update, wp_pure]
  exact wp_next_of hE hQ

/-- The same for a reading of the clock. -/
theorem wp_millis_of {Q : Long → World → List Input → Prop} (hE : E w)
    (hQ : ∀ ms rest, Q (w.dev.tick ms).millis (w.update (Device.tick ms)) rest) : wp millis Q E w inp := by
  unfold millis
  simp only [wp_bind, wp_dev, wp_pure]
  exact wp_input_of hE fun i rest => hQ i.elapsed rest

/-- The same for a look at the link. -/
theorem wp_isLinkUp_of {Q : Bool → World → List Input → Prop} (hE : E w)
    (hQ : ∀ up ms rest, Q up (w.update (Device.tick ms)) rest) : wp isLinkUp Q E w inp := by
  unfold isLinkUp
  simp only [wp_bind, wp_pure]
  exact wp_input_of hE fun i rest => hQ i.up i.elapsed rest

end wp

end EtherHouse
