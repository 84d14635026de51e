import EtherHouse.Sketch.Eeprom

/-!
# Replies and messages

The reply scanner of `api_client.ino`, the parse callbacks, and `syslog.ino`.
-/

namespace EtherHouse

/-! ## The scanner -/

/-- `memcmp_P(haystack + i, needle, sizeof needle - 1) == 0`. -/
def matchesAt (haystack : Nat → Byte) (i : Nat) : List Byte → Bool
  | [] => true
  | b :: needle => haystack i == b && matchesAt haystack (i + 1) needle

/-- `"200 OK"`. -/
def okNeedle : List Byte := [0x32, 0x30, 0x30, 0x20, 0x4F, 0x4B]

/-- `"\r\n\r\n"`. -/
def headerEnd : List Byte := [0x0D, 0x0A, 0x0D, 0x0A]

/-- `is_200`: the needle begins before the place `length - needle_length`. -/
def is200 (haystack : Nat → Byte) (length : Nat) : Bool :=
  (List.range (length - okNeedle.length)).any fun i => matchesAt haystack i okNeedle

/-- `find_response`: the first header end decides. -/
def findResponse (haystack : Nat → Byte) (length : Nat) : Int :=
  match (List.range (length - headerEnd.length)).find? fun i => matchesAt haystack i headerEnd with
  | none => -1
  | some foundpos => if is200 haystack length then (foundpos + headerEnd.length : Nat) else -1

/-! ## Syslog -/

/-- Cells of program memory. -/
def FLASH_SIZE : Nat := 32768

/-- `strlen_P`: the zero is looked for in a memory of at most `n` more cells. -/
def strlenP (mem : Nat → Byte) : Nat → Nat → Nat
  | 0, _ => 0
  | n + 1, p => if mem p = 0 then 0 else strlenP mem n (p + 1) + 1

/-- The string that the `_P` functions find at an address. -/
def stringP (mem : Nat → Byte) (p : Nat) : List Byte := (List.range (strlenP mem FLASH_SIZE p)).map fun i => mem (p + i)

def syslogPrefix : List Byte := ascii "<62>etherhouse"

/-- What both overloads of `syslog` put together in `buf`, up to the terminating zero. -/
def syslogBuf (logstring : List Byte) : List Byte :=
  syslogPrefix ++ [0x30 + BitVec.ofNat 8 MY_ID, 0x20] ++ logstring

/-- `_syslog`: `string_size - 1` becomes the `uint8_t` length of `sendUdp`. -/
def _syslog (buf : List Byte) (stringSize : Nat) (e : Ether) : Ether :=
  sendUdp buf (BitVec.ofNat 8 (stringSize - 1)) 514 allOnes 514 e

/-- `syslog` of a string in program memory, given by its bytes. -/
def syslogF (logstring : List Byte) (e : Ether) : Ether :=
  _syslog (syslogBuf logstring) (syslogPrefix.length + 1 + 1 + logstring.length + 1) e

/-- `syslog(const char*)`: it too reads program memory, at whatever address it is given. -/
def syslogRam (flash : Nat → Byte) (logstring : Nat) (e : Ether) : Ether := syslogF (stringP flash logstring) e

/-! ## Parse callbacks -/

/-- `Ethernet::buffer + off`. -/
def bufferAt (d : Device) (off : Nat) (i : Nat) : Byte := d.ether.gPB (off + i)

def snifferListenForMac (srcmacaddr : Mac) (d : Device) : Device :=
  { d with sniffers := d.sniffers.listen srcmacaddr }

def macsParseCallback (_status : Byte) (off len : Nat) (d : Device) : Device :=
  let seekLocation := findResponse (bufferAt d off) len
  let d :=
    if seekLocation = -1 then d
    else
      let d := { d with targetMac := d.ether.buffer.mac (off + seekLocation.toNat) }
      snifferListenForMac d.targetMac d
  { d with locked := false }

/-- `state_parse_callback`; `buf` is where its local array lies. -/
def stateParseCallback (buf : Nat) (_status : Byte) (off len : Nat) (d : Device) : Device :=
  let seekLocation := findResponse (bufferAt d off) len
  let d :=
    if seekLocation = -1 then d
    else
      let d := { d with state := d.ether.gPB (off + seekLocation.toNat) }
      let d := d.net (syslogRam d.flash buf)
      saveStateToEeprom (syncLeds d)
  { d with locked := false }

/-- `api_set_callback`: it looks at the reply for its message on the serial port only. -/
def apiSetCallback (_status : Byte) (_off _len : Nat) (d : Device) : Device := { d with locked := false }

/-- The callback that a request was made with. -/
def browserCallback (cb : BrowserCallback) (buf : Nat) (status : Byte) (off len : Nat) : Device → Device :=
  match cb with
  | .macsParse => macsParseCallback status off len
  | .stateParse => stateParseCallback buf status off len
  | .apiSet => apiSetCallback status off len

end EtherHouse
