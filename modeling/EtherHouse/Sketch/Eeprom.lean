import EtherHouse.Sketch.Device

/-!
# The saved record

`rw_helpers.ino`: the state byte and the target's address, kept in the EEPROM behind a 16-bit checksum, and the lights.
-/

namespace EtherHouse

def STATE_ADDR : Nat := 0
def STATE_SIZE : Nat := 1
def TARGET_IP_ADDR : Nat := STATE_ADDR + STATE_SIZE
def TARGET_IP_SIZE : Nat := 4
def CHECKSUM_ADDR : Nat := TARGET_IP_ADDR + TARGET_IP_SIZE
def CHECKSUM_SIZE : Nat := 2
def EEPROM_DATA_SIZE : Nat := CHECKSUM_ADDR
def EEPROM_SIZE : Nat := CHECKSUM_ADDR + CHECKSUM_SIZE

/-- One round of the loop in `_crc16_update`. -/
def crcBit (crc : Word) : Word := if crc &&& 1 = 1 then (crc >>> 1) ^^^ 0xA001 else crc >>> 1

/-- `_crc16_update` of avr-libc: take a byte in, then eight rounds. -/
def crc16Update (crc : Word) (a : Byte) : Word := Nat.iterate crcBit 8 (crc ^^^ a.setWidth 16)

def crcCalc (data : List Byte) : Word := data.foldl crc16Update 0

/-- The two bytes `crc_write` puts behind the data. -/
def crcTrailer (data : List Byte) : List Byte := [(crcCalc data).setWidth 8, (crcCalc data >>> 8).setWidth 8]

/-- `crc_write`, on the bytes in front of the trailer. -/
def crcWrite (data : List Byte) : List Byte := data ++ crcTrailer data

/-- `eeprom_new` of `saveStateToEeprom`: the record of a state and an address. -/
def eepromRecord (state : Byte) (targetIp : Ip) : List Byte := crcWrite (state :: targetIp.toList)

/-- The first `EEPROM_SIZE` cells. -/
def readCells (eeprom : Nat → Byte) : List Byte := (List.range EEPROM_SIZE).map eeprom

/-- The `EEPROM.write` calls of the loop in `saveStateToEeprom` from cell `i` on: only where `eeprom_new` and `eeprom_cur` differ. -/
def cellWrites : Nat → List Byte → List Byte → List (Nat × Byte)
  | i, n :: new, c :: cur => if n ≠ c then (i, n) :: cellWrites (i + 1) new cur else cellWrites (i + 1) new cur
  | _, _, _ => []

/-- `EEPROM.write`. -/
def writeCell (eeprom : Nat → Byte) (w : Nat × Byte) : Nat → Byte := Function.update eeprom w.1 w.2

def writeCells (eeprom : Nat → Byte) (ws : List (Nat × Byte)) : Nat → Byte := ws.foldl writeCell eeprom

/-- The writes of `saveStateToEeprom`, in order. -/
def saveWrites (d : Device) : List (Nat × Byte) :=
  let eepromNew := eepromRecord d.state d.targetIp
  let eepromCur := readCells d.eeprom
  cellWrites 0 eepromNew eepromCur

/-- `saveStateToEeprom`. -/
def saveStateToEeprom (d : Device) : Device := { d with eeprom := writeCells d.eeprom (saveWrites d) }

/-- `sync_leds`. -/
def syncLeds (d : Device) : Device :=
  { d with pins := (List.range NUM_HOUSES).foldl (fun pins i => Function.update pins (i + 2) (bitRead d.state i)) d.pins }

/-- `readStateFromEeprom`. -/
def readStateFromEeprom (d : Device) : Device :=
  let eeprom := readCells d.eeprom
  let d :=
    if crcCalc eeprom ≠ 0 then { d with state := 0, targetIp := allOnes }
    else
      { d with
        state := eeprom.getD STATE_ADDR 0
        targetIp := Vector.ofFn fun i => eeprom.getD (TARGET_IP_ADDR + i) 0 }
  syncLeds d

/-! ## What saving and showing leave alone -/

section frame

variable (d : Device)

/-- A save changes the EEPROM, and nothing else of the device. -/
@[simp] theorem saveStateToEeprom_ether : (saveStateToEeprom d).ether = d.ether := rfl
@[simp] theorem saveStateToEeprom_sniffers : (saveStateToEeprom d).sniffers = d.sniffers := rfl
@[simp] theorem saveStateToEeprom_targetMac : (saveStateToEeprom d).targetMac = d.targetMac := rfl
@[simp] theorem saveStateToEeprom_targetIp : (saveStateToEeprom d).targetIp = d.targetIp := rfl
@[simp] theorem saveStateToEeprom_apiIp : (saveStateToEeprom d).apiIp = d.apiIp := rfl
@[simp] theorem saveStateToEeprom_state : (saveStateToEeprom d).state = d.state := rfl
@[simp] theorem saveStateToEeprom_locked : (saveStateToEeprom d).locked = d.locked := rfl
@[simp] theorem saveStateToEeprom_snifferNested : (saveStateToEeprom d).snifferNested = d.snifferNested := rfl
@[simp] theorem saveStateToEeprom_pins : (saveStateToEeprom d).pins = d.pins := rfl
@[simp] theorem saveStateToEeprom_flash : (saveStateToEeprom d).flash = d.flash := rfl
@[simp] theorem saveStateToEeprom_clock : (saveStateToEeprom d).clock = d.clock := rfl
@[simp] theorem saveStateToEeprom_absenseTimer : (saveStateToEeprom d).absenseTimer = d.absenseTimer := rfl

/-- The lights are all that `sync_leds` changes. -/
@[simp] theorem syncLeds_ether : (syncLeds d).ether = d.ether := rfl
@[simp] theorem syncLeds_sniffers : (syncLeds d).sniffers = d.sniffers := rfl
@[simp] theorem syncLeds_targetMac : (syncLeds d).targetMac = d.targetMac := rfl
@[simp] theorem syncLeds_targetIp : (syncLeds d).targetIp = d.targetIp := rfl
@[simp] theorem syncLeds_apiIp : (syncLeds d).apiIp = d.apiIp := rfl
@[simp] theorem syncLeds_state : (syncLeds d).state = d.state := rfl
@[simp] theorem syncLeds_locked : (syncLeds d).locked = d.locked := rfl
@[simp] theorem syncLeds_snifferNested : (syncLeds d).snifferNested = d.snifferNested := rfl
@[simp] theorem syncLeds_eeprom : (syncLeds d).eeprom = d.eeprom := rfl
@[simp] theorem syncLeds_flash : (syncLeds d).flash = d.flash := rfl
@[simp] theorem syncLeds_clock : (syncLeds d).clock = d.clock := rfl
@[simp] theorem syncLeds_absenseTimer : (syncLeds d).absenseTimer = d.absenseTimer := rfl

/-- The saved record is loaded into state and address, and the lights follow. -/
@[simp] theorem readStateFromEeprom_ether : (readStateFromEeprom d).ether = d.ether := by
  simp only [readStateFromEeprom, syncLeds_ether]
  split <;> rfl

@[simp] theorem readStateFromEeprom_sniffers : (readStateFromEeprom d).sniffers = d.sniffers := by
  simp only [readStateFromEeprom, syncLeds_sniffers]
  split <;> rfl

@[simp] theorem readStateFromEeprom_targetMac : (readStateFromEeprom d).targetMac = d.targetMac := by
  simp only [readStateFromEeprom, syncLeds_targetMac]
  split <;> rfl

@[simp] theorem readStateFromEeprom_apiIp : (readStateFromEeprom d).apiIp = d.apiIp := by
  simp only [readStateFromEeprom, syncLeds_apiIp]
  split <;> rfl

@[simp] theorem readStateFromEeprom_locked : (readStateFromEeprom d).locked = d.locked := by
  simp only [readStateFromEeprom, syncLeds_locked]
  split <;> rfl

@[simp] theorem readStateFromEeprom_snifferNested : (readStateFromEeprom d).snifferNested = d.snifferNested := by
  simp only [readStateFromEeprom, syncLeds_snifferNested]
  split <;> rfl

@[simp] theorem readStateFromEeprom_eeprom : (readStateFromEeprom d).eeprom = d.eeprom := by
  simp only [readStateFromEeprom, syncLeds_eeprom]
  split <;> rfl

@[simp] theorem readStateFromEeprom_flash : (readStateFromEeprom d).flash = d.flash := by
  simp only [readStateFromEeprom, syncLeds_flash]
  split <;> rfl

@[simp] theorem readStateFromEeprom_clock : (readStateFromEeprom d).clock = d.clock := by
  simp only [readStateFromEeprom, syncLeds_clock]
  split <;> rfl

@[simp] theorem readStateFromEeprom_absenseTimer : (readStateFromEeprom d).absenseTimer = d.absenseTimer := by
  simp only [readStateFromEeprom, syncLeds_absenseTimer]
  split <;> rfl

end frame

end EtherHouse
