import EtherHouse.Net.Ether

/-!
# DHCP and DNS

`dhcp.cpp` and `dns.cpp`. The clock is read by the caller and handed in: `t₁` is the first reading of a call of the state machine,
`t₂` the second, where there is one. The broadcast filter of the controller is left out (which frames arrive is an input).
-/

namespace EtherHouse

def DHCP_DISCOVER : Byte := 1
def DHCP_OFFER : Byte := 2
def DHCP_REQUEST : Byte := 3
def DHCP_ACK : Byte := 5
def DHCP_SRC_PORT : Nat := 67
def DHCP_DEST_PORT : Nat := 68
def DHCP_REQUEST_TIMEOUT : Long := 10000

/-- `sizeof(DHCPdata)`. -/
def DHCP_DATA_SIZE : Nat := 236

/-- Positions of `DHCPdata` in the buffer. -/
def DHCP_XID_P : Nat := UDP_DATA_P + 4
def DHCP_CIADDR_P : Nat := UDP_DATA_P + 12
def DHCP_YIADDR_P : Nat := UDP_DATA_P + 16
def DHCP_CHADDR_P : Nat := UDP_DATA_P + 28

/-- The first option, behind the magic cookie. -/
def DHCP_OPTIONS_P : Nat := UDP_DATA_P + DHCP_DATA_SIZE + 4

/-- The bytes of a 32-bit number in memory, the low one first. -/
def littleEndian (n : Long) : List Byte :=
  [n.setWidth 8, (n >>> 8).setWidth 8, (n >>> 16).setWidth 8, (n >>> 24).setWidth 8]

/-- The options `send_dhcp_message` appends. No custom option is registered. -/
def dhcpOptions (e : Ether) : List Byte :=
  [99, 130, 83, 99, 53, 1] ++ [if e.dhcp.dhcpState = .init then DHCP_DISCOVER else DHCP_REQUEST] ++
    [61, 7, 0x01] ++ e.cfg.mymac.toList ++ [12, 10] ++ e.dhcp.hostname.take 10 ++
    (if e.dhcp.dhcpState = .selecting then [50, 4] ++ e.cfg.myip.toList ++ [54, 4] ++ e.cfg.dhcpip.toList else []) ++
    [55, 3, 1, 3, 6, 255]

def sendDhcpMessage (e : Ether) : Ether :=
  let e := e.put 0 (List.replicate (UDP_DATA_P + DHCP_DATA_SIZE) 0)
  let e := udpPrepare DHCP_DEST_PORT (if e.dhcp.dhcpState = .bound then e.cfg.dhcpip else allOnes) DHCP_SRC_PORT e
  let e := e.copyMac ETH_DST_MAC broadcastMac
  let e := e.put UDP_DATA_P [1, 1, 6]
  let e := e.put DHCP_XID_P (littleEndian e.dhcp.currentXid)
  let e := if e.dhcp.dhcpState = .bound then e.copyIp DHCP_CIADDR_P e.cfg.myip else e
  let e := e.copyMac DHCP_CHADDR_P e.cfg.mymac
  let e := e.put (UDP_DATA_P + DHCP_DATA_SIZE) (dhcpOptions e)
  udpTransmit (DHCP_DATA_SIZE + (dhcpOptions e).length) e

/-- The lease or renewal time at a position, in milliseconds: four bytes, the high one first, in 32-bit arithmetic. -/
def leaseTimeAt (e : Ether) (ptr : Nat) : Long :=
  let b := fun i => (e.gPB (ptr + i)).setWidth 32
  (b 0 <<< 24 + b 1 <<< 16 + b 2 <<< 8 + b 3) * 1000

/-- What one option of an offer sets. -/
def applyDhcpOption (option : Byte) (ptr : Nat) (e : Ether) : Ether :=
  if option = 1 then { e with cfg := { e.cfg with netmask := e.buffer.ip ptr } }
  else if option = 3 then { e with cfg := { e.cfg with gwip := e.buffer.ip ptr } }
  else if option = 6 then { e with cfg := { e.cfg with dnsip := e.buffer.ip ptr } }
  else if option = 51 ∨ option = 58 then { e with dhcp := { e.dhcp with leaseTime := leaseTimeAt e ptr } }
  else if option = 54 then { e with cfg := { e.cfg with dhcpip := e.buffer.ip ptr } }
  else e

/-- The option loop of `process_dhcp_offer`. Each round moves on by two bytes at least, so `len` rounds reach the end. -/
def processDhcpOptions (len : Nat) : Nat → Nat → Ether → Ether
  | 0, _, e => e
  | n + 1, ptr, e =>
    let option := e.gPB ptr
    let optionLen := (e.gPB (ptr + 1)).toNat
    let e := applyDhcpOption option (ptr + 2) e
    if option ≠ 255 ∧ ptr + 2 + optionLen < len then processDhcpOptions len n (ptr + 2 + optionLen) e else e

def processDhcpOffer (len : Nat) (e : Ether) : Ether :=
  let e := { e with cfg := { e.cfg with myip := e.buffer.ip DHCP_YIADDR_P } }
  processDhcpOptions len (len + 1) DHCP_OPTIONS_P e

/-- The option loop of `dhcp_received_message_type`. -/
def findMessageType (len : Nat) (msgType : Byte) (e : Ether) : Nat → Nat → Bool
  | 0, _ => false
  | n + 1, ptr =>
    if e.gPB ptr = 53 ∧ e.gPB (ptr + 2) = msgType then true
    else
      let next := ptr + 2 + (e.gPB (ptr + 1)).toNat
      if next < len then findMessageType len msgType e n next else false

def dhcpReceivedMessageType (len : Nat) (msgType : Byte) (e : Ether) : Bool :=
  if 70 ≤ len ∧ e.gPB UDP_SRC_PORT_L_P = BitVec.ofNat 8 DHCP_SRC_PORT ∧
      e.buffer.slice DHCP_XID_P 4 = littleEndian e.dhcp.currentXid then
    findMessageType len msgType e (len + 1) DHCP_OPTIONS_P
  else false

/-- Go to a state of the DHCP client, at a time where the source notes it. -/
def enterDhcpState (s : DhcpState) (stateTimer : Option Long) (e : Ether) : Ether :=
  { e with dhcp := { e.dhcp with dhcpState := s, stateTimer := stateTimer.getD e.dhcp.stateTimer } }

/-- `DhcpStateMachine`. -/
def dhcpStateMachine (t₁ t₂ : Long) (len : Nat) (e : Ether) : Ether :=
  match e.dhcp.dhcpState with
  | .bound =>
    if t₁ ≥ e.dhcp.leaseStart + e.dhcp.leaseTime then enterDhcpState .renewing (some t₂) (sendDhcpMessage e) else e
  | .init =>
    let e := { e with dhcp := { e.dhcp with currentXid := t₁ } }
    let e := { e with cfg := { e.cfg with myip := allZeros } }
    enterDhcpState .selecting (some t₂) (sendDhcpMessage e)
  | .selecting =>
    if dhcpReceivedMessageType len DHCP_OFFER e then
      enterDhcpState .requesting (some t₁) (sendDhcpMessage (processDhcpOffer len e))
    else if t₁ > e.dhcp.stateTimer + DHCP_REQUEST_TIMEOUT then enterDhcpState .init none e
    else e
  | .requesting | .renewing =>
    if dhcpReceivedMessageType len DHCP_ACK e then
      let e := { e with dhcp := { e.dhcp with leaseStart := t₁ } }
      let e := if e.cfg.gwip.get 0 ≠ 0 then setGwIp e.cfg.gwip e else e
      enterDhcpState .bound none e
    else if t₁ > e.dhcp.stateTimer + DHCP_REQUEST_TIMEOUT then enterDhcpState .init none e
    else e

/-- `dhcpSetup` up to its loop: the host name carries the last byte of the hardware address. -/
def dhcpSetupBegin (e : Ether) : Ether :=
  let m := e.cfg.mymac.get 5
  { e with
    cfg := { e.cfg with usingDhcp := true }
    dhcp := { e.dhcp with
      hostname := (e.dhcp.hostname.set 8 (0x30 + m >>> 4)).set 9 (0x30 + (m &&& 0x0F))
      dhcpState := .init } }

/-- `dhcpSetup` after its loop. -/
def dhcpSetupEnd (e : Ether) : Ether :=
  let e := updateBroadcastAddress e
  { e with cfg := { e.cfg with delaycnt := 0 } }

/-! ## DNS -/

def DNSCLIENT_SRC_PORT_H : Byte := 0xE0

/-- A host name as DNS has it: each label behind its length, a zero at the end. -/
def encodeName (name : List Byte) : List Byte :=
  (name.splitOn 0x2E).flatMap (fun label => BitVec.ofNat 8 label.length :: label) ++ [0]

/-- `dnsRequest`. The query's length is the transaction id's high byte. -/
def dnsRequest (hostname : List Byte) (e : Ether) : Ether :=
  let e := { e with dnstidL := e.dnstidL + 1 }
  let e : Ether := if e.cfg.dnsip.get 0 = 0#8 then { e with cfg := { e.cfg with dnsip := #v[8, 8, 8, 8] } } else e
  let e := udpPrepare (DNSCLIENT_SRC_PORT_H.toNat <<< 8 ||| e.dnstidL.toNat) e.cfg.dnsip 53 e
  let e := e.put UDP_DATA_P (List.replicate 12 0)
  let query := encodeName hostname ++ [0, 1, 0, 1]
  let e := e.put (UDP_DATA_P + 12) query
  let i := BitVec.ofNat 8 (12 + query.length)
  let e := e.put UDP_DATA_P [i, e.dnstidL, 1]
  let e := e.put (UDP_DATA_P + 5) [1]
  udpTransmit i.toNat e

/-- The inner loop of `checkForDnsAnswer`: past the zero that ends a name, or to the end of the frame. -/
def skipName (plen : Nat) (e : Ether) : Nat → Nat → Nat
  | 0, p => p
  | n + 1, p =>
    if p + 1 < plen then if e.gPB (p + 1) = 0 then p + 2 else skipName plen e n (p + 1) else p + 1

/-- The answer loop of `checkForDnsAnswer`. -/
def findDnsAnswer (plen : Nat) : Nat → Nat → Ether → Ether
  | 0, _, e => e
  | n + 1, p, e =>
    let p := if e.gPB p &&& 0xC0 ≠ 0 then p + 2 else skipName plen e (plen + 1) p
    if p + 14 > plen then e
    else if e.gPB (p + 1) = 1 ∧ e.gPB (p + 9) = 4 then { e with cfg := { e.cfg with hisip := e.buffer.ip (p + 10) } }
    else findDnsAnswer plen n (p + (e.gPB (p + 9)).toNat + 10) e

/-- `checkForDnsAnswer`: `true` for a response that reports an error. -/
def checkForDnsAnswer (plen : Nat) (e : Ether) : Ether × Bool :=
  let p := UDP_DATA_P
  if plen < 70 ∨ e.gPB UDP_SRC_PORT_L_P ≠ 53 ∨ e.gPB UDP_DST_PORT_H_P ≠ DNSCLIENT_SRC_PORT_H ∨
      e.gPB UDP_DST_PORT_L_P ≠ e.dnstidL ∨ e.gPB (p + 1) ≠ e.dnstidL then (e, false)
  else if e.gPB (p + 3) &&& 0x0F ≠ 0 then (e, true)
  else (findDnsAnswer plen (plen + 1) (p + (e.gPB p).toNat) e, false)

end EtherHouse
