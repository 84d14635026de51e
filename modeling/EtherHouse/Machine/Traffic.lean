import EtherHouse.Machine.Run

/-!
# Traffic

Frames as they come off the cable, the sender's address in them, and the inputs of a boot: what a gateway, a name server and the house
server say to a device that starts up. The library checks no checksum, so they are left zero.
-/

namespace EtherHouse

/-! ## Frames -/

/-- A 16-bit number on the cable, the high byte first. -/
def bigEndian (n : Nat) : List Byte := [hi n, lo n]

def ethernet (dst src : Mac) (etherType : List Byte) (payload : List Byte) : List Byte :=
  dst.toList ++ src.toList ++ etherType ++ payload

def ethernetIp (dst src : Mac) (payload : List Byte) : List Byte := ethernet dst src [ETHTYPE_IP_H_V, ETHTYPE_IP_L_V] payload

def ethernetArp (dst src : Mac) (payload : List Byte) : List Byte := ethernet dst src [ETHTYPE_ARP_H_V, ETHTYPE_ARP_L_V] payload

def ipv4 (proto : Byte) (src dst : Ip) (payload : List Byte) : List Byte :=
  [0x45, 0] ++ bigEndian (IP_HEADER_LEN + payload.length) ++ [0, 0, 0x40, 0, 64, proto, 0, 0] ++ src.toList ++ dst.toList ++ payload

def udp (sport dport : Nat) (payload : List Byte) : List Byte :=
  bigEndian sport ++ bigEndian dport ++ bigEndian (UDP_HEADER_LEN + payload.length) ++ [0, 0] ++ payload

def tcp (sport dport : Nat) (flags : Byte) (payload : List Byte) : List Byte :=
  bigEndian sport ++ bigEndian dport ++ [0, 0, 0, 1, 0, 0, 0, 1, 0x50, flags, 4, 0, 0, 0, 0, 0] ++ payload

def arp (opcode : Byte) (srcMac : Mac) (src : Ip) (dstMac : Mac) (dst : Ip) : List Byte :=
  [0, 1, ETH_ARP_PROTO_IPV4_H_V, ETH_ARP_PROTO_IPV4_L_V, 6, 4, 0, opcode] ++ srcMac.toList ++ src.toList ++ dstMac.toList ++ dst.toList

/-- The address at a position of a frame. -/
def addressAt (frame : List Byte) (pos : Nat) : Ip :=
  #v[frame.getD pos 0, frame.getD (pos + 1) 0, frame.getD (pos + 2) 0, frame.getD (pos + 3) 0]

/-- The link address at a position of a frame. -/
def linkAt (frame : List Byte) (pos : Nat) : Mac :=
  #v[frame.getD pos 0, frame.getD (pos + 1) 0, frame.getD (pos + 2) 0, frame.getD (pos + 3) 0, frame.getD (pos + 4) 0,
    frame.getD (pos + 5) 0]

/-- The sender's protocol address of an ARP frame or an IP frame. -/
def sourceAddress (frame : List Byte) : Ip :=
  if frame.getD ETH_TYPE_H_P 0 = ETHTYPE_ARP_H_V ∧ frame.getD ETH_TYPE_L_P 0 = ETHTYPE_ARP_L_V then
    addressAt frame ETH_ARP_SRC_IP_P
  else addressAt frame IP_SRC_P

/-- The address that a frame has at a place. -/
theorem addressAt_append (front rest : List Byte) (a : Ip) {frame : List Byte} {pos : Nat}
    (hf : frame = front ++ (a.toList ++ rest)) (hp : front.length = pos) : addressAt frame pos = a := by
  subst hf hp
  have hget : ∀ k (hk : k < 4), (front ++ (a.toList ++ rest)).getD (front.length + k) 0 = a[k] := by
    intro k hk
    rw [List.getD_eq_getElem?_getD, List.getElem?_append_right (Nat.le_add_right _ _), Nat.add_sub_cancel_left,
      List.getElem?_append_left (by simpa using hk), List.getElem?_eq_getElem (by simpa using hk)]
    simp
  refine Vector.ext fun i hi => ?_
  have hi' : i = 0 ∨ i = 1 ∨ i = 2 ∨ i = 3 := by omega
  rcases hi' with rfl | rfl | rfl | rfl
  · exact hget 0 hi
  · exact hget 1 hi
  · exact hget 2 hi
  · exact hget 3 hi

/-! ## A network -/

def gatewayIp : Ip := #v[10, 0, 0, 1]
def gatewayMac : Mac := #v[0x02, 0, 0, 0, 0, 1]
def houseIp : Ip := #v[10, 0, 0, 2]
def phoneIp : Ip := #v[10, 0, 0, 77]
def phoneMac : Mac := #v[0x02, 0, 0, 0, 0, 77]
def nameServerIp : Ip := ⟨#[8, 8, 8, 8], by decide⟩
def serverIp : Ip := #v[93, 184, 216, 34]

/-- A lease of a day, in seconds. -/
def dayLease : List Byte := [0, 1, 0x51, 0x80]

/-- A DHCP offer or acknowledgment. -/
def dhcpReply (lease : List Byte) (msgType : Byte) : List Byte :=
  ethernetIp broadcastMac gatewayMac (ipv4 IP_PROTO_UDP_V gatewayIp allOnes (udp DHCP_SRC_PORT DHCP_DEST_PORT (
    [2, 1, 6, 0, 0, 0, 0, 0] ++ List.replicate 8 0 ++ houseIp.toList ++ List.replicate 216 0 ++ [99, 130, 83, 99, 53, 1, msgType] ++
    [1, 4, 255, 255, 255, 0] ++ [3, 4] ++ gatewayIp.toList ++ [6, 4] ++ nameServerIp.toList ++ [51, 4] ++ lease ++
    [54, 4] ++ gatewayIp.toList ++ [255])))

/-- The answer to the first DNS query, with the house server's address. -/
def dnsAnswer (server : Ip) : List Byte :=
  ethernetIp myMac gatewayMac (ipv4 IP_PROTO_UDP_V nameServerIp houseIp (udp 53 0xE001 (
    [12, 1, 0x81, 0x80, 0, 1, 0, 1, 0, 0, 0, 0, 0xC0, 12, 0, 1, 0, 1, 0, 0, 1, 0, 0, 4] ++ server.toList)))

def gatewayArpReply : List Byte := ethernetArp myMac gatewayMac (arp 2 gatewayMac gatewayIp myMac houseIp)

/-- The server accepts a connection. -/
def synAck (port : Nat) : List Byte :=
  ethernetIp myMac gatewayMac (ipv4 IP_PROTO_TCP_V serverIp houseIp (tcp 80 port TCP_FLAGS_SYNACK_V []))

/-- The server replies. -/
def serverReply (port : Nat) (payload : List Byte) : List Byte :=
  ethernetIp myMac gatewayMac (ipv4 IP_PROTO_TCP_V serverIp houseIp (tcp 80 port (TCP_FLAGS_PUSH_V ||| TCP_FLAGS_ACK_V) payload))

/-- The phone asks for the gateway's address. -/
def phoneArp : List Byte := ethernetArp broadcastMac phoneMac (arp 1 phoneMac phoneIp noMac gatewayIp)

/-- The phone sends a datagram to the gateway. -/
def phoneDatagram : List Byte := ethernetIp gatewayMac phoneMac (ipv4 IP_PROTO_UDP_V phoneIp gatewayIp (udp 5353 5353 []))

/-- The phone sends the same by IPv6. -/
def phoneDatagramV6 : List Byte :=
  ethernet gatewayMac phoneMac [0x86, 0xDD] ([0x60, 0, 0, 0, 0, 8, IP_PROTO_UDP_V, 64] ++ List.replicate 32 0 ++ udp 5353 5353 [])

def okReply (body : List Byte) : List Byte := ascii "HTTP/1.0 200 OK\r\n\r\n" ++ body

/-! ## Inputs -/

def quiet : Input := {}

def silence (n : Nat) : List Input := List.replicate n quiet

def arrives (bytes : List Byte) : List Input := [{ arrival := .frame bytes }]

def passes (ms : Nat) : List Input := [{ elapsed := ms }]

/-- A poll that finds nothing: four readings, of the controller, twice of the clock, of the link. -/
def idlePoll : List Input := silence 4

/-- A poll that finds a frame: three readings. -/
def framePoll (bytes : List Byte) : List Input := arrives bytes ++ silence 2

/-- A server call up to the request: the timer, the connection, the request. -/
def callUp (port : Nat) : List Input := silence 1 ++ idlePoll ++ silence 1 ++ framePoll (synAck port) ++ silence 1

/-- Its reply, and the wait for the connection to end. -/
def callDown (port : Nat) (payload : List Byte) : List Input :=
  framePoll (serverReply port payload) ++ silence 2 ++ silence 1 ++ passes 6000

/-- The client's port for the `n`-th request. -/
def clientPort (n : Nat) : Nat := 0x0B00 + (n % 8) * 32 + (n + 1) % 32

def serverCall (n : Nat) (payload : List Byte) : List Input := callUp (clientPort n) ++ callDown (clientPort n) payload

/-- The probes of a sweep, none of them answered: two readings of the clock for each address but the house's own. -/
def sweepProbes : List Input := (List.replicate 253 [quiet, { elapsed := 5 }]).flatten

/-- `loop` finds nothing, and the target has been silent for longer than `ABSENSE_TIMEOUT`: the poll and the pinger, and the absence
branch with its sweep up to the second check. -/
def absence : List Input := idlePoll ++ passes 1000000 ++ silence 4 ++ sweepProbes ++ silence 1

/-- A boot up to the server calls, with a lease and the server's address. -/
def networkUpTo (lease : List Byte) (server : Ip) : List Input :=
  silence 1 ++ silence 1 ++ silence 5 ++ (silence 2 ++ arrives (dhcpReply lease DHCP_OFFER) ++ silence 2) ++
    (silence 2 ++ arrives (dhcpReply lease DHCP_ACK) ++ silence 2) ++ silence 2 ++ (idlePoll ++ silence 1) ++
    (framePoll gatewayArpReply ++ silence 1) ++ silence 1 ++ (silence 1 ++ framePoll (dnsAnswer server))

def networkUp (lease : List Byte) : List Input := networkUpTo lease serverIp

/-- A boot: the two replies, and the four timers. -/
def boot (macReply stateReply : List Byte) : List Input :=
  networkUp dayLease ++ serverCall 1 macReply ++ serverCall 2 stateReply ++ silence 4

/-- A boot with the phone as the target and a state from the server. -/
def bootWith (state : Byte) : List Input := boot (okReply phoneMac.toList) (okReply [state])

/-- Memory that holds nothing. -/
def blank : Nat → Byte := fun _ => 0xFF

end EtherHouse
