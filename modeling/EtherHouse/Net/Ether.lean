import EtherHouse.Net.Buffer

/-!
# EtherCard: state and frames

The state of the library (`EtherCard.cpp`, the statics of `tcpip.cpp`, `dhcp.cpp`) and the functions of `tcpip.cpp` that build a
frame in the buffer and hand it to the controller. `wire` records what the controller was handed and what it delivered, the latest
first. Chip registers and the serial port are left out: no modelled function reads them.
-/

namespace EtherHouse

/-! ## `net.h` -/

def ETH_HEADER_LEN : Nat := 14
def ETH_DST_MAC : Nat := 0
def ETH_SRC_MAC : Nat := 6
def ETH_TYPE_H_P : Nat := 12
def ETH_TYPE_L_P : Nat := 13
def ETHTYPE_ARP_H_V : Byte := 0x08
def ETHTYPE_ARP_L_V : Byte := 0x06
def ETHTYPE_IP_H_V : Byte := 0x08
def ETHTYPE_IP_L_V : Byte := 0x00
def ETH_ARP_P : Nat := 0xe
def ETH_ARP_PROTO_TYPE_H_P : Nat := 0x10
def ETH_ARP_PROTO_TYPE_L_P : Nat := 0x11
def ETH_ARP_PROTO_IPV4_H_V : Byte := 0x08
def ETH_ARP_PROTO_IPV4_L_V : Byte := 0x00
def ETH_ARP_OPCODE_H_P : Nat := 0x14
def ETH_ARP_OPCODE_L_P : Nat := 0x15
def ETH_ARP_OPCODE_REQ_L_V : Byte := 0x01
def ETH_ARP_OPCODE_REPLY_H_V : Byte := 0x00
def ETH_ARP_OPCODE_REPLY_L_V : Byte := 0x02
def ETH_ARP_SRC_MAC_P : Nat := 0x16
def ETH_ARP_SRC_IP_P : Nat := 0x1c
def ETH_ARP_DST_MAC_P : Nat := 0x20
def ETH_ARP_DST_IP_P : Nat := 0x26
def IP_HEADER_LEN : Nat := 20
def IP_P : Nat := 0xe
def IP_HEADER_LEN_VER_P : Nat := 0xe
def IP_TOTLEN_H_P : Nat := 0x10
def IP_TOTLEN_L_P : Nat := 0x11
def IP_FLAGS_P : Nat := 0x14
def IP_TTL_P : Nat := 0x16
def IP_PROTO_P : Nat := 0x17
def IP_CHECKSUM_P : Nat := 0x18
def IP_SRC_P : Nat := 0x1a
def IP_DST_P : Nat := 0x1e
def IP_PROTO_ICMP_V : Byte := 1
def IP_PROTO_TCP_V : Byte := 6
def IP_PROTO_UDP_V : Byte := 17
def ICMP_TYPE_P : Nat := 0x22
def ICMP_TYPE_ECHOREPLY_V : Byte := 0
def ICMP_TYPE_ECHOREQUEST_V : Byte := 8
def ICMP_CHECKSUM_P : Nat := 0x24
def ICMP_CHECKSUM_H_P : Nat := 0x24
def ICMP_IDENT_H_P : Nat := 0x26
def ICMP_DATA_P : Nat := 0x2a
def UDP_HEADER_LEN : Nat := 8
def UDP_SRC_PORT_H_P : Nat := 0x22
def UDP_SRC_PORT_L_P : Nat := 0x23
def UDP_DST_PORT_H_P : Nat := 0x24
def UDP_DST_PORT_L_P : Nat := 0x25
def UDP_LEN_H_P : Nat := 0x26
def UDP_CHECKSUM_H_P : Nat := 0x28
def UDP_DATA_P : Nat := 0x2a
def TCP_SRC_PORT_H_P : Nat := 0x22
def TCP_SRC_PORT_L_P : Nat := 0x23
def TCP_DST_PORT_H_P : Nat := 0x24
def TCP_DST_PORT_L_P : Nat := 0x25
def TCP_SEQ_H_P : Nat := 0x26
def TCP_SEQACK_H_P : Nat := 0x2a
def TCP_HEADER_LEN_P : Nat := 0x2e
def TCP_FLAGS_P : Nat := 0x2f
def TCP_WIN_SIZE : Nat := 0x30
def TCP_CHECKSUM_H_P : Nat := 0x32
def TCP_OPTIONS_P : Nat := 0x36
def TCP_FLAGS_FIN_V : Byte := 1
def TCP_FLAGS_SYN_V : Byte := 2
def TCP_FLAGS_RST_V : Byte := 4
def TCP_FLAGS_PUSH_V : Byte := 8
def TCP_FLAGS_ACK_V : Byte := 0x10
def TCP_FLAGS_SYNACK_V : Byte := 0x12
def TCP_HEADER_LEN_PLAIN : Nat := 20

def TCPCLIENT_SRC_PORT_H : Byte := 11
def CLIENTMSS : Word := 550
def PINGPATTERN : Byte := 0x42

/-! ## State -/

/-- The high and the low byte of a 16-bit number. -/
def hi (n : Nat) : Byte := BitVec.ofNat 8 (n >>> 8)
def lo (n : Nat) : Byte := BitVec.ofNat 8 n

/-- What passed between the stack and the cable. -/
inductive Wire where
  | sent (frame : List Byte)
  | received (frame : List Byte)
  deriving DecidableEq

/-- The callbacks a sketch passes to `browseUrl`. -/
inductive BrowserCallback where
  | macsParse
  | stateParse
  | apiSet
  deriving DecidableEq

/-- `EtherCard`'s static members. -/
structure Config where
  mymac : Mac
  myip : Ip
  netmask : Ip
  broadcastip : Ip
  gwip : Ip
  dhcpip : Ip
  dnsip : Ip
  hisip : Ip
  hisport : Nat
  usingDhcp : Bool
  persistTcpConnection : Bool
  delaycnt : Word

/-- The link addresses `tcpip.cpp` keeps, and what it is waiting for. -/
structure ArpCache where
  destmacaddr : Mac
  waitingForDnsMac : Bool
  hasDnsMac : Bool
  waitingForDestMac : Bool
  hasDestMac : Bool
  gwmacaddr : Mac
  waitgwmac : Byte

/-- The TCP client of `tcpip.cpp`. The result and datafill callbacks are the web client's or null. -/
structure TcpClient where
  tcpclientSrcPortL : Byte
  tcpFd : Byte
  tcpClientState : Nat
  tcpClientPortH : Byte
  tcpClientPortL : Byte
  clientTcpCb : Bool
  wwwFd : Byte
  clientBrowserCb : Option BrowserCallback
  clientAdditionalheaderline : List Byte
  clientUrlbuf : List Byte
  clientUrlbufVar : List Byte
  clientHoststr : List Byte
  infoDataLen : Nat
  seqnum : Byte

/-- The states of `dhcp.cpp`. -/
inductive DhcpState where
  | init
  | selecting
  | requesting
  | bound
  | renewing
  deriving DecidableEq

/-- The statics of `dhcp.cpp`. -/
structure DhcpClient where
  dhcpState : DhcpState
  hostname : List Byte
  currentXid : Long
  stateTimer : Long
  leaseStart : Long
  leaseTime : Long

/-- The library's state: the shared buffer, the cable, and the statics. -/
structure Ether where
  buffer : Buffer
  wire : List Wire
  cfg : Config
  arp : ArpCache
  tcp : TcpClient
  dhcp : DhcpClient
  dnstidL : Byte

namespace Ether

/-- Write bytes into the buffer. -/
def put (e : Ether) (off : Nat) (xs : List Byte) : Ether := { e with buffer := e.buffer.write off xs }

/-- Write an IP address into the buffer. -/
def copyIp (e : Ether) (off : Nat) (a : Ip) : Ether := e.put off a.toList

/-- Write a hardware address into the buffer. -/
def copyMac (e : Ether) (off : Nat) (a : Mac) : Ether := e.put off a.toList

/-- A byte of the buffer, `gPB[i]`. -/
def gPB (e : Ether) (i : Nat) : Byte := e.buffer.get i

section frame

variable (e : Ether) (off : Nat) (xs : List Byte)

@[simp] theorem put_wire : (e.put off xs).wire = e.wire := rfl
@[simp] theorem put_cfg : (e.put off xs).cfg = e.cfg := rfl
@[simp] theorem put_arp : (e.put off xs).arp = e.arp := rfl
@[simp] theorem put_tcp : (e.put off xs).tcp = e.tcp := rfl
@[simp] theorem put_dhcp : (e.put off xs).dhcp = e.dhcp := rfl

end frame

end Ether

/-- `packetSend`: the first `len` bytes of the buffer go out. -/
def packetSend (len : Nat) (e : Ether) : Ether := { e with wire := .sent (e.buffer.slice 0 len) :: e.wire }

/-! ## Checksums and headers -/

/-- Sum of the 16-bit words of a list of bytes, a last odd byte counting as the high half of a word. -/
def sumWords : List Byte → Nat
  | [] => 0
  | [h] => h.toNat <<< 8
  | h :: l :: rest => (h.toNat <<< 8 ||| l.toNat) + sumWords rest

/-- Fold the carries of a 32-bit sum into 16 bits; two rounds are enough for any sum, `n` bounds them. -/
def foldCarries : Nat → Nat → Nat
  | 0, sum => sum
  | n + 1, sum => if sum >>> 16 = 0 then sum else foldCarries n (sum % 65536 + sum >>> 16)

/-- `fill_checksum`: `type` is 1 for UDP, 2 for TCP, which sum the pseudo header too. -/
def fillChecksum (dest off len type : Nat) (e : Ether) : Ether :=
  let pseudo := if type = 1 then IP_PROTO_UDP_V.toNat + len - 8 else if type = 2 then IP_PROTO_TCP_V.toNat + len - 8 else 0
  let sum := foldCarries 4 (pseudo + sumWords (e.buffer.slice off len))
  let ck : Word := ~~~(BitVec.ofNat 16 sum)
  e.put dest [hi ck.toNat, lo ck.toNat]

def setMACs (mac : Mac) (e : Ether) : Ether := (e.copyMac ETH_DST_MAC mac).copyMac ETH_SRC_MAC e.cfg.mymac

def setMACandIPs (mac : Mac) (dst : Ip) (e : Ether) : Ether :=
  ((setMACs mac e).copyIp IP_DST_P dst).copyIp IP_SRC_P e.cfg.myip

def checkIpMessageIsFrom (e : Ether) (ip : Ip) : Bool := e.buffer.ip IP_SRC_P = ip

/-- `is_lan`: same network under the mask, and neither address starts with zero. -/
def isLan (e : Ether) (source destination : Ip) : Bool :=
  if source.get 0 = 0 ∨ destination.get 0 = 0 then false
  else decide (∀ i : Fin 4, source.get i &&& e.cfg.netmask.get i = destination.get i &&& e.cfg.netmask.get i)

def ethTypeIsArpAndMyIp (len : Nat) (e : Ether) : Bool :=
  decide (41 ≤ len) && e.gPB ETH_TYPE_H_P == ETHTYPE_ARP_H_V && e.gPB ETH_TYPE_L_P == ETHTYPE_ARP_L_V &&
    e.buffer.ip ETH_ARP_DST_IP_P == e.cfg.myip

def ethTypeIsIpAndMyIp (len : Nat) (e : Ether) : Bool :=
  decide (42 ≤ len) && e.gPB ETH_TYPE_H_P == ETHTYPE_IP_H_V && e.gPB ETH_TYPE_L_P == ETHTYPE_IP_L_V &&
    e.gPB IP_HEADER_LEN_VER_P == 0x45 &&
    (e.buffer.ip IP_DST_P == e.cfg.myip || e.buffer.ip IP_DST_P == e.cfg.broadcastip || e.buffer.ip IP_DST_P == allOnes)

def fillIpHdrChecksum (e : Ether) : Ether :=
  let e := e.put IP_CHECKSUM_P [0, 0]
  let e := e.put IP_FLAGS_P [0x40, 0]
  let e := e.put IP_TTL_P [64]
  fillChecksum IP_CHECKSUM_P IP_P IP_HEADER_LEN 0 e

def makeEthIp (e : Ether) : Ether :=
  let e := setMACs (e.buffer.mac ETH_SRC_MAC) e
  let e := e.copyIp IP_DST_P (e.buffer.ip IP_SRC_P)
  let e := e.copyIp IP_SRC_P e.cfg.myip
  fillIpHdrChecksum e

/-- The loop of `step_seq`, `i` counting down. -/
def stepSeqLoop (cpSeq : Bool) : Nat → Nat → Ether → Ether
  | 0, _, e => e
  | i + 1, relAckNum, e =>
    let relAckNum := ((e.gPB (TCP_SEQ_H_P + i)).toNat + relAckNum) % 65536
    let tseq := e.gPB (TCP_SEQACK_H_P + i)
    let e := e.put (TCP_SEQACK_H_P + i) [lo relAckNum]
    let e := e.put (TCP_SEQ_H_P + i) [if cpSeq then tseq else 0]
    stepSeqLoop cpSeq i (relAckNum >>> 8) e

def stepSeq (relAckNum : Nat) (cpSeq : Bool) (e : Ether) : Ether := stepSeqLoop cpSeq 4 relAckNum e

def makeTcphead (relAckNum : Nat) (cpSeq : Bool) (e : Ether) : Ether :=
  let i := e.gPB TCP_DST_PORT_H_P
  let e := e.put TCP_DST_PORT_H_P [e.gPB TCP_SRC_PORT_H_P]
  let e := e.put TCP_SRC_PORT_H_P [i]
  let j := e.gPB TCP_DST_PORT_L_P
  let e := e.put TCP_DST_PORT_L_P [e.gPB TCP_SRC_PORT_L_P]
  let e := e.put TCP_SRC_PORT_L_P [j]
  let e := stepSeq relAckNum cpSeq e
  let e := e.put TCP_CHECKSUM_H_P [0, 0]
  e.put TCP_HEADER_LEN_P [0x50]

/-! ## Answers -/

def makeArpAnswerFromRequest (e : Ether) : Ether :=
  let e := setMACs (e.buffer.mac ETH_SRC_MAC) e
  let e := e.put ETH_ARP_OPCODE_H_P [ETH_ARP_OPCODE_REPLY_H_V, ETH_ARP_OPCODE_REPLY_L_V]
  let e := e.copyMac ETH_ARP_DST_MAC_P (e.buffer.mac ETH_ARP_SRC_MAC_P)
  let e := e.copyMac ETH_ARP_SRC_MAC_P e.cfg.mymac
  let e := e.copyIp ETH_ARP_DST_IP_P (e.buffer.ip ETH_ARP_SRC_IP_P)
  let e := e.copyIp ETH_ARP_SRC_IP_P e.cfg.myip
  packetSend 42 e

def makeEchoReplyFromRequest (len : Nat) (e : Ether) : Ether :=
  let e := makeEthIp e
  let e := e.put ICMP_TYPE_P [ICMP_TYPE_ECHOREPLY_V]
  let e := if e.gPB ICMP_CHECKSUM_P > 0xFF - 0x08 then e.put (ICMP_CHECKSUM_P + 1) [e.gPB (ICMP_CHECKSUM_P + 1) + 1] else e
  let e := e.put ICMP_CHECKSUM_P [e.gPB ICMP_CHECKSUM_P + 0x08]
  packetSend len e

def makeTcpSynackFromSyn (e : Ether) : Ether :=
  let e := e.put IP_TOTLEN_H_P [0, lo (IP_HEADER_LEN + TCP_HEADER_LEN_PLAIN + 4)]
  let e := makeEthIp e
  let e := e.put TCP_FLAGS_P [TCP_FLAGS_SYNACK_V]
  let e := makeTcphead 1 false e
  let e := e.put TCP_SEQ_H_P [0, 0, e.tcp.seqnum, 0]
  let e := { e with tcp := { e.tcp with seqnum := e.tcp.seqnum + 3 } }
  let e := e.put TCP_OPTIONS_P [2, 4, 0x05, 0x0]
  let e := e.put TCP_HEADER_LEN_P [0x60]
  let e := e.put TCP_WIN_SIZE [0x5, 0x78]
  let e := fillChecksum TCP_CHECKSUM_H_P IP_SRC_P (8 + TCP_HEADER_LEN_PLAIN + 4) 2 e
  packetSend (IP_HEADER_LEN + TCP_HEADER_LEN_PLAIN + 4 + ETH_HEADER_LEN) e

/-- Bytes of TCP header that a frame announces. -/
def tcpHeaderLen (e : Ether) : Nat := ((e.gPB TCP_HEADER_LEN_P).toNat >>> 4) * 4

/-- `TCP_DATA_START`. -/
def tcpDataStart (e : Ether) : Nat := TCP_SRC_PORT_H_P + tcpHeaderLen e

/-- `get_tcp_data_len`: the arithmetic is that of `int16_t`. -/
def getTcpDataLen (e : Ether) : Nat :=
  let i : Word := (e.gPB IP_TOTLEN_H_P).setWidth 16 <<< 8 ||| (e.gPB IP_TOTLEN_L_P).setWidth 16
  let i := i - BitVec.ofNat 16 IP_HEADER_LEN
  let i := i - BitVec.ofNat 16 (tcpHeaderLen e)
  if i.toInt ≤ 0 then 0 else i.toNat

def makeTcpAckFromAny (datlentoack : Nat) (addflags : Byte) (e : Ether) : Ether :=
  let e := e.put TCP_FLAGS_P [TCP_FLAGS_ACK_V ||| addflags]
  let datlentoack := if addflags ≠ TCP_FLAGS_RST_V ∧ datlentoack = 0 then 1 else datlentoack
  let e := makeTcphead datlentoack true e
  let j := IP_HEADER_LEN + TCP_HEADER_LEN_PLAIN
  let e := e.put IP_TOTLEN_H_P [hi j, lo j]
  let e := makeEthIp e
  let e := e.put TCP_WIN_SIZE [0x4, 0]
  let e := fillChecksum TCP_CHECKSUM_H_P IP_SRC_P (8 + TCP_HEADER_LEN_PLAIN) 2 e
  packetSend (IP_HEADER_LEN + TCP_HEADER_LEN_PLAIN + ETH_HEADER_LEN) e

def makeTcpAckWithDataNoflags (dlen : Nat) (e : Ether) : Ether :=
  let j := IP_HEADER_LEN + TCP_HEADER_LEN_PLAIN + dlen
  let e := e.put IP_TOTLEN_H_P [hi j, lo j]
  let e := fillIpHdrChecksum e
  let e := e.put TCP_CHECKSUM_H_P [0, 0]
  let e := fillChecksum TCP_CHECKSUM_H_P IP_SRC_P (8 + TCP_HEADER_LEN_PLAIN + dlen) 2 e
  packetSend (IP_HEADER_LEN + TCP_HEADER_LEN_PLAIN + dlen + ETH_HEADER_LEN) e

/-! ## Requests -/

def iphdr : List Byte := [0x45, 0, 0, 0x82, 0, 0, 0x40, 0, 0x20]
def arpreqhdr : List Byte := [0, 1, 8, 0, 6, 4, 0, 1]

/-- The link address for a destination: the one held for the local network, or the gateway's. -/
def routeMac (e : Ether) (dst : Ip) : Mac := if isLan e e.cfg.myip dst then e.arp.destmacaddr else e.arp.gwmacaddr

def clientIcmpRequest (destip : Ip) (e : Ether) : Ether :=
  let e := setMACandIPs (routeMac e destip) destip e
  let e := e.put ETH_TYPE_H_P [ETHTYPE_IP_H_V, ETHTYPE_IP_L_V]
  let e := e.put IP_P iphdr
  let e := e.put IP_TOTLEN_L_P [0x54]
  let e := e.put IP_PROTO_P [IP_PROTO_ICMP_V]
  let e := fillIpHdrChecksum e
  let e := e.put ICMP_TYPE_P [ICMP_TYPE_ECHOREQUEST_V, 0]
  let e := e.put ICMP_CHECKSUM_H_P [0, 0]
  let e := e.put ICMP_IDENT_H_P [5, e.cfg.myip.get 3, 0, 1]
  let e := e.put ICMP_DATA_P (List.replicate 56 PINGPATTERN)
  let e := fillChecksum ICMP_CHECKSUM_H_P ICMP_TYPE_P (56 + 8) 0 e
  packetSend 98 e

def udpPrepare (sport : Nat) (dip : Ip) (dport : Nat) (e : Ether) : Ether :=
  let e := setMACandIPs (routeMac e dip) dip e
  let e := if dip.get 0 &&& 0xF0 = 0xE0 ∨ dip = allOnes then e.copyMac ETH_DST_MAC broadcastMac else e
  let e := e.put ETH_TYPE_H_P [ETHTYPE_IP_H_V, ETHTYPE_IP_L_V]
  let e := e.put IP_P iphdr
  let e := e.put IP_TOTLEN_H_P [0]
  let e := e.put IP_PROTO_P [IP_PROTO_UDP_V]
  let e := e.put UDP_DST_PORT_H_P [hi dport, lo dport]
  let e := e.put UDP_SRC_PORT_H_P [hi sport, lo sport]
  let e := e.put UDP_LEN_H_P [0]
  e.put UDP_CHECKSUM_H_P [0, 0]

def udpTransmit (datalen : Nat) (e : Ether) : Ether :=
  let e := e.put IP_TOTLEN_H_P [hi (IP_HEADER_LEN + UDP_HEADER_LEN + datalen), lo (IP_HEADER_LEN + UDP_HEADER_LEN + datalen)]
  let e := fillIpHdrChecksum e
  let e := e.put UDP_LEN_H_P [hi (UDP_HEADER_LEN + datalen), lo (UDP_HEADER_LEN + datalen)]
  let e := fillChecksum UDP_CHECKSUM_H_P IP_SRC_P (16 + datalen) 1 e
  packetSend (UDP_HEADER_LEN + IP_HEADER_LEN + ETH_HEADER_LEN + datalen) e

/-- `sendUdp`: the length is a `uint8_t`, and at most 220 bytes go out. -/
def sendUdp (data : List Byte) (datalen : Byte) (sport : Nat) (dip : Ip) (dport : Nat) (e : Ether) : Ether :=
  let e := udpPrepare sport dip dport e
  let datalen := if datalen.toNat > 220 then 220 else datalen.toNat
  let e := e.put UDP_DATA_P (data.take datalen)
  udpTransmit datalen e

/-- `client_arp_whohas`: broadcast an ARP request. -/
def clientArpWhohas (ipWeSearch : Ip) (e : Ether) : Ether :=
  let e := setMACs broadcastMac e
  let e := e.put ETH_TYPE_H_P [ETHTYPE_ARP_H_V, ETHTYPE_ARP_L_V]
  let e := e.put ETH_ARP_P arpreqhdr
  let e := e.put ETH_ARP_DST_MAC_P (List.replicate 6 0)
  let e := e.copyMac ETH_ARP_SRC_MAC_P e.cfg.mymac
  let e := e.copyIp ETH_ARP_DST_IP_P ipWeSearch
  let e := e.copyIp ETH_ARP_SRC_IP_P e.cfg.myip
  packetSend 42 e

def forceDestMac (destmac : Mac) (e : Ether) : Ether :=
  { e with arp := { e.arp with destmacaddr := destmac, hasDestMac := true, waitingForDestMac := false } }

def WGW_INITIAL_ARP : Byte := 1
def WGW_HAVE_GW_MAC : Byte := 2
def WGW_REFRESHING : Byte := 4
def WGW_ACCEPT_ARP_REPLY : Byte := 8

def setGwIp (gwipaddr : Ip) (e : Ether) : Ether :=
  { e with
    cfg := { e.cfg with delaycnt := 0, gwip := gwipaddr }
    arp := { e.arp with waitgwmac := WGW_INITIAL_ARP } }

def updateBroadcastAddress (e : Ether) : Ether :=
  { e with cfg := { e.cfg with broadcastip := Vector.ofFn fun i => e.cfg.myip.get i ||| ~~~e.cfg.netmask.get i } }

def clientWaitingGw (e : Ether) : Bool := e.arp.waitgwmac &&& WGW_HAVE_GW_MAC == 0

def clientWaitingDns (e : Ether) : Bool :=
  if isLan e e.cfg.myip e.cfg.dnsip then !e.arp.hasDnsMac else e.arp.waitgwmac &&& WGW_HAVE_GW_MAC == 0

def clientWaitingDestAddr (e : Ether) : Bool := !e.arp.hasDestMac

/-! ## The TCP client -/

def clientSyn (srcport dstportH dstportL : Byte) (e : Ether) : Ether :=
  let e := setMACandIPs (routeMac e e.cfg.hisip) e.cfg.hisip e
  let e := e.put ETH_TYPE_H_P [ETHTYPE_IP_H_V, ETHTYPE_IP_L_V]
  let e := e.put IP_P iphdr
  let e := e.put IP_TOTLEN_L_P [44]
  let e := e.put IP_PROTO_P [IP_PROTO_TCP_V]
  let e := fillIpHdrChecksum e
  let e := e.put TCP_DST_PORT_H_P [dstportH, dstportL]
  let e := e.put TCP_SRC_PORT_H_P [TCPCLIENT_SRC_PORT_H, srcport]
  let e := e.put TCP_SEQ_H_P [0, 0, e.tcp.seqnum, 0, 0, 0, 0, 0]
  let e := { e with tcp := { e.tcp with seqnum := e.tcp.seqnum + 3 } }
  let e := e.put TCP_HEADER_LEN_P [0x60]
  let e := e.put TCP_FLAGS_P [TCP_FLAGS_SYN_V]
  let e := e.put TCP_WIN_SIZE [0x3, 0x0]
  let e := e.put TCP_CHECKSUM_H_P [0, 0, 0, 0]
  let e := e.put TCP_OPTIONS_P [2, 4, hi CLIENTMSS.toNat, lo CLIENTMSS.toNat]
  let e := fillChecksum TCP_CHECKSUM_H_P IP_SRC_P (8 + TCP_HEADER_LEN_PLAIN + 4) 2 e
  packetSend (IP_HEADER_LEN + TCP_HEADER_LEN_PLAIN + ETH_HEADER_LEN + 4) e

def clientTcpReq (port : Nat) (e : Ether) : Ether :=
  { e with tcp := { e.tcp with
      clientTcpCb := true
      tcpClientPortH := hi port
      tcpClientPortL := lo port
      tcpClientState := 1
      tcpFd := (e.tcp.tcpFd + 1) &&& 7 } }

/-- `browseUrl`: note the request, and have `packetLoop` open the connection. -/
def browseUrl (urlbuf urlbufVarpart hoststr : List Byte) (callback : BrowserCallback) (e : Ether) : Ether :=
  let e := { e with tcp := { e.tcp with
      clientUrlbuf := urlbuf
      clientUrlbufVar := urlbufVarpart
      clientHoststr := hoststr
      clientAdditionalheaderline := ascii "Accept: text/html"
      clientBrowserCb := some callback } }
  let e := clientTcpReq e.cfg.hisport e
  { e with tcp := { e.tcp with wwwFd := e.tcp.tcpFd } }

/-- The request that `www_client_internal_datafill_cb` emits (`client_postval` is null for `browseUrl`). -/
def getRequest (t : TcpClient) : List Byte :=
  ascii "GET " ++ t.clientUrlbuf ++ t.clientUrlbufVar ++ ascii " HTTP/1.0\r\nHost: " ++ t.clientHoststr ++ ascii "\r\n" ++
    t.clientAdditionalheaderline ++ ascii "\r\n\r\n"

/-- `www_client_internal_datafill_cb`: the number of bytes emitted, none for another session's id. -/
def wwwClientInternalDatafillCb (fd : Byte) (e : Ether) : Ether × Nat :=
  if fd = e.tcp.wwwFd then (e.put TCP_OPTIONS_P (getRequest e.tcp), (getRequest e.tcp).length) else (e, 0)

/-- `client_store_mac`: the sender's link address, if the sender is the one asked for. -/
def clientStoreMac (e : Ether) (sourceIp : Ip) : Option Mac :=
  if e.buffer.ip ETH_ARP_SRC_IP_P = sourceIp then some (e.buffer.mac ETH_ARP_SRC_MAC_P) else none

end EtherHouse
