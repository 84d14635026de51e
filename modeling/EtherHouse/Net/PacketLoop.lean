import EtherHouse.Net.Dhcp

/-!
# The packet loop

The parts of `EtherCard::packetLoop` and `sniffer.cpp` that run between two callbacks of the sketch, each a function of the
library's state: the idle branch, the match of the sniffer, the classification of a frame up to the callback it leads to, and what
follows that callback. `Upcall` says which callback the classification leads to.
-/

namespace EtherHouse

/-! ## Receiving -/

/-- What the controller has for `packetReceive`: no packet, one it flags as damaged, or the bytes of a frame. -/
inductive Arrival where
  | nothing
  | damaged
  | frame (bytes : List Byte)
  deriving DecidableEq

/-- `packetReceive`: the number of bytes read into the buffer, one less than its size at most; a zero is put behind them. -/
def packetReceiveLen : Arrival → Nat
  | .nothing => 0
  | .damaged => 0
  | .frame bytes => if bytes.length > BUFFER_SIZE - 1 then BUFFER_SIZE - 1 else bytes.length

/-- `packetReceive`: the buffer afterwards. -/
def packetReceiveInto (a : Arrival) (e : Ether) : Ether :=
  match a with
  | .nothing => e
  | .damaged => e.put 0 [0]
  | .frame bytes =>
    let len := packetReceiveLen (.frame bytes)
    let e := (e.put 0 (bytes.take len)).put len [0]
    { e with wire := .received (bytes.take len) :: e.wire }

/-! ## The idle branch -/

/-- Ask for the gateway's link address, once in 65536 idle rounds. -/
def idleGateway (linkUp : Bool) (e : Ether) : Ether :=
  let e :=
    if (e.arp.waitgwmac &&& WGW_INITIAL_ARP ≠ 0 ∨ e.arp.waitgwmac &&& WGW_REFRESHING ≠ 0) ∧ e.cfg.delaycnt = 0 ∧ linkUp then
      let e := clientArpWhohas e.cfg.gwip e
      { e with arp := { e.arp with waitgwmac := e.arp.waitgwmac ||| WGW_ACCEPT_ARP_REPLY } }
    else e
  { e with cfg := { e.cfg with delaycnt := e.cfg.delaycnt + 1 } }

/-- Open the TCP connection that is pending. -/
def idleSyn (e : Ether) : Ether :=
  if e.tcp.tcpClientState = 1 ∧ e.arp.waitgwmac &&& WGW_HAVE_GW_MAC ≠ 0 then
    let e : Ether := { e with tcp := { e.tcp with tcpClientState := 2, tcpclientSrcPortL := e.tcp.tcpclientSrcPortL + 1 } }
    clientSyn ((e.tcp.tcpFd <<< 5) ||| (0x1f &&& e.tcp.tcpclientSrcPortL)) e.tcp.tcpClientPortH e.tcp.tcpClientPortL e
  else e

/-- Ask for the link address of the DNS server. -/
def idleDns (e : Ether) : Ether :=
  if isLan e e.cfg.myip e.cfg.dnsip ∧ !e.arp.hasDnsMac ∧ !e.arp.waitingForDnsMac then
    let e := clientArpWhohas e.cfg.dnsip e
    { e with arp := { e.arp with waitingForDnsMac := true } }
  else e

/-- Ask for the link address of the destination. -/
def idleDest (e : Ether) : Ether :=
  if isLan e e.cfg.myip e.cfg.hisip ∧ !e.arp.hasDestMac ∧ !e.arp.waitingForDestMac then
    let e := clientArpWhohas e.cfg.hisip e
    { e with arp := { e.arp with waitingForDestMac := true } }
  else e

/-- `packetLoop` when no packet has come. -/
def packetLoopIdle (linkUp : Bool) (e : Ether) : Ether := idleDest (idleDns (idleSyn (idleGateway linkUp e)))

/-! ## The sniffer -/

def checkMacMessageIsFrom (srcMac sniffedMac : Mac) : Bool := srcMac = sniffedMac

/-- `snifferProcessPacket` up to the listeners: where the frame's source address is, if the frame is one it looks at. -/
def snifferSrcIp (plen : Nat) (e : Ether) : Option Nat :=
  if plen < ETH_HEADER_LEN then none
  else if e.gPB ETH_TYPE_H_P = ETHTYPE_ARP_H_V ∧ e.gPB ETH_TYPE_L_P = ETHTYPE_ARP_L_V then
    if plen < ETH_ARP_DST_MAC_P then none
    else if e.gPB ETH_ARP_PROTO_TYPE_H_P ≠ ETH_ARP_PROTO_IPV4_H_V ∨ e.gPB ETH_ARP_PROTO_TYPE_L_P ≠ ETH_ARP_PROTO_IPV4_L_V then none
    else some ETH_ARP_SRC_IP_P
  else if e.gPB ETH_TYPE_H_P = ETHTYPE_IP_H_V ∧ e.gPB ETH_TYPE_L_P = ETHTYPE_IP_L_V then
    if plen < IP_DST_P then none else some IP_SRC_P
  else none

/-! ## Classification -/

/-- Where `packetLoop` goes from the classification: it returns, having sent the pending request or not, or it calls the
client's result callback for a reset or for data. -/
inductive Upcall where
  | ret (pos : Nat)
  | requested (url : List Byte)
  | reset (fd : Byte)
  | data (fd : Byte) (datapos len ackLen : Nat)
  deriving DecidableEq

/-- Take in the gateway's link address, if a reply is accepted and comes from it. -/
def arpGateway (e : Ether) : Ether :=
  if e.arp.waitgwmac &&& WGW_ACCEPT_ARP_REPLY ≠ 0 ∧ e.gPB ETH_ARP_OPCODE_L_P = ETH_ARP_OPCODE_REPLY_L_V then
    match clientStoreMac e e.cfg.gwip with
    | some mac => { e with arp := { e.arp with gwmacaddr := mac, waitgwmac := WGW_HAVE_GW_MAC } }
    | none => e
  else e

/-- Take in the DNS server's link address. -/
def arpDns (e : Ether) : Ether :=
  if !e.arp.hasDnsMac ∧ e.arp.waitingForDnsMac then
    match clientStoreMac e e.cfg.dnsip with
    | some mac => { e with arp := { e.arp with destmacaddr := mac, hasDnsMac := true, waitingForDnsMac := false } }
    | none => e
  else e

/-- Take in the destination's link address. -/
def arpDest (e : Ether) : Ether :=
  if !e.arp.hasDestMac ∧ e.arp.waitingForDestMac then
    match clientStoreMac e e.cfg.hisip with
    | some mac => { e with arp := { e.arp with destmacaddr := mac, hasDestMac := true, waitingForDestMac := false } }
    | none => e
  else e

/-- The ARP branch: answer a request, and take in the replies that are waited for. -/
def serviceArp (e : Ether) : Ether :=
  arpDest (arpDns (arpGateway
    (if e.gPB ETH_ARP_OPCODE_L_P = ETH_ARP_OPCODE_REQ_L_V then makeArpAnswerFromRequest e else e)))

/-- The TCP session id in a port's low byte. -/
def sessionId (portL : Byte) : Byte := (portL >>> 5) &&& 0x7

/-- Does the segment carry a flag? -/
def hasFlag (e : Ether) (flag : Byte) : Bool := e.gPB TCP_FLAGS_P &&& flag != 0

/-- A segment for the client while its SYN is unanswered. -/
def clientSynSent (len : Nat) (e : Ether) : Ether × Upcall :=
  if hasFlag e TCP_FLAGS_SYN_V ∧ hasFlag e TCP_FLAGS_ACK_V then
    let e := makeTcpAckFromAny 0 0 e
    let e := e.put TCP_FLAGS_P [TCP_FLAGS_ACK_V ||| TCP_FLAGS_PUSH_V]
    let fd := sessionId (e.gPB TCP_SRC_PORT_L_P)
    let (e, len) := if e.tcp.clientTcpCb then wwwClientInternalDatafillCb fd e else (e, 0)
    let e := { e with tcp := { e.tcp with tcpClientState := 3 } }
    let e := makeTcpAckWithDataNoflags len e
    (e, if e.tcp.clientTcpCb ∧ fd = e.tcp.wwwFd then .requested e.tcp.clientUrlbuf else .ret 0)
  else
    let e := { e with tcp := { e.tcp with tcpClientState := 1 } }
    let len := if hasFlag e TCP_FLAGS_ACK_V then 0 else len + 1
    (makeTcpAckFromAny len TCP_FLAGS_RST_V e, .ret 0)

/-- A segment for the client that is not data of an open connection. -/
def clientOther (len : Nat) (e : Ether) : Ether :=
  if e.tcp.tcpClientState ≠ 5 then
    if hasFlag e TCP_FLAGS_FIN_V then
      if e.tcp.tcpClientState = 3 then e
      else
        let e := makeTcpAckFromAny (len + 1) (TCP_FLAGS_PUSH_V ||| TCP_FLAGS_FIN_V) e
        { e with tcp := { e.tcp with tcpClientState := 6 } }
    else if len > 0 then makeTcpAckFromAny len 0 e
    else e
  else e

/-- The branch of `packetLoop` for the client's ports. -/
def clientSegment (plen : Nat) (e : Ether) : Ether × Upcall :=
  let fd := sessionId (e.gPB TCP_DST_PORT_L_P)
  if checkIpMessageIsFrom e e.cfg.hisip = false then (e, .ret 0)
  else if hasFlag e TCP_FLAGS_RST_V then
    if e.tcp.clientTcpCb then (e, .reset fd) else ({ e with tcp := { e.tcp with tcpClientState := 5 } }, .ret 0)
  else
    let len := getTcpDataLen e
    if e.tcp.tcpClientState = 2 then clientSynSent len e
    else if e.tcp.tcpClientState = 3 ∧ len > 0 ∧ e.tcp.clientTcpCb then
      let tcpstart := if tcpDataStart e > plen - 8 then plen - 8 else tcpDataStart e
      let saveLen := if tcpstart + len > plen then plen - tcpstart else len
      (e, .data fd tcpstart saveLen len)
    else (clientOther len e, .ret 0)

/-- `accept`: the server's side, for port 80. The sketch ignores the position it returns. -/
def accept (port plen : Nat) (e : Ether) : Ether × Nat :=
  if e.gPB TCP_DST_PORT_H_P = hi port ∧ e.gPB TCP_DST_PORT_L_P = lo port then
    if hasFlag e TCP_FLAGS_SYN_V then (makeTcpSynackFromSyn e, 0)
    else if hasFlag e TCP_FLAGS_ACK_V then
      let e := { e with tcp := { e.tcp with infoDataLen := getTcpDataLen e } }
      if e.tcp.infoDataLen > 0 then (e, if tcpDataStart e ≤ plen - 8 then tcpDataStart e else 0)
      else if hasFlag e TCP_FLAGS_FIN_V then (makeTcpAckFromAny 0 0 e, 0)
      else (e, 0)
    else (e, 0)
  else (e, 0)

/-- `packetLoop` after the sniffer's hook, up to a callback. No ICMP callback and no UDP listener is registered. -/
def packetLoopReceived (plen : Nat) (e : Ether) : Ether × Upcall :=
  if ethTypeIsArpAndMyIp plen e then (serviceArp e, .ret 0)
  else if ethTypeIsIpAndMyIp plen e = false then (e, .ret 0)
  else if e.gPB IP_PROTO_P = IP_PROTO_ICMP_V ∧ e.gPB ICMP_TYPE_P = ICMP_TYPE_ECHOREQUEST_V then
    (makeEchoReplyFromRequest plen e, .ret 0)
  else if plen < 54 ∧ e.gPB IP_PROTO_P ≠ IP_PROTO_TCP_V then (e, .ret 0)
  else if e.gPB TCP_DST_PORT_H_P = TCPCLIENT_SRC_PORT_H then clientSegment plen e
  else
    let (e, pos) := accept e.cfg.hisport plen e
    (e, .ret pos)

/-- `packetLoop` after the client's result callback. -/
def packetLoopAfter (u : Upcall) (e : Ether) : Ether :=
  match u with
  | .reset _ => { e with tcp := { e.tcp with tcpClientState := 5 } }
  | .data _ _ _ ackLen =>
    if e.cfg.persistTcpConnection then makeTcpAckFromAny ackLen TCP_FLAGS_PUSH_V e
    else
      let e := makeTcpAckFromAny ackLen (TCP_FLAGS_PUSH_V ||| TCP_FLAGS_FIN_V) e
      { e with tcp := { e.tcp with tcpClientState := 6 } }
  | _ => e

/-- `www_client_internal_result_cb`: the status, offset and length it hands to the browser callback, if it calls it. -/
def wwwClientInternalResultCb (e : Ether) (u : Upcall) : Option (Byte × Nat × Nat) :=
  match u with
  | .reset fd => if fd ≠ e.tcp.wwwFd then some (4, 0, 0) else none
  | .data fd datapos len _ =>
    if fd ≠ e.tcp.wwwFd then some (4, 0, 0)
    else if len > 12 then
      let f : Byte := if e.buffer.slice (datapos + 9) 3 = ascii "200" then 0 else 1
      some (f, tcpDataStart e, len)
    else none
  | _ => none

/-- `selectAndArpDestAddr` up to its loop: point `hisip` at an address of the local network. -/
def selectDestAddr (destip : Ip) (e : Ether) : Ether :=
  if isLan e e.cfg.myip destip then
    if e.cfg.hisip ≠ destip then
      { e with
        cfg := { e.cfg with hisip := destip }
        arp := { e.arp with hasDestMac := false, waitingForDestMac := false } }
    else e
  else e

end EtherHouse
