import EtherHouse.Machine.Cable
import EtherHouse.Machine.Traffic

/-!
# What the device puts on the cable

Every frame of every run is the device's own, fits its buffer and is an ARP message or an IP packet that a receiver's checks accept.
-/

namespace EtherHouse

/-- What has been sent so far, the latest first. -/
def Ether.sentFrames (e : Ether) : List (List Byte) :=
  e.wire.filterMap fun
    | .sent frame => some frame
    | .received _ => none

/-- What has been sent is on the cable. -/
theorem mem_sentFrames {e : Ether} {frame : List Byte} : frame ∈ e.sentFrames ↔ .sent frame ∈ e.wire := by
  unfold Ether.sentFrames
  rw [List.mem_filterMap]
  constructor
  · rintro ⟨x, hx, hf⟩
    cases x with
    | sent frame' =>
      cases hf
      exact hx
    | received _ => cases hf
  · exact fun h => ⟨_, h, rfl⟩

/-- Every frame of every run is the device's own. -/
theorem sent_own {eeprom flash : Nat → Byte} {tape : List Input} {frame : List Byte}
    (h : frame ∈ (run eeprom flash tape).dev.ether.sentFrames) : OwnFrame myMac frame := by
  obtain ⟨st, hr⟩ := run_begun eeprom flash tape
  exact hr.cable.sent frame (mem_sentFrames.mp h)

/-- A boot up to the SYN of the first server call. -/
def bootSyn : List Input := networkUp dayLease ++ silence 1 ++ idlePoll

/-- What such a boot has sent, its `n`-th last frame. -/
def bootFrame (n : Nat) : List Byte := (run blank blank bootSyn).dev.ether.sentFrames.getD n []

/-- Among them are the SYN, the question for the gateway's link address and the first DHCP message. -/
theorem bootFrame_sent :
    (bootFrame 0 ∈ (run blank blank bootSyn).dev.ether.sentFrames ∧ wordAt (bootFrame 0) ETH_TYPE_H_P = 0x0800 ∧
      (bootFrame 0).getD IP_PROTO_P 0 = IP_PROTO_TCP_V) ∧
    (bootFrame 4 ∈ (run blank blank bootSyn).dev.ether.sentFrames ∧ wordAt (bootFrame 4) ETH_TYPE_H_P = 0x0806) ∧
    (bootFrame 6 ∈ (run blank blank bootSyn).dev.ether.sentFrames ∧ wordAt (bootFrame 6) ETH_TYPE_H_P = 0x0800 ∧
      (bootFrame 6).getD IP_PROTO_P 0 = IP_PROTO_UDP_V ∧ UdpPort ((bootFrame 6).getD UDP_SRC_PORT_H_P 0) ((bootFrame 6).getD UDP_SRC_PORT_L_P 0)) := by
  decide +kernel

/-- Each TCP segment is as long as its header says, and its checksum is right. -/
theorem segments_verify (eeprom flash : Nat → Byte) (tape : List Input) :
    ∀ frame ∈ (run eeprom flash tape).dev.ether.sentFrames, wordAt frame ETH_TYPE_H_P = 0x0800 → frame.getD IP_PROTO_P 0 = IP_PROTO_TCP_V →
      Fills frame ∧ SegmentVerifies IP_PROTO_TCP_V frame := by
  intro frame hf ht hp
  obtain ⟨-, -, harp | hip⟩ := sent_own hf
  · rw [harp.etype] at ht
    cases ht
  · exact hip.tcp hp

/-- The first SYN has the right length and checksum. -/
theorem segments_verify_syn : Fills (bootFrame 0) ∧ SegmentVerifies IP_PROTO_TCP_V (bootFrame 0) :=
  segments_verify blank blank bootSyn (bootFrame 0) bootFrame_sent.1.1 bootFrame_sent.1.2.1 bootFrame_sent.1.2.2

/-- Each datagram of the DHCP and DNS clients has the right lengths and checksum, and so has each echo request. -/
theorem datagrams_verify (eeprom flash : Nat → Byte) (tape : List Input) :
    ∀ frame ∈ (run eeprom flash tape).dev.ether.sentFrames, wordAt frame ETH_TYPE_H_P = 0x0800 →
      (frame.getD IP_PROTO_P 0 = IP_PROTO_UDP_V → UdpPort (frame.getD UDP_SRC_PORT_H_P 0) (frame.getD UDP_SRC_PORT_L_P 0) →
        Fills frame ∧ wordAt frame UDP_LEN_H_P = payloadLen frame ∧ SegmentVerifies IP_PROTO_UDP_V frame) ∧
      (frame.getD IP_PROTO_P 0 = IP_PROTO_ICMP_V → frame.getD ICMP_TYPE_P 0 = ICMP_TYPE_ECHOREQUEST_V →
        Fills frame ∧ MessageVerifies frame) := by
  intro frame hf ht
  obtain ⟨-, -, harp | hip⟩ := sent_own hf
  · rw [harp.etype] at ht
    cases ht
  · exact ⟨hip.udp, hip.icmp⟩

/-- So has the first DHCP message. -/
theorem datagrams_verify_discover :
    Fills (bootFrame 6) ∧ wordAt (bootFrame 6) UDP_LEN_H_P = payloadLen (bootFrame 6) ∧ SegmentVerifies IP_PROTO_UDP_V (bootFrame 6) :=
  (datagrams_verify blank blank bootSyn (bootFrame 6) bootFrame_sent.2.2.1 bootFrame_sent.2.2.2.1).1 bootFrame_sent.2.2.2.2.1
    bootFrame_sent.2.2.2.2.2

end EtherHouse
