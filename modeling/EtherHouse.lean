import EtherHouse.Lib.Prog
import EtherHouse.Sketch.Recursion
import EtherHouse.Machine.Run
import EtherHouse.Theorems.Record
import EtherHouse.Theorems.Reply
import EtherHouse.Machine.Discipline
import EtherHouse.Theorems.Lock
import EtherHouse.Theorems.Hook
import EtherHouse.Theorems.Lights
import EtherHouse.Theorems.Absence
import EtherHouse.Theorems.Syn
import EtherHouse.Theorems.Saved
import EtherHouse.Theorems.Sync
import EtherHouse.Net.LinkCache
import EtherHouse.Theorems.Link
import EtherHouse.Net.Ports
import EtherHouse.Theorems.Answer
import EtherHouse.Theorems.Sighting
import EtherHouse.Theorems.SwitchOff
import EtherHouse.Lib.Access
import EtherHouse.Theorems.Scanner
import EtherHouse.Theorems.Message
import EtherHouse.Theorems.Timers
import EtherHouse.Theorems.Boot
import EtherHouse.Theorems.Agreement
import EtherHouse.Net.Wire
import EtherHouse.Theorems.Sweep
import EtherHouse.Theorems.Watchdog
import EtherHouse.Lib.OnesComplement
import EtherHouse.Net.Checksum
import EtherHouse.Net.Sent
import EtherHouse.Machine.Cable
import EtherHouse.Theorems.Frames
import EtherHouse.Theorems.Return
