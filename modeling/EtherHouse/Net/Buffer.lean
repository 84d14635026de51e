import Mathlib

/-!
# Bytes, addresses and the frame buffer

The sketch and the library share one buffer of 500 bytes for what they receive and what they send. `Buffer` is that array: that there
is nothing behind its end is a field, so a write past the end changes nothing.
-/

namespace EtherHouse

abbrev Byte := BitVec 8
abbrev Word := BitVec 16
abbrev Long := BitVec 32
abbrev Ip := Vector Byte 4
abbrev Mac := Vector Byte 6

/-- An address has a first byte. -/
instance neZero_four : NeZero 4 := ⟨by decide⟩

/-- Addresses are compared byte by byte. -/
instance {n : Nat} : DecidableEq (Vector Byte n) := fun a b => decidable_of_iff (a.toList == b.toList) (by simp)

def allOnes : Ip := #v[0xFF, 0xFF, 0xFF, 0xFF]
def allZeros : Ip := #v[0, 0, 0, 0]
def broadcastMac : Mac := #v[0xFF, 0xFF, 0xFF, 0xFF, 0xFF, 0xFF]

/-- The bytes of a string literal. -/
def ascii (s : String) : List Byte := s.toList.map fun c => BitVec.ofNat 8 c.toNat

/-! ## The buffer -/

/-- `sizeof Ethernet::buffer`. -/
def BUFFER_SIZE : Nat := 500

/-- `uint8_t Ethernet::buffer[500]`, by the byte at each position. The model has nothing beyond the array: a read past the end gives
zero. -/
structure Buffer where
  get : Nat → Byte
  get_of_ge : ∀ i, BUFFER_SIZE ≤ i → get i = 0

namespace Buffer

/-- The buffer at power-on. -/
def zero : Buffer where
  get := fun _ => 0
  get_of_ge := fun _ _ => rfl

/-- `memcpy` into the buffer. -/
def write (b : Buffer) (off : Nat) (xs : List Byte) : Buffer where
  get := fun i => if off ≤ i ∧ i < off + xs.length ∧ i < BUFFER_SIZE then xs.getD (i - off) 0 else b.get i
  get_of_ge := fun i hi => by
    rw [if_neg (by omega)]
    exact b.get_of_ge i hi

/-- `n` bytes from a position on. -/
def slice (b : Buffer) (off n : Nat) : List Byte := (List.range n).map fun i => b.get (off + i)

/-- The IP address at a position. -/
def ip (b : Buffer) (off : Nat) : Ip := #v[b.get off, b.get (off + 1), b.get (off + 2), b.get (off + 3)]

/-- The hardware address at a position. -/
def mac (b : Buffer) (off : Nat) : Mac :=
  #v[b.get off, b.get (off + 1), b.get (off + 2), b.get (off + 3), b.get (off + 4), b.get (off + 5)]

/-- What a place holds after a write: the new byte if the write reaches it, else the old one. -/
theorem get_write (b : Buffer) (off : Nat) (xs : List Byte) (i : Nat) :
    (b.write off xs).get i = if off ≤ i ∧ i < off + xs.length ∧ i < BUFFER_SIZE then xs.getD (i - off) 0 else b.get i := rfl

/-- A write leaves the places it does not reach as they were. -/
theorem get_write_of_not_mem {b : Buffer} {off i : Nat} {xs : List Byte} (h : i < off ∨ off + xs.length ≤ i) :
    (b.write off xs).get i = b.get i := by
  rw [get_write, if_neg (by omega)]

/-- The bytes of a hardware address in the buffer. -/
theorem getElem_mac (b : Buffer) (off : Nat) {k : Nat} (hk : k < 6) : (b.mac off)[k] = b.get (off + k) := by
  have hk' : k = 0 ∨ k = 1 ∨ k = 2 ∨ k = 3 ∨ k = 4 ∨ k = 5 := by omega
  rcases hk' with rfl | rfl | rfl | rfl | rfl | rfl <;> rfl

/-- A slice is as long as it is asked to be. -/
@[simp] theorem length_slice (b : Buffer) (off n : Nat) : (b.slice off n).length = n := by simp [slice]

/-- A slice's bytes are the buffer's. -/
theorem getElem?_slice (b : Buffer) (off : Nat) {n i : Nat} (h : i < n) : (b.slice off n)[i]? = some (b.get (off + i)) := by
  rw [slice, List.getElem?_map, List.getElem?_range h, Option.map_some]

/-- The same, with a default that is not needed. -/
theorem getD_slice (b : Buffer) (off : Nat) {n i : Nat} (h : i < n) : (b.slice off n).getD i 0 = b.get (off + i) := by
  rw [List.getD_eq_getElem?_getD, getElem?_slice b off h, Option.getD_some]

end Buffer

end EtherHouse
