import EtherHouse.Machine.Traffic
import EtherHouse.Net.Segment

/-!
# Which replies change the device

The scanner of `api_client.ino` against what it is for: a reply with status 200 and a body. What the two parse callbacks accept is
said here by the places of two patterns in the payload.
-/

namespace EtherHouse

/-! ## What the callbacks accept -/

/-- A header end with at least one byte behind it. -/
def HasBody (payload : List Byte) : Prop := ∃ i, i + headerEnd.length < payload.length ∧ headerEnd <+: payload.drop i

/-- `200 OK` anywhere, with at least one byte behind it. -/
def HasOk (payload : List Byte) : Prop := ∃ i, i + okNeedle.length < payload.length ∧ okNeedle <+: payload.drop i

/-- A match in memory is one in the payload. -/
theorem matchesAt_iff {haystack : Nat → Byte} {payload : List Byte} (h : ∀ k, (hk : k < payload.length) → haystack k = payload[k])
    {needle : List Byte} {i : Nat} (hi : i + needle.length ≤ payload.length) :
    matchesAt haystack i needle = true ↔ needle <+: payload.drop i := by
  induction needle generalizing i with
  | nil => simp [matchesAt]
  | cons b needle ih =>
    rw [List.length_cons] at hi
    have hlt : i < payload.length := by omega
    rw [matchesAt, Bool.and_eq_true, beq_iff_eq, ih (by omega), h i hlt, List.drop_eq_getElem_cons hlt, List.cons_prefix_cons]
    exact ⟨fun ⟨h1, h2⟩ => ⟨h1.symm, h2⟩, fun ⟨h1, h2⟩ => ⟨h1.symm, h2⟩⟩

/-- `is_200` looks for the three digits and two letters in the payload. -/
theorem is200_iff {haystack : Nat → Byte} {payload : List Byte} (h : ∀ k, (hk : k < payload.length) → haystack k = payload[k]) :
    is200 haystack payload.length = true ↔ HasOk payload := by
  rw [is200, List.any_eq_true]
  constructor
  · rintro ⟨i, hi, hm⟩
    rw [List.mem_range] at hi
    exact ⟨i, by omega, (matchesAt_iff h (by omega)).mp hm⟩
  · rintro ⟨i, hi, hp⟩
    exact ⟨i, List.mem_range.mpr (by omega), (matchesAt_iff h (by omega)).mpr hp⟩

/-- `find_response`: both patterns, or nothing; and then the place behind a header end. -/
theorem findResponse_cases {haystack : Nat → Byte} {payload : List Byte}
    (h : ∀ k, (hk : k < payload.length) → haystack k = payload[k]) :
    (findResponse haystack payload.length = -1 ∧ ¬ (HasBody payload ∧ HasOk payload)) ∨
      ∃ off : Nat, off < payload.length ∧ findResponse haystack payload.length = off ∧ HasBody payload ∧ HasOk payload := by
  rw [findResponse]
  cases hf : (List.range (payload.length - headerEnd.length)).find? fun i => matchesAt haystack i headerEnd with
  | none =>
    left
    refine ⟨rfl, ?_⟩
    rintro ⟨⟨i, hi, hp⟩, _⟩
    have := List.find?_eq_none.mp hf i (List.mem_range.mpr (by omega))
    exact this ((matchesAt_iff h (by omega)).mpr hp)
  | some i =>
    have hi := List.mem_range.mp (List.mem_of_find?_eq_some hf)
    have hm := List.find?_some hf
    have hbody : HasBody payload := ⟨i, by omega, (matchesAt_iff h (by omega)).mp hm⟩
    by_cases hok : is200 haystack payload.length = true
    · right
      refine ⟨i + headerEnd.length, by omega, ?_, hbody, (is200_iff h).mp hok⟩
      simp only [hok, if_true]
    · left
      refine ⟨by simp only [hok, Bool.false_eq_true, if_false], fun hc => hok ((is200_iff h).mpr hc.2)⟩

/-! ## What they are for -/

def isDigit (b : Byte) : Bool := 0x30 ≤ b && b ≤ 0x39

/-- The bytes in front of the first line end. -/
def firstLine : List Byte → List Byte
  | [] => []
  | b :: rest => if [0x0D, 0x0A] <+: b :: rest then [] else b :: firstLine rest

/-- An HTTP status line with the code 200: a version, a blank, the code, and nothing or a blank and a reason. -/
def isOkStatusLine (line : List Byte) : Bool :=
  line.take 5 = ascii "HTTP/" ∧ isDigit (line.getD 5 0) ∧ line.getD 6 0 = 0x2E ∧ isDigit (line.getD 7 0) ∧
    (line.drop 8).take 4 = ascii " 200" ∧ (line.length = 12 ∨ line.getD 12 0 = 0x20)

/-- A reply that may change something: status 200, and a body. -/
def GoodReply (payload : List Byte) : Prop := isOkStatusLine (firstLine payload) = true ∧ HasBody payload

/-- The callback's payload, as the buffer holds it. -/
theorem bufferAt_eq {d : Device} {off : Nat} {payload : List Byte} (h : d.ether.buffer.slice off payload.length = payload) :
    ∀ k, (hk : k < payload.length) → bufferAt d off k = payload[k] := by
  intro k hk
  have hs := Buffer.getElem?_slice d.ether.buffer off hk
  rw [h, List.getElem?_eq_getElem hk] at hs
  exact (Option.some.inj hs).symm

/-- What the state callback takes from an accepted reply. -/
theorem stateParseCallback_state {d : Device} {off len r : Nat} (h : findResponse (bufferAt d off) len = r) (buf : Nat)
    (status : Byte) : (stateParseCallback buf status off len d).state = d.ether.gPB (off + r) := by
  have hne : ¬ ((r : Int) = -1) := by omega
  simp only [stateParseCallback, h, if_neg hne, saveStateToEeprom, syncLeds, net_state, Int.toNat_natCast]

/-- What the address callback takes from an accepted reply. -/
theorem macsParseCallback_targetMac {d : Device} {off len r : Nat} (h : findResponse (bufferAt d off) len = r) (status : Byte) :
    (macsParseCallback status off len d).targetMac = d.ether.buffer.mac (off + r) ∧
      (macsParseCallback status off len d).sniffers = d.sniffers.listen (d.ether.buffer.mac (off + r)) := by
  have hne : ¬ ((r : Int) = -1) := by omega
  simp only [macsParseCallback, h, if_neg hne, snifferListenForMac, Int.toNat_natCast, and_self]

/-- A payload without one of the patterns: the callback clears `locked` and does nothing else. -/
theorem browserCallback_of_not_accepted {d : Device} {off : Nat} {payload : List Byte}
    (h : d.ether.buffer.slice off payload.length = payload) (hn : ¬ (HasBody payload ∧ HasOk payload)) (cb : BrowserCallback)
    (buf : Nat) (status : Byte) : browserCallback cb buf status off payload.length d = { d with locked := false } := by
  rcases findResponse_cases (bufferAt_eq h) with ⟨hr, _⟩ | ⟨_, _, _, hb, hok⟩
  · cases cb <;> simp [browserCallback, macsParseCallback, stateParseCallback, apiSetCallback, hr]
  · exact absurd ⟨hb, hok⟩ hn

/-- A device whose buffer holds a payload. -/
def holding (payload : List Byte) (state : Byte) (targetMac : Mac) : Device :=
  let d := powerOn (fun _ => 0) (fun _ => 0)
  { d with ether := d.ether.put 0 payload, state := state, targetMac := targetMac }

/-- The device holds the payload. -/
theorem holding_slice {payload : List Byte} (h : payload.length ≤ BUFFER_SIZE) (state : Byte) (targetMac : Mac) :
    (holding payload state targetMac).ether.buffer.slice 0 payload.length = payload := by
  apply List.ext_getElem?
  intro k
  by_cases hk : k < payload.length
  · rw [Buffer.getElem?_slice _ _ hk, List.getElem?_eq_getElem hk]
    simp only [holding, Ether.put]
    rw [Buffer.get_write, if_pos (by omega), Nat.zero_add, Nat.sub_zero, List.getD_eq_getElem _ _ hk]
  · rw [List.getElem?_eq_none (by simpa using hk), List.getElem?_eq_none (by simpa using hk)]

/-- A payload with both patterns: some device that gets it is changed. -/
theorem browserCallback_of_accepted {payload : List Byte} (hlen : payload.length ≤ BUFFER_SIZE) (hb : HasBody payload)
    (hok : HasOk payload) {cb : BrowserCallback} (hcb : cb ≠ .apiSet) :
    ∃ d : Device, d.ether.buffer.slice 0 payload.length = payload ∧
      browserCallback cb 0 0 0 payload.length d ≠ { d with locked := false } := by
  obtain ⟨off, hoff, hr⟩ : ∃ off : Nat, off < payload.length ∧
      ∀ s m, findResponse (bufferAt (holding payload s m) 0) payload.length = off := by
    have heq : ∀ s m, bufferAt (holding payload s m) 0 = bufferAt (holding payload 0 noMac) 0 := fun _ _ => rfl
    rcases findResponse_cases (bufferAt_eq (holding_slice hlen 0 noMac)) with ⟨_, hn⟩ | ⟨off, hoff, hr, _, _⟩
    · exact absurd ⟨hb, hok⟩ hn
    · exact ⟨off, hoff, fun s m => by rw [heq]; exact hr⟩
  -- a state and an address that the byte behind the headers cannot leave as they are
  have hne : ∀ b : Byte, ~~~b ≠ b := by decide
  let d := holding payload (~~~payload[off]) #v[~~~payload[off], 0, 0, 0, 0, 0]
  have hbyte : d.ether.gPB off = payload[off] := by
    have h := bufferAt_eq (holding_slice hlen (~~~payload[off]) #v[~~~payload[off], 0, 0, 0, 0, 0]) off hoff
    rwa [bufferAt, Nat.zero_add] at h
  refine ⟨d, holding_slice hlen _ _, fun hc => ?_⟩
  cases cb with
  | apiSet => exact hcb rfl
  | stateParse =>
    have hs := stateParseCallback_state (hr (~~~payload[off]) #v[~~~payload[off], 0, 0, 0, 0, 0]) 0 0
    have hc' := congrArg Device.state hc
    rw [browserCallback] at hc'
    rw [hc', Nat.zero_add, hbyte] at hs
    exact hne _ hs
  | macsParse =>
    have hm := (macsParseCallback_targetMac (hr (~~~payload[off]) #v[~~~payload[off], 0, 0, 0, 0, 0]) 0).1
    have hc' := congrArg Device.targetMac hc
    rw [browserCallback] at hc'
    rw [hc', Nat.zero_add] at hm
    have h0 := congrArg (fun m : Mac => m.get 0) hm
    exact hne _ (h0.trans hbyte)

/-- Which payloads the two callbacks let change something: beside the good replies exactly those with a header end before the last
byte and `200 OK` before the last byte, wherever it stands. -/
theorem bad_reply_changes_nothing (payload : List Byte) (hlen : payload.length ≤ BUFFER_SIZE) (cb : BrowserCallback)
    (hcb : cb ≠ .apiSet) :
    (∀ (d : Device) (off buf : Nat) (status : Byte), d.ether.buffer.slice off payload.length = payload →
      ¬ GoodReply payload → browserCallback cb buf status off payload.length d = { d with locked := false }) ↔
    (GoodReply payload ∨ ¬ HasBody payload ∨ ¬ HasOk payload) := by
  constructor
  · intro h
    by_contra hn
    rw [not_or, not_or, not_not, not_not] at hn
    obtain ⟨hbad, hb, hok⟩ := hn
    obtain ⟨d, hd, hchange⟩ := browserCallback_of_accepted hlen hb hok hcb
    exact hchange (h d 0 0 0 hd hbad)
  · rintro (hgood | hn) d off buf status hd hbad
    · exact absurd hgood hbad
    · exact browserCallback_of_not_accepted hd (fun hc => hn.elim (fun h => h hc.1) fun h => h hc.2) cb buf status

/-- A reply with an error status and the pattern in its body. -/
def errorReply : List Byte := ascii "HTTP/1.1 500 Error" ++ [0x0D, 0x0A, 0x0D, 0x0A] ++ ascii "not 200 OK!"

/-- The reply has a body. -/
theorem hasBody_errorReply : HasBody errorReply := ⟨18, by decide, by decide⟩

/-- It has the words in it, behind its status line. -/
theorem hasOk_errorReply : HasOk errorReply := ⟨26, by decide, by decide⟩

/-- It is taken for a good one. -/
theorem error_reply_accepted :
    ¬ ∀ (payload : List Byte) (cb : BrowserCallback) (d : Device) (off buf : Nat) (status : Byte), cb ≠ .apiSet →
      d.ether.buffer.slice off payload.length = payload → ¬ GoodReply payload →
      browserCallback cb buf status off payload.length d = { d with locked := false } := by
  intro h
  have hbad : ¬ GoodReply errorReply := fun hg => absurd hg.1 (by decide)
  have hcb : BrowserCallback.stateParse ≠ .apiSet := by decide
  obtain ⟨d, hd, hchange⟩ := browserCallback_of_accepted (by decide) hasBody_errorReply hasOk_errorReply hcb
  exact hchange (h errorReply .stateParse d 0 0 0 hcb hd hbad)

/-- An error that says so in its body changes the state. -/
theorem bad_reply_changes_nothing_errorReply :
    (∀ (d : Device) (off buf : Nat) (status : Byte), d.ether.buffer.slice off errorReply.length = errorReply →
      ¬ GoodReply errorReply → browserCallback .stateParse buf status off errorReply.length d = { d with locked := false }) ↔
    (GoodReply errorReply ∨ ¬ HasBody errorReply ∨ ¬ HasOk errorReply) :=
  bad_reply_changes_nothing errorReply (by decide) .stateParse (by decide)

/-! ## Where the bytes come from -/

/-- The callback takes what it stores from the payload: `target_mac` and `state` come out the same whatever the rest of the buffer
holds. -/
def TakesFromPayload (cb : BrowserCallback) (off len : Nat) (d : Device) : Prop :=
  ∀ (buf : Nat) (status : Byte) (b : Buffer), (∀ i < len, b.get (off + i) = d.ether.buffer.get (off + i)) →
    (browserCallback cb buf status off len { d with ether := { d.ether with buffer := b } }).targetMac =
      (browserCallback cb buf status off len d).targetMac ∧
    (browserCallback cb buf status off len { d with ether := { d.ether with buffer := b } }).state =
      (browserCallback cb buf status off len d).state

/-- The place of the first header end that has a byte behind it. -/
def FirstHeaderEnd (payload : List Byte) (i : Nat) : Prop :=
  i + headerEnd.length < payload.length ∧ headerEnd <+: payload.drop i ∧ ∀ j < i, ¬ headerEnd <+: payload.drop j

/-- `find_response` returns the place behind the first header end, or nothing. -/
theorem findResponse_first {haystack : Nat → Byte} {payload : List Byte}
    (h : ∀ k, (hk : k < payload.length) → haystack k = payload[k]) :
    (findResponse haystack payload.length = -1 ∧ ¬ (HasOk payload ∧ ∃ i, FirstHeaderEnd payload i)) ∨
      ∃ i, FirstHeaderEnd payload i ∧ HasOk payload ∧ findResponse haystack payload.length = (i + headerEnd.length : Nat) := by
  rw [findResponse]
  cases hf : (List.range (payload.length - headerEnd.length)).find? fun i => matchesAt haystack i headerEnd with
  | none =>
    left
    refine ⟨rfl, ?_⟩
    rintro ⟨_, i, hi, hp, _⟩
    have hnone := List.find?_eq_none.mp hf i (List.mem_range.mpr (by omega))
    exact hnone ((matchesAt_iff h (by omega)).mpr hp)
  | some i =>
    obtain ⟨hm, hmem, hfirst⟩ := List.find?_range_eq_some.mp hf
    have hi := List.mem_range.mp hmem
    have hend : FirstHeaderEnd payload i := by
      refine ⟨by omega, (matchesAt_iff h (by omega)).mp hm, fun j hj hp => ?_⟩
      have hno := hfirst j hj
      rw [(matchesAt_iff h (by omega)).mpr hp] at hno
      cases hno
    by_cases hok : is200 haystack payload.length = true
    · right
      exact ⟨i, hend, (is200_iff h).mp hok, by simp only [hok, if_true]⟩
    · left
      refine ⟨by simp only [hok, Bool.false_eq_true, if_false], fun hc => hok ((is200_iff h).mpr hc.1)⟩

/-- There is one first blank line. -/
theorem FirstHeaderEnd.unique {payload : List Byte} {i j : Nat} (hi : FirstHeaderEnd payload i) (hj : FirstHeaderEnd payload j) :
    i = j := by
  rcases Nat.lt_trichotomy i j with hlt | heq | hlt
  · exact absurd hi.2.1 (hj.2.2 i hlt)
  · exact heq
  · exact absurd hj.2.1 (hi.2.2 j hlt)

/-- The scanner reads the payload and nothing else. -/
theorem findResponse_congr {h h' : Nat → Byte} {len : Nat} (hh : ∀ i < len, h i = h' i) :
    findResponse h len = findResponse h' len := by
  have hlist : ∀ g : Nat → Byte, ∀ k, (hk : k < ((List.range len).map g).length) → g k = ((List.range len).map g)[k] := by
    intro g k hk
    simp
  have hmap : (List.range len).map h = (List.range len).map h' :=
    List.map_congr_left fun i hi => hh i (List.mem_range.mp hi)
  have hlen : ∀ g : Nat → Byte, ((List.range len).map g).length = len := by simp
  have h1 := findResponse_first (hlist h)
  have h2 := findResponse_first (hlist h')
  rw [hlen] at h1 h2
  rw [← hmap] at h2
  rcases h1 with ⟨hr, hn⟩ | ⟨i, hi, hok, hr⟩
  · rcases h2 with ⟨hr', _⟩ | ⟨j, hj, hok', _⟩
    · rw [hr, hr']
    · exact absurd ⟨hok', j, hj⟩ hn
  · rcases h2 with ⟨_, hn'⟩ | ⟨j, hj, _, hr'⟩
    · exact absurd ⟨hok, i, hi⟩ hn'
    · rw [hr, hr', hi.unique hj]

/-- A device with another buffer. -/
def withBuffer (b : Buffer) (d : Device) : Device := { d with ether := { d.ether with buffer := b } }

/-- The address callback on the device: it stores the six bytes behind the first header end of a reply that it accepts. -/
theorem macsParseCallback_targetMac_eq (d : Device) (off len : Nat) (status : Byte) :
    (macsParseCallback status off len d).targetMac =
      if findResponse (bufferAt d off) len = -1 then d.targetMac
      else d.ether.buffer.mac (off + (findResponse (bufferAt d off) len).toNat) := by
  unfold macsParseCallback
  dsimp only
  split <;> rfl

/-- The callback at boot leaves the state alone. -/
theorem macsParseCallback_state (d : Device) (off len : Nat) (status : Byte) :
    (macsParseCallback status off len d).state = d.state := by
  unfold macsParseCallback
  dsimp only
  split <;> rfl

/-- A sync stores the byte behind the blank line, if it finds one. -/
theorem stateParseCallback_state_eq (d : Device) (off len buf : Nat) (status : Byte) :
    (stateParseCallback buf status off len d).state =
      if findResponse (bufferAt d off) len = -1 then d.state
      else d.ether.gPB (off + (findResponse (bufferAt d off) len).toNat) := by
  unfold stateParseCallback
  dsimp only
  split <;> rfl

/-- It leaves the target's link address alone. -/
theorem stateParseCallback_targetMac (d : Device) (off len buf : Nat) (status : Byte) :
    (stateParseCallback buf status off len d).targetMac = d.targetMac := by
  unfold stateParseCallback
  dsimp only
  split <;> rfl

/-- Where the payload is the same, the scanner finds the same. -/
theorem findResponse_withBuffer {d : Device} {off len : Nat} {b : Buffer}
    (hb : ∀ i < len, b.get (off + i) = d.ether.buffer.get (off + i)) :
    findResponse (bufferAt (withBuffer b d) off) len = findResponse (bufferAt d off) len := findResponse_congr hb

/-- The payload as a list, and the scanner on it. -/
theorem findResponse_payload (d : Device) (off len : Nat) :
    (findResponse (bufferAt d off) len = -1 ∧
      ¬ (HasOk (d.ether.buffer.slice off len) ∧ ∃ i, FirstHeaderEnd (d.ether.buffer.slice off len) i)) ∨
    ∃ i, FirstHeaderEnd (d.ether.buffer.slice off len) i ∧ HasOk (d.ether.buffer.slice off len) ∧
      findResponse (bufferAt d off) len = (i + headerEnd.length : Nat) := by
  have hlen : (d.ether.buffer.slice off len).length = len := Buffer.length_slice _ _ _
  have hat : ∀ k, (hk : k < (d.ether.buffer.slice off len).length) → bufferAt d off k = (d.ether.buffer.slice off len)[k] :=
    bufferAt_eq (by rw [hlen])
  have h := findResponse_first hat
  rwa [hlen] at h

/-- What a sync stores is in the payload. -/
theorem stateParse_takesFromPayload (off len : Nat) (d : Device) : TakesFromPayload .stateParse off len d := by
  intro buf status b hb
  have hr := findResponse_withBuffer hb
  change (stateParseCallback buf status off len (withBuffer b d)).targetMac = (stateParseCallback buf status off len d).targetMac ∧
    (stateParseCallback buf status off len (withBuffer b d)).state = (stateParseCallback buf status off len d).state
  rw [stateParseCallback_targetMac, stateParseCallback_targetMac, stateParseCallback_state_eq, stateParseCallback_state_eq, hr]
  refine ⟨rfl, ?_⟩
  rcases findResponse_payload d off len with ⟨hn, _⟩ | ⟨i, hi, _, hri⟩
  · rw [if_pos hn, if_pos hn]
    rfl
  · have hlt : i + headerEnd.length < len := by simpa using hi.1
    rw [hri, if_neg (by omega), if_neg (by omega), Int.toNat_natCast]
    exact hb _ hlt

/-- The address callback takes its bytes from the payload exactly if, for a reply that it accepts, six bytes stand behind the first
header end. -/
theorem macsParse_takesFromPayload_iff {off len : Nat} (d : Device) (h : off + len < BUFFER_SIZE) :
    TakesFromPayload .macsParse off len d ↔
      (HasOk (d.ether.buffer.slice off len) → ∀ i, FirstHeaderEnd (d.ether.buffer.slice off len) i →
        i + headerEnd.length + 6 ≤ len) := by
  constructor
  · intro htake hok i hi
    by_contra hshort
    have hlt : i + headerEnd.length < len := by simpa using hi.1
    -- the byte behind the payload is among the six: change it
    let b := d.ether.buffer.write (off + len) [~~~d.ether.buffer.get (off + len)]
    have hb : ∀ k < len, b.get (off + k) = d.ether.buffer.get (off + k) := fun k hk =>
      Buffer.get_write_of_not_mem (Or.inl (by omega))
    have hbyte : b.get (off + len) = ~~~d.ether.buffer.get (off + len) := by
      rw [Buffer.get_write, if_pos ⟨Nat.le_refl _, by simp, h⟩, Nat.sub_self]
      rfl
    have hr := findResponse_withBuffer hb
    have hri : findResponse (bufferAt d off) len = (i + headerEnd.length : Nat) := by
      rcases findResponse_payload d off len with ⟨_, hn⟩ | ⟨j, hj, _, hrj⟩
      · exact absurd ⟨hok, i, hi⟩ hn
      · rw [hrj, hi.unique hj]
    obtain ⟨hmac, _⟩ := htake 0 0 b hb
    change (macsParseCallback 0 off len (withBuffer b d)).targetMac = (macsParseCallback 0 off len d).targetMac at hmac
    rw [macsParseCallback_targetMac_eq, macsParseCallback_targetMac_eq, hr, hri, if_neg (by omega), if_neg (by omega),
      Int.toNat_natCast] at hmac
    have hk : len - (i + headerEnd.length) < 6 := by omega
    have hplace : off + (i + headerEnd.length) + (len - (i + headerEnd.length)) = off + len := by omega
    have hbytes : b.get (off + len) = d.ether.buffer.get (off + len) := by
      have hget : (b.mac (off + (i + headerEnd.length)))[len - (i + headerEnd.length)] =
          (d.ether.buffer.mac (off + (i + headerEnd.length)))[len - (i + headerEnd.length)] :=
        congrArg (fun m : Mac => m[len - (i + headerEnd.length)]) hmac
      rw [Buffer.getElem_mac _ _ hk, Buffer.getElem_mac _ _ hk, hplace] at hget
      exact hget
    have hne : ∀ x : Byte, ~~~x ≠ x := by decide
    rw [hbyte] at hbytes
    exact hne _ hbytes
  · intro hsix buf status b hb
    have hr := findResponse_withBuffer hb
    change (macsParseCallback status off len (withBuffer b d)).targetMac = (macsParseCallback status off len d).targetMac ∧
      (macsParseCallback status off len (withBuffer b d)).state = (macsParseCallback status off len d).state
    rw [macsParseCallback_state, macsParseCallback_state, macsParseCallback_targetMac_eq, macsParseCallback_targetMac_eq, hr]
    refine ⟨?_, rfl⟩
    rcases findResponse_payload d off len with ⟨hn, _⟩ | ⟨i, hi, hok, hri⟩
    · rw [if_pos hn, if_pos hn]
      rfl
    · have hle := hsix hok i hi
      rw [hri, if_neg (by omega), if_neg (by omega), Int.toNat_natCast]
      refine Vector.ext fun k hk => ?_
      rw [Buffer.getElem_mac _ _ hk, Buffer.getElem_mac _ _ hk, Nat.add_assoc off]
      exact hb _ (by omega)

/-- Which received frames a callback completes with bytes from outside of the reply. The packet loop hands on a payload that lies in
the frame; `state_parse_callback` and `api_set_callback` never take anything else, and `macs_parse_callback` does exactly if it
accepts a reply with fewer than six bytes behind the first header end. -/
theorem reply_bytes_from_reply (plen : Nat) (hplen : plen < BUFFER_SIZE) (d : Device) (status : Byte) (off len : Nat)
    (h : wwwClientInternalResultCb (packetLoopReceived plen d.ether).1 (packetLoopReceived plen d.ether).2 = some (status, off, len))
    (cb : BrowserCallback) :
    off + len ≤ plen ∧
      let d' := d.net fun e => (packetLoopReceived plen e).1
      let payload := d'.ether.buffer.slice off len
      (TakesFromPayload cb off len d' ↔
        (cb = .macsParse → HasOk payload → ∀ i, FirstHeaderEnd payload i → i + headerEnd.length + 6 ≤ payload.length)) := by
  have hle := wwwClientInternalResultCb_le plen d.ether rfl h
  refine ⟨hle, ?_⟩
  dsimp only
  rw [Buffer.length_slice]
  cases cb with
  | apiSet => exact ⟨fun _ => nofun, fun _ _ _ _ _ => ⟨rfl, rfl⟩⟩
  | stateParse => exact ⟨fun _ => nofun, fun _ => stateParse_takesFromPayload _ _ _⟩
  | macsParse =>
    rw [macsParse_takesFromPayload_iff _ (by omega)]
    exact ⟨fun hsix _ => hsix, fun hsix => hsix rfl⟩

/-- The house has asked for the target's address, and the server's segment with a reply of three body bytes has come. -/
def shortReply : List Byte := serverReply (clientPort 1) (okReply [0x02, 0, 0])

def awaitingMac : Device :=
  { powerOn blank blank with
    ether := packetReceiveInto (.frame shortReply)
      { etherStatics with
        cfg := { etherStatics.cfg with myip := houseIp, hisip := serverIp }
        tcp := { etherStatics.tcp with
          tcpFd := 1
          wwwFd := 1
          tcpClientState := 3
          clientTcpCb := true
          clientBrowserCb := some .macsParse } } }

set_option maxRecDepth 10000 in
/-- The packet loop hands the callback 22 bytes of the reply. -/
theorem awaitingMac_handed :
    wwwClientInternalResultCb (packetLoopReceived shortReply.length awaitingMac.ether).1
      (packetLoopReceived shortReply.length awaitingMac.ether).2 = some (0, 54, 22) := by decide +kernel

set_option maxRecDepth 10000 in
/-- The last two bytes of the target's address are those that an earlier packet left behind the reply. -/
theorem short_reply_completed :
    ¬ ∀ (plen : Nat) (d : Device) (status : Byte) (off len : Nat), plen < BUFFER_SIZE →
      wwwClientInternalResultCb (packetLoopReceived plen d.ether).1 (packetLoopReceived plen d.ether).2 = some (status, off, len) →
      ∀ cb, TakesFromPayload cb off len (d.net fun e => (packetLoopReceived plen e).1) := by
  intro h
  have htake := h shortReply.length awaitingMac 0 54 22 (by decide) awaitingMac_handed .macsParse
  let b := ((awaitingMac.net fun e => (packetLoopReceived shortReply.length e).1).ether.buffer).write 77 [0xAB, 0xCD]
  obtain ⟨hmac, _⟩ := htake 0 0 b fun i hi => Buffer.get_write_of_not_mem (Or.inl (by omega))
  exact absurd hmac (by decide +kernel)

/-- These lie in the frame that was received. -/
theorem reply_bytes_from_reply_short :
    54 + 22 ≤ shortReply.length ∧
      let d' := awaitingMac.net fun e => (packetLoopReceived shortReply.length e).1
      let payload := d'.ether.buffer.slice 54 22
      (TakesFromPayload .macsParse 54 22 d' ↔
        (BrowserCallback.macsParse = .macsParse → HasOk payload → ∀ i, FirstHeaderEnd payload i →
          i + headerEnd.length + 6 ≤ payload.length)) :=
  reply_bytes_from_reply shortReply.length (by decide) awaitingMac 0 54 22 awaitingMac_handed .macsParse

/-! ## What a state reply stores -/

/-- The byte that `state_parse_callback` takes from a payload, if it accepts it. -/
def storedByte (payload : List Byte) : Option Byte :=
  let seekLocation := findResponse (fun i => payload.getD i 0) payload.length
  if seekLocation = -1 then none else some (payload.getD seekLocation.toNat 0)

/-- The callback on the device, by the payload alone. -/
theorem stateParseCallback_storedByte (d : Device) (off len buf : Nat) (status : Byte) :
    (storedByte (d.ether.buffer.slice off len) = none ∧ stateParseCallback buf status off len d = { d with locked := false }) ∨
      ∃ b, storedByte (d.ether.buffer.slice off len) = some b ∧ stateParseCallback buf status off len d =
        { saveStateToEeprom (syncLeds ({ d with state := b }.net (syslogRam d.flash buf))) with locked := false } := by
  have hlen : (d.ether.buffer.slice off len).length = len := Buffer.length_slice _ _ _
  have hscan : findResponse (fun i => (d.ether.buffer.slice off len).getD i 0) len = findResponse (bufferAt d off) len :=
    findResponse_congr fun i hi => Buffer.getD_slice _ _ hi
  unfold storedByte stateParseCallback
  dsimp only
  rw [hlen, hscan]
  rcases findResponse_payload d off len with ⟨hn, _⟩ | ⟨i, hi, _, hri⟩
  · left
    simp only [hn, if_true, and_self]
  · right
    have hlt : i + headerEnd.length < len := by simpa using hi.1
    rw [hri, if_neg (by omega), if_neg (by omega), Int.toNat_natCast, Buffer.getD_slice _ _ hlt]
    exact ⟨_, rfl, rfl⟩

/-- The other two callbacks touch neither the state nor what is made of it. -/
theorem browserCallback_other {cb : BrowserCallback} (hcb : cb ≠ .stateParse) (buf : Nat) (status : Byte) (off len : Nat) (d : Device) :
    ∃ mac sniffers, browserCallback cb buf status off len d =
      { d with targetMac := mac, sniffers := sniffers, locked := false } := by
  cases cb with
  | stateParse => exact absurd rfl hcb
  | apiSet => exact ⟨d.targetMac, d.sniffers, rfl⟩
  | macsParse =>
    simp only [browserCallback, macsParseCallback, snifferListenForMac]
    split
    · exact ⟨d.targetMac, d.sniffers, rfl⟩
    · exact ⟨_, _, rfl⟩

end EtherHouse
