import EtherHouse.Net.Return
import EtherHouse.Theorems.Frames
import EtherHouse.Theorems.Hook

/-!
# Whom the packet loop answers

In every run: what goes out between the classification of a frame and the next event, which is the request, the result callback or
the loop's return, answers what was classified. The hook says when that is the frame that was received.
-/

namespace EtherHouse

/-! ## From the classification on -/

/-- Where a packet loop stands after it has classified a frame, and the library's state then: `e` is its state at the classification. -/
def Answering (plen : Nat) (e : Ether) : List Act → Ether → Prop
  | .packetLoop plen' .tail :: _, e' => plen' = plen ∧ e' = e
  | .packetLoop _ (.upcall u) :: _, e' => packetLoopReceived plen e = (e', u)
  | .packetLoop _ (.closing u) :: _, e' => packetLoopReceived plen e = (e', u)
  | .packetLoop _ .fin :: _, e' => Adds (AnswerTo e) e e'
  | _, _ => False

/-- The length of the frame that an event classifies. -/
def Event.classified : Event → Option Nat
  | .classify plen => some plen
  | _ => none

section

variable {plen : Nat} {e e' : Ether} {st st' : List Act}

/-- All that has gone out by then answers. -/
theorem Answering.adds (h : Answering plen e st e') : Adds (AnswerTo e) e e' := by
  unfold Answering at h
  split at h
  · obtain ⟨_, rfl⟩ := h
    exact Adds.refl _
  · have hadds := answerTo_packetLoopReceived plen e
    rwa [h] at hadds
  · have hadds := answerTo_packetLoopReceived plen e
    rwa [h] at hadds
  · exact h
  · exact h.elim

/-- What logs answers nothing. -/
theorem Answering.not_of_logs (h : Answering plen e st e') : ¬Logs st := by
  unfold Answering at h
  split at h
  · exact id
  · exact id
  · exact id
  · exact id
  · exact h.elim

/-- The latest event is a classification, and no more than its answers has gone out since. -/
def Owing (st : List Act) (w : World) : Prop :=
  ∀ plen d before, w.trace = (.classify plen, d) :: before → Answering plen d.ether st w.dev.ether

/-- After another event nothing is owed. -/
theorem owing_of_noted {w : World} {ev : Event} {d : Device} {past : Trace} (ht : w.trace = (ev, d) :: past)
    (hev : ev.classified = none) : Owing st w := by
  intro plen d' before he
  rw [ht] at he
  cases he
  cases hev

/-- The library's steps: the classification's own, and what follows the result callback. -/
theorem NetStep.owing {w : World} {note : Option Event} {f : Ether → Ether} (hs : NetStep st w.dev note f st') (h : Owing st w) :
    Owing st' ((w.note note).update (Device.net f)) := by
  cases hs with
  | log msg d hl => exact fun plen d before he => absurd hl (h plen d before he).not_of_logs
  | dhcp => exact owing_of_noted rfl rfl
  | idle => exact owing_of_noted rfl rfl
  | @ret plen pos d st hret =>
    intro plen d before he
    obtain ⟨rfl, heq⟩ := h plen d before he
    change Adds _ _ (packetLoopReceived _ w.dev.ether).1
    rw [heq]
    exact answerTo_packetLoopReceived _ _
  | @upcall plen u d st hu hr hq =>
    intro plen d before he
    obtain ⟨rfl, heq⟩ := h plen d before he
    change packetLoopReceived _ _ = ((packetLoopReceived _ w.dev.ether).1, u)
    rw [← hu, heq]
  | close plen u st =>
    intro plen d before he
    exact answerTo_packetLoopAfter (h plen d before he)
  | browse => exact fun plen d before he => (h plen d before he).elim
  | probe => exact owing_of_noted rfl rfl
  | ping => exact owing_of_noted rfl rfl
  | icmp => exact fun plen d before he => (h plen d before he).elim
  | boot => exact fun plen d before he => (h plen d before he).elim

/-- With each step, what has gone out since the classification answers it. -/
theorem Step.owing {w w' : World} (hs : Step st w st' w') (h : Owing st w) : Owing st' w' := by
  cases hs with
  | tick => exact h
  | net hn => exact hn.owing h
  | ctrl hc =>
    cases hc with
    | noParse plen st hno => exact h
    | _ => exact fun plen d before he => (h plen d before he).elim
  | mark hm =>
    cases hm with
    | hooked st =>
      intro plen d before he
      cases he
      exact ⟨rfl, rfl⟩
    | _ => exact owing_of_noted rfl rfl
  | timer ht => cases ht <;> exact fun plen d before he => (h plen d before he).elim
  | lock => exact fun plen d before he => (h plen d before he).elim
  | bootApiIp => exact fun plen d before he => (h plen d before he).elim
  | poll => exact owing_of_noted rfl rfl
  | receive => exact owing_of_noted rfl rfl
  | sniff => exact owing_of_noted rfl rfl
  | toggleOn => exact owing_of_noted rfl rfl
  | toggleOff => exact owing_of_noted rfl rfl
  | learn => exact owing_of_noted rfl rfl
  | unsniff => exact owing_of_noted rfl rfl
  | requested => exact owing_of_noted rfl rfl
  | parse => exact owing_of_noted rfl rfl
  | forget => exact owing_of_noted rfl rfl

/-- So it is wherever a run has got. -/
theorem Reach.owing {w : World} (h : Reach PowerUp st w) : Owing st w := by
  refine h.invariant (fun st w hi => ?_) fun st w st' w' hr ho hs => hs.owing ho
  obtain ⟨rfl, eeprom, flash, rfl⟩ := hi
  exact owing_of_noted rfl rfl

/-- At any event after a classification, what has gone out in between answers. -/
theorem Notes.adds {w : World} {ev : Event} {d d₀ : Device} {past before : Trace} (hn : Notes st w ev d past) (ho : Owing st w)
    (he : past = (.classify plen, d₀) :: before) : Adds (AnswerTo d₀.ether) d₀.ether d.ether := by
  cases hn with
  | net => exact (ho plen d₀ before he).adds
  | mark => exact (ho plen d₀ before he).adds
  | parse => exact (ho plen d₀ before he).adds
  | received a => exact (ho plen d₀ before he).adds.trans (adds_packetReceiveInto a _)
  | poll => cases he
  | requested st hq =>
    obtain ⟨rfl, heq⟩ := ho plen d₀ before he
    change Adds _ _ (packetLoopReceived _ w.dev.ether).1
    rw [heq]
    exact answerTo_packetLoopReceived _ _
  | sniff => exact (ho plen d₀ before he).elim
  | toggleOn => exact (ho plen d₀ before he).elim
  | toggleOff => exact (ho plen d₀ before he).elim
  | learn => exact (ho plen d₀ before he).elim
  | unsniff => exact (ho plen d₀ before he).elim
  | forget => exact (ho plen d₀ before he).elim

/-- Only a poll notes two events at once. -/
theorem Notes.trace_eq {w : World} {ev : Event} {d d₀ : Device} {past before : Trace} (hn : Notes st w ev d past)
    (he : past = (.classify plen, d₀) :: before) : w.trace = past := by
  cases hn with
  | poll => cases he
  | _ => rfl

end

/-! ## In every run -/

/-- Of what has been added to the cable, the frames that were sent. -/
theorem Adds.sentFrames {P : List Byte → Prop} {e e' : Ether} (h : Adds P e e') :
    ∃ new, e'.sentFrames = new ++ e.sentFrames ∧ ∀ frame ∈ new, P frame := by
  obtain ⟨new, hw, hp⟩ := h
  unfold Ether.sentFrames
  rw [hw, List.filterMap_append]
  refine ⟨_, rfl, fun frame hf => ?_⟩
  obtain ⟨x, hx, hxf⟩ := List.mem_filterMap.mp hf
  cases x with
  | sent frame' =>
    cases hxf
    exact hp frame hx
  | received _ => cases hxf

/-- Where the latest event is a classification: what was classified is the frame that was received, unless it was disturbed, and each
frame that has gone out since answers it. -/
def AnswersBack (d : Device) : Trace → Prop
  | (.classify plen, d₀) :: before =>
    (Undisturbed before → (openLoops before).head?.map (·.1) = some (d₀.ether.buffer.slice 0 plen)) ∧
      ∃ new, d.ether.sentFrames = new ++ d₀.ether.sentFrames ∧ ∀ frame ∈ new, AnswerTo d₀.ether frame
  | _ => True

/-- In every run, at every event: what the packet loop has sent since it classified a frame goes back to that frame's sender. -/
theorem answers_back (eeprom flash : Nat → Byte) (tape : List Input) :
    Always (fun _ d past => AnswersBack d past) (run eeprom flash tape).trace := by
  obtain ⟨st, hr⟩ := run_reached eeprom flash tape
  refine hr.always ?_ fun st w ev d past hr hn => ?_
  · rintro st w ⟨rfl, eeprom, flash, rfl⟩
    exact ⟨trivial, trivial, trivial, trivial⟩
  · unfold AnswersBack
    split
    · next plen d₀ before =>
      refine ⟨fun hu => ?_, ?_⟩
      · -- the classification was noted with the frame in the buffer
        have hkept := hr.kept
        rw [hn.trace_eq rfl] at hkept
        exact hkept.1.transparent hu plen rfl
      · exact (hn.adds hr.owing rfl).sentFrames
    · trivial

/-- A boot with the house on, and the phone asks for the house's link address. -/
def phoneAsks : List Input := bootWith 0x01 ++ framePoll (ethernetArp broadcastMac phoneMac (arp 1 phoneMac phoneIp noMac houseIp)) ++ silence 7

/-- The latest event is the classification of an undisturbed frame from `srcMac`, and what has gone out last, and since, is a frame of
this EtherType. -/
def replied (srcMac : Mac) (etype : Nat) (d : Device) : Trace → Bool
  | (.classify _, d₀) :: before =>
    decide (d₀.ether.sentFrames.length < d.ether.sentFrames.length) && wordAt (d.ether.sentFrames.headD []) ETH_TYPE_H_P == etype &&
      d₀.ether.buffer.mac ETH_SRC_MAC == srcMac && decide (Undisturbed before)
  | _ => false

set_option maxRecDepth 10000 in
/-- The server's SYN-ACK is answered to the gateway it came from, and the phone's question to the phone. -/
theorem answers_back_asked :
    Sometimes (fun _ d past => replied gatewayMac 0x0800 d past = true ∧ AnswersBack d past) (run blank blank phoneAsks).trace ∧
      Sometimes (fun _ d past => replied phoneMac 0x0806 d past = true ∧ AnswersBack d past) (run blank blank phoneAsks).trace := by
  have hmet : Sometimes (fun _ d past => replied gatewayMac 0x0800 d past = true) (run blank blank phoneAsks).trace ∧
      Sometimes (fun _ d past => replied phoneMac 0x0806 d past = true) (run blank blank phoneAsks).trace := by
    decide +kernel
  have hback := answers_back blank blank phoneAsks
  exact ⟨hback.sometimes hmet.1, hback.sometimes hmet.2⟩

end EtherHouse
