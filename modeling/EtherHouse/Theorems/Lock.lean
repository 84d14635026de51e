import EtherHouse.Machine.Exchange

/-!
# The lock and the nesting flag

The discipline of `locked` and `sniffer_nested` at every moment of every run from power-on: which calls can be open together, who can
find the lock taken, and that a server call returns only after its own callback.
-/

namespace EtherHouse

/-! ## How many calls are open -/

def Call.isApi : Call → Bool
  | .api _ => true
  | _ => false

/-- At most two server calls, two packet loops and one working callback of the sniffer. -/
structure Bounded (cs : List Call) : Prop where
  apis : cs.countP Call.isApi ≤ 2
  packetLoops : cs.count .packetLoop ≤ 2
  sniffers : cs.count .sniffer ≤ 1

/-- How many server calls, packet loops and working callbacks of the sniffer a stack holds. -/
def apiCount (st : List Act) : Nat := (calls st).countP Call.isApi

def pollCount (st : List Act) : Nat := (calls st).count .packetLoop

def sniffCount (st : List Act) : Nat := (calls st).count .sniffer

section counts

variable (st : List Act)

/-- A server call is counted as one. -/
theorem counts_api (k : Api) (p : ApiPhase) :
    apiCount (.api k p :: st) = apiCount st + 1 ∧ pollCount (.api k p :: st) = pollCount st ∧
      sniffCount (.api k p :: st) = sniffCount st := by
  simp [apiCount, pollCount, sniffCount, calls, Act.call, Call.isApi, List.countP_cons]

/-- So is a packet loop. -/
theorem counts_packetLoop (plen : Nat) (p : LoopPhase) :
    apiCount (.packetLoop plen p :: st) = apiCount st ∧ pollCount (.packetLoop plen p :: st) = pollCount st + 1 ∧
      sniffCount (.packetLoop plen p :: st) = sniffCount st := by
  simp [apiCount, pollCount, sniffCount, calls, Act.call, Call.isApi]

/-- So is a working callback of the sniffer. -/
theorem counts_sniffer (p : SniffPhase) (srcIp : Nat) :
    apiCount (.sniffer p srcIp :: st) = apiCount st ∧ pollCount (.sniffer p srcIp :: st) = pollCount st ∧
      sniffCount (.sniffer p srcIp :: st) = sniffCount st + 1 := by
  simp [apiCount, pollCount, sniffCount, calls, Act.call, Call.isApi]

end counts

/-- Where `loop` and `setup` make their calls, nothing is counted. -/
theorem Site.counts {k : Api} {st : List Act} (h : Site k st) : apiCount st = 0 ∧ pollCount st = 0 ∧ sniffCount st = 0 := by
  cases h <;> exact ⟨rfl, rfl, rfl⟩

/-- An outer activation has one server call below it, at most. -/
theorem OuterCalm.counts {st : List Act} (h : OuterCalm st) : apiCount st ≤ 1 ∧ pollCount st = 0 ∧ sniffCount st = 0 := by
  cases h with
  | setup => exact ⟨Nat.zero_le _, rfl, rfl⟩
  | loop => exact ⟨Nat.zero_le _, rfl, rfl⟩
  | sweep => exact ⟨Nat.zero_le _, rfl, rfl⟩
  | lastDitch => exact ⟨Nat.zero_le _, rfl, rfl⟩
  | draining h =>
    obtain ⟨h1, h2, h3⟩ := h.counts
    simp only [counts_api]
    omega

/-- What a server call returns to has one of each, at most. -/
theorem Home.counts {k : Api} {st : List Act} {n : Bool} (h : Home k st n) :
    apiCount st ≤ 1 ∧ pollCount st ≤ 1 ∧ sniffCount st ≤ 1 := by
  cases h with
  | outer h =>
    obtain ⟨h1, h2, h3⟩ := h.counts
    omega
  | inner plen srcIp h =>
    obtain ⟨h1, h2, h3⟩ := h.counts
    simp only [counts_sniffer, counts_packetLoop]
    omega

/-- What polls has two server calls, at most, and no more than one of the others. -/
theorem Calm.counts {st : List Act} {n : Bool} (h : Calm st n) : apiCount st ≤ 2 ∧ pollCount st ≤ 1 ∧ sniffCount st ≤ 1 := by
  cases h with
  | outer h =>
    obtain ⟨h1, h2, h3⟩ := h.counts
    omega
  | inner h =>
    obtain ⟨h1, h2, h3⟩ := h.counts
    simp only [counts_api]
    omega

/-- What the sniffer's callback returns to has a packet loop, and one server call at most. -/
theorem Sniffed.counts {st : List Act} {l : Bool} (h : Sniffed st l) : apiCount st ≤ 1 ∧ pollCount st = 1 ∧ sniffCount st = 0 := by
  cases h with
  | calm plen h =>
    obtain ⟨h1, h2, h3⟩ := h.counts
    simp only [counts_packetLoop]
    omega
  | waiting plen h =>
    obtain ⟨h1, h2, h3⟩ := h.counts
    simp only [counts_packetLoop, counts_api]
    omega

/-- No stack of a run is deeper. -/
theorem Disciplined.bounded {st : List Act} {l n : Bool} (h : Disciplined st l n) : Bounded (calls st) := by
  have hb : apiCount st ≤ 2 ∧ pollCount st ≤ 2 ∧ sniffCount st ≤ 1 := by
    cases h with
    | idle => exact ⟨Nat.zero_le _, Nat.zero_le _, Nat.zero_le _⟩
    | absence => exact ⟨Nat.zero_le _, Nat.zero_le _, Nat.zero_le _⟩
    | toggleOff => exact ⟨Nat.zero_le _, Nat.zero_le _, Nat.zero_le _⟩
    | calm h =>
      obtain ⟨h1, h2, h3⟩ := h.counts
      omega
    | calling h =>
      obtain ⟨h1, h2, h3⟩ := h.counts
      simp only [counts_api]
      omega
    | armed h =>
      obtain ⟨h1, h2, h3⟩ := h.counts
      simp only [counts_api]
      omega
    | waiting h =>
      obtain ⟨h1, h2, h3⟩ := h.counts
      simp only [counts_api]
      omega
    | pollCalm h =>
      obtain ⟨h1, h2, h3⟩ := h.counts
      simp only [counts_packetLoop]
      omega
    | pollWaiting h =>
      obtain ⟨h1, h2, h3⟩ := h.counts
      simp only [counts_packetLoop, counts_api]
      omega
    | closing h =>
      obtain ⟨h1, h2, h3⟩ := h.counts
      simp only [counts_packetLoop, counts_api]
      omega
    | closed h =>
      obtain ⟨h1, h2, h3⟩ := h.counts
      simp only [counts_packetLoop, counts_api]
      omega
    | sniffer h =>
      obtain ⟨h1, h2, h3⟩ := h.counts
      simp only [counts_sniffer]
      omega
    | toggleOn h srcIp =>
      obtain ⟨h1, h2, h3⟩ := h.counts
      have htoggle : ∀ st, apiCount (.toggle true :: st) = apiCount st ∧ pollCount (.toggle true :: st) = pollCount st ∧
          sniffCount (.toggle true :: st) = sniffCount st := fun _ => ⟨rfl, rfl, rfl⟩
      simp only [htoggle, counts_sniffer]
      omega
  exact ⟨hb.1, hb.2.1, hb.2.2⟩

/-! ## The top level -/

/-- Control is between two calls of `loop`, or in `loop` itself. -/
def AtTop (tr : Trace) : Prop := openCalls tr = [] ∨ openCalls tr = [.loop]

/-- At the top level both flags are clear. -/
theorem Disciplined.top {st : List Act} {l n : Bool} (h : Disciplined st l n) (ht : calls st = [] ∨ calls st = [.loop]) :
    l = false ∧ n = false := by
  cases h with
  | idle => exact ⟨rfl, rfl⟩
  | absence => exact ⟨rfl, rfl⟩
  | toggleOff => exact ⟨rfl, rfl⟩
  | calm h => cases h with
    | outer h => exact ⟨rfl, rfl⟩
    | inner h => simp [calls, Act.call] at ht
  | calling h => simp [calls, Act.call] at ht
  | armed h => simp [calls, Act.call] at ht
  | waiting h => simp [calls, Act.call] at ht
  | pollCalm h => simp [calls, Act.call] at ht
  | pollWaiting h => simp [calls, Act.call] at ht
  | closing h => simp [calls, Act.call] at ht
  | closed h => simp [calls, Act.call] at ht
  | sniffer h => simp [calls, Act.call] at ht
  | toggleOn h srcIp => simp [calls, Act.call, List.filterMap_cons] at ht

/-! ## The discipline -/

/-- What holds of every event. -/
structure Lawful (ev : Event) (d : Device) (past : Trace) : Prop where
  top : AtTop ((ev, d) :: past) → d.locked = false ∧ d.snifferNested = false
  /-- only `api_set_on` called by the sniffer's callback finds the lock taken, and it is the second server call then -/
  aborted : ∀ k, ev = .aborted k → k = .on ∧ (openCalls past).head? = some .sniffer ∧ (openCalls past).countP Call.isApi ≤ 1
  /-- a server call returns after its own callback -/
  answered : ∀ k, ev = .leave (.api k) → (openApis past).head? = some (k, true)
  bounded : Bounded (openCalls ((ev, d) :: past))

/-- Who finds the lock taken, and how many server calls are open then. -/
theorem CallSite.onSniffer {k : Api} {st st' : List Act} {n : Bool} (hs : CallSite k st st') (h : Disciplined st true n) :
    k = .on ∧ (EtherHouse.calls st).head? = some .sniffer ∧ apiCount st ≤ 1 := by
  obtain ⟨rfl, _⟩ := (hs.disciplined h).2 rfl
  cases hs with
  | on =>
    cases h with
    | toggleOn h srcIp =>
      have hcount := (counts_sniffer _ .lit srcIp).1.le.trans h.counts.1
      exact ⟨rfl, rfl, hcount⟩

/-- An event that is neither a return from a server call nor one that gives up is lawful on a stack of a run. -/
theorem lawful_of {st : List Act} {d : Device} {l n : Bool} {ev : Event} {past : Trace} (hd : Disciplined st l n)
    (ht : openCalls ((ev, d) :: past) = calls st) (hf : AtTop ((ev, d) :: past) → d.locked = l ∧ d.snifferNested = n)
    (ha : ∀ k, ev = .aborted k → k = .on ∧ (openCalls past).head? = some .sniffer ∧ (openCalls past).countP Call.isApi ≤ 1)
    (hl : ∀ k, ev = .leave (.api k) → (openApis past).head? = some (k, true)) : Lawful ev d past where
  top := by
    intro h
    obtain ⟨hdl, hdn⟩ := hf h
    unfold AtTop at h
    rw [ht] at h
    rw [hdl, hdn]
    exact hd.top h
  aborted := ha
  answered := hl
  bounded := by
    rw [ht]
    exact hd.bounded

/-- Every event is noted where the discipline allows it. -/
theorem MarkStep.lawful {st st' : List Act} {w : World} {ev : Event} (hs : MarkStep st w.dev ev st') (hw : WellStacked st w)
    (ht : EtherHouse.openCalls w.trace = EtherHouse.calls st) (ha : Answered st w) : Lawful ev w.dev w.trace := by
  have hw' : Disciplined st' w.dev.locked w.dev.snifferNested := hs.disciplined hw
  have ht' := hs.openCalls ht
  refine lawful_of hw' ht' (fun _ => ⟨rfl, rfl⟩) ?_ ?_
  · rintro k rfl
    cases hs with
    | abort hc hl =>
      have hd : Disciplined st true w.dev.snifferNested := hl ▸ hw
      rw [ht]
      exact hc.onSniffer hd
  · rintro k rfl
    cases hs with
    | leave k =>
      have hran := ha.ran
      have hcons : apis (.api k .draining :: st') = (k, .draining) :: apis st' := rfl
      rw [hcons] at hran
      generalize openApis w.trace = os at hran ⊢
      cases hran with
      | @cons _ b _ _ hb _ =>
        obtain ⟨hb1, hb2⟩ := hb
        rw [List.head?_cons, Option.some.injEq]
        exact Prod.ext hb1 (hb2 rfl)

/-- One step keeps the discipline of the trace. -/
theorem Step.lawful {st st' : List Act} {w w' : World} (hs : Step st w st' w') (hw : WellStacked st w)
    (ht : EtherHouse.openCalls w.trace = EtherHouse.calls st) (ha : Answered st w) (h : Always Lawful w.trace) : Always Lawful w'.trace := by
  have hw' := hs.wellStacked hw
  have ht' := hs.openCalls ht
  cases hs with
  | tick => exact h
  | net hn =>
    cases hn with
    | dhcp => exact ⟨lawful_of hw ht (fun _ => ⟨rfl, rfl⟩) nofun nofun, h⟩
    | idle => exact ⟨lawful_of hw ht (fun _ => ⟨rfl, rfl⟩) nofun nofun, h⟩
    | probe => exact ⟨lawful_of hw ht (fun _ => ⟨rfl, rfl⟩) nofun nofun, h⟩
    | ping => exact ⟨lawful_of hw ht (fun _ => ⟨rfl, rfl⟩) nofun nofun, h⟩
    | _ => exact h
  | ctrl => exact h
  | mark hm => exact ⟨hm.lawful hw ht ha, h⟩
  | timer => exact h
  | poll a hp =>
    have hr : Lawful (.received a) (w.dev.net (packetReceiveInto a)) w.trace :=
      lawful_of hw ht (fun _ => ⟨rfl, rfl⟩) nofun nofun
    exact ⟨lawful_of hw' ht' (fun _ => ⟨rfl, rfl⟩) nofun nofun, hr, h⟩
  | receive a => exact ⟨lawful_of hw ht (fun _ => ⟨rfl, rfl⟩) nofun nofun, h⟩
  | @sniff plen srcIp _ st hn hs hm =>
    -- the flag is set after the event, but the callback is not at the top level
    refine ⟨lawful_of hw' ht' (fun htop => ?_) nofun nofun, h⟩
    have hopen : EtherHouse.openCalls ((.enter .sniffer, w.dev) :: w.trace) = .sniffer :: EtherHouse.openCalls w.trace := rfl
    rw [AtTop, hopen] at htop
    simp at htop
  | toggleOn => exact ⟨lawful_of hw' ht' (fun _ => ⟨rfl, rfl⟩) nofun nofun, h⟩
  | toggleOff => exact ⟨lawful_of hw' ht' (fun _ => ⟨rfl, rfl⟩) nofun nofun, h⟩
  | learn => exact ⟨lawful_of hw' ht' (fun _ => ⟨rfl, rfl⟩) nofun nofun, h⟩
  | unsniff => exact ⟨lawful_of hw' ht' (fun _ => ⟨rfl, rfl⟩) nofun nofun, h⟩
  | requested => exact ⟨lawful_of hw' ht' (fun _ => ⟨rfl, rfl⟩) nofun nofun, h⟩
  | parse => exact ⟨lawful_of hw ht (fun _ => ⟨rfl, rfl⟩) nofun nofun, h⟩
  | lock => exact h
  | forget => exact ⟨lawful_of hw' ht' (fun _ => ⟨rfl, rfl⟩) nofun nofun, h⟩
  | bootApiIp => exact h

/-- The trace of every reached configuration is lawful. -/
theorem Reach.lawful {st : List Act} {w : World} (h : Reach PowerUp st w) : Always Lawful w.trace := by
  refine h.invariant (fun st w hi => ?_) fun st w st' w' hr ha hs =>
    hs.lawful (hr.wellStacked powerUp_start) (hr.openCalls powerUp_start) (hr.answered powerUp_start) ha
  obtain ⟨rfl, eeprom, flash, rfl⟩ := hi
  have hsetup : Disciplined [.setup .network] false false := .calm (.outer (.setup _))
  have hat : ∀ {ev : Event} {d : Device} {past : Trace}, EtherHouse.openCalls ((ev, d) :: past) = [.setup] →
      d.locked = false ∧ d.snifferNested = false → (∀ k, ev ≠ .aborted k) → (∀ k, ev ≠ .leave (.api k)) → Lawful ev d past :=
    fun ho hf ha hl => lawful_of hsetup ho (fun _ => hf) (fun k he => absurd he (ha k)) fun k he => absurd he (hl k)
  have hflags : (readStateFromEeprom (powerOn eeprom flash)).locked = false ∧
      (readStateFromEeprom (powerOn eeprom flash)).snifferNested = false := by simp [powerOn]
  exact ⟨hat rfl hflags nofun nofun, hat rfl ⟨rfl, rfl⟩ nofun nofun, hat rfl ⟨rfl, rfl⟩ nofun nofun, trivial⟩

/-- Whatever arrives and whatever the servers reply: at the top level `locked` and `sniffer_nested` are clear, at every event and
where the run stands now; a server call that finds the lock taken is `api_set_on` called by the sniffer's callback, with at most one
other server call open; a server call that returns does so after its own callback; and at most two server calls, two packet loops and
one working callback are open. -/
theorem lock_discipline (eeprom flash : Nat → Byte) (tape : List Input) :
    (AtTop (run eeprom flash tape).trace →
      (run eeprom flash tape).dev.locked = false ∧ (run eeprom flash tape).dev.snifferNested = false) ∧
    ∀ later ev d past, (run eeprom flash tape).trace = later ++ (ev, d) :: past →
      (AtTop ((ev, d) :: past) → d.locked = false ∧ d.snifferNested = false) ∧
      (∀ k, ev = .aborted k → k = .on ∧ (openCalls past).head? = some .sniffer ∧ (openCalls past).countP Call.isApi ≤ 1) ∧
      (∀ k, ev = .leave (.api k) → (openApis past).head? = some (k, true)) ∧
      Bounded (openCalls ((ev, d) :: past)) := by
  obtain ⟨st, hr⟩ := run_reached eeprom flash tape
  refine ⟨fun ht => ?_, fun later ev d past he => ?_⟩
  · have hw : Disciplined st _ _ := hr.wellStacked powerUp_start
    rw [AtTop, hr.openCalls powerUp_start] at ht
    exact hw.top ht
  · have hl := hr.lawful.of_eq_append he
    exact ⟨hl.top, hl.aborted, hl.answered, hl.bounded⟩

end EtherHouse
