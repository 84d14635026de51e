import EtherHouse.Theorems.Agreement
import EtherHouse.Theorems.Lock
import EtherHouse.Theorems.Sighting

/-!
# The watchdog is served

How long the firmware goes without `wdt_reset`. A server call waits for its reply and then in `wait_for_tcp`, and a frame from the target
can begin another one in that wait: what adds up is bounded along every nesting.
-/

namespace EtherHouse

open Prog

/-! ## Time in a trace -/

/-- `WDTO_8S`. -/
def WDT_TIMEOUT : Nat := 8 * SECONDS

/-- The clock at the last event. -/
def lastClock : Trace → Nat
  | [] => 0
  | (_, d) :: _ => d.clock

/-- When the watchdog was last served. -/
def lastReset : Trace → Option Nat
  | [] => none
  | (.wdtReset, d) :: _ => some d.clock
  | _ :: past => lastReset past

/-- When the last server call began. -/
def callBegan : Trace → Nat
  | [] => 0
  | (.enter (.api _), d) :: _ => d.clock
  | _ :: past => callBegan past

/-- How long `wait_for_tcp` had been waiting when the last server call began, if it did so in another's. -/
def waited : Trace → Option Nat
  | [] => none
  | (.enter (.api _), d) :: past =>
    if (openCalls past).any Call.isApi then some (d.clock - (lastReset past).getD 0) else none
  | _ :: past => waited past

/-! ## The assumptions -/

/-- How long a poll takes at most that waits for no reply: those of `wait_for_tcp` and of a sweep's windows let time pass, the others
do not. -/
def pollTime (cs : List Call) : Nat :=
  match cs with
  | .api _ :: _ => SECONDS
  | .pingSweep :: _ => 5
  | _ => 0

/-- How much time may have passed when an event comes: a poll's, or that of a `delay`. -/
def allowed (ev : Event) (past : Trace) : Nat :=
  match ev, past with
  | .received _, past => pollTime (openCalls past)
  | .probe _, _ => 2
  | .leave .pingSweep, _ => 2
  | .wdtReset, (.wdtReset, _) :: _ => 7000
  | _, _ => 0

/-- A poll has looked for a frame. -/
def Event.polls : Event → Bool
  | .received _ => true
  | _ => false

/-- Time passes only where the firmware waits, and a server call is answered before its time is up: a poll that waits for the reply may
take all of that. -/
def punctual (ev : Event) (d : Device) (past : Trace) : Bool :=
  (past.isEmpty || ev.polls && d.locked || decide (d.clock ≤ lastClock past + allowed ev past)) &&
    (!d.locked || decide (d.clock < callBegan past + HTTP_TIMEOUT.toNat))

/-- A call that begins in another's `wait_for_tcp` is answered within the watchdog's time from that wait's begin on; and the millisecond
counter is not about to wrap round. -/
def unhurried (_ : Event) (d : Device) (past : Trace) : Bool :=
  (!d.locked || (waited past).all fun t => t + (d.clock - callBegan past) < WDT_TIMEOUT) &&
    decide (d.clock + HTTP_TIMEOUT.toNat < 2 ^ 32)

/-- The watchdog has been served in time. -/
def fed (_ : Event) (d : Device) (past : Trace) : Bool := (lastReset past).all fun c => d.clock < c + WDT_TIMEOUT

/-! ## Stages of a run -/

/-- What a trace says of the time. -/
structure Time where
  clock : Nat
  reset : Option Nat
  began : Nat
  waited : Option Nat

def times (tr : Trace) : Time := ⟨lastClock tr, lastReset tr, callBegan tr, waited tr⟩

/-- The watchdog still has time. -/
def Time.Safe (t : Time) : Prop := ∀ c, t.reset = some c → t.clock < c + WDT_TIMEOUT

/-- The assumptions have held so far. -/
def Healthy (tr : Trace) : Prop :=
  Always (fun ev d past => punctual ev d past = true) tr ∧ Always (fun ev d past => unhurried ev d past = true) tr

/-- If the assumptions have held, the watchdog has been served in time. -/
def Served (w : World) : Prop := Healthy w.trace → Always (fun ev d past => fed ev d past = true) w.trace

/-- A stage of a run: the calls that are open and the two flags, and what holds of the time if the assumptions have held. -/
structure Stage (φ : Time → Prop) (locked : Option Bool) (nested : Bool) (cs : List Call) (w : World) : Prop where
  calls : openCalls w.trace = cs
  nested : w.dev.snifferNested = nested
  locked : ∀ b, locked = some b → w.dev.locked = b
  now : lastClock w.trace ≤ w.dev.clock
  times : Healthy w.trace → Always (fun ev d past => fed ev d past = true) w.trace ∧ φ (times w.trace)

section

variable {φ φ' : Time → Prop} {lk lk' : Option Bool} {ν : Bool} {cs : List Call} {w : World}

/-- At a stage the watchdog has been served in time. -/
theorem Stage.served (h : Stage φ lk ν cs w) : Served w := fun hh => (h.times hh).1

/-- What a stage says of the time may be weakened. -/
theorem Stage.mono (h : Stage φ lk ν cs w) (hφ : ∀ t, φ t → φ' t) : Stage φ' lk ν cs w :=
  ⟨h.calls, h.nested, h.locked, h.now, fun hh => (h.times hh).imp_right (hφ _)⟩

/-- A step that leaves the flags, and does not set the clock back. -/
theorem Stage.update (h : Stage φ lk ν cs w) {f : Device → Device} (hn : (f w.dev).snifferNested = w.dev.snifferNested)
    (hl : (f w.dev).locked = w.dev.locked) (hc : w.dev.clock ≤ (f w.dev).clock) : Stage φ lk ν cs (w.update f) :=
  ⟨h.calls, hn.trans h.nested, fun b hb => hl.trans (h.locked b hb), h.now.trans hc, h.times⟩

/-- Time passes between two events. -/
theorem Stage.tick (h : Stage φ lk ν cs w) (ms : Nat) : Stage φ lk ν cs (w.update (Device.tick ms)) :=
  h.update rfl rfl (Nat.le_add_right _ ms)

/-- A step of the library takes no time. -/
theorem Stage.net (h : Stage φ lk ν cs w) (f : Ether → Ether) : Stage φ lk ν cs (w.update (Device.net f)) :=
  h.update rfl rfl le_rfl

/-- An event: what it says of the time may use the assumptions about it. -/
theorem Stage.emit {cs' : List Call} (h : Stage φ lk ν cs w) (ev : Event) (hcs : openCalls ((ev, w.dev) :: w.trace) = cs')
    (ht : punctual ev w.dev w.trace = true → unhurried ev w.dev w.trace = true → φ (EtherHouse.times w.trace) →
      fed ev w.dev w.trace = true ∧ φ' (EtherHouse.times ((ev, w.dev) :: w.trace))) : Stage φ' lk ν cs' (w.emit ev) where
  calls := hcs
  nested := h.nested
  locked := h.locked
  now := le_rfl
  times := fun hh => by
    obtain ⟨halways, hφ⟩ := h.times ⟨hh.1.2, hh.2.2⟩
    obtain ⟨hfed, hφ'⟩ := ht hh.1.1 hh.2.1 hφ
    exact ⟨⟨hfed, halways⟩, hφ'⟩

/-! ## Events that take no time -/

/-- The events within a poll, beside those that open and close a call. -/
def Event.quiet : Event → Bool
  | .enter _ => false
  | .leave _ => false
  | .received _ => false
  | .probe _ => false
  | .wdtReset => false
  | _ => true

/-- How late an event can be that is no poll's, or a poll's that waits for no reply. -/
theorem clock_of_punctual {ev : Event} {d : Device} {past : Trace} (hp : punctual ev d past = true) (hne : past ≠ [])
    (hq : (ev.polls && d.locked) = false) : d.clock ≤ lastClock past + allowed ev past := by
  have hempty : past.isEmpty = false := by simpa using hne
  simp only [punctual, hempty, hq, Bool.false_or, Bool.and_eq_true, decide_eq_true_eq] at hp
  exact hp.1

/-- With a call open something has happened. -/
theorem ne_nil_of_calls {tr : Trace} (hc : openCalls tr = cs) (hne : cs ≠ []) : tr ≠ [] := by
  rintro rfl
  exact hne hc.symm

/-- An event that takes no time and leaves the watchdog and the server calls alone. -/
theorem Stage.still {cs' : List Call} (h : Stage φ lk ν cs w) (hne : cs ≠ []) (hs : ∀ t, φ t → t.Safe) {ev : Event}
    (hcs : openCalls ((ev, w.dev) :: w.trace) = cs') (hq : ev.polls = false) (ha : allowed ev w.trace = 0)
    (ht : EtherHouse.times ((ev, w.dev) :: w.trace) = { EtherHouse.times w.trace with clock := w.dev.clock }) :
    Stage φ lk ν cs' (w.emit ev) := by
  refine h.emit ev hcs fun hp _ hφ => ?_
  have hle := clock_of_punctual hp (ne_nil_of_calls h.calls hne) (by rw [hq, Bool.false_and])
  rw [ha, Nat.add_zero] at hle
  have hclock : w.dev.clock = lastClock w.trace := le_antisymm hle h.now
  have hsame : EtherHouse.times ((ev, w.dev) :: w.trace) = EtherHouse.times w.trace := by rw [ht, hclock]; rfl
  refine ⟨?_, by rw [hsame]; exact hφ⟩
  have hsafe := hs _ hφ
  unfold fed
  cases hr : lastReset w.trace with
  | none => rfl
  | some c =>
    have hlt : lastClock w.trace < c + WDT_TIMEOUT := hsafe c hr
    simpa [hclock] using hlt

/-- An event within a poll. -/
theorem Stage.note (h : Stage φ lk ν cs w) (ev : Event) (hne : cs ≠ []) (hs : ∀ t, φ t → t.Safe) (hq : ev.quiet = true) :
    Stage φ lk ν cs (w.emit ev) := by
  refine h.still hne hs ?_ ?_ ?_ ?_
  · rw [← h.calls]
    cases ev <;> first | rfl | cases hq
  · cases ev <;> first | rfl | cases hq
  · cases ev <;> first | rfl | cases hq
  · cases ev <;> first | rfl | cases hq

/-- A call other than to the server begins. -/
theorem Stage.enter (h : Stage φ lk ν cs w) (hne : cs ≠ []) (hs : ∀ t, φ t → t.Safe) {c : Call} (hc : c.isApi = false) :
    Stage φ lk ν (c :: cs) (w.emit (.enter c)) := by
  refine h.still hne hs ?_ rfl rfl ?_
  · rw [← h.calls]
    rfl
  · cases c <;> first | rfl | cases hc

/-- A call ends at once. -/
theorem Stage.leave {c : Call} (h : Stage φ lk ν (c :: cs) w) (hs : ∀ t, φ t → t.Safe) (ha : ∀ past, allowed (.leave c) past = 0) :
    Stage φ lk ν cs (w.emit (.leave c)) := by
  refine h.still (List.cons_ne_nil _ _) hs ?_ rfl (ha _) rfl
  have hcalls := h.calls
  simp only [openCalls, hcalls, List.tail_cons]

/-! ## The packet loop -/

/-- The watchdog was last served at `b`, and it is no later than `l`; `K` is what else is known of the run so far. -/
structure At (K : Prop) (b l : Nat) (t : Time) : Prop where
  known : K
  reset : t.reset = some b
  after : b ≤ t.clock
  before : t.clock ≤ l

/-- Only after another reset can a delay come before this one. -/
theorem allowed_wdtReset (past : Trace) : allowed .wdtReset past = 0 ∨ allowed .wdtReset past = 7000 ∧ lastReset past = some (lastClock past) := by
  cases past with
  | nil => exact Or.inl rfl
  | cons x rest =>
    obtain ⟨ev, d⟩ := x
    cases ev with
    | wdtReset => exact Or.inr ⟨rfl, rfl⟩
    | _ => exact Or.inl rfl

/-- Serving the watchdog: the time since the last reset is none. What held before is kept as a fact. -/
theorem Stage.wdt (h : Stage φ lk ν cs w) (hne : cs ≠ []) (hs : ∀ t, φ t → t.Safe) :
    Stage (At (φ (EtherHouse.times w.trace)) w.dev.clock w.dev.clock) lk ν cs (w.emit .wdtReset) := by
  refine h.emit .wdtReset h.calls fun hp _ hφ => ⟨?_, hφ, rfl, le_rfl, le_rfl⟩
  have hle := clock_of_punctual hp (ne_nil_of_calls h.calls hne) rfl
  have hsafe := hs _ hφ
  unfold fed
  cases hr : lastReset w.trace with
  | none => rfl
  | some c =>
    have hlt : lastClock w.trace < c + WDT_TIMEOUT := hsafe c hr
    have hmax : WDT_TIMEOUT = 8000 := rfl
    simp only [Option.all_some, decide_eq_true_eq]
    rcases allowed_wdtReset w.trace with ha | ⟨ha, hsame⟩
    · omega
    · rw [hr] at hsame
      have hc := Option.some.inj hsame
      omega

/-- Like `At`, except that the watchdog may have been served again: then nothing has taken time since. -/
structure Within (K : Prop) (b l : Nat) (t : Time) : Prop where
  known : K
  served : ∃ c, t.reset = some c ∧ b ≤ c ∧ c ≤ t.clock ∧ (t.clock ≤ l ∨ t.clock ≤ c)

/-- A server call waits for its answer; `punctual` and `unhurried` bound what it can take. -/
structure Held (K : Prop) (b : Nat) (t : Time) : Prop where
  known : K
  served : ∃ c, t.reset = some c ∧ b ≤ c ∧ c ≤ t.clock ∧ t.clock < c + WDT_TIMEOUT ∧
    (t.waited = none → t.began + HTTP_TIMEOUT.toNat ≤ c + WDT_TIMEOUT) ∧ ∀ s, t.waited = some s → t.began ≤ c + s

/-- The watchdog need not have been served again. -/
theorem At.within {K : Prop} {b l : Nat} {t : Time} (h : At K b l t) : Within K b l t :=
  ⟨h.known, b, h.reset, le_rfl, h.after, Or.inl h.before⟩

/-- The watchdog has just been served. -/
theorem Stage.fresh {K : Prop} {b : Nat} (h : Stage φ lk ν cs w) (hne : cs ≠ []) (hs : ∀ t, φ t → t.Safe)
    (hb : ∀ t, φ t → K ∧ b ≤ t.clock) : Stage (Within K b b) lk ν cs (w.emit .wdtReset) := by
  refine (h.wdt hne hs).mono fun t ht => ?_
  obtain ⟨hK, hle⟩ := hb _ ht.known
  have hlow : b ≤ w.dev.clock := le_trans hle h.now
  exact ⟨hK, w.dev.clock, ht.reset, hlow, ht.after, Or.inr ht.before⟩

/-- From where a poll is made. While no call waits for its answer, a poll that ends later than three seconds after the last reset
leaves too little time for another call, except in `wait_for_tcp`. -/
inductive PollAt where
  | free (cs : List Call) (ν : Bool) (b l y : Nat) (K : Prop)
  | held (cs : List Call) (ν : Bool) (b : Nat) (K : Prop)

/-- What has to hold before. -/
def PollAt.pre : PollAt → World → Prop
  | .free cs ν b l y K, w =>
    cs ≠ [] ∧ (K → l + pollTime cs < b + WDT_TIMEOUT) ∧
      (K → ν = false → cs.any Call.isApi = false → l + pollTime cs + HTTP_TIMEOUT.toNat ≤ b + WDT_TIMEOUT) ∧
        Stage (At K b l) (some false) ν cs w ∧ y ≤ w.dev.clock
  | .held cs ν b K, w => cs ≠ [] ∧ Stage (Held K b) (some true) ν cs w

/-- Where a poll is made, it has been served in time. -/
theorem PollAt.served {k : PollAt} {w : World} (h : k.pre w) : Served w := by
  cases k with
  | free => exact h.2.2.2.1.served
  | held => exact h.2.served

variable {poll : M Unit}

/-- The lock is taken. -/
theorem Stage.lock (h : Stage φ lk ν cs w) : Stage φ (some true) ν cs (w.update fun d => { d with locked := true }) :=
  ⟨h.calls, h.nested, fun _ hb => Option.some.inj hb, h.now, h.times⟩

/-- No more than this has passed since the watchdog was last served. -/
def Since (n : Nat) (t : Time) : Prop := ∃ c, t.reset = some c ∧ c ≤ t.clock ∧ t.clock ≤ c + n

/-- The bound may be later. -/
theorem Since.mono {n n' : Nat} (hn : n ≤ n') (t : Time) (h : Since n t) : Since n' t := by
  obtain ⟨c, hc, hle, hle'⟩ := h
  exact ⟨c, hc, hle, by omega⟩

/-- What has passed since, from the two times. -/
theorem Within.since {K : Prop} {b l n : Nat} (hn : K → l ≤ b + n) (t : Time) (h : Within K b l t) : Since n t := by
  obtain ⟨c, hc, hb, hct, hle⟩ := h.served
  have hroom := hn h.known
  exact ⟨c, hc, hct, by omega⟩

/-- The watchdog is served. -/
theorem Stage.reset (h : Stage φ lk ν cs w) (hne : cs ≠ []) (hs : ∀ t, φ t → t.Safe) : Stage (Since 0) lk ν cs (w.emit .wdtReset) :=
  (h.wdt hne hs).mono fun _ ht => ht.within.since (fun _ => le_rfl)

/-- The window of the probe that was sent at `p`. -/
def Window (n p : Nat) (t : Time) : Prop :=
  ∃ c, t.reset = some c ∧ c ≤ t.clock ∧ p ≤ c + n + 2 ∧ (t.clock ≤ c ∨ t.clock ≤ p + 9)

/-- A probe's window takes eleven milliseconds at most. -/
theorem Window.since {n p : Nat} (t : Time) (h : Window n p t) : Since (n + 11) t := by
  obtain ⟨c, hc, hct, hp, hle⟩ := h
  exact ⟨c, hc, hct, by omega⟩

end

/-- A device that has heard of the target in its first `loop`, and then nothing for six minutes. -/
def settled : Device :=
  ((do setup; loop) ⟨powerOn blank blank, []⟩ (bootWith 0x01 ++ framePoll phoneDatagram ++ silence 5 ++ passes 400000)).state.dev

end EtherHouse
