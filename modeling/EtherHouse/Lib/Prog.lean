import Mathlib

/-!
# Programs that poll their inputs

A program runs on a state and a finite list of inputs that the outside world will deliver. It ends in one of three ways: it
returns, it halts (it jumps away and never comes back), or it starves, waiting for an input that has not come yet. Unbounded
loops and recursion are `fix`: a call may go round once more only while there are inputs left, which is no restriction for a body
that reads an input before it calls itself.

`wp` is the weakest precondition of a program, exact for the three outcomes; `Triple` is the Hoare triple over it.
-/

namespace Prog

/-- How a run ends: it returned with the inputs it left, it halted, or it is still waiting for an input. -/
inductive Outcome (σ ι α : Type) where
  | done (a : α) (s : σ) (rest : List ι)
  | halted (s : σ)
  | starved (s : σ)

/-- The state a run has reached, however it ended. -/
def Outcome.state {σ ι α : Type} : Outcome σ ι α → σ
  | .done _ s _ => s
  | .halted s => s
  | .starved s => s

/-- The run returned. -/
def Outcome.returned {σ ι α : Type} : Outcome σ ι α → Bool
  | .done _ _ _ => true
  | .halted _ => false
  | .starved _ => false

end Prog

/-- A program over states `σ` that reads inputs `ι` and returns an `α`. -/
def Prog (σ ι α : Type) : Type := σ → List ι → Prog.Outcome σ ι α

namespace Prog

variable {σ ι α β κ : Type}

/-- Return a value. -/
protected def pure (a : α) : Prog σ ι α := fun s inp => .done a s inp

/-- Run one program, then the next on what it left. -/
protected def bind (p : Prog σ ι α) (f : α → Prog σ ι β) : Prog σ ι β := fun s inp =>
  match p s inp with
  | .done a s' rest => f a s' rest
  | .halted s' => .halted s'
  | .starved s' => .starved s'

instance : Monad (Prog σ ι) where
  pure := Prog.pure
  bind := Prog.bind

/-- Read the state. -/
def get : Prog σ ι σ := fun s inp => .done s s inp

/-- Change the state. -/
def modify (f : σ → σ) : Prog σ ι Unit := fun s inp => .done () (f s) inp

/-- Take the next input; without one, wait for it. -/
def next : Prog σ ι ι := fun s inp =>
  match inp with
  | [] => .starved s
  | i :: rest => .done i s rest

/-- Jump away. -/
def halt : Prog σ ι α := fun s _ => .halted s

/-- Wait for ever. -/
def starve : Prog σ ι α := fun s _ => .starved s

/-- `F` applied to itself, `n` deep. -/
def fixN (F : Prog σ ι α → Prog σ ι α) : Nat → Prog σ ι α
  | 0 => starve
  | n + 1 => F (fixN F n)

/-- The program that `F` makes of itself, as deep as the inputs allow. -/
def fix (F : Prog σ ι α → Prog σ ι α) : Prog σ ι α := fun s inp => fixN F (inp.length + 1) s inp

/-- Repeat a body until it returns a value. -/
def repeatUntil (body : Prog σ ι (Option α)) : Prog σ ι α :=
  fix fun again => do
    match ← body with
    | some a => pure a
    | none => again

/-! ## Weakest preconditions -/

/-- `Q` holds of what the run returns, leaves and has not read; `E` holds of the state if it does not return. -/
def wp (p : Prog σ ι α) (Q : α → σ → List ι → Prop) (E : σ → Prop) (s : σ) (inp : List ι) : Prop :=
  match p s inp with
  | .done a s' rest => Q a s' rest
  | .halted s' => E s'
  | .starved s' => E s'

section wp

variable {Q : α → σ → List ι → Prop} {E : σ → Prop} {s : σ} {inp : List ι}

@[simp] theorem wp_pure (a : α) : wp (pure a : Prog σ ι α) Q E s inp ↔ Q a s inp := Iff.rfl

/-- The rule for two programs in turn: what the first leaves is what the second starts from. -/
@[simp] theorem wp_bind (p : Prog σ ι α) (f : α → Prog σ ι β) (Q : β → σ → List ι → Prop) :
    wp (p >>= f) Q E s inp ↔ wp p (fun a s' rest => wp (f a) Q E s' rest) E s inp := by
  have hb : (p >>= f) s inp = Prog.bind p f s inp := rfl
  unfold wp
  rw [hb]
  unfold Prog.bind
  cases p s inp <;> rfl

@[simp] theorem wp_get (Q : σ → σ → List ι → Prop) : wp get Q E s inp ↔ Q s s inp := Iff.rfl

/-- The rule for an assignment. -/
@[simp] theorem wp_modify (f : σ → σ) (Q : Unit → σ → List ι → Prop) : wp (modify f) Q E s inp ↔ Q () (f s) inp :=
  Iff.rfl

/-- A program that halts is done with: what must hold is what holds at an end. -/
@[simp] theorem wp_halt : wp (halt : Prog σ ι α) Q E s inp ↔ E s := Iff.rfl

/-- So is one that is out of inputs. -/
@[simp] theorem wp_starve : wp (starve : Prog σ ι α) Q E s inp ↔ E s := Iff.rfl

/-- The rule for a branch. -/
@[simp] theorem wp_ite (c : Prop) [Decidable c] (p q : Prog σ ι α) :
    wp (if c then p else q) Q E s inp ↔ if c then wp p Q E s inp else wp q Q E s inp := by
  split <;> rfl

/-- A conditional: what each branch does under its own condition. -/
theorem wp_ite_of {c : Prop} [Decidable c] {p q : Prog σ ι α} (ht : c → wp p Q E s inp) (he : ¬c → wp q Q E s inp) :
    wp (if c then p else q) Q E s inp := by
  by_cases hc : c
  · rw [if_pos hc]; exact ht hc
  · rw [if_neg hc]; exact he hc

/-- Reading the next input: the state is as it was, and the input may be any. -/
theorem wp_next_of {Q : ι → σ → List ι → Prop} (hE : E s) (hQ : ∀ i rest, Q i s rest) : wp next Q E s inp := by
  cases inp with
  | nil => exact hE
  | cons i rest => exact hQ i rest

/-- A stronger postcondition gives a stronger precondition. -/
theorem wp_mono {p : Prog σ ι α} {Q' : α → σ → List ι → Prop} {E' : σ → Prop} (h : wp p Q E s inp)
    (hQ : ∀ a s' rest, Q a s' rest → Q' a s' rest) (hE : ∀ s', E s' → E' s') : wp p Q' E' s inp := by
  unfold wp at h ⊢
  cases hp : p s inp with
  | done a s' rest => rw [hp] at h; exact hQ a s' rest h
  | halted s' => rw [hp] at h; exact hE s' h
  | starved s' => rw [hp] at h; exact hE s' h

end wp

/-! ## Triples -/

/-- From every state in `P`, whatever the inputs, `p` returns in `Q` or stops for good in `E`. -/
def Triple (P : σ → Prop) (p : Prog σ ι α) (Q : α → σ → Prop) (E : σ → Prop) : Prop :=
  ∀ s inp, P s → wp p (fun a s' _ => Q a s') E s inp

namespace Triple

variable {P : σ → Prop} {Q : α → σ → Prop} {E : σ → Prop}

/-- Use a triple inside a weakest precondition: what follows has to hold of every state in `Q`. -/
theorem wp {p : Prog σ ι α} {R : α → σ → List ι → Prop} {s : σ} {inp : List ι} (h : Triple P p Q E) (hs : P s)
    (hR : ∀ a s' rest, Q a s' → R a s' rest) : Prog.wp p R E s inp :=
  wp_mono (h s inp hs) (fun a s' rest hq => hR a s' rest hq) (fun _ he => he)

/-- Two triples in turn. -/
theorem bind {p : Prog σ ι α} {f : α → Prog σ ι β} {R : β → σ → Prop} (hp : Triple P p Q E)
    (hf : ∀ a, Triple (Q a) (f a) R E) : Triple P (p >>= f) R E := by
  intro s inp hs
  rw [wp_bind]
  exact hp.wp hs fun a s' rest hq => hf a s' rest hq

/-- What holds of a run's result holds of the state it has reached. -/
theorem state_of {p : Prog σ ι α} {R : σ → Prop} {s : σ} (h : Triple P p Q E) (hs : P s) (inp : List ι)
    (hQ : ∀ a s', Q a s' → R s') (hE : ∀ s', E s' → R s') : R (p s inp).state := by
  have hw := h s inp hs
  unfold Prog.wp at hw
  cases hp : p s inp with
  | done a s' rest => rw [hp] at hw; exact hQ a s' hw
  | halted s' => rw [hp] at hw; exact hE s' hw
  | starved s' => rw [hp] at hw; exact hE s' hw

/-- What holds of what a run returns holds of its state, if it does return. -/
theorem of_returned {p : Prog σ ι α} {R : σ → Prop} {s : σ} {inp : List ι} (h : Triple P p (fun _ => R) E) (hs : P s)
    (hr : (p s inp).returned = true) : R (p s inp).state := by
  have hw := h s inp hs
  unfold Prog.wp at hw
  cases hp : p s inp with
  | done a s' rest => rw [hp] at hw; exact hw
  | halted s' => rw [hp] at hr; cases hr
  | starved s' => rw [hp] at hr; cases hr

/-- The recursion rule: a family of triples that the body keeps, whatever the program it calls for itself, is a family of
triples of the recursive program. -/
theorem fix {F : Prog σ ι α → Prog σ ι α} {P : κ → σ → Prop} {Q : κ → α → σ → Prop}
    (hE : ∀ k s, P k s → E s)
    (hF : ∀ p, (∀ k, Triple (P k) p (Q k) E) → ∀ k, Triple (P k) (F p) (Q k) E) :
    ∀ k, Triple (P k) (Prog.fix F) (Q k) E := by
  have hn : ∀ n k, Triple (P k) (fixN F n) (Q k) E := by
    intro n
    induction n with
    | zero => intro k s inp hs; exact hE k s hs
    | succ n ih => exact hF (fixN F n) ih
  intro k s inp hs
  exact hn (inp.length + 1) k s inp hs

/-- The loop rule: an invariant that the body keeps as long as it goes on, with what it says when it stops. -/
theorem repeatUntil {I : σ → Prop} {body : Prog σ ι (Option α)} (hE : ∀ s, I s → E s)
    (hb : Triple I body (fun r s => match r with | some a => Q a s | none => I s) E) :
    Triple I (Prog.repeatUntil body) Q E := by
  refine fix (κ := Unit) (P := fun _ => I) (Q := fun _ => Q) (fun _ => hE) ?_ ()
  intro p hp _
  refine hb.bind fun r => ?_
  cases r with
  | some a => exact fun s inp hs => hs
  | none => exact hp ()

/-- The rule for a loop over a list: an invariant that the body keeps. -/
theorem forM {I : σ → Prop} {xs : List β} {f : β → Prog σ ι PUnit} (hf : ∀ x, Triple I (f x) (fun _ => I) E) :
    Triple I (xs.forM f) (fun _ => I) E := by
  induction xs with
  | nil => exact fun s inp hs => hs
  | cons x xs ih => exact (hf x).bind fun _ => ih

/-- The rule for a counting loop: what holds in front of each turn is what the turn before it has left. -/
theorem forM_range' {I : Nat → σ → Prop} {f : Nat → Prog σ ι PUnit} {i n : Nat}
    (hf : ∀ j, i ≤ j → j < i + n → Triple (I j) (f j) (fun _ => I (j + 1)) E) :
    Triple (I i) ((List.range' i n).forM f) (fun _ => I (i + n)) E := by
  induction n generalizing i with
  | zero => exact fun s inp hs => hs
  | succ n ih =>
    have hfirst := hf i le_rfl (by omega)
    have hrest := ih (i := i + 1) fun j hj hlt => hf j (by omega) (by omega)
    rw [List.range'_succ, Nat.add_comm n 1, ← Nat.add_assoc]
    exact hfirst.bind fun _ => hrest

end Triple

/-! ## Recursion is not cut short

The depth that `fix` allows is a matter of the inputs left, so a body that reads an input before it calls itself never meets
the bound: `fix_eq` is the recursion equation, `repeatUntil_eq` the loop's. -/

/-- On fewer than `n` inputs two programs do the same, and they leave no more inputs than they were given. -/
def Tied (n : Nat) (p q : Prog σ ι α) : Prop :=
  ∀ s inp, inp.length < n → p s inp = q s inp ∧ wp p (fun _ _ rest => rest.length ≤ inp.length) (fun _ => True) s inp

/-- A program leaves fewer inputs than it was given. -/
def Reads (p : Prog σ ι α) : Prop := ∀ s inp, wp p (fun _ _ rest => rest.length < inp.length) (fun _ => True) s inp

namespace Tied

variable {n : Nat}

/-- A value reads nothing. -/
theorem pure (a : α) : Tied n (Pure.pure a : Prog σ ι α) (Pure.pure a) := fun _ _ _ => ⟨rfl, le_rfl⟩

/-- Nor does an assignment. -/
theorem modify (f : σ → σ) : Tied n (Prog.modify f : Prog σ ι Unit) (Prog.modify f) := fun _ _ _ => ⟨rfl, le_rfl⟩

/-- Nor does a halt, -/
theorem halt : Tied n (Prog.halt : Prog σ ι α) Prog.halt := fun _ _ _ => ⟨rfl, trivial⟩

/-- nor what waits for ever. -/
theorem starve : Tied n (Prog.starve : Prog σ ι α) Prog.starve := fun _ _ _ => ⟨rfl, trivial⟩

/-- The next input is read, if there is one. -/
theorem next : Tied n (Prog.next : Prog σ ι ι) Prog.next := by
  intro s inp _
  cases inp with
  | nil => exact ⟨rfl, trivial⟩
  | cons i rest => exact ⟨rfl, Nat.le_succ _⟩

/-- Two pairs in turn, where the first leaves few enough inputs for the second. -/
theorem bind_of {m : Nat} {p q : Prog σ ι α} {f g : α → Prog σ ι β}
    (hp : ∀ s inp, inp.length < m → p s inp = q s inp ∧
      wp p (fun _ _ rest => rest.length ≤ inp.length ∧ rest.length < n) (fun _ => True) s inp)
    (hf : ∀ a, Tied n (f a) (g a)) : Tied m (p >>= f) (q >>= g) := by
  intro s inp hm
  obtain ⟨heq, hless⟩ := hp s inp hm
  have hl : (p >>= f) s inp = Prog.bind p f s inp := rfl
  have hr : (q >>= g) s inp = Prog.bind q g s inp := rfl
  rw [wp_bind, hl, hr]
  unfold wp Prog.bind at *
  rw [← heq]
  cases hps : p s inp with
  | done a s' rest =>
    rw [hps] at hless
    obtain ⟨hle, hlt⟩ := hless
    obtain ⟨heq', hle'⟩ := hf a s' rest hlt
    exact ⟨heq', wp_mono hle' (fun _ _ _ h => le_trans h hle) fun _ => id⟩
  | halted s' => exact ⟨rfl, trivial⟩
  | starved s' => exact ⟨rfl, trivial⟩

/-- Two pairs in turn: the second goes on with no more inputs than the first. -/
theorem bind {p q : Prog σ ι α} {f g : α → Prog σ ι β} (hp : Tied n p q) (hf : ∀ a, Tied n (f a) (g a)) :
    Tied n (p >>= f) (q >>= g) := by
  refine bind_of (fun s inp hn => ?_) hf
  obtain ⟨heq, hle⟩ := hp s inp hn
  exact ⟨heq, wp_mono hle (fun _ _ _ h => ⟨h, lt_of_le_of_lt h hn⟩) fun _ => id⟩

/-- Behind a program that reads, what follows may be tied on fewer inputs. -/
theorem bind_of_reads {p : Prog σ ι α} {f g : α → Prog σ ι β} (hp : Reads p) (hf : ∀ a, Tied n (f a) (g a)) :
    Tied (n + 1) (p >>= f) (p >>= g) := by
  refine bind_of (fun s inp hn => ⟨rfl, ?_⟩) hf
  exact wp_mono (hp s inp) (fun _ _ _ h => ⟨le_of_lt h, lt_of_lt_of_le h (Nat.le_of_lt_succ hn)⟩) fun _ => id

/-- Conditionals. -/
theorem ite {c : Prop} [Decidable c] {p p' q q' : Prog σ ι α} (ht : Tied n p q) (he : Tied n p' q') :
    Tied n (if c then p else p') (if c then q else q') := by
  split
  · exact ht
  · exact he

/-- Loops over a list. -/
theorem forM {f g : β → Prog σ ι PUnit} (hf : ∀ x, Tied n (f x) (g x)) (xs : List β) : Tied n (xs.forM f) (xs.forM g) := by
  induction xs with
  | nil => exact Tied.pure _
  | cons x xs ih => exact (hf x).bind fun _ => ih

/-- Recursions, by induction on the depth. -/
theorem fix {F F' : Prog σ ι α → Prog σ ι α} (hF : ∀ p q, Tied n p q → Tied n (F p) (F' q)) : Tied n (Prog.fix F) (Prog.fix F') := by
  have hdepth : ∀ k, Tied n (fixN F k) (fixN F' k) := by
    intro k
    induction k with
    | zero => exact starve
    | succ k ih => exact hF _ _ ih
  exact fun s inp hn => hdepth (inp.length + 1) s inp hn

/-- Loops. -/
theorem repeatUntil {b b' : Prog σ ι (Option α)} (hb : Tied n b b') : Tied n (Prog.repeatUntil b) (Prog.repeatUntil b') := by
  refine fix fun p q h => hb.bind fun r => ?_
  cases r with
  | none => exact h
  | some a => exact pure a

end Tied

/-- What follows a program that reads gives back no input. -/
theorem Reads.bind_of_reads {p : Prog σ ι α} {f : α → Prog σ ι β} (hp : Reads p) (hf : ∀ n a, Tied n (f a) (f a)) : Reads (p >>= f) := by
  intro s inp
  rw [wp_bind]
  refine wp_mono (hp s inp) (fun a s' rest hlt => ?_) fun _ => id
  exact wp_mono (hf (rest.length + 1) a s' rest (Nat.lt_succ_self _)).2 (fun _ _ _ hle => lt_of_le_of_lt hle hlt) fun _ => id

/-- Nor does what goes before one. -/
theorem Reads.bind_of_tied {p : Prog σ ι α} {f : α → Prog σ ι β} (hp : ∀ n, Tied n p p) (hf : ∀ a, Reads (f a)) : Reads (p >>= f) := by
  intro s inp
  rw [wp_bind]
  refine wp_mono (hp (inp.length + 1) s inp (Nat.lt_succ_self _)).2 (fun a s' rest hle => ?_) fun _ => id
  exact wp_mono (hf a s' rest) (fun _ _ _ hlt => lt_of_lt_of_le hlt hle) fun _ => id

/-- A body that reads an input before it calls itself: what it does on `n` inputs depends on what it calls on fewer. -/
def Guarded (F : Prog σ ι α → Prog σ ι α) : Prop := ∀ n p q, Tied n p q → Tied (n + 1) (F p) (F q)

/-- More rounds of the recursion do not change what fewer have come to. -/
theorem tied_fixN {F : Prog σ ι α → Prog σ ι α} (hF : Guarded F) {n m : Nat} (hm : n ≤ m) : Tied n (fixN F n) (fixN F m) := by
  induction n generalizing m with
  | zero => exact fun s inp h => absurd h (Nat.not_lt_zero _)
  | succ n ih =>
    obtain ⟨m, rfl⟩ := Nat.exists_eq_add_of_lt hm
    exact hF n _ _ (ih (Nat.le_add_right n m))

/-- So on fewer than `n` inputs `n` rounds are all there are. -/
theorem tied_fix {F : Prog σ ι α → Prog σ ι α} (hF : Guarded F) (n : Nat) : Tied n (fixN F n) (fix F) := by
  intro s inp hn
  have hself := tied_fixN hF (le_refl n) s inp hn
  have hless := tied_fixN hF (Nat.succ_le_of_lt hn) s inp (Nat.lt_succ_self _)
  exact ⟨hless.1.symm, hself.2⟩

/-- The recursion equation: a guarded body's program is the body applied to that program. -/
theorem fix_eq {F : Prog σ ι α → Prog σ ι α} (hF : Guarded F) : fix F = F (fix F) := by
  funext s inp
  exact (hF inp.length _ _ (tied_fix hF inp.length) s inp (Nat.lt_succ_self _)).1

/-- The loop equation: a body that reads, and then the value it has come to, or the loop again. -/
theorem repeatUntil_eq {body : Prog σ ι (Option α)} (hb : Reads body) :
    repeatUntil body = body >>= fun r => match r with
      | some a => pure a
      | none => repeatUntil body := by
  refine fix_eq fun n p q h => Tied.bind_of_reads hb fun r => ?_
  cases r with
  | some a => exact Tied.pure a
  | none => exact h

/-- Programs in turn, however they are grouped. -/
theorem bind_assoc {γ : Type} (p : Prog σ ι α) (f : α → Prog σ ι β) (g : β → Prog σ ι γ) : (p >>= f) >>= g = p >>= fun a => f a >>= g := by
  funext s inp
  change Prog.bind (Prog.bind p f) g s inp = Prog.bind p (fun a => Prog.bind (f a) g) s inp
  unfold Prog.bind
  cases p s inp <;> rfl

end Prog
