import Mathlib

/-!
# Programs that read a memory

A program that reads cells of a memory and returns a value: a tree of reads, so that what it reads is part of what it is. `run` is what
it returns on a memory, `reads` the cells that it reads there, in order. `Within` bounds the cells that it can read on any memory.
-/

/-- A program returns, or it reads a cell and goes on with what the cell holds. -/
inductive Access (ι β α : Type) where
  | ret (a : α)
  | read (i : ι) (k : β → Access ι β α)

namespace Access

variable {ι β α γ : Type}

/-- Run one program, then the next on what it returns. -/
protected def bind : Access ι β α → (α → Access ι β γ) → Access ι β γ
  | .ret a, f => f a
  | .read i k, f => .read i fun b => (k b).bind f

instance : Monad (Access ι β) where
  pure := .ret
  bind := Access.bind

/-- Read a cell. -/
def cell (i : ι) : Access ι β β := .read i .ret

/-- What a program returns on a memory. -/
def run (mem : ι → β) : Access ι β α → α
  | .ret a => a
  | .read i k => (k (mem i)).run mem

/-- The cells that it reads, in order. -/
def reads (mem : ι → β) : Access ι β α → List ι
  | .ret _ => []
  | .read i k => i :: (k (mem i)).reads mem

section run

variable (mem : ι → β)

@[simp] theorem run_pure (a : α) : (pure a : Access ι β α).run mem = a := rfl

@[simp] theorem run_cell (i : ι) : (cell i : Access ι β β).run mem = mem i := rfl

/-- A program's result is fed to what follows. -/
@[simp] theorem run_bind (p : Access ι β α) (f : α → Access ι β γ) : (p >>= f).run mem = (f (p.run mem)).run mem := by
  have hb : ∀ p : Access ι β α, (p.bind f).run mem = (f (p.run mem)).run mem := by
    intro p
    induction p with
    | ret a => rfl
    | read i k ih => exact ih (mem i)
  exact hb p

/-- A branch of which the condition is known. -/
@[simp] theorem run_ite (c : Prop) [Decidable c] (p q : Access ι β α) :
    (if c then p else q).run mem = if c then p.run mem else q.run mem := by
  split <;> rfl

/-- What follows reads after what comes first, and by its result. -/
theorem reads_bind (p : Access ι β α) (f : α → Access ι β γ) :
    (p >>= f).reads mem = p.reads mem ++ (f (p.run mem)).reads mem := by
  have hb : ∀ p : Access ι β α, (p.bind f).reads mem = p.reads mem ++ (f (p.run mem)).reads mem := by
    intro p
    induction p with
    | ret a => rfl
    | read i k ih => exact congrArg (i :: ·) (ih (mem i))
  exact hb p

end run

/-! ## The cells that a program can read -/

/-- On every memory the program reads cells of `P` only. -/
def Within (P : ι → Prop) (p : Access ι β α) : Prop := ∀ mem, ∀ i ∈ p.reads mem, P i

namespace Within

variable {P : ι → Prop}

/-- A result asks for nothing. -/
theorem pure (a : α) : Within P (Pure.pure a : Access ι β α) := by
  intro mem i hi
  cases hi

/-- One cell asks for that. -/
theorem cell {i : ι} (h : P i) : Within P (cell i : Access ι β β) := by
  intro mem j hj
  rw [List.mem_singleton.mp hj]
  exact h

/-- Two programs in turn stay within what both stay within. -/
theorem bind {p : Access ι β α} {f : α → Access ι β γ} (hp : Within P p) (hf : ∀ a, Within P (f a)) : Within P (p >>= f) := by
  intro mem i hi
  rw [reads_bind] at hi
  rcases List.mem_append.mp hi with hi | hi
  · exact hp mem i hi
  · exact hf _ mem i hi

/-- Each branch may use its condition. -/
theorem ite {c : Prop} [Decidable c] {p q : Access ι β α} (hp : c → Within P p) (hq : ¬c → Within P q) :
    Within P (if c then p else q) := by
  by_cases hc : c
  · rw [if_pos hc]
    exact hp hc
  · rw [if_neg hc]
    exact hq hc

end Within

/-! ## Comparing and searching -/

section

variable [DecidableEq β]

/-- `memcmp`: are these the cells from `i` on? Every cell is read. -/
def memcmp : Nat → List β → Access Nat β Bool
  | _, [] => pure true
  | i, b :: bs => do
    let x ← cell i
    let same ← memcmp (i + 1) bs
    return x == b && same

/-- A comparison stays within the stretch that it compares. -/
theorem within_memcmp {P : Nat → Prop} (bs : List β) {i : Nat} (h : ∀ j, i ≤ j → j < i + bs.length → P j) :
    Within P (memcmp i bs) := by
  induction bs generalizing i with
  | nil => exact .pure true
  | cons b bs ih =>
    rw [List.length_cons] at h
    refine .bind (.cell (h i le_rfl (by omega))) fun x => ?_
    exact .bind (ih fun j hij hj => h j (by omega) (by omega)) fun same => .pure _

/-- A comparison succeeds where every cell agrees. -/
theorem run_memcmp (mem : Nat → β) (bs : List β) (i : Nat) :
    (memcmp i bs).run mem = true ↔ ∀ j (hj : j < bs.length), mem (i + j) = bs[j] := by
  induction bs generalizing i with
  | nil => simp [memcmp]
  | cons b bs ih =>
    simp only [memcmp, run_bind, run_cell, run_pure, Bool.and_eq_true, beq_iff_eq, ih]
    constructor
    · rintro ⟨hb, hbs⟩ j hj
      cases j with
      | zero => exact hb
      | succ j =>
        rw [List.getElem_cons_succ, ← hbs j (by simpa using hj)]
        congr 1
        omega
    · intro h
      refine ⟨h 0 (by simp), fun j hj => ?_⟩
      have hj' := h (j + 1) (by simpa using hj)
      rw [List.getElem_cons_succ] at hj'
      rw [← hj']
      congr 1
      omega

end

/-- A loop that counts up from `i` for `n` rounds, until one round returns something. -/
def search (body : Nat → Access ι β (Option α)) : Nat → Nat → Access ι β (Option α)
  | 0, _ => pure none
  | n + 1, i => do
    match ← body i with
    | some a => return some a
    | none => search body n (i + 1)

/-- A search stays within what its bodies stay within. -/
theorem within_search {P : ι → Prop} {body : Nat → Access ι β (Option α)} {n i : Nat}
    (h : ∀ j, i ≤ j → j < i + n → Within P (body j)) : Within P (search body n i) := by
  induction n generalizing i with
  | zero => exact .pure none
  | succ n ih =>
    refine .bind (h i le_rfl (by omega)) fun r => ?_
    cases r with
    | some a => exact .pure _
    | none => exact ih fun j hij hj => h j (by omega) (by omega)

/-- A search finds the first place whose body finds something. -/
theorem run_search (mem : ι → β) (body : Nat → Access ι β (Option α)) (n i : Nat) :
    (search body n i).run mem = (List.range' i n).findSome? fun j => (body j).run mem := by
  induction n generalizing i with
  | zero => rfl
  | succ n ih =>
    rw [search, run_bind, List.range'_succ, List.findSome?_cons]
    cases (body i).run mem with
    | some a => rfl
    | none => exact ih (i + 1)

end Access
