/-
# `BlendPool.Lib.Loops` — loops with a bound and a way out

A body that runs at most `n` times, is told the number of its pass, and may end
the loop at any of them.  Whether the bound or the body ended it is in the
result, for a caller who asks; `state` is what the loop leaves in either case.

Three rules: what every pass keeps holds at the end; a loop reaches its goal if
every pass that does not reach it goes on and lowers a measure that the bound
exceeds; and where the passes do not depend on each other, the loop leaves what
the first that ends it leaves, or the last where none does.
-/
import Mathlib.Tactic.Common

namespace Loops

variable {σ : Type}

inductive Pass (σ : Type) where
  | next (s : σ)
  | stop (s : σ)

def Pass.state : Pass σ → σ
  | .next s => s
  | .stop s => s

/-- The passes from number `i` on, of which there are `n` left. -/
def upTo (body : Nat → σ → Pass σ) : Nat → Nat → σ → Pass σ
  | 0, _, s => .next s
  | n + 1, i, s =>
      match body i s with
      | .next t => upTo body n (i + 1) t
      | .stop t => .stop t

variable {body : Nat → σ → Pass σ}

/-- What every pass keeps. -/
theorem upTo_invariant {I : σ → Prop} (hI : ∀ i s, I s → I (body i s).state) (n i : Nat) {s : σ}
    (h : I s) : I (upTo body n i s).state := by
  induction n generalizing i s with
  | zero => exact h
  | succ n ih =>
      have hpass := hI i s h
      rw [upTo]
      split
      · next t ht =>
          rw [ht] at hpass
          exact ih (i + 1) hpass
      · next t ht =>
          rw [ht] at hpass
          exact hpass

/-- The bound is enough: a pass that falls short of the goal goes on, and has come
closer to it. -/
theorem upTo_reaches {I G : σ → Prop} {m : σ → Nat} (hI : ∀ i s, I s → I (body i s).state)
    (hG : ∀ i s, I s → G s → G (body i s).state)
    (hstep : ∀ i s, I s → G (body i s).state ∨ ∃ t, body i s = .next t ∧ m t < m s)
    {n : Nat} (i : Nat) {s : σ} (h : I s) (hn : m s < n) : G (upTo body n i s).state := by
  induction n generalizing i s with
  | zero => exact absurd hn (Nat.not_lt_zero _)
  | succ n ih =>
      have hpass := hI i s h
      rcases hstep i s h with hgoal | ⟨t, ht, hlower⟩
      · rw [upTo]
        split
        · next t ht =>
            rw [ht] at hpass hgoal
            have hboth := upTo_invariant (I := fun s => I s ∧ G s)
              (fun i s hs => ⟨hI i s hs.1, hG i s hs.1 hs.2⟩) n (i + 1) ⟨hpass, hgoal⟩
            exact hboth.2
        · next t ht =>
            rw [ht] at hgoal
            exact hgoal
      · rw [ht] at hpass
        rw [upTo, ht]
        exact ih (i + 1) hpass (by omega)

/-- Where a pass does not look at the state, the loop leaves what one pass leaves: the
first that ends it, or the last of all. -/
theorem upTo_last (pass : Nat → Pass σ) (n i : Nat) (s : σ) :
    ∃ j ≤ n, upTo (fun i _ => pass i) (n + 1) i s = pass (i + j) ∧
      (∀ k < j, ∃ t, pass (i + k) = .next t) ∧ (j < n → ∃ t, pass (i + j) = .stop t) := by
  induction n generalizing i s with
  | zero =>
      refine ⟨0, Nat.le_refl 0, ?_, fun k h => absurd h (Nat.not_lt_zero k),
        fun h => absurd h (Nat.not_lt_zero 0)⟩
      rw [upTo.eq_def, Nat.add_zero]
      dsimp only
      cases pass i with
      | next t => rfl
      | stop t => rfl
  | succ n ih =>
      cases hfirst : pass i with
      | stop t =>
          refine ⟨0, Nat.zero_le _, ?_, fun k h => absurd h (Nat.not_lt_zero k),
            fun _ => ⟨t, hfirst⟩⟩
          rw [upTo, hfirst]
          exact hfirst.symm
      | next t =>
          obtain ⟨j, hj, hloop, hbefore, hstop⟩ := ih (i + 1) t
          have hshift : ∀ k, i + (k + 1) = i + 1 + k := fun k => by
            rw [Nat.add_comm k 1, ← Nat.add_assoc]
          refine ⟨j + 1, Nat.succ_le_succ hj, ?_, ?_, ?_⟩
          · rw [upTo, hfirst, hshift j]
            exact hloop
          · intro k hk
            cases k with
            | zero => exact ⟨t, hfirst⟩
            | succ k =>
                rw [hshift k]
                exact hbefore k (Nat.lt_of_succ_lt_succ hk)
          · intro hlt
            rw [hshift j]
            exact hstop (Nat.lt_of_succ_lt_succ hlt)

end Loops
