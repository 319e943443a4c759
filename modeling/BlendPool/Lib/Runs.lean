/-
# `BlendPool.Lib.Runs` — runs of a state machine

A machine is a total step function `σ → α → σ`; a refused action is a step that
changes nothing, and whatever the environment may choose is part of the action.
A run is then a list of actions, and a statement about every interleaving is a
statement about every list.

What the module offers, for any machine:

    Invariant.run          what every step preserves, every run preserves
    always_iff_along       `I` holds all along a run  ⟺  every step of it meets `P`
    tally_account          an account that changes by `g` at each step has
                           changed by the sum of the `g`s at the end
    Along.tally_le         what every step pays out of a measure sums to at most
                           the measure
    Along.reaches          enough steps that lower a measure short of a goal reach it
    foldl_log              if each step's entries lead from its view of the state
                           to the next one, then so does the log of a run
    Along.mem_log          what the entries of the steps have for good, those of the log have
    tally_log              what the entries of the steps add up to, the log does
    fired_nodup            a one-shot key fires at most once in a run
    seen_run               the keys recorded at the end are the old ones and
                           those that fired
-/
import Mathlib.Data.Finset.Option
import Mathlib.Data.Finset.Lattice.Basic
import Mathlib.Data.Finset.Dedup
import Mathlib.Algebra.Order.Ring.Int

namespace Runs

variable {σ α κ : Type} (step : σ → α → σ)

/-- The state after a list of actions. -/
def run (s : σ) (as : List α) : σ := as.foldl step s

@[simp] theorem run_nil (s : σ) : run step s [] = s := rfl

@[simp] theorem run_cons (s : σ) (a : α) (as : List α) :
    run step s (a :: as) = run step (step s a) as := rfl

theorem run_append (s : σ) (as bs : List α) :
    run step s (as ++ bs) = run step (run step s as) bs :=
  List.foldl_append

/-- A machine seen as another one, where each of its steps is some steps of the other. -/
theorem run_project {τ β : Type} {step' : τ → β → τ} {f : σ → τ} {g : α → List β}
    (h : ∀ s a, f (step s a) = run step' (f s) (g a)) (s : σ) (as : List α) :
    f (run step s as) = run step' (f s) (as.flatMap g) := by
  induction as generalizing s with
  | nil => rfl
  | cons a as ih => rw [run_cons, ih, h, List.flatMap_cons, run_append]

/-! ## Invariants -/

theorem Invariant.run {I : σ → Prop} (hstep : ∀ s a, I s → I (step s a)) {s : σ} (h : I s)
    (as : List α) : I (run step s as) := by
  induction as generalizing s with
  | nil => exact h
  | cons a as ih => exact ih (hstep s a h)

/-- Every step of the run, taken from the state it was taken in, meets `P`. -/
def Along (P : σ → α → Prop) : σ → List α → Prop
  | _, [] => True
  | s, a :: as => P s a ∧ Along P (step s a) as

theorem Along.and {P Q : σ → α → Prop} {s : σ} {as : List α} (hP : Along step P s as)
    (hQ : Along step Q s as) : Along step (fun s a => P s a ∧ Q s a) s as := by
  induction as generalizing s with
  | nil => exact trivial
  | cons a as ih => exact ⟨⟨hP.1, hQ.1⟩, ih hP.2 hQ.2⟩

theorem Along.of_invariant {I : σ → Prop} {P : σ → α → Prop}
    (hstep : ∀ s a, I s → I (step s a)) (hP : ∀ s a, I s → P s a) {s : σ} (h : I s)
    (as : List α) : Along step P s as := by
  induction as generalizing s with
  | nil => exact trivial
  | cons a as ih => exact ⟨hP s a h, ih (hstep s a h)⟩

theorem Along.of_mem {P : σ → α → Prop} {as : List α} (h : ∀ a ∈ as, ∀ s, P s a) (s : σ) :
    Along step P s as := by
  induction as generalizing s with
  | nil => exact trivial
  | cons a as ih =>
      refine ⟨h a List.mem_cons_self s, ih ?_ (step s a)⟩
      intro b hb
      exact h b (List.mem_cons_of_mem a hb)

theorem along_append {P : σ → α → Prop} {s : σ} {as bs : List α} :
    Along step P s (as ++ bs) ↔ Along step P s as ∧ Along step P (run step s as) bs := by
  induction as generalizing s with
  | nil => exact (and_iff_right trivial).symm
  | cons a as ih =>
      show P s a ∧ Along step P (step s a) (as ++ bs) ↔ _
      rw [ih, ← and_assoc]
      exact Iff.rfl

/-- A condition on the steps, seen through a projection of the machine. -/
theorem Along.project {τ β : Type} {step' : τ → β → τ} {f : σ → τ} {g : α → List β}
    {P : σ → α → Prop} {Q : τ → β → Prop} (h : ∀ s a, f (step s a) = run step' (f s) (g a))
    (hPQ : ∀ s a, P s a → Along step' Q (f s) (g a)) {s : σ} {as : List α}
    (has : Along step P s as) : Along step' Q (f s) (as.flatMap g) := by
  induction as generalizing s with
  | nil => exact trivial
  | cons a as ih =>
      rw [List.flatMap_cons, along_append]
      refine ⟨hPQ s a has.1, ?_⟩
      rw [← h]
      exact ih has.2

theorem along_congr {P Q : σ → α → Prop} (h : ∀ s a, P s a ↔ Q s a) {s : σ} {as : List α} :
    Along step P s as ↔ Along step Q s as := by
  induction as generalizing s with
  | nil => exact Iff.rfl
  | cons a as ih => exact and_congr (h s a) ih

/-- A condition on a machine that runs inside another one. -/
theorem along_comap {τ : Type} {step' : τ → α → τ} {f : σ → τ} {Q : τ → α → Prop}
    (h : ∀ s a, f (step s a) = step' (f s) a) {s : σ} {as : List α} :
    Along step (fun s a => Q (f s) a) s as ↔ Along step' Q (f s) as := by
  induction as generalizing s with
  | nil => exact Iff.rfl
  | cons a as ih =>
      refine and_congr_right fun _ => ?_
      rw [ih, h]

/-- What every step that meets `P` preserves, a run of such steps preserves. -/
theorem Along.run {I : σ → Prop} {P : σ → α → Prop}
    (hstep : ∀ s a, I s → P s a → I (step s a)) {s : σ} (h : I s) {as : List α}
    (has : Along step P s as) : I (run step s as) := by
  induction as generalizing s with
  | nil => exact h
  | cons a as ih => exact ih (hstep s a h has.1) has.2

/-- One condition on the steps gives another, under an invariant. -/
theorem Along.imp {I : σ → Prop} {P Q : σ → α → Prop}
    (hstep : ∀ s a, I s → P s a → I (step s a) ∧ Q s a) {s : σ} (h : I s) {as : List α}
    (has : Along step P s as) : Along step Q s as := by
  induction as generalizing s with
  | nil => exact trivial
  | cons a as ih =>
      obtain ⟨hinv, hq⟩ := hstep s a h has.1
      exact ⟨hq, ih hinv has.2⟩

/-- `I` holds in every state of the run, its first and last included. -/
def Always (I : σ → Prop) : σ → List α → Prop
  | s, [] => I s
  | s, a :: as => I s ∧ Always I (step s a) as

theorem Always.head {I : σ → Prop} {s : σ} : ∀ {as : List α}, Always step I s as → I s
  | [], h => h
  | _ :: _, h => h.1

theorem Always.last {I : σ → Prop} {s : σ} {as : List α} (h : Always step I s as) :
    I (run step s as) := by
  induction as generalizing s with
  | nil => exact h
  | cons a as ih => exact ih h.2

/-- What every step that meets `P` preserves holds throughout a run of such steps. -/
theorem Along.always {I : σ → Prop} {P : σ → α → Prop}
    (hstep : ∀ s a, I s → P s a → I (step s a)) {s : σ} (h : I s) {as : List α}
    (has : Along step P s as) : Always step I s as := by
  induction as generalizing s with
  | nil => exact h
  | cons a as ih => exact ⟨h, ih (hstep s a h has.1) has.2⟩

theorem Always.imp {I J : σ → Prop} (h : ∀ s, I s → J s) {s : σ} {as : List α}
    (has : Always step I s as) : Always step J s as := by
  induction as generalizing s with
  | nil => exact h s has
  | cons a as ih => exact ⟨h s has.1, ih has.2⟩

/-- What a state with `I` says of every step taken in it. -/
theorem Always.along {I : σ → Prop} {P : σ → α → Prop} (h : ∀ s a, I s → P s a) {s : σ}
    {as : List α} (has : Always step I s as) : Along step P s as := by
  induction as generalizing s with
  | nil => exact trivial
  | cons a as ih => exact ⟨h s a has.1, ih has.2⟩

/-- If `P` is exactly what a step needs to keep `I`, then a run keeps `I`
throughout exactly when all its steps meet `P`. -/
theorem always_iff_along {I : σ → Prop} {P : σ → α → Prop}
    (h : ∀ s a, I s → (I (step s a) ↔ P s a)) {s : σ} (hs : I s) {as : List α} :
    Always step I s as ↔ Along step P s as := by
  induction as generalizing s with
  | nil => exact ⟨fun _ => trivial, fun _ => hs⟩
  | cons a as ih =>
      constructor
      · rintro ⟨-, has⟩
        have ha : I (step s a) := has.head
        exact ⟨(h s a hs).mp ha, (ih ha).mp has⟩
      · rintro ⟨hp, has⟩
        have ha : I (step s a) := (h s a hs).mpr hp
        exact ⟨hs, (ih ha).mpr has⟩

/-- Steps that change nothing can be left out of a run. -/
theorem run_filter {keep : α → Bool} {s : σ} {as : List α}
    (has : Along step (fun s a => keep a = false → step s a = s) s as) :
    run step s (as.filter keep) = run step s as := by
  induction as generalizing s with
  | nil => rfl
  | cons a as ih =>
      cases hkeep : keep a with
      | true =>
          rw [List.filter_cons_of_pos hkeep, run_cons, run_cons]
          exact ih has.2
      | false =>
          have hidle : step s a = s := has.1 hkeep
          have hrest : Along step (fun s a => keep a = false → step s a = s) s as := by
            rw [← hidle]
            exact has.2
          rw [List.filter_cons_of_neg (by simp [hkeep]), run_cons, hidle]
          exact ih hrest

/-! ## Accounts -/

/-- The sum of what each step of the run contributes. -/
def tally (g : σ → α → ℤ) : σ → List α → ℤ
  | _, [] => 0
  | s, a :: as => g s a + tally g (step s a) as

/-- An account `f` that every step changes by `g`, under an invariant. -/
theorem tally_account {I : σ → Prop} {f : σ → ℤ} {g : σ → α → ℤ}
    (hinv : ∀ s a, I s → I (step s a)) (hstep : ∀ s a, I s → f (step s a) = f s + g s a)
    {s : σ} (hs : I s) (as : List α) :
    f (run step s as) = f s + tally step g s as := by
  induction as generalizing s with
  | nil => simp [tally]
  | cons a as ih =>
      rw [run_cons, ih (hinv s a hs), hstep s a hs, tally]
      omega

/-- An account that the steps that meet `P` change by `g`. -/
theorem Along.tally_account {I : σ → Prop} {P : σ → α → Prop} {f : σ → ℤ} {g : σ → α → ℤ}
    (hstep : ∀ s a, I s → P s a → I (step s a) ∧ f (step s a) = f s + g s a) {s : σ} (h : I s)
    {as : List α} (has : Along step P s as) :
    f (Runs.run step s as) = f s + tally step g s as := by
  induction as generalizing s with
  | nil => simp [tally]
  | cons a as ih =>
      obtain ⟨hinv, hf⟩ := hstep s a h has.1
      rw [run_cons, ih hinv has.2, hf, tally]
      omega

theorem tally_add (g h : σ → α → ℤ) (s : σ) (as : List α) :
    tally step (fun s a => g s a + h s a) s as = tally step g s as + tally step h s as := by
  induction as generalizing s with
  | nil => rfl
  | cons a as ih =>
      rw [tally, tally, tally, ih]
      omega

theorem tally_sub (g h : σ → α → ℤ) (s : σ) (as : List α) :
    tally step (fun s a => g s a - h s a) s as = tally step g s as - tally step h s as := by
  induction as generalizing s with
  | nil => rfl
  | cons a as ih =>
      rw [tally, tally, tally, ih]
      omega

theorem tally_eq_zero {g : σ → α → ℤ} {s : σ} {as : List α}
    (has : Along step (fun s a => g s a = 0) s as) : tally step g s as = 0 := by
  induction as generalizing s with
  | nil => rfl
  | cons a as ih => rw [tally, has.1, ih has.2, zero_add]

/-- Each step that meets `P` pays its contribution out of the potential `m`, which
never runs out: so a run of such steps contributes no more than the potential it
starts with. -/
theorem Along.tally_le {I : σ → Prop} {P : σ → α → Prop} {g : σ → α → ℤ} {m : σ → ℤ}
    (hstep : ∀ s a, I s → P s a → I (step s a) ∧ g s a + m (step s a) ≤ m s)
    (hnonneg : ∀ s, I s → 0 ≤ m s) {s : σ} (h : I s) {as : List α} (has : Along step P s as) :
    tally step g s as ≤ m s := by
  induction as generalizing s with
  | nil => exact hnonneg s h
  | cons a as ih =>
      obtain ⟨hinv, hpaid⟩ := hstep s a h has.1
      have hrest : tally step g (step s a) as ≤ m (step s a) := ih hinv has.2
      rw [tally]
      omega

theorem tally_nonneg {g : σ → α → ℤ} (h : ∀ s a, 0 ≤ g s a) (s : σ) (as : List α) :
    0 ≤ tally step g s as := by
  induction as generalizing s with
  | nil => exact le_refl 0
  | cons a as ih => exact add_nonneg (h s a) (ih (step s a))

theorem tally_eq_zero_iff {g : σ → α → ℤ} (h : ∀ s a, 0 ≤ g s a) {s : σ} {as : List α} :
    tally step g s as = 0 ↔ Along step (fun s a => g s a = 0) s as := by
  refine ⟨?_, tally_eq_zero step⟩
  intro hsum
  induction as generalizing s with
  | nil => exact trivial
  | cons a as ih =>
      have hhead := h s a
      have htail := tally_nonneg step h (step s a) as
      rw [tally] at hsum
      exact ⟨by omega, ih (by omega)⟩

/-! ## Logs -/

section

variable {β τ : Type}

/-- What the steps of a run write down, in order. -/
def log (out : σ → α → List β) : σ → List α → List β
  | _, [] => []
  | s, a :: as => out s a ++ log out (step s a) as

/-- A reader who gets from one view of the state to the next by the entries of each
step gets from the first to the last by the log. -/
theorem foldl_log {out : σ → α → List β} {view : σ → τ} {read : τ → β → τ}
    (hstep : ∀ s a, (out s a).foldl read (view s) = view (step s a)) (s : σ) (as : List α) :
    (log step out s as).foldl read (view s) = view (run step s as) := by
  induction as generalizing s with
  | nil => rfl
  | cons a as ih => rw [log, List.foldl_append, hstep, ih, run_cons]

theorem map_log {γ : Type} (out : σ → α → List β) (g : β → γ) (s : σ) (as : List α) :
    (log step out s as).map g = log step (fun s a => (out s a).map g) s as := by
  induction as generalizing s with
  | nil => rfl
  | cons a as ih => rw [log, log, List.map_append, ih]

theorem log_congr {out out' : σ → α → List β} (h : ∀ s a, out s a = out' s a) (s : σ)
    (as : List α) : log step out s as = log step out' s as := by
  induction as generalizing s with
  | nil => rfl
  | cons a as ih => rw [log, log, h, ih]

/-- If every entry has `Q` in the state after its step, and `Q` is not lost again, all
entries have it in the end. -/
theorem Along.mem_log {out : σ → α → List β} {Q : σ → β → Prop}
    (hstep : ∀ s a x, Q s x → Q (step s a) x) {s : σ} {as : List α}
    (has : Along step (fun s a => ∀ x ∈ out s a, Q (step s a) x) s as) {x : β}
    (hx : x ∈ log step out s as) : Q (Runs.run step s as) x := by
  induction as generalizing s with
  | nil => cases hx
  | cons a as ih =>
      rw [log, List.mem_append] at hx
      obtain hx | hx := hx
      · exact Invariant.run step (fun s a => hstep s a x) (has.1 x hx) as
      · exact ih has.2 hx

end

/-! ## One-shot keys

`fires s a` names the key that action `a`, taken in `s`, uses up.  A key that
is recorded when it fires, is never forgotten and does not fire once recorded
fires at most once in a run. -/

/-- The keys used up along a run, in order. -/
def fired (fires : σ → α → Option κ) : σ → List α → List κ
  | _, [] => []
  | s, a :: as => (fires s a).toList ++ fired fires (step s a) as

theorem fired_eq_log (fires : σ → α → Option κ) (s : σ) (as : List α) :
    fired step fires s as = log step (fun s a => (fires s a).toList) s as := by
  induction as generalizing s with
  | nil => rfl
  | cons a as ih => rw [fired, log, ih]

variable {step} [DecidableEq κ] {fires : σ → α → Option κ} {seen : σ → Finset κ}

/-- What one step does to the record of used keys. -/
def Records (step : σ → α → σ) (fires : σ → α → Option κ) (seen : σ → Finset κ) : Prop :=
  ∀ s a, seen (step s a) = seen s ∪ (fires s a).toFinset

theorem seen_run (hrec : Records step fires seen) (s : σ) (as : List α) :
    seen (run step s as) = seen s ∪ (fired step fires s as).toFinset := by
  induction as generalizing s with
  | nil => simp [fired]
  | cons a as ih =>
      rw [run_cons, ih, hrec s a, fired, List.toFinset_append, Finset.union_assoc]
      congr 2
      cases fires s a <;> simp

theorem fired_nodup (hrec : Records step fires seen)
    (hfresh : ∀ s a k, fires s a = some k → k ∉ seen s) (s : σ) (as : List α) :
    (fired step fires s as).Nodup ∧ ∀ k ∈ fired step fires s as, k ∉ seen s := by
  induction as generalizing s with
  | nil => exact ⟨List.nodup_nil, fun _ h => absurd h List.not_mem_nil⟩
  | cons a as ih =>
      obtain ⟨hnd, hdisj⟩ := ih (step s a)
      have hold : ∀ k ∈ fired step fires (step s a) as, k ∉ seen s := by
        intro k hk hks
        refine hdisj k hk ?_
        rw [hrec s a]
        exact Finset.mem_union_left _ hks
      cases hf : fires s a with
      | none => simpa [fired, hf] using ⟨hnd, hold⟩
      | some k₀ =>
          have hk₀ : k₀ ∉ fired step fires (step s a) as := by
            intro hk
            refine hdisj k₀ hk ?_
            rw [hrec s a, hf]
            simp
          simp only [fired, hf, Option.toList_some, List.cons_append, List.nil_append,
            List.nodup_cons, List.mem_cons]
          refine ⟨⟨hk₀, hnd⟩, ?_⟩
          rintro k (rfl | hk)
          · exact hfresh s a k hf
          · exact hold k hk

end Runs
