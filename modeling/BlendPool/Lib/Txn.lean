/-
# `BlendPool.Lib.Txn` — computations that commit or roll back

A transaction reads and writes a state and may abort.  What distinguishes it
from an ordinary stateful computation is what an abort leaves behind: nothing.
`attempt` runs a transaction inside another one and restores the state when it
aborts.

Three groups of rules, none of which looks inside a particular transaction:

* **evaluation** — what a `bind` does once the outcome of its head is known;
* **inversion** — what a committed `bind`, guard or branch must have done;
* **closure** — three properties of a transaction that are inherited from its
  parts: `Respects R` (every committed run relates its two states by `R`),
  `Raises Q` (every abort is by an error in `Q`) and `Shifts f e` (a run from
  `f s` mirrors a committed run from `s`, unless it aborts with `e`).  The last
  is a simulation of a transaction by itself.
-/
import Mathlib.Tactic.Common

/-- A computation on `σ` that returns an `α` or aborts with an `ε`. -/
abbrev Txn (σ ε α : Type) := StateT σ (Except ε) α

namespace Txn

variable {σ ε α β : Type}

/-! ## The primitives -/

/-- Abort with `e` unless `p` holds. -/
def ensure (p : Prop) [Decidable p] (e : ε) : Txn σ ε Unit :=
  if p then pure () else throw e

/-- A pure computation that may fail, as a transaction. -/
def lift : Except ε α → Txn σ ε α
  | .ok a => pure a
  | .error e => throw e

/-- Unwrap an option, aborting with `e` on `none`. -/
def orAbort (e : ε) : Option α → Txn σ ε α
  | some a => pure a
  | none => throw e

/-- Run `x` as a nested transaction: its abort is returned as a value, and
the state is then the one `x` started from. -/
def attempt (x : Txn σ ε α) : Txn σ ε (Except ε α) := fun s =>
  match x s with
  | .ok (a, t) => .ok (.ok a, t)
  | .error e => .ok (.error e, s)

/-- Run `x` only if `p` holds. -/
def when (p : Prop) [Decidable p] (x : Txn σ ε Unit) : Txn σ ε Unit := if p then x else pure ()

/-! ## Evaluation -/

@[simp] theorem pure_run (a : α) (s : σ) : (pure a : Txn σ ε α) s = .ok (a, s) := rfl

@[simp] theorem modify_run (f : σ → σ) (s : σ) :
    (modify f : Txn σ ε PUnit) s = .ok (⟨⟩, f s) := rfl

@[simp] theorem throw_run (e : ε) (s : σ) : (throw e : Txn σ ε α) s = .error e := rfl

theorem bind_run (x : Txn σ ε α) (f : α → Txn σ ε β) (s : σ) :
    (x >>= f) s = match x s with
      | .ok (a, t) => f a t
      | .error e => .error e := by
  show StateT.bind x f s = _
  unfold StateT.bind
  cases x s <;> rfl

theorem bind_run_ok {x : Txn σ ε α} {f : α → Txn σ ε β} {s t : σ} {a : α}
    (h : x s = .ok (a, t)) : (x >>= f) s = f a t := by
  rw [bind_run, h]

theorem bind_run_error {x : Txn σ ε α} {f : α → Txn σ ε β} {s : σ} {e : ε}
    (h : x s = .error e) : (x >>= f) s = .error e := by
  rw [bind_run, h]

@[simp] theorem throw_bind_run (e : ε) (f : α → Txn σ ε β) (s : σ) :
    ((throw e : Txn σ ε α) >>= f) s = .error e := rfl

theorem ensure_run_of {p : Prop} [Decidable p] (e : ε) (s : σ) (h : p) :
    (ensure p e : Txn σ ε Unit) s = .ok ((), s) := by
  simp [ensure, h]

theorem ensure_run_not {p : Prop} [Decidable p] (e : ε) (s : σ) (h : ¬ p) :
    (ensure p e : Txn σ ε Unit) s = .error e := by
  simp [ensure, h]

@[simp] theorem orAbort_some_bind (e : ε) (a : α) (f : α → Txn σ ε β) :
    (orAbort e (some a) >>= f) = f a := rfl

theorem orAbort_none_bind_run (e : ε) (f : α → Txn σ ε β) (s : σ) :
    ((orAbort e none : Txn σ ε α) >>= f) s = .error e := rfl

/-! ## Inversion -/

theorem bind_eq_ok {x : Txn σ ε α} {f : α → Txn σ ε β} {s : σ} {r : β × σ} :
    (x >>= f) s = .ok r ↔ ∃ a t, x s = .ok (a, t) ∧ f a t = .ok r := by
  rw [bind_run]
  cases h : x s with
  | ok p => obtain ⟨a, t⟩ := p; simp
  | error e => simp

theorem unit_bind_eq_ok {x : Txn σ ε Unit} {f : Unit → Txn σ ε β} {s : σ} {r : β × σ} :
    (x >>= f) s = .ok r ↔ ∃ t, x s = .ok ((), t) ∧ f () t = .ok r := by
  rw [bind_eq_ok]
  constructor
  · rintro ⟨⟨⟩, t, h⟩
    exact ⟨t, h⟩
  · rintro ⟨t, h⟩
    exact ⟨(), t, h⟩

theorem except_bind_eq_ok {ε α β : Type} {x : Except ε α} {f : α → Except ε β} {b : β} :
    x.bind f = .ok b ↔ ∃ a, x = .ok a ∧ f a = .ok b := by
  cases x with
  | error e => simp [Except.bind]
  | ok a => simp [Except.bind]

theorem ensure_eq_ok {p : Prop} [Decidable p] {e : ε} {s : σ} {r : Unit × σ} :
    (ensure p e : Txn σ ε Unit) s = .ok r ↔ p ∧ r = ((), s) := by
  by_cases h : p
  · simp [ensure, h, eq_comm]
  · simp [ensure, h]

/-- A guarded transaction that committed passed its guard. -/
theorem ensure_bind_eq_ok {p : Prop} [Decidable p] {e : ε} {f : Unit → Txn σ ε β} {s : σ}
    {r : β × σ} : (ensure p e >>= f) s = .ok r ↔ p ∧ f () s = .ok r := by
  by_cases h : p
  · simp [bind_run_ok (ensure_run_of e s h), h]
  · simp [bind_run_error (ensure_run_not e s h), h]

theorem orAbort_bind_eq_ok {e : ε} {o : Option α} {f : α → Txn σ ε β} {s : σ} {r : β × σ} :
    (orAbort e o >>= f) s = .ok r ↔ ∃ a, o = some a ∧ f a s = .ok r := by
  cases o with
  | none => simp [orAbort]
  | some a => simp [orAbort]

theorem lift_bind_eq_ok {x : Except ε α} {f : α → Txn σ ε β} {s : σ} {r : β × σ} :
    (lift x >>= f) s = .ok r ↔ ∃ a, x = .ok a ∧ f a s = .ok r := by
  cases x with
  | error e => simp [lift]
  | ok a => simp [lift]

theorem ite_eq_ok {p : Prop} [Decidable p] {x y : Txn σ ε α} {s : σ} {r : α × σ} :
    (if p then x else y) s = .ok r ↔ p ∧ x s = .ok r ∨ ¬ p ∧ y s = .ok r := by
  split
  · next h => simp [h]
  · next h => simp [h]

theorem pure_eq_ok {s t : σ} {a b : α} : (pure a : Txn σ ε α) s = .ok (b, t) ↔ a = b ∧ s = t := by
  rw [pure_run, Except.ok.injEq, Prod.mk.injEq]

theorem throw_eq_ok {e : ε} {s : σ} {r : α × σ} : (throw e : Txn σ ε α) s = .ok r ↔ False := by
  simp

theorem ite_bind_eq_ok {p : Prop} [Decidable p] {x y : Txn σ ε α} {f : α → Txn σ ε β} {s : σ}
    {r : β × σ} :
    ((if p then x else y) >>= f) s = .ok r ↔
      p ∧ (x >>= f) s = .ok r ∨ ¬ p ∧ (y >>= f) s = .ok r := by
  split
  · next h => simp [h]
  · next h => simp [h]

theorem when_bind_eq_ok {p : Prop} [Decidable p] {x : Txn σ ε Unit} {f : Unit → Txn σ ε β} {s : σ}
    {r : β × σ} :
    (when p x >>= f) s = .ok r ↔ p ∧ (x >>= f) s = .ok r ∨ ¬ p ∧ f () s = .ok r :=
  ite_bind_eq_ok

theorem except_do_eq_ok {x : Except ε α} {f : α → Except ε β} {b : β} :
    (x >>= f) = .ok b ↔ ∃ a, x = .ok a ∧ f a = .ok b :=
  except_bind_eq_ok

theorem except_do_error {x : Except ε α} {f : α → Except ε β} {e : ε} (h : (x >>= f) = .error e) :
    x = .error e ∨ ∃ a, f a = .error e := by
  cases x with
  | error e' => exact .inl (congrArg Except.error (Except.error.inj h))
  | ok a => exact .inr ⟨a, h⟩

theorem bind_error {x : Txn σ ε α} {f : α → Txn σ ε β} {s : σ} {e : ε}
    (h : (x >>= f) s = .error e) : x s = .error e ∨ ∃ a t, x s = .ok (a, t) ∧ f a t = .error e := by
  cases hs : x s with
  | error e' =>
      rw [bind_run_error hs] at h
      exact .inl (congrArg Except.error (Except.error.inj h))
  | ok p =>
      rw [bind_run_ok hs] at h
      exact .inr ⟨p.1, p.2, rfl, h⟩

theorem ensure_bind_error {p : Prop} [Decidable p] {e e' : ε} {f : Unit → Txn σ ε β} {s : σ}
    (h : (ensure p e >>= f) s = .error e') : e = e' ∨ p ∧ f () s = .error e' := by
  rw [ensure] at h
  split at h
  · next hp => exact .inr ⟨hp, h⟩
  · exact .inl (Except.error.inj h)

theorem orAbort_bind_error {e e' : ε} {o : Option α} {f : α → Txn σ ε β} {s : σ}
    (h : (orAbort e o >>= f) s = .error e') : e = e' ∨ ∃ a, f a s = .error e' := by
  cases o with
  | none => exact .inl (Except.error.inj h)
  | some a => exact .inr ⟨a, h⟩

/-! ## Rollback -/

theorem attempt_ok {x : Txn σ ε α} {s t : σ} {a : α} (h : x s = .ok (a, t)) :
    attempt x s = .ok (.ok a, t) := by
  simp [attempt, h]

theorem attempt_error {x : Txn σ ε α} {s : σ} {e : ε} (h : x s = .error e) :
    attempt x s = .ok (.error e, s) := by
  simp [attempt, h]

theorem attempt_bind_eq_ok {x : Txn σ ε α} {f : Except ε α → Txn σ ε β} {s : σ} {r : β × σ} :
    (attempt x >>= f) s = .ok r ↔
      (∃ a t, x s = .ok (a, t) ∧ f (.ok a) t = .ok r) ∨
        ∃ e, x s = .error e ∧ f (.error e) s = .ok r := by
  cases h : x s with
  | ok p => obtain ⟨a, t⟩ := p; simp [bind_run_ok (attempt_ok h)]
  | error e => simp [bind_run_ok (attempt_error h)]

/-! ## Closure: relating the two ends of a committed run -/

/-- Every committed run of `x` relates its start to its end by `R`. -/
def Respects (R : σ → σ → Prop) (x : Txn σ ε α) : Prop :=
  ∀ s a t, x s = .ok (a, t) → R s t

section Respects

variable {R : σ → σ → Prop}

theorem Respects.pure (hr : ∀ s, R s s) (a : α) : Respects R (pure a : Txn σ ε α) := by
  intro s b t h
  cases h
  exact hr s

theorem Respects.throw (e : ε) : Respects R (throw e : Txn σ ε α) := by
  intro s b t h
  cases h

theorem Respects.read (hr : ∀ s, R s s) (v : σ → α) : Respects R (v <$> get : Txn σ ε α) := by
  intro s a t h
  cases h
  exact hr s

theorem Respects.modify {g : σ → σ} (h : ∀ s, R s (g s)) :
    Respects R (modify g : Txn σ ε PUnit) := by
  intro s b t hx
  cases hx
  exact h s

theorem Respects.bind (ht : ∀ {s t u}, R s t → R t u → R s u) {x : Txn σ ε α}
    {f : α → Txn σ ε β} (hx : Respects R x) (hf : ∀ a, Respects R (f a)) :
    Respects R (x >>= f) := by
  intro s b u h
  obtain ⟨a, t, h₁, h₂⟩ := bind_eq_ok.mp h
  exact ht (hx s a t h₁) (hf a t b u h₂)

theorem Respects.ite {p : Prop} [Decidable p] {x y : Txn σ ε α}
    (hx : p → Respects R x) (hy : ¬ p → Respects R y) : Respects R (if p then x else y) := by
  by_cases h : p
  · rw [if_pos h]; exact hx h
  · rw [if_neg h]; exact hy h

theorem Respects.ensure (hr : ∀ s, R s s) {p : Prop} [Decidable p] (e : ε) :
    Respects R (ensure p e : Txn σ ε Unit) :=
  .ite (fun _ => .pure hr ()) (fun _ => .throw e)

/-- A nested transaction that aborts is a step that changes nothing. -/
theorem Respects.attempt (hr : ∀ s, R s s) {x : Txn σ ε α} (hx : Respects R x) :
    Respects R (attempt x) := by
  intro s b t h
  cases hs : x s with
  | ok p =>
      obtain ⟨a, u⟩ := p
      rw [attempt_ok hs] at h
      cases h
      exact hx s a _ hs
  | error e =>
      rw [attempt_error hs] at h
      cases h
      exact hr s

end Respects

/-! ## Closure: which errors an abort can have -/

/-- Every abort of `x` is by an error in `Q`. -/
def Raises (Q : ε → Prop) (x : Txn σ ε α) : Prop := ∀ s e, x s = .error e → Q e

section Raises

variable {Q : ε → Prop}

theorem Raises.pure (a : α) : Raises Q (pure a : Txn σ ε α) := by
  intro s e h
  cases h

theorem Raises.throw {e : ε} (he : Q e) : Raises Q (throw e : Txn σ ε α) := by
  intro s e' h
  cases h
  exact he

theorem Raises.read (v : σ → α) : Raises Q (v <$> get : Txn σ ε α) := by
  intro s e h
  cases h

theorem Raises.modify (g : σ → σ) : Raises Q (modify g : Txn σ ε PUnit) := by
  intro s e h
  cases h

theorem Raises.bind {x : Txn σ ε α} {f : α → Txn σ ε β} (hx : Raises Q x)
    (hf : ∀ a, Raises Q (f a)) : Raises Q (x >>= f) := by
  intro s e h
  cases hs : x s with
  | error e' =>
      rw [bind_run_error hs] at h
      cases h
      exact hx s e hs
  | ok p =>
      obtain ⟨a, t⟩ := p
      rw [bind_run_ok hs] at h
      exact hf a t e h

theorem Raises.seq {x : Txn σ ε Unit} {y : Txn σ ε β} (hx : Raises Q x) (hy : Raises Q y) :
    Raises Q (x >>= fun _ => y) :=
  hx.bind fun _ => hy

theorem Raises.ite {p : Prop} [Decidable p] {x y : Txn σ ε α}
    (hx : p → Raises Q x) (hy : ¬ p → Raises Q y) : Raises Q (if p then x else y) := by
  split
  · next h => exact hx h
  · next h => exact hy h

theorem Raises.ensure {p : Prop} [Decidable p] {e : ε} (he : Q e) :
    Raises Q (ensure p e : Txn σ ε Unit) :=
  .ite (fun _ => .pure ()) (fun _ => .throw he)

theorem Raises.orAbort {e : ε} {o : Option α} (he : o = none → Q e) :
    Raises Q (orAbort e o : Txn σ ε α) := by
  cases o with
  | none => exact .throw (he rfl)
  | some a => exact .pure a

theorem Raises.when {p : Prop} [Decidable p] {x : Txn σ ε Unit} (hx : Raises Q x) :
    Raises Q (when p x) :=
  .ite (fun _ => hx) (fun _ => .pure ())

/-- A nested transaction does not abort the outer one. -/
theorem Raises.attempt (x : Txn σ ε α) : Raises Q (attempt x) := by
  intro s e h
  cases hs : x s with
  | ok p =>
      obtain ⟨a, t⟩ := p
      rw [attempt_ok hs] at h
      cases h
  | error e' =>
      rw [attempt_error hs] at h
      cases h

end Raises

/-! ## Closure: mirroring a run from another state -/

/-- Whenever `x` commits from `s`, it does the same from `f s`, or aborts
there with `e`. -/
def Shifts (f : σ → σ) (e : ε) (x : Txn σ ε α) : Prop :=
  ∀ s a t, x s = .ok (a, t) → x (f s) = .ok (a, f t) ∨ x (f s) = .error e

section Shifts

variable {f : σ → σ} {e : ε}

theorem Shifts.pure (a : α) : Shifts f e (pure a : Txn σ ε α) := by
  intro s b t h
  cases h
  exact .inl rfl

theorem Shifts.throw (e' : ε) : Shifts f e (throw e' : Txn σ ε α) := by
  intro s b t h
  cases h

theorem Shifts.modify {g : σ → σ} (h : ∀ s, g (f s) = f (g s)) :
    Shifts f e (modify g : Txn σ ε PUnit) := by
  intro s b t hx
  cases hx
  exact .inl (by rw [modify_run, h])

theorem Shifts.read {v : σ → α} (h : ∀ s, v (f s) = v s) :
    Shifts f e (v <$> get : Txn σ ε α) := by
  intro s b t hx
  cases hx
  exact .inl (by show Except.ok (v (f s), f s) = _; rw [h])

theorem Shifts.bind {x : Txn σ ε α} {k : α → Txn σ ε β} (hx : Shifts f e x)
    (hk : ∀ a, Shifts f e (k a)) : Shifts f e (x >>= k) := by
  intro s b u h
  obtain ⟨a, t, h₁, h₂⟩ := bind_eq_ok.mp h
  rcases hx s a t h₁ with hm | hm
  · rw [bind_run_ok hm]; exact hk a t b u h₂
  · exact .inr (bind_run_error hm)

theorem Shifts.ite {p : Prop} [Decidable p] {x y : Txn σ ε α}
    (hx : p → Shifts f e x) (hy : ¬ p → Shifts f e y) : Shifts f e (if p then x else y) := by
  by_cases h : p
  · rw [if_pos h]; exact hx h
  · rw [if_neg h]; exact hy h

/-- A nested transaction that mirrors every run, aborts included, shows the
outer one nothing. -/
theorem Shifts.attempt {x : Txn σ ε α}
    (h : ∀ s, x (f s) = (x s).map fun p => (p.1, f p.2)) : Shifts f e (attempt x) := by
  intro s b t hx
  left
  cases hs : x s with
  | ok p =>
      obtain ⟨a, u⟩ := p
      rw [attempt_ok hs] at hx
      cases hx
      refine attempt_ok ?_
      rw [h s, hs]
      rfl
  | error e' =>
      rw [attempt_error hs] at hx
      cases hx
      refine attempt_error ?_
      rw [h s, hs]
      rfl

end Shifts

end Txn
