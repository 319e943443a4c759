/-
# `BlendPool.Lib.Timeline` — a value and its past

A timeline is the list of writes to one cell, each stamped with its time.  It
answers two questions: what is the value now (`lastValue`), and what was it at
time `b` (`valueAt`, the value of the last write at or before `b`).

A store that keeps such a timeline need not keep all of it.  `History` is the
interface of a store that may forget: it is handed the width `w` of a window
and promises (`Lawful`) to be exact inside the window and, before it, either
exact or zero.  `pruning` is the obvious implementation — one entry per time, and
of the entries before the window only the newest — and `pruning_lawful` says it
keeps the promise.
-/
import Mathlib.Data.List.Induction
import Mathlib.Tactic.Common

namespace Timeline

/-- A write: when, and what. -/
structure Entry (V : Type) where
  time : Nat
  value : V
  deriving DecidableEq, Repr

variable {V : Type}

/-- Times never go back. -/
def Chron (ps : List (Entry V)) : Prop := ps.Pairwise fun p q => p.time ≤ q.time

/-! ## Reading a timeline -/

/-- The value at `b`, where `d` is the value before the first entry. -/
def valueFrom (d : V) (es : List (Entry V)) (b : Nat) : V :=
  es.foldl (fun v e => if e.time ≤ b then e.value else v) d

theorem valueFrom_cons (d : V) (e : Entry V) (es : List (Entry V)) (b : Nat) :
    valueFrom d (e :: es) b = valueFrom (if e.time ≤ b then e.value else d) es b := rfl

theorem valueFrom_snoc (d : V) (es : List (Entry V)) (e : Entry V) (b : Nat) :
    valueFrom d (es ++ [e]) b = if e.time ≤ b then e.value else valueFrom d es b := by
  simp [valueFrom, List.foldl_append]

theorem valueFrom_default (d d' : V) (es : List (Entry V)) (b : Nat) :
    valueFrom d es b = valueFrom d' es b ∨ valueFrom d es b = d ∧ valueFrom d' es b = d' := by
  induction es generalizing d d' with
  | nil => exact .inr ⟨rfl, rfl⟩
  | cons e es ih =>
      simp only [valueFrom_cons]
      by_cases h : e.time ≤ b
      · simp [h]
      · simpa [h] using ih d d'

section Read

variable [Zero V]

/-- The value at time `b`: that of the last entry at or before it. -/
def valueAt (es : List (Entry V)) (b : Nat) : V := valueFrom 0 es b

/-- The value now. -/
def lastValue (es : List (Entry V)) : V := es.foldl (fun _ e => e.value) 0

theorem valueAt_snoc (es : List (Entry V)) (e : Entry V) (b : Nat) :
    valueAt (es ++ [e]) b = if e.time ≤ b then e.value else valueAt es b :=
  valueFrom_snoc 0 es e b

@[simp] theorem lastValue_nil : lastValue ([] : List (Entry V)) = 0 := rfl

@[simp] theorem lastValue_snoc (es : List (Entry V)) (e : Entry V) :
    lastValue (es ++ [e]) = e.value := by
  simp [lastValue, List.foldl_append]

/-- The current value is one that was written, or there was none. -/
theorem lastValue_mem (es : List (Entry V)) :
    lastValue es = 0 ∨ ∃ e ∈ es, e.value = lastValue es := by
  induction es using List.reverseRecOn with
  | nil => exact .inl rfl
  | append_singleton es e _ =>
      rw [lastValue_snoc]
      exact .inr ⟨e, by simp, rfl⟩

theorem valueAt_mem (es : List (Entry V)) (b : Nat) :
    valueAt es b = 0 ∨ ∃ e ∈ es, e.value = valueAt es b := by
  induction es using List.reverseRecOn with
  | nil => exact .inl rfl
  | append_singleton es e ih =>
      rw [valueAt_snoc]
      split
      · exact .inr ⟨e, by simp, rfl⟩
      · rcases ih with h0 | ⟨f, hf, hv⟩
        · exact .inl h0
        · exact .inr ⟨f, List.mem_append_left _ hf, hv⟩

theorem valueAt_eq_lastValue {es : List (Entry V)} {b : Nat} (h : ∀ e ∈ es, e.time ≤ b) :
    valueAt es b = lastValue es := by
  induction es using List.reverseRecOn with
  | nil => rfl
  | append_singleton es e _ =>
      have he : e.time ≤ b := h e (by simp)
      rw [valueAt_snoc, if_pos he, lastValue_snoc]

theorem valueAt_append_later {es fs : List (Entry V)} {b : Nat} (h : ∀ e ∈ fs, b < e.time) :
    valueAt (es ++ fs) b = valueAt es b := by
  induction fs using List.reverseRecOn with
  | nil => rw [List.append_nil]
  | append_singleton fs e ih =>
      have he : ¬ e.time ≤ b := Nat.not_le.mpr (h e (by simp))
      rw [← List.append_assoc, valueAt_snoc, if_neg he]
      exact ih fun e' he' => h e' (List.mem_append_left _ he')

end Read

/-! ## Stores that forget -/

/-- A store of one timeline.  `push` and `lookupAt` are told the width of the
window and the current time. -/
structure History (V : Type) where
  push : Nat → Nat → List (Entry V) → V → List (Entry V)
  latest : List (Entry V) → V
  lookupAt : Nat → Nat → List (Entry V) → Nat → V

/-- What the store holds after a list of writes. -/
def History.record (H : History V) (w : Nat) (ps : List (Entry V)) : List (Entry V) :=
  ps.foldl (fun es p => H.push w p.time es p.value) []

theorem History.record_snoc (H : History V) (w : Nat) (ps : List (Entry V)) (p : Entry V) :
    H.record w (ps ++ [p]) = H.push w p.time (H.record w ps) p.value := by
  simp [History.record, List.foldl_append]

/-- The promise of a store with window `w`, over writes in chronological order. -/
structure History.Lawful [Zero V] (H : History V) (w : Nat) : Prop where
  /-- The latest value is that of the last write. -/
  latest_record : ∀ ps, Chron ps → H.latest (H.record w ps) = lastValue ps
  /-- Inside the window a lookup is exact. -/
  lookup_window : ∀ ps now b, Chron ps → (∀ p ∈ ps, p.time ≤ now) → now ≤ b + w →
    H.lookupAt w now (H.record w ps) b = valueAt ps b
  /-- Before the window it may have been forgotten. -/
  lookup_old : ∀ ps now b, Chron ps → (∀ p ∈ ps, p.time ≤ now) →
    H.lookupAt w now (H.record w ps) b = valueAt ps b ∨
      H.lookupAt w now (H.record w ps) b = 0

/-- The part of the promise that does not mention the window's width: a lookup may
have been forgotten at any time. -/
structure History.Honest [Zero V] (H : History V) (w : Nat) : Prop where
  latest_record : ∀ ps, Chron ps → H.latest (H.record w ps) = lastValue ps
  lookup_record : ∀ ps now b, Chron ps → (∀ p ∈ ps, p.time ≤ now) →
    H.lookupAt w now (H.record w ps) b = valueAt ps b ∨
      H.lookupAt w now (H.record w ps) b = 0

theorem History.Lawful.honest [Zero V] {H : History V} {w : Nat} (h : H.Lawful w) :
    H.Honest w :=
  ⟨h.latest_record, h.lookup_old⟩

/-! ## The pruning store -/

/-- Drop the entries before the window, all but the newest of them. -/
def prune (w now : Nat) : List (Entry V) → List (Entry V)
  | e :: f :: es => if f.time + w < now then prune w now (f :: es) else e :: f :: es
  | es => es

/-- Write `v` at `now`, replacing a last entry of the same time. -/
def coalesce (now : Nat) (v : V) (es : List (Entry V)) : List (Entry V) :=
  match es.getLast? with
  | some e => if e.time = now then es.dropLast ++ [⟨now, v⟩] else es ++ [⟨now, v⟩]
  | none => [⟨now, v⟩]

/-- One entry per time, and one from before the window. -/
def pruning [Zero V] : History V where
  push w now es v := coalesce now v (prune w now es)
  latest := lastValue
  lookupAt _ _ es b := valueAt es b

theorem valueFrom_prune {w now b : Nat} (h : now ≤ b + w) (d : V) (es : List (Entry V)) :
    valueFrom d (prune w now es) b = valueFrom d es b := by
  induction es with
  | nil => rfl
  | cons e es ih =>
      cases es with
      | nil => rfl
      | cons f es =>
          rw [prune]
          by_cases hf : f.time + w < now
          · rw [if_pos hf, ih]
            have hb : f.time ≤ b := by omega
            simp [valueFrom_cons, hb]
          · rw [if_neg hf]

theorem coalesce_eq (now : Nat) (v : V) (es : List (Entry V)) :
    ∃ fs, coalesce now v es = fs ++ [⟨now, v⟩] ∧
      ∀ d b, ¬ now ≤ b → valueFrom d fs b = valueFrom d es b := by
  induction es using List.reverseRecOn with
  | nil => exact ⟨[], rfl, fun _ _ _ => rfl⟩
  | append_singleton es e _ =>
      by_cases he : e.time = now
      · refine ⟨es, by simp [coalesce, he], ?_⟩
        intro d b hb
        rw [valueFrom_snoc, if_neg (by omega)]
      · exact ⟨es ++ [e], by simp [coalesce, he], fun _ _ _ => rfl⟩

section Pruning

variable [Zero V]

theorem valueAt_prune_old (w now b : Nat) (es : List (Entry V)) :
    valueAt (prune w now es) b = valueAt es b ∨ valueAt (prune w now es) b = 0 := by
  induction es with
  | nil => exact .inl rfl
  | cons e es ih =>
      cases es with
      | nil => exact .inl rfl
      | cons f es =>
          rw [prune]
          by_cases hf : f.time + w < now
          · rw [if_pos hf]
            rcases ih with h | h
            · -- dropping `e` only matters when nothing else is at or before `b`
              rcases valueFrom_default (if e.time ≤ b then e.value else 0) 0 (f :: es) b
                with hd | hd
              · exact .inl (h.trans hd.symm)
              · exact .inr (h.trans hd.2)
            · exact .inr h
          · rw [if_neg hf]; exact .inl rfl

theorem valueAt_coalesce (now : Nat) (v : V) (es : List (Entry V)) (b : Nat) :
    valueAt (coalesce now v es) b = if now ≤ b then v else valueAt es b := by
  obtain ⟨fs, hfs, hv⟩ := coalesce_eq now v es
  rw [hfs, valueAt_snoc]
  by_cases h : now ≤ b
  · rw [if_pos h, if_pos h]
  · rw [if_neg h, if_neg h]; exact hv 0 b h

theorem pruning_window {w b : Nat} {ps : List (Entry V)} (h : ∀ p ∈ ps, p.time ≤ b + w) :
    valueAt (pruning.record w ps) b = valueAt ps b := by
  induction ps using List.reverseRecOn with
  | nil => rfl
  | append_singleton ps p ih =>
      rw [History.record_snoc, valueAt_snoc]
      show valueAt (coalesce p.time p.value (prune w p.time _)) b = _
      rw [valueAt_coalesce]
      have hp : p.time ≤ b + w := h p (by simp)
      have hprune := valueFrom_prune hp (0 : V) (pruning.record w ps)
      rw [valueAt, hprune]
      congr 1
      exact ih fun q hq => h q (List.mem_append_left _ hq)

theorem pruning_old (w b : Nat) (ps : List (Entry V)) :
    valueAt (pruning.record w ps) b = valueAt ps b ∨ valueAt (pruning.record w ps) b = 0 := by
  induction ps using List.reverseRecOn with
  | nil => exact .inl rfl
  | append_singleton ps p ih =>
      rw [History.record_snoc, valueAt_snoc]
      show valueAt (coalesce p.time p.value (prune w p.time _)) b = _ ∨
        valueAt (coalesce p.time p.value (prune w p.time _)) b = _
      rw [valueAt_coalesce]
      by_cases hp : p.time ≤ b
      · rw [if_pos hp, if_pos hp]; exact .inl rfl
      · rw [if_neg hp, if_neg hp]
        rcases valueAt_prune_old w p.time b (pruning.record w ps) with h | h
        · rw [h]; exact ih
        · exact .inr h

theorem pruning_latest (w : Nat) (ps : List (Entry V)) :
    lastValue (pruning.record w ps) = lastValue ps := by
  induction ps using List.reverseRecOn with
  | nil => rfl
  | append_singleton ps p _ =>
      rw [History.record_snoc, lastValue_snoc]
      obtain ⟨fs, hfs, -⟩ := coalesce_eq p.time p.value (prune w p.time (pruning.record w ps))
      show lastValue (coalesce p.time p.value _) = _
      rw [hfs, lastValue_snoc]

/-- The pruning store is exact in its window and forgets nothing else than to zero. -/
theorem pruning_lawful (w : Nat) : (pruning : History V).Lawful w where
  latest_record ps _ := pruning_latest w ps
  lookup_window _ _ _ _ hnow hb :=
    pruning_window fun p hp => Nat.le_trans (hnow p hp) hb
  lookup_old ps _ b _ _ := pruning_old w b ps

end Pruning

end Timeline
