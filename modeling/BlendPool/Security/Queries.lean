/-
# `BlendPool.Security.Queries` — what the registry answers along a run

The current queries answer from the map of the moment, the queries at a
reference block from the map of that block.  Inside the window of
`historyCutoff` ledgers the latter is exact, so the per-key answers and the
total agree with each other there, and no later call moves them; before the
window an answer is the value of the time or zero.
-/
import BlendPool.Security.Refine
import Mathlib.Data.Finset.Sort

namespace BlendPool.Security

open Bounded Timeline

section

variable {H : History UInt64} {now : Nat} {st : Registry} {log : List (Entry Weights)}
  {sp : Ed25519PubKey → List (Entry UInt64)} {tp : List (Entry UInt64)}

/-! ## The current answers -/

/-- The vector is the sorted list of the registered keys. -/
theorem Tracks.allSigners_eq (h : Tracks H now st log sp tp) :
    st.allSigners = (lastValue log).support.sort (· ≤ ·) := by
  refine SortedVec.ascending_eq_sort h.ascending ?_
  intro k
  rw [h.mem_allSigners k, Finsupp.mem_support_iff]

/-- The filter of `list_signers` drops nothing: every key of the vector has a weight. -/
theorem Tracks.listSigners_eq (hH : H.Honest historyCutoff) (h : Tracks H now st log sp tp) :
    listSigners H st =
      ((lastValue log).support.sort (· ≤ ·)).map fun k => ⟨k, lastValue log k⟩ := by
  rw [← h.allSigners_eq, listSigners]
  refine List.filterMap_eq_map_iff_forall_eq_some.mpr ?_
  intro k hk
  rw [h.getSignerWeight_eq hH k, if_neg ((h.mem_allSigners k).mp hk)]
  rfl

/-! ## The answers at a reference block -/

theorem Tracks.getSignerWeightAt_window (hH : H.Lawful historyCutoff)
    (h : Tracks H now st log sp tp) {b : Nat} (hb : now ≤ b + historyCutoff) (k : Ed25519PubKey) :
    getSignerWeightAt H now st k b = valueAt log b k := by
  rw [getSignerWeightAt, h.signer k,
    hH.lookup_window _ now b (h.signer_chron k) (h.signer_past k) hb, h.signer_at k b]

theorem Tracks.getTotalWeightAt_window (hH : H.Lawful historyCutoff)
    (h : Tracks H now st log sp tp) {b : Nat} (hb : now ≤ b + historyCutoff) :
    (getTotalWeightAt H now st b).toNat = (valueAt log b).total := by
  rw [getTotalWeightAt, h.total, hH.lookup_window _ now b h.total_chron h.total_past hb,
    h.total_at b]

theorem Tracks.getSignerWeightAt_old (hH : H.Honest historyCutoff)
    (h : Tracks H now st log sp tp) (b : Nat) (k : Ed25519PubKey) :
    getSignerWeightAt H now st k b = valueAt log b k ∨ getSignerWeightAt H now st k b = 0 := by
  rw [getSignerWeightAt, h.signer k, ← h.signer_at k b]
  exact hH.lookup_record _ now b (h.signer_chron k) (h.signer_past k)

theorem Tracks.getTotalWeightAt_old (hH : H.Honest historyCutoff)
    (h : Tracks H now st log sp tp) (b : Nat) :
    (getTotalWeightAt H now st b).toNat = (valueAt log b).total ∨
      getTotalWeightAt H now st b = 0 := by
  rw [getTotalWeightAt, h.total, ← h.total_at b]
  rcases hH.lookup_record _ now b h.total_chron h.total_past with heq | h0
  · exact .inl (by rw [heq])
  · exact .inr h0

end

/-! ## Calls after a reference block -/

/-- A call, if the action is one, is made in a ledger after `b`. -/
def CallsAfter (b : Nat) (c : Chain) : Action → Prop
  | .close _ => True
  | .call _ _ => b < c.ledger

theorem log_run_later (D : Deps) (b : Nat) :
    ∀ (m : Mirrored) (as : List Action), Runs.Along (step D) (CallsAfter b) m.chain as →
      ∃ later, (Runs.run (mirror D) m as).log = m.log ++ later ∧ ∀ e ∈ later, b < e.time := by
  intro m as
  induction as generalizing m with
  | nil => exact fun _ => ⟨[], (List.append_nil _).symm, fun e he => absurd he List.not_mem_nil⟩
  | cons a as ih =>
      rintro ⟨ha, has⟩
      rw [← mirror_chain] at has
      obtain ⟨later, hlog, hlater⟩ := ih (mirror D m a) has
      rw [Runs.run_cons, hlog]
      cases a with
      | close n => exact ⟨later, rfl, hlater⟩
      | call auth entry =>
          cases hok : invoke D auth m.chain entry with
          | error e => rw [mirror_call_error hok]; exact ⟨later, rfl, hlater⟩
          | ok p =>
              obtain ⟨st, ev⟩ := p
              rw [mirror_call_ok hok]
              refine ⟨⟨m.chain.ledger, entry.applyTo m.current⟩ :: later, by simp, ?_⟩
              intro e he
              rcases List.mem_cons.mp he with rfl | he
              · exact ha
              · exact hlater e he

theorem valueAt_run_later {D : Deps} {b : Nat} {m : Mirrored} {as : List Action}
    (h : Runs.Along (step D) (CallsAfter b) m.chain as) :
    valueAt (Runs.run (mirror D) m as).log b = valueAt m.log b := by
  obtain ⟨later, hlog, hlater⟩ := log_run_later D b m as h
  rw [hlog, valueAt_append_later hlater]

theorem ledger_le_step (D : Deps) (c : Chain) (a : Action) : c.ledger ≤ (step D c a).ledger := by
  cases a with
  | close n => exact Nat.le_add_right _ n
  | call auth entry =>
      rw [step]
      split
      · exact le_refl _
      · exact le_refl _

theorem ledger_le_run (D : Deps) (c : Chain) (as : List Action) :
    c.ledger ≤ (Runs.run (step D) c as).ledger := by
  have hstep : ∀ s a, c.ledger ≤ s.ledger → c.ledger ≤ (step D s a).ledger :=
    fun s a h => le_trans h (ledger_le_step D s a)
  exact Runs.Invariant.run (step D) hstep (le_refl _) as

/-! ## The threshold and the required weight -/

/-- The threshold the constructor and `set_threshold` let through. -/
structure Threshold.Valid (t : Threshold) : Prop where
  numerator_pos : 0 < t.numerator.toNat
  numerator_le : t.numerator.toNat ≤ t.denominator.toNat

theorem checkThreshold_valid {numerator denominator : UInt64} {t : Threshold}
    (h : checkThreshold numerator denominator = .ok t) : Threshold.Valid t := by
  rw [checkThreshold] at h
  split at h
  · cases h
  · split at h
    · cases h
    · next hn =>
        split at h
        · cases h
        · next hle =>
            cases h
            refine ⟨Nat.pos_of_ne_zero fun h0 => hn (UInt64.toNat_inj.mp h0), ?_⟩
            exact UInt64.le_iff_toNat_le.mp (UInt64.not_lt.mp hle)

theorem Threshold.Valid.quotient_le {t : Threshold} (ht : t.Valid) (total : Nat) :
    total * t.numerator.toNat / t.denominator.toNat ≤ total := by
  refine Nat.div_le_of_le_mul ?_
  rw [Nat.mul_comm]
  exact Nat.mul_le_mul_right _ ht.numerator_le

/-- The product fits, the division is defined and the cast loses nothing. -/
theorem fraction_eq (total : UInt64) {t : Threshold} (ht : t.Valid) :
    ∃ r : UInt64, fraction total t = some r ∧
      r.toNat = total.toNat * t.numerator.toNat / t.denominator.toNat := by
  have hden : 0 < t.denominator.toNat := lt_of_lt_of_le ht.numerator_pos ht.numerator_le
  have hprod : total.toNat * t.numerator.toNat ≤ 18446744073709551615 * 18446744073709551615 :=
    Nat.mul_le_mul (toNat_le_u64Max total) (toNat_le_u64Max t.numerator)
  have hguard : ¬ (u128Max < total.toNat * t.numerator.toNat ∨ t.denominator = 0) := by
    rintro (h | h)
    · unfold u128Max at h
      omega
    · rw [h] at hden
      exact absurd hden (lt_irrefl 0)
  refine ⟨_, if_neg hguard, UInt64.toNat_ofNat_of_lt' ?_⟩
  exact lt_of_le_of_lt (ht.quotient_le _) total.toNat_lt

theorem threshold_valid_step (D : Deps) (c : Chain) (a : Action)
    (h : c.registry.threshold.Valid) : (step D c a).registry.threshold.Valid := by
  cases a with
  | close n => exact h
  | call auth entry =>
      cases hok : invoke D auth c entry with
      | error e => rw [step, hok]; exact h
      | ok p =>
          obtain ⟨st, ev⟩ := p
          rw [step, hok]
          rcases invoke_threshold hok with heq | ⟨numerator, denominator, hcheck⟩
          · show st.threshold.Valid
            rw [heq]
            exact h
          · exact checkThreshold_valid hcheck

theorem threshold_valid_run (D : Deps) {c₀ : Chain} (h₀ : Deployed c₀) (as : List Action) :
    (Runs.run (step D) c₀ as).registry.threshold.Valid := by
  refine Runs.Invariant.run (step D) (threshold_valid_step D) ?_ as
  obtain ⟨admin, numerator, denominator, hc⟩ := h₀
  obtain ⟨t, ht, hst⟩ := constructor_ok hc
  rw [hst]
  exact checkThreshold_valid ht

/-! ## The registry is the map -/

/-- At the end of every run the stored registry is the finite map the committed
calls leave: pointwise, in total, as a set of keys and as a list of entries. -/
theorem registry_refines_map (D : Deps) (hH : D.hist.Lawful historyCutoff) {c₀ : Chain}
    (h₀ : Deployed c₀) (as : List Action) :
    let m := Runs.run (mirror D) (.start c₀) as
    let st := m.chain.registry
    let M := m.current
    m.chain = Runs.run (step D) c₀ as ∧
      (∀ k, Ed25519Security.getSignerWeight D.hist st k = M k) ∧
      (getTotalWeight D.hist st).toNat = M.total ∧
      (∀ keys, getSignerWeights D.hist st keys = keys.map M) ∧
      SortedVec.Ascending st.allSigners ∧
      (∀ k, k ∈ st.allSigners ↔ k ∈ M.support) ∧
      listSigners D.hist st = (M.support.sort (· ≤ ·)).map (fun k => ⟨k, M k⟩) ∧
      ∀ auth k, auth st.admin = true → k ∉ M.support →
        invoke D auth m.chain (.removeSigner k) = .ok (st, [.ed25519SignerRemoved k]) := by
  intro m st M
  obtain ⟨⟨sp, tp, h⟩, -⟩ := tracked_run hH.honest h₀ as
  have hweight : ∀ k, (Security.getSignerWeight D.hist st k).getD 0 = M k :=
    fun k => h.getSignerWeight_getD hH.honest k
  refine ⟨run_mirror_chain D _ as, hweight, h.getTotalWeight_eq hH.honest, ?_, h.ascending, ?_,
    h.listSigners_eq hH.honest, ?_⟩
  · intro keys
    exact List.map_congr_left fun k _ => hweight k
  · intro k
    rw [Finsupp.mem_support_iff]
    exact h.mem_allSigners k
  · intro auth k hauth hk
    have habsent := h.removeSigner_absent hH.honest (Finsupp.notMem_support_iff.mp hk)
    rw [invoke_removeSigner_eq, if_pos hauth, habsent]

/-- Two signers are added, four ledgers later one leaves. -/
def twoSigners : List Action :=
  [.call (fun _ => true) (.addSigner (.const 32 1) 3),
    .call (fun _ => true) (.addSigner (.const 32 2) 5),
    .close 4,
    .call (fun _ => true) (.removeSigner (.const 32 1))]

theorem registry_refines_map_twoSigners :
    let m := Runs.run (mirror .reference) (.start freshChain) twoSigners
    (getTotalWeight pruning m.chain.registry).toNat = m.current.total ∧
      getTotalWeight pruning (Runs.run (step .reference) freshChain twoSigners).registry = 5 :=
  ⟨(registry_refines_map .reference (pruning_lawful _) freshChain_deployed twoSigners).2.2.1,
    by decide⟩

/-! ## The past is fixed -/

/-- `cb` is the chain of the run when block `b` closed: reached by `b`, and
every later call is made after `b`. -/
def StoodAt (D : Deps) (c₀ : Chain) (as : List Action) (b : Nat) (cb : Chain) : Prop :=
  ∃ before after, as = before ++ after ∧ cb = Runs.run (step D) c₀ before ∧ cb.ledger ≤ b ∧
    Runs.Along (step D) (CallsAfter b) cb after

theorem callsAfter_of_lt (D : Deps) {b : Nat} {c : Chain} (h : b < c.ledger) (as : List Action) :
    Runs.Along (step D) (CallsAfter b) c as := by
  have hstep : ∀ c a, b < Chain.ledger c → b < (step D c a).ledger := by
    intro c a hc
    exact lt_of_lt_of_le hc (ledger_le_step D c a)
  refine Runs.Along.of_invariant (step D) hstep ?_ h as
  intro c a hc
  cases a with
  | close n => exact trivial
  | call auth entry => exact hc

theorem exists_stoodAt (D : Deps) {c₀ : Chain} (as : List Action) {b : Nat} (h : c₀.ledger ≤ b) :
    ∃ cb, StoodAt D c₀ as b cb := by
  induction as generalizing c₀ with
  | nil => exact ⟨c₀, [], [], rfl, rfl, h, trivial⟩
  | cons a as ih =>
      rcases Nat.lt_or_ge b (step D c₀ a).ledger with hlt | hge
      · -- only a close can step over `b`
        have ha : CallsAfter b c₀ a := by
          cases a with
          | close n => exact trivial
          | call auth entry =>
              rw [step] at hlt
              split at hlt
              · exact hlt
              · exact hlt
        exact ⟨c₀, [], a :: as, rfl, rfl, h, ha, callsAfter_of_lt D hlt as⟩
      · obtain ⟨cb, before, after, rfl, hcb, hle, hafter⟩ := ih hge
        exact ⟨cb, a :: before, after, rfl, hcb, hle, hafter⟩

/-- Reading the log at `b` is reading the map the chain had when `b` closed. -/
theorem StoodAt.valueAt_log {D : Deps} (hH : D.hist.Lawful historyCutoff) {c₀ cb : Chain}
    (h₀ : Deployed c₀) {as : List Action} {b : Nat} (h : StoodAt D c₀ as b cb) :
    (∀ k, valueAt (Runs.run (mirror D) (.start c₀) as).log b k =
        Ed25519Security.getSignerWeight D.hist cb.registry k) ∧
      (valueAt (Runs.run (mirror D) (.start c₀) as).log b).total =
        (getTotalWeight D.hist cb.registry).toNat := by
  obtain ⟨before, after, rfl, rfl, hle, hafter⟩ := h
  obtain ⟨⟨sp, tp, ht⟩, -⟩ := tracked_run hH.honest h₀ before
  have hchain := run_mirror_chain D (.start c₀) before
  rw [hchain] at ht
  have hlast : valueAt (Runs.run (mirror D) (.start c₀) (before ++ after)).log b =
      lastValue (Runs.run (mirror D) (.start c₀) before).log := by
    rw [Runs.run_append, valueAt_run_later (by rw [hchain]; exact hafter)]
    exact valueAt_eq_lastValue fun p hp => (ht.log_past p hp).trans hle
  rw [hlast]
  exact ⟨fun k => (ht.getSignerWeight_getD hH.honest k).symm, (ht.getTotalWeight_eq hH.honest).symm⟩

/-- Inside the window the total at `b` is the sum over every key ever registered. -/
theorem Tracked.window_sum {D : Deps} (hH : D.hist.Lawful historyCutoff) {m : Mirrored}
    (h : Tracked D m) (b : Nat) (hb : m.chain.ledger ≤ b + historyCutoff) :
    (getTotalWeightAt D.hist m.chain.ledger m.chain.registry b).toNat =
      ∑ k ∈ m.keys, (getSignerWeightAt D.hist m.chain.ledger m.chain.registry k b).toNat := by
  obtain ⟨⟨sp, tp, ht⟩, hcov⟩ := h
  have hsupport : (valueAt m.log b).support ⊆ m.keys := by
    rcases valueAt_mem m.log b with h0 | ⟨p, hp, hv⟩
    · rw [h0]
      exact Finset.empty_subset _
    · rw [← hv]
      exact hcov p hp
  rw [ht.getTotalWeightAt_window hH hb, Weights.total_eq_sum hsupport]
  exact Finset.sum_congr rfl fun k _ => by rw [ht.getSignerWeightAt_window hH hb k]

/-- Calls after `b` do not move the answers at `b` while it stays in the window. -/
theorem Tracked.window_stable {D : Deps} (hH : D.hist.Lawful historyCutoff) {m : Mirrored}
    (h : Tracked D m) (b : Nat) (later : List Action)
    (hlater : Runs.Along (step D) (CallsAfter b) m.chain later) :
    let c := m.chain
    let c' := Runs.run (step D) c later
    c'.ledger ≤ b + historyCutoff →
      (∀ k, getSignerWeightAt D.hist c'.ledger c'.registry k b =
          getSignerWeightAt D.hist c.ledger c.registry k b) ∧
        getTotalWeightAt D.hist c'.ledger c'.registry b =
          getTotalWeightAt D.hist c.ledger c.registry b := by
  intro c c' hb'
  have hb : c.ledger ≤ b + historyCutoff := (ledger_le_run D c later).trans hb'
  have h' : Tracked D (Runs.run (mirror D) m later) :=
    Runs.Invariant.run (mirror D) (tracked_step hH.honest) h later
  obtain ⟨⟨sp, tp, ht⟩, -⟩ := h
  obtain ⟨⟨sp', tp', ht'⟩, -⟩ := h'
  rw [run_mirror_chain] at ht'
  refine ⟨?_, UInt64.toNat_inj.mp ?_⟩
  · intro k
    rw [ht'.getSignerWeightAt_window hH hb' k, ht.getSignerWeightAt_window hH hb k,
      valueAt_run_later hlater]
  · rw [ht'.getTotalWeightAt_window hH hb', ht.getTotalWeightAt_window hH hb,
      valueAt_run_later hlater]

/-- Inside the window the total at a reference block is the sum over every key
ever registered, and later calls leave it so; an answer for a block `b` is the
value the registry had when `b` closed, except that before the window it may be
zero. -/
theorem point_in_time_consistency (D : Deps) (hH : D.hist.Lawful historyCutoff) {c₀ : Chain}
    (h₀ : Deployed c₀) (as : List Action) (b : Nat) :
    let m := Runs.run (mirror D) (.start c₀) as
    let c := Runs.run (step D) c₀ as
    let weightAt := fun (c : Chain) k => getSignerWeightAt D.hist c.ledger c.registry k b
    let totalAt := fun (c : Chain) => getTotalWeightAt D.hist c.ledger c.registry b
    (c.ledger ≤ b + historyCutoff →
      (totalAt c).toNat = ∑ k ∈ m.keys, (weightAt c k).toNat) ∧
    (∀ later, Runs.Along (step D) (CallsAfter b) c later →
      (Runs.run (step D) c later).ledger ≤ b + historyCutoff →
      (∀ k, weightAt (Runs.run (step D) c later) k = weightAt c k) ∧
        totalAt (Runs.run (step D) c later) = totalAt c) ∧
    (∀ cb, StoodAt D c₀ as b cb →
      (∀ k, weightAt c k = Ed25519Security.getSignerWeight D.hist cb.registry k ∨
          weightAt c k = 0) ∧
        (totalAt c = getTotalWeight D.hist cb.registry ∨ totalAt c = 0) ∧
        (c.ledger ≤ b + historyCutoff →
          (∀ k, weightAt c k = Ed25519Security.getSignerWeight D.hist cb.registry k) ∧
            totalAt c = getTotalWeight D.hist cb.registry)) ∧
    (c₀.ledger ≤ b → ∃ cb, StoodAt D c₀ as b cb) ∧
    (b < c₀.ledger → (∀ k, weightAt c k = 0) ∧ totalAt c = 0) := by
  intro m c weightAt totalAt
  have hm : Tracked D m := tracked_run hH.honest h₀ as
  have hchain : m.chain = c := run_mirror_chain D (.start c₀) as
  obtain ⟨sp, tp, ht⟩ := hm.tracks
  rw [hchain] at ht
  refine ⟨?_, ?_, ?_, exists_stoodAt D as, ?_⟩
  · intro hb
    have hsum := hm.window_sum hH b
    rw [hchain] at hsum
    exact hsum hb
  · intro later hlater hb'
    have hstable := hm.window_stable hH b later
    rw [hchain] at hstable
    exact hstable hlater hb'
  · intro cb hcb
    obtain ⟨hw, htot⟩ := hcb.valueAt_log hH h₀
    refine ⟨?_, ?_, ?_⟩
    · intro k
      rw [← hw k]
      exact ht.getSignerWeightAt_old hH.honest b k
    · rcases ht.getTotalWeightAt_old hH.honest b with heq | h0
      · exact .inl (UInt64.toNat_inj.mp (heq.trans htot))
      · exact .inr h0
    · intro hb
      constructor
      · intro k
        rw [← hw k]
        exact ht.getSignerWeightAt_window hH hb k
      · exact UInt64.toNat_inj.mp ((ht.getTotalWeightAt_window hH hb).trans htot)
  · -- nothing was written by `b`
    intro hb
    have hzero : valueAt m.log b = 0 := by
      rw [valueAt_run_later (callsAfter_of_lt D hb as)]
      rfl
    constructor
    · intro k
      rcases ht.getSignerWeightAt_old hH.honest b k with heq | h0
      · exact heq.trans (by rw [hzero]; rfl)
      · exact h0
    · rcases ht.getTotalWeightAt_old hH.honest b with heq | h0
      · refine UInt64.toNat_inj.mp (heq.trans ?_)
        rw [hzero]
        rfl
      · exact h0

theorem point_in_time_consistency_twoSigners :
    let m := Runs.run (mirror .reference) (.start freshChain) twoSigners
    let c := Runs.run (step .reference) freshChain twoSigners
    (getTotalWeightAt pruning c.ledger c.registry 102).toNat =
        ∑ k ∈ m.keys, (getSignerWeightAt pruning c.ledger c.registry k 102).toNat ∧
      getTotalWeightAt pruning c.ledger c.registry 102 = 8 :=
  ⟨(point_in_time_consistency .reference (pruning_lawful _) freshChain_deployed twoSigners 102).1
      (by decide),
    by decide⟩

end BlendPool.Security
