/-
# `BlendPool.Security.Model` — the registry is a finite map with a past

What the registry is *for*: a finite map from keys to weights, `Weights`, in
which a key is registered exactly when its weight is not zero, together with
the timeline of the values that map has had.  `Tracks` relates a stored
registry to such a timeline, and the two theorems at the end say that the
storage functions keep it: adding writes one entry, removing writes one entry
or none.

The relation is stated through the writes themselves — `sp k` and `tp`, the
list of everything ever pushed to the timeline of `k` and to the total's — so
that the shared history module only has to be lawful.  The one equation that
carries the development is `signer_at`: at *every* past time, the timeline of a
key reads as that key's entry in the map of that time.  A push moves exactly
one key and leaves the other timelines alone, while the map's timeline gets a
new entry each time; the two agree because the new entry differs from the last
one at that key only.
-/
import BlendPool.Security.Contract
import Mathlib.Data.Finsupp.Defs
import Mathlib.Data.Finsupp.Single
import Mathlib.Algebra.BigOperators.Finsupp.Basic

namespace BlendPool.Security

open Bounded Timeline

/-- The abstract registry: the registered keys and their weights. -/
abbrev Weights := Ed25519PubKey →₀ UInt64

namespace Weights

/-- The total of all weights, in exact integers. -/
noncomputable def total (M : Weights) : Nat := ∑ k ∈ M.support, (M k).toNat

/-- `M[key] := weight`; a weight of zero erases the key. -/
noncomputable def set (M : Weights) (key : Ed25519PubKey) (weight : UInt64) : Weights :=
  M.update key weight

theorem set_apply (M : Weights) (key k : Ed25519PubKey) (weight : UInt64) :
    M.set key weight k = if k = key then weight else M k :=
  Finsupp.update_apply M key weight k

theorem set_zero (M : Weights) (key : Ed25519PubKey) : M.set key 0 = M.erase key :=
  (Finsupp.erase_eq_update_zero M key).symm

theorem total_eq_sum {M : Weights} {K : Finset Ed25519PubKey} (h : M.support ⊆ K) :
    M.total = ∑ k ∈ K, (M k).toNat := by
  refine Finset.sum_subset h ?_
  intro k _ hk
  rw [Finsupp.notMem_support_iff.mp hk]
  rfl

theorem total_set (M : Weights) (key : Ed25519PubKey) (weight : UInt64) :
    (M.set key weight).total + (M key).toNat = M.total + weight.toNat := by
  have hsub : M.support ⊆ insert key M.support := Finset.subset_insert _ _
  have hsub' : (M.set key weight).support ⊆ insert key M.support := by
    intro k hk
    rcases eq_or_ne k key with rfl | hne
    · exact Finset.mem_insert_self _ _
    · rw [Finsupp.mem_support_iff, set_apply, if_neg hne] at hk
      exact Finset.mem_insert_of_mem (Finsupp.mem_support_iff.mpr hk)
  have hrest : ∑ k ∈ (insert key M.support).erase key, (M.set key weight k).toNat
      = ∑ k ∈ (insert key M.support).erase key, (M k).toNat := by
    refine Finset.sum_congr rfl ?_
    intro k hk
    rw [set_apply, if_neg (Finset.ne_of_mem_erase hk)]
  rw [total_eq_sum hsub, total_eq_sum hsub',
    ← Finset.add_sum_erase _ _ (Finset.mem_insert_self key M.support),
    ← Finset.add_sum_erase _ (fun k => (M k).toNat) (Finset.mem_insert_self key M.support),
    hrest, set_apply, if_pos rfl]
  omega

theorem apply_le_total (M : Weights) (key : Ed25519PubKey) : (M key).toNat ≤ M.total := by
  have herase := M.total_set key 0
  rw [UInt64.toNat_zero] at herase
  omega

end Weights

/-- The invariant: `st`, in ledger `now`, stores the timeline `log` of weight maps. -/
structure Tracks (H : History UInt64) (now : Nat) (st : Registry) (log : List (Entry Weights))
    (sp : Ed25519PubKey → List (Entry UInt64)) (tp : List (Entry UInt64)) : Prop where
  signer : ∀ k, st.signerWeightHist k = H.record historyCutoff (sp k)
  total : st.totalWeightHist = H.record historyCutoff tp
  signer_chron : ∀ k, Chron (sp k)
  total_chron : Chron tp
  signer_past : ∀ k, ∀ p ∈ sp k, p.time ≤ now
  total_past : ∀ p ∈ tp, p.time ≤ now
  log_past : ∀ p ∈ log, p.time ≤ now
  signer_at : ∀ k b, valueAt (sp k) b = valueAt log b k
  total_at : ∀ b, (valueAt tp b).toNat = (valueAt log b).total
  ascending : SortedVec.Ascending st.allSigners
  mem_allSigners : ∀ k, k ∈ st.allSigners ↔ lastValue log k ≠ 0

section

variable {H : History UInt64} {now : Nat} {st : Registry} {log : List (Entry Weights)}
  {sp : Ed25519PubKey → List (Entry UInt64)} {tp : List (Entry UInt64)}

/-! ## What a tracked registry answers -/

theorem Tracks.signer_last (h : Tracks H now st log sp tp) (k : Ed25519PubKey) :
    lastValue (sp k) = lastValue log k := by
  rw [← valueAt_eq_lastValue (h.signer_past k), h.signer_at k now, valueAt_eq_lastValue h.log_past]

theorem Tracks.total_last (h : Tracks H now st log sp tp) :
    (lastValue tp).toNat = (lastValue log).total := by
  rw [← valueAt_eq_lastValue h.total_past, h.total_at now, valueAt_eq_lastValue h.log_past]

theorem Tracks.latest_signer (hH : H.Honest historyCutoff) (h : Tracks H now st log sp tp)
    (k : Ed25519PubKey) : H.latest (st.signerWeightHist k) = lastValue log k := by
  rw [h.signer k, hH.latest_record _ (h.signer_chron k), h.signer_last k]

theorem Tracks.getTotalWeight_eq (hH : H.Honest historyCutoff) (h : Tracks H now st log sp tp) :
    (getTotalWeight H st).toNat = (lastValue log).total := by
  rw [getTotalWeight, h.total, hH.latest_record _ h.total_chron, h.total_last]

theorem Tracks.getSignerWeight_eq (hH : H.Honest historyCutoff) (h : Tracks H now st log sp tp)
    (k : Ed25519PubKey) :
    getSignerWeight H st k = if lastValue log k = 0 then none else some (lastValue log k) := by
  show (if H.latest _ = 0 then none else some (H.latest _)) = _
  rw [h.latest_signer hH k]

theorem Tracks.getSignerWeight_getD (hH : H.Honest historyCutoff) (h : Tracks H now st log sp tp)
    (k : Ed25519PubKey) : (getSignerWeight H st k).getD 0 = lastValue log k := by
  rw [h.getSignerWeight_eq hH k]
  split
  · next h0 => rw [h0]; rfl
  · rfl

theorem Tracks.later (h : Tracks H now st log sp tp) {later : Nat} (hl : now ≤ later) :
    Tracks H later st log sp tp :=
  { h with
    signer_past := fun k p hp => (h.signer_past k p hp).trans hl
    total_past := fun p hp => (h.total_past p hp).trans hl
    log_past := fun p hp => (h.log_past p hp).trans hl }

/-! ## One push to a key's timeline and one to the total's -/

theorem chron_snoc {V : Type} {ps : List (Entry V)} {p : Entry V} (h : Chron ps)
    (hp : ∀ q ∈ ps, q.time ≤ p.time) : Chron (ps ++ [p]) :=
  List.pairwise_append.mpr ⟨h, List.pairwise_singleton _ _, fun q hq r hr => by
    rw [List.mem_singleton.mp hr]; exact hp q hq⟩

theorem past_snoc {V : Type} {ps : List (Entry V)} {v : V} (h : ∀ p ∈ ps, p.time ≤ now) :
    ∀ p ∈ ps ++ [⟨now, v⟩], p.time ≤ now := by
  intro p hp
  rcases List.mem_append.mp hp with hp | hp
  · exact h p hp
  · rw [List.mem_singleton.mp hp]

/-- The step both storage functions share: the key vector has become `vec`, and
`weight` and `total` are pushed. -/
theorem Tracks.push (h : Tracks H now st log sp tp) {key : Ed25519PubKey} {weight total : UInt64}
    {vec : List Ed25519PubKey} (hvec : SortedVec.Ascending vec)
    (hmem : ∀ k, k ∈ vec ↔ (lastValue log).set key weight k ≠ 0)
    (htotal : total.toNat = ((lastValue log).set key weight).total) :
    Tracks H now
      (pushTotalWeight H now
        (pushSignerWeight H now { st with allSigners := vec } key weight) total)
      (log ++ [⟨now, (lastValue log).set key weight⟩])
      (Function.update sp key (sp key ++ [⟨now, weight⟩])) (tp ++ [⟨now, total⟩]) := by
  have hlog : ∀ b, now ≤ b → valueAt log b = lastValue log := by
    intro b hb
    exact valueAt_eq_lastValue fun p hp => (h.log_past p hp).trans hb
  refine
    { signer := ?_, total := ?_, signer_chron := ?_, total_chron := ?_, signer_past := ?_,
      total_past := past_snoc h.total_past, log_past := past_snoc h.log_past,
      signer_at := ?_, total_at := ?_, ascending := hvec, mem_allSigners := ?_ }
  · intro k
    show Function.update st.signerWeightHist key _ k = _
    rcases eq_or_ne k key with rfl | hne
    · rw [Function.update_self, Function.update_self, History.record_snoc, h.signer k]
    · rw [Function.update_of_ne hne, Function.update_of_ne hne, h.signer k]
  · show H.push historyCutoff now st.totalWeightHist total = _
    rw [History.record_snoc, h.total]
  · intro k
    rcases eq_or_ne k key with rfl | hne
    · rw [Function.update_self]
      exact chron_snoc (h.signer_chron k) (h.signer_past k)
    · rw [Function.update_of_ne hne]; exact h.signer_chron k
  · exact chron_snoc h.total_chron h.total_past
  · intro k
    rcases eq_or_ne k key with rfl | hne
    · rw [Function.update_self]; exact past_snoc (h.signer_past k)
    · rw [Function.update_of_ne hne]; exact h.signer_past k
  · intro k b
    rw [valueAt_snoc]
    rcases eq_or_ne k key with rfl | hne
    · rw [Function.update_self, valueAt_snoc]
      split
      · rw [Weights.set_apply, if_pos rfl]
      · exact h.signer_at k b
    · rw [Function.update_of_ne hne, h.signer_at k b]
      split
      · next hb => rw [hlog b hb, Weights.set_apply, if_neg hne]
      · rfl
  · intro b
    rw [valueAt_snoc, valueAt_snoc]
    split
    · exact htotal
    · exact h.total_at b
  · intro k
    rw [lastValue_snoc]
    exact hmem k

/-! ## The two storage functions -/

/-- Adding with a non-zero weight, when it does not trap, writes the updated map. -/
theorem Tracks.addSigner (hH : H.Honest historyCutoff) (h : Tracks H now st log sp tp)
    {key : Ed25519PubKey} {weight : UInt64} (hw : weight ≠ 0) {st' : Registry}
    (hadd : addSigner H now st key weight = some st') :
    ∃ sp' tp', Tracks H now st' (log ++ [⟨now, (lastValue log).set key weight⟩]) sp' tp' := by
  have htot := h.getTotalWeight_eq hH
  have hupd := (lastValue log).total_set key weight
  rw [Security.addSigner, h.getSignerWeight_eq hH key] at hadd
  rcases eq_or_ne (lastValue log key) 0 with h0 | h0
  · rw [if_pos h0] at hadd
    obtain ⟨total, ht, rfl⟩ := Option.map_eq_some_iff.mp hadd
    rw [addU64?_eq_some] at ht
    refine ⟨_, _, h.push (SortedVec.ascending_insertAt_insertScan h.ascending) ?_ ?_⟩
    · intro k
      rw [SortedVec.mem_insertAt_insertScan, h.mem_allSigners k, Weights.set_apply]
      rcases eq_or_ne k key with rfl | hne
      · simp [hw]
      · simp [hne]
    · rw [h0] at hupd
      rw [ht, htot]
      exact hupd.symm
  · rw [if_neg h0] at hadd
    obtain ⟨rest, hr, hadd⟩ := Option.bind_eq_some_iff.mp hadd
    obtain ⟨total, ht, rfl⟩ := Option.map_eq_some_iff.mp hadd
    rw [subU64?_eq_some] at hr
    rw [addU64?_eq_some] at ht
    refine ⟨_, _, h.push h.ascending ?_ ?_⟩
    · intro k
      rw [h.mem_allSigners k, Weights.set_apply]
      rcases eq_or_ne k key with rfl | hne
      · simp [hw, h0]
      · simp [hne]
    · omega

/-- Removing a registered key, when it does not trap, writes the map without it. -/
theorem Tracks.removeSigner (hH : H.Honest historyCutoff) (h : Tracks H now st log sp tp)
    {key : Ed25519PubKey} (hkey : lastValue log key ≠ 0) {st' : Registry}
    (hrem : removeSigner H now st key = some st') :
    ∃ sp' tp', Tracks H now st' (log ++ [⟨now, (lastValue log).set key 0⟩]) sp' tp' := by
  have htot := h.getTotalWeight_eq hH
  have hupd := (lastValue log).total_set key 0
  rw [Security.removeSigner, h.getSignerWeight_eq hH key, if_neg hkey] at hrem
  obtain ⟨newTotal, ht, rfl⟩ := Option.map_eq_some_iff.mp hrem
  rw [subU64?_eq_some] at ht
  refine ⟨_, _, h.push (SortedVec.ascending_removeAt_removeScan h.ascending) ?_ ?_⟩
  · intro k
    rw [SortedVec.mem_removeAt_removeScan h.ascending, h.mem_allSigners k, Weights.set_apply]
    rcases eq_or_ne k key with rfl | hne
    · simp
    · simp [hne]
  · rw [UInt64.toNat_zero] at hupd
    omega

theorem Tracks.removeSigner_absent (hH : H.Honest historyCutoff) (h : Tracks H now st log sp tp)
    {key : Ed25519PubKey} (hkey : lastValue log key = 0) :
    Security.removeSigner H now st key = some st := by
  rw [Security.removeSigner, h.getSignerWeight_eq hH key, if_pos hkey]

/-! ## When they trap -/

theorem Tracks.signer_le_total (hH : H.Honest historyCutoff) (h : Tracks H now st log sp tp)
    (key : Ed25519PubKey) : (lastValue log key).toNat ≤ (getTotalWeight H st).toNat := by
  rw [h.getTotalWeight_eq hH]
  exact (lastValue log).apply_le_total key

theorem Tracks.addSigner_eq_none (hH : H.Honest historyCutoff) (h : Tracks H now st log sp tp)
    {key : Ed25519PubKey} {weight : UInt64} :
    Security.addSigner H now st key weight = none ↔
      u64Max < ((lastValue log).set key weight).total := by
  have htot := h.getTotalWeight_eq hH
  have hupd := (lastValue log).total_set key weight
  rw [Security.addSigner, h.getSignerWeight_eq hH key]
  rcases eq_or_ne (lastValue log key) 0 with h0 | h0
  · rw [h0, UInt64.toNat_zero] at hupd
    rw [if_pos h0]
    show Option.map _ _ = none ↔ _
    rw [Option.map_eq_none_iff, addU64?_eq_none]
    omega
  · obtain ⟨rest, hrest⟩ :=
      Option.isSome_iff_exists.mp (subU64?_isSome (h.signer_le_total hH key))
    rw [if_neg h0]
    show (subU64? _ _).bind _ = none ↔ _
    rw [hrest, Option.bind_some, Option.map_eq_none_iff, addU64?_eq_none]
    rw [subU64?_eq_some] at hrest
    omega

theorem Tracks.removeSigner_isSome (hH : H.Honest historyCutoff) (h : Tracks H now st log sp tp)
    (key : Ed25519PubKey) : (Security.removeSigner H now st key).isSome = true := by
  rcases eq_or_ne (lastValue log key) 0 with h0 | h0
  · rw [h.removeSigner_absent hH h0]
    rfl
  · rw [Security.removeSigner, h.getSignerWeight_eq hH key, if_neg h0]
    show (Option.map _ _).isSome = true
    rw [Option.isSome_map]
    exact subU64?_isSome (h.signer_le_total hH key)

end

end BlendPool.Security
