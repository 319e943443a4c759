/-
# `BlendPool.Verification.Quorum` — how much weight an accepted list holds

The required weight is the configured fraction of the total, rounded *down*.
An accepted list therefore holds the floor of the fraction and may fall short of
the fraction itself by less than one unit of weight; the law is exact when the
denominator divides.  The two facts that make the floor meaningful are that the
signers of an accepted list are distinct (they are strictly ascending) and
that inside the window their weights are entries of one map, whose total is the
total the fraction was taken of.
-/
import BlendPool.Verification.Contract
import BlendPool.Security.Queries
import Mathlib.Algebra.Order.BigOperators.Group.Finset

namespace BlendPool.Verification

open Bounded Timeline Security

/-! ## The weight of a list of distinct signers -/

theorem length_getSignerWeightsAt (H : History UInt64) (c : Chain) (keys : List Ed25519PubKey)
    (b : Nat) : ((SecurityClient.of H c).getSignerWeightsAt keys b).length = keys.length :=
  List.length_map _

theorem weightSum_le_total {M : Weights} {keys : List Ed25519PubKey} (h : keys.Nodup) :
    weightSum (keys.map M) ≤ M.total := by
  have hsum : weightSum (keys.map M) = ∑ k ∈ keys.toFinset, (M k).toNat := by
    rw [weightSum, List.map_map, List.sum_toFinset _ h]
    rfl
  have hsupport : M.support ⊆ keys.toFinset ∪ M.support := Finset.subset_union_right
  rw [hsum, Weights.total_eq_sum hsupport]
  exact Finset.sum_le_sum_of_subset Finset.subset_union_left

theorem weightSum_append (ws vs : List UInt64) :
    weightSum (ws ++ vs) = weightSum ws + weightSum vs := by
  rw [weightSum, List.map_append, List.sum_append]
  rfl

section

variable {C : Crypto} {D : Deps} {c₀ : Chain}

/-- The registry's answers inside the window come from one map, the map of that block. -/
theorem exists_weights (hH : D.hist.Lawful historyCutoff) (h₀ : Deployed c₀) (as : List Action)
    {b : Nat} (hb : (Runs.run (step D) c₀ as).ledger ≤ b + historyCutoff) :
    let c := Runs.run (step D) c₀ as
    ∃ M : Weights, (∀ keys, getSignerWeightsAt D.hist c.ledger c.registry keys b = keys.map M) ∧
      (getTotalWeightAt D.hist c.ledger c.registry b).toNat = M.total := by
  intro c
  obtain ⟨⟨sp, tp, ht⟩, -⟩ := tracked_run hH.honest h₀ as
  rw [run_mirror_chain] at ht
  refine ⟨valueAt (Runs.run (mirror D) (.start c₀) as).log b, ?_,
    ht.getTotalWeightAt_window hH hb⟩
  intro keys
  exact List.map_congr_left fun k _ => ht.getSignerWeightAt_window hH hb k

/-- An accepted list holds the required weight, which is the fraction rounded down. -/
theorem accepted_weight (h₀ : Deployed c₀) (as : List Action) (b : Nat) {envelope : Bytes}
    {signatures : List Ed25519Signature} {signerPubkeys : List Ed25519PubKey}
    (h : verify C (.of D.hist (Runs.run (step D) c₀ as)) envelope signatures signerPubkeys b =
      .ok ()) :
    let c := Runs.run (step D) c₀ as
    signerPubkeys.Nodup ∧
      (getTotalWeightAt D.hist c.ledger c.registry b).toNat * c.registry.threshold.numerator.toNat /
          c.registry.threshold.denominator.toNat ≤
        weightSum (getSignerWeightsAt D.hist c.ledger c.registry signerPubkeys b) := by
  intro c
  obtain ⟨required, hacc⟩ := (verify_eq_ok (length_getSignerWeightsAt D.hist c)).mp h
  obtain ⟨r, hr, hval⟩ := fraction_eq (getTotalWeightAt D.hist c.ledger c.registry b)
    (threshold_valid_run D h₀ as)
  have hreq : some r = some required := hr.symm.trans hacc.required_eq
  cases hreq
  exact ⟨hacc.ordered.imp ne_of_lt, hval ▸ hacc.enough⟩

/-- The quorum law: an accepted list holds the floor of the fraction, hence
falls short of the fraction by less than one unit of weight and not at all when
the denominator divides; and the signers of two accepted lists overlap as soon
as twice that floor exceeds the total. -/
theorem quorum_fraction (C : Crypto) (D : Deps) (hH : D.hist.Lawful historyCutoff) {c₀ : Chain}
    (h₀ : Deployed c₀) (as : List Action) (b : Nat)
    (hb : (Runs.run (step D) c₀ as).ledger ≤ b + historyCutoff) :
    let c := Runs.run (step D) c₀ as
    let numerator := c.registry.threshold.numerator.toNat
    let denominator := c.registry.threshold.denominator.toNat
    let total := (getTotalWeightAt D.hist c.ledger c.registry b).toNat
    let weight := fun keys => weightSum (getSignerWeightsAt D.hist c.ledger c.registry keys b)
    let accepts := fun envelope signatures keys =>
      verify C (.of D.hist c) envelope signatures keys b = .ok ()
    (0 < numerator ∧ numerator ≤ denominator) ∧
    (∀ envelope signatures keys, accepts envelope signatures keys →
      numerator * total / denominator ≤ weight keys ∧
        numerator * total < (weight keys + 1) * denominator ∧
        (denominator ∣ numerator * total → numerator * total ≤ weight keys * denominator)) ∧
    (∀ envelope signatures keys envelope' signatures' keys',
      accepts envelope signatures keys → accepts envelope' signatures' keys' →
      keys.Disjoint keys' → 2 * (numerator * total / denominator) ≤ total) := by
  intro c numerator denominator total weight accepts
  have hvalid := threshold_valid_run D h₀ as
  have hden : 0 < denominator := lt_of_lt_of_le hvalid.numerator_pos hvalid.numerator_le
  have hfloor : ∀ envelope signatures keys, accepts envelope signatures keys →
      keys.Nodup ∧ numerator * total / denominator ≤ weight keys := by
    intro envelope signatures keys h
    obtain ⟨hnd, hle⟩ := accepted_weight h₀ as b h
    exact ⟨hnd, by rw [Nat.mul_comm numerator]; exact hle⟩
  refine ⟨⟨hvalid.numerator_pos, hvalid.numerator_le⟩, ?_, ?_⟩
  · intro envelope signatures keys h
    obtain ⟨-, hle⟩ := hfloor envelope signatures keys h
    refine ⟨hle, ?_, ?_⟩
    · exact (Nat.div_lt_iff_lt_mul hden).mp (Nat.lt_succ_of_le hle)
    · intro hdvd
      exact (Nat.div_le_iff_le_mul_of_dvd hden.ne' hdvd).mp hle
  · intro envelope signatures keys envelope' signatures' keys' h h' hdisj
    obtain ⟨hnd, hle⟩ := hfloor envelope signatures keys h
    obtain ⟨hnd', hle'⟩ := hfloor envelope' signatures' keys' h'
    obtain ⟨M, hM, htotal⟩ := exists_weights hH h₀ as hb
    have hboth : weight keys + weight keys' ≤ total := by
      show weightSum (getSignerWeightsAt _ _ _ keys b) +
        weightSum (getSignerWeightsAt _ _ _ keys' b) ≤ (getTotalWeightAt _ _ _ b).toNat
      rw [hM, hM, ← weightSum_append, ← List.map_append, htotal]
      exact weightSum_le_total (hnd.append hnd' hdisj)
    omega

end

/-- A scheme in which a key signs by repeating itself. -/
def sampleCrypto : Crypto where
  sha256 _ := .const 32 0
  ed25519Verify signerPubkey _ signature := signature.val = signerPubkey.val ++ signerPubkey.val

/-- Two operators of weight one, at a threshold of 4/5. -/
def equalSigners : List Action :=
  [.call (fun _ => true) (.addSigner (.const 32 1) 1),
    .call (fun _ => true) (.addSigner (.const 32 2) 1)]

theorem quorum_fraction_equalSigners :
    let c := Runs.run (step .reference) freshChain equalSigners
    verify sampleCrypto (.of pruning c) [] [.const 64 1, .const 64 2]
        [.const 32 1, .const 32 2] 100 = .ok () ∧
      4 * 2 < (weightSum (getSignerWeightsAt pruning c.ledger c.registry
        [.const 32 1, .const 32 2] 100) + 1) * 5 :=
  have haccepts :
      verify sampleCrypto (.of pruning (Runs.run (step .reference) freshChain equalSigners)) []
        [.const 64 1, .const 64 2] [.const 32 1, .const 32 2] 100 = .ok () := by decide
  ⟨haccepts,
    ((quorum_fraction sampleCrypto .reference (pruning_lawful _) freshChain_deployed
      equalSigners 100 (by decide)).2.1 [] _ _ haccepts).2.1⟩

/-- Rounding shows with small weights: at a threshold of 4/5 either of two equal
operators is accepted alone, with half of the weight. -/
theorem quorum_fraction_short :
    let c := Runs.run (step .reference) freshChain equalSigners
    c.registry.threshold = ⟨4, 5⟩ ∧ getTotalWeightAt pruning c.ledger c.registry 100 = 2 ∧
      verify sampleCrypto (.of pruning c) [] [.const 64 1] [.const 32 1] 100 = .ok () ∧
      verify sampleCrypto (.of pruning c) [] [.const 64 2] [.const 32 2] 100 = .ok () ∧
      ¬ 4 * 2 ≤
        weightSum (getSignerWeightsAt pruning c.ledger c.registry [.const 32 1] 100) * 5 := by
  decide

end BlendPool.Verification
