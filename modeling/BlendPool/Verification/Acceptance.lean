/-
# `BlendPool.Verification.Acceptance` — exactly which lists are accepted

`verify` and `check_one` check the same thing twice over: the one hashes once,
fetches all weights in a batch and adds them up as it goes; the other hashes and
looks up for itself.  A list is accepted exactly when it is ordered, each of its
entries passes `check_one` at the reference block, and the weights that came back
reach the required one.  The running sum is checked, and never overflows: the
signers are distinct, so they weigh no more than the total, which is stored.

The longest list there can be is the full signer set of a block.  It weighs the
whole total, so it falls short only where no list would do — where the required
weight rounds down to zero, which `verify` refuses.
-/
import BlendPool.Verification.Quorum
import Mathlib.Data.List.Forall2

namespace BlendPool.Verification

open Bounded Timeline Security

/-! ## One signature -/

section CheckOne

variable {C : Crypto} {S : SecurityClient} {envelope : Bytes} {b : Nat}

instance decValidSignature (C : Crypto) (messageHash : BytesN 32) (signature : Ed25519Signature)
    (signerPubkey : Ed25519PubKey) :
    Decidable (ValidSignature C messageHash signature signerPubkey) :=
  inferInstanceAs (Decidable (_ ∧ _))

/-- The second all-zero test never decides. -/
theorem verifyEd25519_eq_ok {signature : Ed25519Signature} {signerPubkey : Ed25519PubKey} :
    verifyEd25519 C envelope signature signerPubkey = .ok () ↔
      ValidSignature C (sep053Hash C envelope) signature signerPubkey := by
  rw [verifyEd25519]
  split
  · next hzero =>
      refine iff_of_false ?_ ?_
      · intro h
        cases h
      · intro h
        exact absurd (h.1.symm.trans hzero) Bool.false_ne_true
  · exact verifyEd25519Prehashed_eq_ok

theorem checkOne_eq_ok {signature : Ed25519Signature} {signerPubkey : Ed25519PubKey}
    {weight : UInt64} :
    checkOne C S envelope signature signerPubkey (some b) = .ok weight ↔
      ValidSignature C (sep053Hash C envelope) signature signerPubkey ∧
        S.getSignerWeightAt signerPubkey b = weight ∧ weight ≠ 0 := by
  rw [checkOne, Txn.except_bind_eq_ok, ← verifyEd25519_eq_ok]
  constructor
  · rintro ⟨⟨⟩, hvalid, hweight⟩
    dsimp only at hweight
    split at hweight
    · cases hweight
    · next hne =>
        cases hweight
        exact ⟨hvalid, rfl, hne⟩
  · rintro ⟨hvalid, rfl, hne⟩
    exact ⟨(), hvalid, if_neg hne⟩

/-- Checked one by one, a list of signers gives the weights the batch query gives. -/
theorem forall₂_checkOne {signatures : List Ed25519Signature}
    {signerPubkeys : List Ed25519PubKey} {weights : List UInt64}
    (hlen : signatures.length = signerPubkeys.length) :
    List.Forall₂ (fun x w => checkOne C S envelope x.1 x.2 (some b) = .ok w)
        (signatures.zip signerPubkeys) weights ↔
      (∀ x ∈ signatures.zip signerPubkeys, ValidSignature C (sep053Hash C envelope) x.1 x.2) ∧
        (signerPubkeys.map fun k => S.getSignerWeightAt k b) = weights ∧ ∀ w ∈ weights, w ≠ 0 := by
  induction signatures generalizing signerPubkeys weights with
  | nil =>
      obtain rfl : signerPubkeys = [] := List.length_eq_zero_iff.mp hlen.symm
      cases weights with
      | nil => simp
      | cons w ws => simp
  | cons sig signatures ih =>
      cases signerPubkeys with
      | nil => cases hlen
      | cons key signerPubkeys =>
          cases weights with
          | nil => simp
          | cons w ws =>
              rw [List.zip_cons_cons, List.forall₂_cons, checkOne_eq_ok, ih (Nat.succ.inj hlen),
                List.forall_mem_cons, List.map_cons, List.cons.injEq, List.forall_mem_cons]
              tauto

end CheckOne

/-! ## The weight of a list -/

theorem weightSum_mono {keys : List Ed25519PubKey} {f g : Ed25519PubKey → UInt64}
    (h : ∀ k, (f k).toNat ≤ (g k).toNat) : weightSum (keys.map f) ≤ weightSum (keys.map g) := by
  rw [weightSum, weightSum, List.map_map, List.map_map]
  exact List.sum_le_sum fun k _ => h k

theorem weightSum_eq_total {M : Weights} {keys : List Ed25519PubKey} (hnd : keys.Nodup)
    (hkeys : ∀ k, k ∈ keys ↔ M k ≠ 0) : weightSum (keys.map M) = M.total := by
  have hsupport : keys.toFinset = M.support := by
    ext k
    rw [List.mem_toFinset, hkeys, Finsupp.mem_support_iff]
  rw [weightSum, List.map_map, Weights.total, ← hsupport, List.sum_toFinset _ hnd]
  rfl

section

variable {C : Crypto} {D : Deps} {c₀ : Chain}

/-- Distinct signers weigh no more than a total that was stored once, whatever the
block: an answer from before the window may be zero, but is never too large. -/
theorem weightSum_fits (hH : D.hist.Honest historyCutoff) (h₀ : Deployed c₀) (as : List Action)
    (b : Nat) {keys : List Ed25519PubKey} (hnd : keys.Nodup) :
    weightSum ((SecurityClient.of D.hist (Runs.run (step D) c₀ as)).getSignerWeightsAt keys b) ≤
      u64Max := by
  obtain ⟨⟨sp, tp, ht⟩, -⟩ := tracked_run hH h₀ as
  rw [run_mirror_chain] at ht
  have hpast : ∀ k, (getSignerWeightAt D.hist (Runs.run (step D) c₀ as).ledger
      (Runs.run (step D) c₀ as).registry k b).toNat ≤
        (valueAt (Runs.run (mirror D) (.start c₀) as).log b k).toNat := by
    intro k
    rcases ht.getSignerWeightAt_old hH b k with heq | hzero
    · exact (congrArg UInt64.toNat heq).le
    · exact (congrArg UInt64.toNat hzero).trans_le (Nat.zero_le _)
  have htotal := (weightSum_mono hpast).trans (weightSum_le_total hnd)
  rw [← ht.total_at b] at htotal
  exact htotal.trans (toNat_le_u64Max _)

/-- In every reachable state of the registry, `verify` accepts a list exactly when
the list is ordered, `check_one` accepts each entry, and the weights it returned
reach a required weight that is not zero. -/
theorem verify_iff_checkOne (C : Crypto) (D : Deps) (hH : D.hist.Lawful historyCutoff) {c₀ : Chain}
    (h₀ : Deployed c₀) (as : List Action) (envelope : Bytes) (signatures : List Ed25519Signature)
    (signerPubkeys : List Ed25519PubKey) (b : Nat) :
    let S := SecurityClient.of D.hist (Runs.run (step D) c₀ as)
    verify C S envelope signatures signerPubkeys b = .ok () ↔
      signatures ≠ [] ∧ signatures.length = signerPubkeys.length ∧
        signerPubkeys.Pairwise (· < ·) ∧
        ∃ weights required,
          List.Forall₂ (fun x w => checkOne C S envelope x.1 x.2 (some b) = .ok w)
            (signatures.zip signerPubkeys) weights ∧
          S.requiredWeightAt b = some required ∧ 0 < required ∧
            required.toNat ≤ weightSum weights := by
  intro S
  rw [verify_eq_ok (length_getSignerWeightsAt D.hist _)]
  constructor
  · rintro ⟨required, h⟩
    refine ⟨h.nonempty, h.sameLength, h.ordered, _, required,
      (forall₂_checkOne h.sameLength).mpr ⟨h.valid, rfl, h.registered⟩, h.required_eq, ?_, h.enough⟩
    exact UInt64.pos_iff_ne_zero.mpr h.required_pos
  · rintro ⟨hne, hlen, hord, weights, required, hchecks, hrequired, hpos, henough⟩
    obtain ⟨hvalid, rfl, hregistered⟩ := (forall₂_checkOne hlen).mp hchecks
    exact ⟨required,
      { nonempty := hne
        sameLength := hlen
        required_eq := hrequired
        required_pos := UInt64.pos_iff_ne_zero.mp hpos
        ordered := hord
        valid := hvalid
        registered := hregistered
        fits := weightSum_fits hH.honest h₀ as b (hord.imp ne_of_lt)
        enough := henough }⟩

/-- Two signatures that both pass alone are accepted together. -/
theorem verify_iff_checkOne_equalSigners :
    let S := SecurityClient.of pruning (Runs.run (step .reference) freshChain equalSigners)
    verify sampleCrypto S [] [.const 64 1, .const 64 2] [.const 32 1, .const 32 2] 100 = .ok () :=
  (verify_iff_checkOne sampleCrypto .reference (pruning_lawful _) freshChain_deployed equalSigners
    [] [.const 64 1, .const 64 2] [.const 32 1, .const 32 2] 100).mpr
    ⟨by decide, by decide, by decide, [1, 1], 1,
      .cons (by decide) (.cons (by decide) .nil), by decide, by decide, by decide⟩

/-! ## The full set -/

/-- The signers of a block inside the window, each listed once, weigh its total. -/
theorem weightSum_listed (hH : D.hist.Lawful historyCutoff) (h₀ : Deployed c₀) (as : List Action)
    {b : Nat} (hb : (Runs.run (step D) c₀ as).ledger ≤ b + historyCutoff)
    {keys : List Ed25519PubKey} (hnd : keys.Nodup) (hall : ∀ k, k ∈ keys ↔
      (SecurityClient.of D.hist (Runs.run (step D) c₀ as)).getSignerWeightAt k b ≠ 0) :
    let c := Runs.run (step D) c₀ as
    weightSum ((SecurityClient.of D.hist c).getSignerWeightsAt keys b) =
      (getTotalWeightAt D.hist c.ledger c.registry b).toNat := by
  intro c
  obtain ⟨M, hM, htotal⟩ := exists_weights hH h₀ as hb
  have hkeys : ∀ k, k ∈ keys ↔ M k ≠ 0 := by
    intro k
    have hk : [_] = [_] := hM [k]
    rw [hall k]
    exact (congrArg (· ≠ 0) (List.singleton_inj.mp hk)).to_iff
  show weightSum (getSignerWeightsAt _ _ _ keys b) = (getTotalWeightAt _ _ _ b).toNat
  rw [hM, htotal]
  exact weightSum_eq_total hnd hkeys

/-- All signers of a block inside the window, with valid signatures and in order:
`verify` accepts them exactly when the required fraction of the total is at least
one unit of weight, and otherwise refuses a required weight of zero. -/
theorem full_set_iff (C : Crypto) (D : Deps) (hH : D.hist.Lawful historyCutoff) {c₀ : Chain}
    (h₀ : Deployed c₀) (as : List Action) {b : Nat}
    (hb : (Runs.run (step D) c₀ as).ledger ≤ b + historyCutoff) {envelope : Bytes}
    {signatures : List Ed25519Signature} {signerPubkeys : List Ed25519PubKey}
    (hne : signerPubkeys ≠ []) (hlen : signatures.length = signerPubkeys.length)
    (hord : signerPubkeys.Pairwise (· < ·))
    (hall : ∀ k, k ∈ signerPubkeys ↔
      (SecurityClient.of D.hist (Runs.run (step D) c₀ as)).getSignerWeightAt k b ≠ 0)
    (hvalid : ∀ x ∈ signatures.zip signerPubkeys,
      ValidSignature C (sep053Hash C envelope) x.1 x.2) :
    let c := Runs.run (step D) c₀ as
    let numerator := c.registry.threshold.numerator.toNat
    let denominator := c.registry.threshold.denominator.toNat
    let total := (getTotalWeightAt D.hist c.ledger c.registry b).toNat
    let result := verify C (.of D.hist c) envelope signatures signerPubkeys b
    (denominator ≤ numerator * total → result = .ok ()) ∧
      (numerator * total < denominator → result = .error (.err .zeroRequiredWeight)) := by
  intro c numerator denominator total result
  have hthreshold := threshold_valid_run D h₀ as
  have hden : 0 < denominator :=
    lt_of_lt_of_le hthreshold.numerator_pos hthreshold.numerator_le
  have hsignatures : signatures ≠ [] := by
    rintro rfl
    exact hne (List.length_eq_zero_iff.mp hlen.symm)
  obtain ⟨required, hrequired, hvalue⟩ :=
    fraction_eq (getTotalWeightAt D.hist c.ledger c.registry b) hthreshold
  have hfloor : required.toNat = numerator * total / denominator := by
    rw [Nat.mul_comm numerator]
    exact hvalue
  constructor
  · intro hunit
    have hpos : required ≠ 0 := by
      rintro rfl
      exact absurd hfloor (Nat.div_pos hunit hden).ne
    have hweight : weightSum ((SecurityClient.of D.hist c).getSignerWeightsAt signerPubkeys b) =
        total := weightSum_listed hH h₀ as hb (hord.imp ne_of_lt) hall
    have henough : required.toNat ≤ total := hvalue.trans_le (hthreshold.quotient_le total)
    refine (verify_eq_ok (length_getSignerWeightsAt D.hist c)).mpr ⟨required, ?_⟩
    exact
      { nonempty := hsignatures
        sameLength := hlen
        required_eq := hrequired
        required_pos := hpos
        ordered := hord
        valid := hvalid
        registered := by
          intro w hw
          obtain ⟨k, hk, rfl⟩ := List.mem_map.mp hw
          exact (hall k).mp hk
        fits := weightSum_fits hH.honest h₀ as b (hord.imp ne_of_lt)
        enough := hweight ▸ henough }
  · intro hless
    have hzero : required = 0 := by
      refine UInt64.toNat_inj.mp ?_
      rw [hfloor]
      exact Nat.div_eq_of_lt hless
    have hrequiredAt : (SecurityClient.of D.hist c).requiredWeightAt b = some required := hrequired
    show verify C (.of D.hist c) envelope signatures signerPubkeys b = _
    rw [verify, if_neg hsignatures, if_neg (not_not.mpr hlen), hrequiredAt, hzero]
    exact if_pos rfl

end

theorem equalSigners_registered (k : Ed25519PubKey) :
    k ∈ [BytesN.const 32 1, BytesN.const 32 2] ↔
      (SecurityClient.of pruning
        (Runs.run (step .reference) freshChain equalSigners)).getSignerWeightAt k 100 ≠ 0 := by
  have hhist : (Runs.run (step .reference) freshChain equalSigners).registry.signerWeightHist =
      Function.update (Function.update (fun _ => []) (.const 32 1) [⟨100, 1⟩])
        (.const 32 2) [⟨100, 1⟩] := rfl
  show _ ↔ valueAt ((Runs.run (step .reference) freshChain equalSigners).registry.signerWeightHist
    k) 100 ≠ 0
  rw [hhist, Function.update_apply, Function.update_apply, List.mem_pair]
  split
  · next h => exact iff_of_true (.inr h) (by decide)
  · next h₂ =>
      split
      · next h => exact iff_of_true (.inl h) (by decide)
      · next h₁ => exact iff_of_false (not_or.mpr ⟨h₁, h₂⟩) (by decide)

theorem full_set_iff_equalSigners :
    let c := Runs.run (step .reference) freshChain equalSigners
    verify sampleCrypto (.of pruning c) [] [.const 64 1, .const 64 2]
      [.const 32 1, .const 32 2] 100 = .ok () :=
  (full_set_iff sampleCrypto .reference (pruning_lawful _) freshChain_deployed equalSigners
    (by decide) (by decide) (by decide) (by decide) equalSigners_registered (by decide)).1
    (by decide)

/-- At a threshold of 4/5 a single operator of weight one is refused. -/
theorem full_set_refused :
    ¬ ∀ (C : Crypto) (D : Deps) (c₀ : Chain) (as : List Action) (b : Nat) (envelope : Bytes)
        (signatures : List Ed25519Signature) (signerPubkeys : List Ed25519PubKey),
        D.hist.Lawful historyCutoff → Deployed c₀ →
        (Runs.run (step D) c₀ as).ledger ≤ b + historyCutoff → signerPubkeys ≠ [] →
        signatures.length = signerPubkeys.length → signerPubkeys.Pairwise (· < ·) →
        (∀ k, k ∈ signerPubkeys ↔
          (SecurityClient.of D.hist (Runs.run (step D) c₀ as)).getSignerWeightAt k b ≠ 0) →
        (∀ x ∈ signatures.zip signerPubkeys,
          ValidSignature C (sep053Hash C envelope) x.1 x.2) →
        verify C (.of D.hist (Runs.run (step D) c₀ as)) envelope signatures signerPubkeys b =
          .ok () := by
  intro hclaim
  have hregistered : ∀ k, k ∈ [BytesN.const 32 1] ↔
      (SecurityClient.of pruning (Runs.run (step .reference) freshChain
        [.call (fun _ => true) (.addSigner (.const 32 1) 1)])).getSignerWeightAt k 100 ≠ 0 := by
    intro k
    show _ ↔ valueAt (Function.update (fun _ => []) (BytesN.const 32 1) [⟨100, 1⟩] k) 100 ≠ 0
    rw [Function.update_apply, List.mem_singleton]
    split
    · next h => exact iff_of_true h (by decide)
    · next h => exact iff_of_false h (by decide)
  have haccepted := hclaim sampleCrypto .reference freshChain
    [.call (fun _ => true) (.addSigner (.const 32 1) 1)] 100 [] [.const 64 1] [.const 32 1]
    (pruning_lawful _) freshChain_deployed (by decide) (by decide) (by decide) (by decide)
    hregistered (by decide)
  exact absurd haccepted (by decide)

end BlendPool.Verification
