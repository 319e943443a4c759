/-
# `BlendPool.Verification.Arithmetic` — the sums and fractions never trap

Three computations of the registry and the verifier could leave their machine
type: the total that `add_signer` and `remove_signer` keep, the required
weight, and the running sum of `verify`.  None does, except the total where the
weights themselves no longer fit, and then the call rolls back.

Each bound is the same fact read three times: the weights of distinct keys are
part of a total that was stored.  For the running sum the keys are those the
loop has passed, which its own order check has kept distinct.  Nothing is asked
of a lookup beyond being the value of its block or zero, so the reference block
may lie anywhere.
-/
import BlendPool.Verification.Acceptance

namespace BlendPool.Verification

open Bounded Timeline Security

/-- The required weight of a total: the division is defined, the product fits
128 bits, and the cast back is the exact quotient, which is part of the total. -/
structure ExactFraction (total : UInt64) (t : Threshold) (answer : Option UInt64) : Prop where
  denominator_ne : t.denominator ≠ 0
  product_fits : total.toNat * t.numerator.toNat ≤ u128Max
  quotient : ∃ r : UInt64, answer = some r ∧
    r.toNat = total.toNat * t.numerator.toNat / t.denominator.toNat ∧ r.toNat ≤ total.toNat

theorem exactFraction (total : UInt64) {t : Threshold} (ht : t.Valid) :
    ExactFraction total t (fraction total t) := by
  obtain ⟨r, hr, hvalue⟩ := fraction_eq total ht
  have hguard : ¬ (u128Max < total.toNat * t.numerator.toNat ∨ t.denominator = 0) := by
    intro h
    rw [fraction, if_pos h] at hr
    cases hr
  rw [not_or, Nat.not_lt] at hguard
  refine ⟨hguard.2, hguard.1, r, hr, hvalue, ?_⟩
  rw [hvalue]
  exact ht.quotient_le _

/-! ## The running sum -/

section

variable {C : Crypto} {messageHash : BytesN 32}

/-- A signature the host refuses by trapping. -/
def HostRefuses (C : Crypto) (messageHash : BytesN 32) (signature : Ed25519Signature)
    (signerPubkey : Ed25519PubKey) : Prop :=
  signature.val.all (· = 0) = false ∧
    C.ed25519Verify signerPubkey messageHash.val signature = false

theorem verifyEd25519Prehashed_trap {signature : Ed25519Signature} {signerPubkey : Ed25519PubKey}
    (h : verifyEd25519Prehashed C messageHash signature signerPubkey = .error .trap) :
    HostRefuses C messageHash signature signerPubkey := by
  rw [verifyEd25519Prehashed] at h
  split at h
  · cases h
  · next hzero =>
      split at h
      · cases h
      · next hbad => exact ⟨Bool.eq_false_iff.mpr hzero, Bool.eq_false_iff.mpr hbad⟩

theorem verifyLoop_cons_trap {prev : Option Ed25519PubKey} {total weight : UInt64}
    {sig : Ed25519Signature} {signatures : List Ed25519Signature} {pubkey : Ed25519PubKey}
    {signerPubkeys : List Ed25519PubKey} {weights : List UInt64}
    (h : verifyLoop C messageHash prev total (sig :: signatures) (pubkey :: signerPubkeys)
      (weight :: weights) = .error .trap) :
    (∀ p ∈ prev, p < pubkey) ∧
      (HostRefuses C messageHash sig pubkey ∨
        ValidSignature C messageHash sig pubkey ∧ weight ≠ 0 ∧
          (addU64? total weight = none ∨ ∃ t, addU64? total weight = some t ∧
            verifyLoop C messageHash (some pubkey) t signatures signerPubkeys weights =
              .error .trap)) := by
  rw [verifyLoop] at h
  split at h
  · cases h
  · next hord =>
      constructor
      · rintro p rfl
        simpa using hord
      · cases hv : verifyEd25519Prehashed C messageHash sig pubkey with
        | error e =>
            rw [hv] at h
            cases h
            exact .inl (verifyEd25519Prehashed_trap hv)
        | ok _ =>
            rw [hv] at h
            simp only [Except.bind] at h
            split at h
            · cases h
            · next hw0 =>
                refine .inr ⟨verifyEd25519Prehashed_eq_ok.mp hv, hw0, ?_⟩
                cases ht : addU64? total weight with
                | none => exact .inl rfl
                | some t =>
                    rw [ht] at h
                    exact .inr ⟨t, rfl, h⟩

/-- Where the weights of every ordered prefix fit, a loop that traps came to a
signature the host refuses. -/
theorem verifyLoop_trap :
    ∀ {signatures : List Ed25519Signature} {signerPubkeys : List Ed25519PubKey}
      {weights : List UInt64} {prev : Option Ed25519PubKey} {total : UInt64},
      signatures.length = signerPubkeys.length → weights.length = signerPubkeys.length →
      (∀ i, List.IsChain (· < ·) (prev.toList ++ signerPubkeys.take i) →
        total.toNat + weightSum (weights.take i) ≤ u64Max) →
      verifyLoop C messageHash prev total signatures signerPubkeys weights = .error .trap →
      ∃ i sig pubkey t, signatures[i]? = some sig ∧ signerPubkeys[i]? = some pubkey ∧
        HostRefuses C messageHash sig pubkey ∧
        verifyLoop C messageHash prev total (signatures.take i) (signerPubkeys.take i)
          (weights.take i) = .ok t := by
  intro signatures
  induction signatures with
  | nil =>
      intro signerPubkeys weights prev total _ _ _ h
      rw [verifyLoop] at h
      cases h
  | cons sig signatures ih =>
      intro signerPubkeys weights prev total hs hw hfit h
      cases signerPubkeys with
      | nil => cases hs
      | cons pubkey signerPubkeys =>
          cases weights with
          | nil => cases hw
          | cons weight weights =>
              obtain ⟨hprev, hrefuses | ⟨hvalid, hw0, hrest⟩⟩ := verifyLoop_cons_trap h
              · exact ⟨0, sig, pubkey, total, rfl, rfl, hrefuses, by rw [List.take_zero, verifyLoop]⟩
              · -- the prefixes that start with this turn
                have hnext : ∀ i, List.IsChain (· < ·) (pubkey :: signerPubkeys.take i) →
                    total.toNat + (weight.toNat + weightSum (weights.take i)) ≤ u64Max := by
                  intro i hi
                  refine hfit (i + 1) ?_
                  cases prev with
                  | none => exact hi
                  | some p => exact .cons_cons (hprev p rfl) hi
                rcases hrest with hnone | ⟨t, ht, hrest⟩
                · have hone := hnext 0 (.singleton _)
                  rw [addU64?_eq_none] at hnone
                  omega
                · rw [addU64?_eq_some] at ht
                  have hfit' : ∀ i, List.IsChain (· < ·) (pubkey :: signerPubkeys.take i) →
                      t.toNat + weightSum (weights.take i) ≤ u64Max := by
                    intro i hi
                    have := hnext i hi
                    omega
                  obtain ⟨i, sig', pubkey', r, hsig, hkey, hrefuses, hpassed⟩ :=
                    @ih signerPubkeys weights (some pubkey) t (Nat.succ.inj hs) (Nat.succ.inj hw) hfit' hrest
                  exact ⟨i + 1, sig', pubkey', r, hsig, hkey, hrefuses,
                    verifyLoop_cons_eq_ok.mpr ⟨hprev, hvalid, hw0, t, ht, hpassed⟩⟩

/-- The loop of `verify` passed its first `i` turns, and has added up `sum`. -/
def Passed (C : Crypto) (S : SecurityClient) (envelope : Bytes)
    (signatures : List Ed25519Signature) (signerPubkeys : List Ed25519PubKey)
    (referenceBlock : Nat) (i : Nat) (sum : UInt64) : Prop :=
  verifyLoop C (sep053Hash C envelope) none 0 (signatures.take i) (signerPubkeys.take i)
    ((S.getSignerWeightsAt signerPubkeys referenceBlock).take i) = .ok sum

/-- What `verify` does with its running sum. -/
structure SumFits (C : Crypto) (S : SecurityClient) (envelope : Bytes)
    (signatures : List Ed25519Signature) (signerPubkeys : List Ed25519PubKey)
    (referenceBlock : Nat) : Prop where
  /-- At every turn it comes to, past the order check, the sum and the weight fit. -/
  fits : signatures.length = signerPubkeys.length → ∀ i sum,
    Passed C S envelope signatures signerPubkeys referenceBlock i sum →
    ∀ pubkey, signerPubkeys[i]? = some pubkey →
      (∀ p ∈ (signerPubkeys.take i).getLast?, p < pubkey) →
      ∀ weight, (S.getSignerWeightsAt signerPubkeys referenceBlock)[i]? = some weight →
        (addU64? sum weight).isSome = true
  /-- A trap comes from the first turn not passed, whose signature the host refuses. -/
  trap : verify C S envelope signatures signerPubkeys referenceBlock = .error .trap →
    ∃ i sum, Passed C S envelope signatures signerPubkeys referenceBlock i sum ∧
      ∃ sig pubkey, signatures[i]? = some sig ∧ signerPubkeys[i]? = some pubkey ∧
        HostRefuses C (sep053Hash C envelope) sig pubkey

variable {D : Deps} {c₀ : Chain}

theorem prefix_fits (hH : D.hist.Honest historyCutoff) (h₀ : Deployed c₀) (as : List Action)
    (b : Nat) {signerPubkeys : List Ed25519PubKey} {i : Nat}
    (h : List.IsChain (· < ·) (signerPubkeys.take i)) :
    weightSum (((SecurityClient.of D.hist (Runs.run (step D) c₀ as)).getSignerWeightsAt
      signerPubkeys b).take i) ≤ u64Max := by
  have htake : ((SecurityClient.of D.hist (Runs.run (step D) c₀ as)).getSignerWeightsAt
      signerPubkeys b).take i = (SecurityClient.of D.hist (Runs.run (step D) c₀
        as)).getSignerWeightsAt (signerPubkeys.take i) b := List.map_take.symm
  rw [htake]
  exact weightSum_fits hH h₀ as b ((List.isChain_iff_pairwise.mp h).imp ne_of_lt)

theorem Passed.weight {S : SecurityClient}
    (hlen : ∀ keys b, (S.getSignerWeightsAt keys b).length = keys.length) {envelope : Bytes}
    {signatures : List Ed25519Signature} {signerPubkeys : List Ed25519PubKey} {b i : Nat}
    {sum : UInt64} (hsame : signatures.length = signerPubkeys.length)
    (h : Passed C S envelope signatures signerPubkeys b i sum) :
    List.IsChain (· < ·) (signerPubkeys.take i) ∧
      sum.toNat = weightSum ((S.getSignerWeightsAt signerPubkeys b).take i) := by
  have hsignatures : (signatures.take i).length = (signerPubkeys.take i).length := by
    rw [List.length_take, List.length_take, hsame]
  have hweights : ((S.getSignerWeightsAt signerPubkeys b).take i).length =
      (signerPubkeys.take i).length := by
    rw [List.length_take, List.length_take, hlen]
  obtain ⟨hchain, -, -, hsum⟩ := (verifyLoop_eq_ok hsignatures hweights).mp h
  rw [UInt64.toNat_zero, Nat.zero_add] at hsum
  exact ⟨hchain, hsum⟩

/-- A `verify` that traps, where the required weight is defined, traps in its loop. -/
theorem verifyLoop_of_verify_trap {S : SecurityClient} {envelope : Bytes}
    {signatures : List Ed25519Signature} {signerPubkeys : List Ed25519PubKey} {b : Nat}
    {required : UInt64} (hrequired : S.requiredWeightAt b = some required)
    (h : verify C S envelope signatures signerPubkeys b = .error .trap) :
    signatures.length = signerPubkeys.length ∧
      verifyLoop C (sep053Hash C envelope) none 0 signatures signerPubkeys
        (S.getSignerWeightsAt signerPubkeys b) = .error .trap := by
  rw [verify, hrequired] at h
  split at h
  · cases h
  split at h
  · cases h
  next hsame =>
  refine ⟨not_not.mp hsame, ?_⟩
  dsimp only at h
  split at h
  · cases h
  cases hloop : verifyLoop C (sep053Hash C envelope) none 0 signatures signerPubkeys
      (S.getSignerWeightsAt signerPubkeys b) with
  | ok total =>
      rw [hloop] at h
      simp only [Except.bind] at h
      split at h
      · cases h
      · cases h
  | error e =>
      rw [hloop] at h
      cases h
      rfl

theorem sumFits (hH : D.hist.Honest historyCutoff) (h₀ : Deployed c₀) (as : List Action)
    (envelope : Bytes) (signatures : List Ed25519Signature) (signerPubkeys : List Ed25519PubKey)
    (b : Nat) :
    SumFits C (.of D.hist (Runs.run (step D) c₀ as)) envelope signatures signerPubkeys b := by
  constructor
  · intro hsame i sum hpassed pubkey hkey hlast weight hweight
    obtain ⟨hchain, hsum⟩ := hpassed.weight (length_getSignerWeightsAt _ _) hsame
    have hnext : List.IsChain (· < ·) (signerPubkeys.take (i + 1)) := by
      rw [List.take_add_one, hkey]
      refine List.IsChain.append hchain (.singleton _) ?_
      intro p hp q hq
      cases hq
      exact hlast p hp
    have hle := prefix_fits hH h₀ as b hnext
    rw [List.take_add_one, hweight, weightSum_append, ← hsum] at hle
    rw [Option.isSome_iff_ne_none, ne_eq, addU64?_eq_none, Nat.not_lt]
    exact hle
  · intro h
    obtain ⟨required, hrequired, -⟩ := fraction_eq
      (getTotalWeightAt D.hist (Runs.run (step D) c₀ as).ledger
        (Runs.run (step D) c₀ as).registry b) (threshold_valid_run D h₀ as)
    obtain ⟨hsame, hloop⟩ := verifyLoop_of_verify_trap hrequired h
    have hfits : ∀ i, List.IsChain (· < ·) (none.toList ++ signerPubkeys.take i) →
        (0 : UInt64).toNat + weightSum (((SecurityClient.of D.hist
          (Runs.run (step D) c₀ as)).getSignerWeightsAt signerPubkeys b).take i) ≤ u64Max := by
      intro i hi
      rw [UInt64.toNat_zero, Nat.zero_add]
      exact prefix_fits hH h₀ as b hi
    obtain ⟨i, sig, pubkey, sum, hsig, hkey, hrefuses, hpassed⟩ :=
      verifyLoop_trap hsame (length_getSignerWeightsAt _ _ _ _) hfits hloop
    exact ⟨i, sum, hpassed, sig, pubkey, hsig, hkey, hrefuses⟩

end

/-! ## The registry and the verifier -/

/-- In every reachable state: the subtractions of the total are defined,
`remove_signer` does not trap, `add_signer` traps exactly where the weights it
would leave do not fit 64 bits and then changes nothing, the required weights
are exact, and so is every running sum of `verify`. -/
theorem registry_arithmetic (D : Deps) (hH : D.hist.Honest historyCutoff) {c₀ : Chain}
    (h₀ : Deployed c₀) (as : List Action) :
    let c := Runs.run (step D) c₀ as
    let log := (Runs.run (mirror D) (.start c₀) as).log
    let M := lastValue log
    (∀ key, Ed25519Security.getSignerWeight D.hist c.registry key = M key) ∧
    (∀ key oldWeight, Security.getSignerWeight D.hist c.registry key = some oldWeight →
      (subU64? (getTotalWeight D.hist c.registry) oldWeight).isSome = true) ∧
    (∀ auth key, invoke D auth c (.removeSigner key) ≠ .error .trap) ∧
    (∀ auth key weight,
      (invoke D auth c (.addSigner key weight) = .error .trap ↔
        auth c.registry.admin = true ∧ u64Max < (M.set key weight).total) ∧
      (invoke D auth c (.addSigner key weight) = .error .trap →
        step D c (.call auth (.addSigner key weight)) = c)) ∧
    ExactFraction (getTotalWeight D.hist c.registry) c.registry.threshold
      (requiredWeight D.hist c.registry) ∧
    ∀ b,
      ExactFraction (getTotalWeightAt D.hist c.ledger c.registry b) c.registry.threshold
        (requiredWeightAt D.hist c.ledger c.registry b) ∧
      (getTotalWeightAt D.hist c.ledger c.registry b).toNat ≤ (valueAt log b).total ∧
      ∀ (C : Crypto) envelope signatures signerPubkeys,
        SumFits C (.of D.hist c) envelope signatures signerPubkeys b := by
  intro c log M
  obtain ⟨⟨sp, tp, ht⟩, -⟩ := tracked_run hH h₀ as
  rw [run_mirror_chain] at ht
  have hthreshold := threshold_valid_run D h₀ as
  refine ⟨fun key => ht.getSignerWeight_getD hH key, ?_, ?_, ?_, exactFraction _ hthreshold, ?_⟩
  · intro key oldWeight hkey
    have hold : M key = oldWeight := by
      rw [← ht.getSignerWeight_getD hH key]
      show (Security.getSignerWeight D.hist c.registry key).getD 0 = oldWeight
      rw [hkey]
      rfl
    exact subU64?_isSome (hold ▸ ht.signer_le_total hH key)
  · intro auth key
    exact ht.invoke_removeSigner_ne_trap hH auth key
  · intro auth key weight
    refine ⟨ht.invoke_addSigner_trap hH auth key weight, ?_⟩
    intro h
    rw [step, h]
  · intro b
    refine ⟨exactFraction _ hthreshold, ?_, fun C envelope signatures signerPubkeys =>
      sumFits hH h₀ as envelope signatures signerPubkeys b⟩
    rcases ht.getTotalWeightAt_old hH b with heq | hzero
    · exact heq.le
    · exact (congrArg UInt64.toNat hzero).trans_le (Nat.zero_le _)

/-- One operator holds all the weight there can be. -/
def fullWeight : List Action :=
  [.call (fun _ => true) (.addSigner (.const 32 1) 18446744073709551615)]

theorem registry_arithmetic_fullWeight :
    let c := Runs.run (step .reference) freshChain fullWeight
    let M := lastValue (Runs.run (mirror .reference) (.start freshChain) fullWeight).log
    u64Max < (M.set (.const 32 2) 1).total ∧
      invoke .reference (fun _ => true) c (.addSigner (.const 32 2) 1) = .error .trap ∧
      requiredWeight pruning c.registry = some 14757395258967641292 :=
  have htrap : invoke .reference (fun _ => true)
      (Runs.run (step .reference) freshChain fullWeight) (.addSigner (.const 32 2) 1) =
        .error .trap := by rfl
  ⟨(((registry_arithmetic .reference (pruning_lawful _).honest freshChain_deployed
      fullWeight).2.2.2.1 _ _ _).1.mp htrap).2, htrap, by decide⟩

end BlendPool.Verification
