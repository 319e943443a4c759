/-
# `BlendPool.Verification.Contract` — signatures against the signer registry

The verifier holds no signers of its own: it asks the registry for the weights
of the listed keys at a reference block and for the weight required there, and
adds up what the valid signatures carry.  The host's `ed25519_verify` traps on
a bad signature instead of returning an error; both are an `Except`, so that a
caller that catches errors sees the difference.

The hash and the signature scheme are the parameter `C`, what the registry
answers the parameter `S`.
-/
import BlendPool.Security.Contract
import Mathlib.Data.List.Chain

namespace BlendPool.Verification

open Bounded Timeline Security

inductive VerifyError where
  | emptySignatures
  | lengthMismatch
  | zeroRequiredWeight
  | signersNotOrdered
  | invalidSignature
  | signerNotRegistered
  | insufficientWeight
  deriving DecidableEq, Repr

inductive Rejection where
  | err (e : VerifyError)
  | trap
  deriving DecidableEq, Repr

/-- The two host functions. -/
structure Crypto where
  sha256 : Bytes → BytesN 32
  ed25519Verify : Ed25519PubKey → Bytes → Ed25519Signature → Bool

/-- What the verifier asks the registry, in the current ledger. -/
structure SecurityClient where
  getSignerWeight : Ed25519PubKey → UInt64
  getSignerWeightAt : Ed25519PubKey → Nat → UInt64
  getSignerWeightsAt : List Ed25519PubKey → Nat → List UInt64
  requiredWeightAt : Nat → Option UInt64

/-- The registry of this development as the verifier sees it. -/
def SecurityClient.of (H : History UInt64) (c : Chain) : SecurityClient where
  getSignerWeight := Ed25519Security.getSignerWeight H c.registry
  getSignerWeightAt := Security.getSignerWeightAt H c.ledger c.registry
  getSignerWeightsAt := Security.getSignerWeightsAt H c.ledger c.registry
  requiredWeightAt := Security.requiredWeightAt H c.ledger c.registry

/-! ## Signatures -/

/-- The bytes of `"Stellar Signed Message:\n"`. -/
def sep053Prefix : Bytes :=
  [83, 116, 101, 108, 108, 97, 114, 32, 83, 105, 103, 110, 101, 100, 32, 77, 101, 115, 115, 97,
    103, 101, 58, 10]

def sep053Hash (C : Crypto) (envelope : Bytes) : BytesN 32 := C.sha256 (sep053Prefix ++ envelope)

def verifyEd25519Prehashed (C : Crypto) (messageHash : BytesN 32) (signature : Ed25519Signature)
    (signerPubkey : Ed25519PubKey) : Except Rejection Unit :=
  if signature.val.all (· = 0) then .error (.err .invalidSignature)
  else if C.ed25519Verify signerPubkey messageHash.val signature then .ok ()
  else .error .trap

/-- The all-zero test comes first here, and again in the prehashed form. -/
def verifyEd25519 (C : Crypto) (envelope : Bytes) (signature : Ed25519Signature)
    (signerPubkey : Ed25519PubKey) : Except Rejection Unit :=
  if signature.val.all (· = 0) then .error (.err .invalidSignature)
  else verifyEd25519Prehashed C (sep053Hash C envelope) signature signerPubkey

/-! ## Entry points -/

def checkOne (C : Crypto) (S : SecurityClient) (envelope : Bytes) (signature : Ed25519Signature)
    (signerPubkey : Ed25519PubKey) (referenceBlock : Option Nat) : Except Rejection UInt64 :=
  (verifyEd25519 C envelope signature signerPubkey).bind fun _ =>
    let weight := match referenceBlock with
      | some block => S.getSignerWeightAt signerPubkey block
      | none => S.getSignerWeight signerPubkey
    if weight = 0 then .error (.err .signerNotRegistered) else .ok weight

/-- The loop of `verify` from one index on: the previous key, the weight so
far, and what is left of the three vectors, which are of one length. -/
def verifyLoop (C : Crypto) (messageHash : BytesN 32) :
    Option Ed25519PubKey → UInt64 → List Ed25519Signature → List Ed25519PubKey → List UInt64 →
      Except Rejection UInt64
  | prevPubkey, totalWeight, sig :: signatures, pubkey :: signerPubkeys, weight :: weights =>
      if prevPubkey.any (pubkey ≤ ·) then .error (.err .signersNotOrdered)
      else (verifyEd25519Prehashed C messageHash sig pubkey).bind fun _ =>
        if weight = 0 then .error (.err .signerNotRegistered)
        else match addU64? totalWeight weight with
          | none => .error .trap
          | some totalWeight =>
              verifyLoop C messageHash (some pubkey) totalWeight signatures signerPubkeys weights
  | _, totalWeight, [], _, _ => .ok totalWeight
  -- the `unwrap` of a `get` past the end
  | _, _, _ :: _, _, _ => .error .trap

def verify (C : Crypto) (S : SecurityClient) (envelope : Bytes)
    (signatures : List Ed25519Signature) (signerPubkeys : List Ed25519PubKey)
    (referenceBlock : Nat) : Except Rejection Unit :=
  if signatures = [] then .error (.err .emptySignatures)
  else if signatures.length ≠ signerPubkeys.length then .error (.err .lengthMismatch)
  else
    let weights := S.getSignerWeightsAt signerPubkeys referenceBlock
    match S.requiredWeightAt referenceBlock with
    | none => .error .trap
    | some required =>
        if required = 0 then .error (.err .zeroRequiredWeight)
        else (verifyLoop C (sep053Hash C envelope) none 0 signatures signerPubkeys weights).bind
          fun totalWeight =>
            if totalWeight < required then .error (.err .insufficientWeight) else .ok ()

/-! ## What an accepted list is -/

/-- A signature the host accepts, and not the all-zero one. -/
def ValidSignature (C : Crypto) (messageHash : BytesN 32) (signature : Ed25519Signature)
    (signerPubkey : Ed25519PubKey) : Prop :=
  signature.val.all (· = 0) = false ∧
    C.ed25519Verify signerPubkey messageHash.val signature = true

theorem verifyEd25519Prehashed_eq_ok {C : Crypto} {messageHash : BytesN 32}
    {signature : Ed25519Signature} {signerPubkey : Ed25519PubKey} :
    verifyEd25519Prehashed C messageHash signature signerPubkey = .ok () ↔
      ValidSignature C messageHash signature signerPubkey := by
  rw [verifyEd25519Prehashed, ValidSignature]
  cases signature.val.all (· = 0) with
  | true => simp
  | false => cases C.ed25519Verify signerPubkey messageHash.val signature <;> simp

/-- The weight of a list, in exact integers. -/
def weightSum (weights : List UInt64) : Nat := (weights.map UInt64.toNat).sum

section Loop

variable {C : Crypto} {messageHash : BytesN 32} {r : UInt64}

theorem verifyLoop_cons_eq_ok {prev : Option Ed25519PubKey} {total weight : UInt64}
    {sig : Ed25519Signature} {signatures : List Ed25519Signature} {pubkey : Ed25519PubKey}
    {signerPubkeys : List Ed25519PubKey} {weights : List UInt64} :
    verifyLoop C messageHash prev total (sig :: signatures) (pubkey :: signerPubkeys)
        (weight :: weights) = .ok r ↔
      (∀ p ∈ prev, p < pubkey) ∧ ValidSignature C messageHash sig pubkey ∧ weight ≠ 0 ∧
        ∃ t : UInt64, t.toNat = total.toNat + weight.toNat ∧
          verifyLoop C messageHash (some pubkey) t signatures signerPubkeys weights = .ok r := by
  have hprev : prev.any (pubkey ≤ ·) = true ↔ ¬ ∀ p ∈ prev, p < pubkey := by
    cases prev with
    | none => simp
    | some p => simp
  rw [verifyLoop, ← verifyEd25519Prehashed_eq_ok]
  split
  · next h =>
      refine iff_of_false ?_ ?_
      · intro h'
        cases h'
      · intro h'
        exact hprev.mp h h'.1
  · next h =>
      have hord : ∀ p ∈ prev, p < pubkey := not_not.mp (mt hprev.mpr h)
      rw [Txn.except_bind_eq_ok]
      constructor
      · rintro ⟨⟨⟩, hv, hrest⟩
        split at hrest
        · cases hrest
        · next hw0 =>
            cases ht : addU64? total weight with
            | none => rw [ht] at hrest; cases hrest
            | some t =>
                rw [ht] at hrest
                exact ⟨hord, hv, hw0, t, addU64?_eq_some.mp ht, hrest⟩
      · rintro ⟨-, hv, hw0, t, ht, hrest⟩
        refine ⟨(), hv, ?_⟩
        rw [if_neg hw0, addU64?_eq_some.mpr ht]
        exact hrest

/-- The loop accepts exactly the ordered lists of registered, valid signers
whose weights fit, and returns their sum on top of what it had. -/
theorem verifyLoop_eq_ok :
    ∀ {signatures : List Ed25519Signature} {signerPubkeys : List Ed25519PubKey}
      {weights : List UInt64} {prev : Option Ed25519PubKey} {total : UInt64},
      signatures.length = signerPubkeys.length → weights.length = signerPubkeys.length →
      (verifyLoop C messageHash prev total signatures signerPubkeys weights = .ok r ↔
        List.IsChain (· < ·) (prev.toList ++ signerPubkeys) ∧
          (∀ x ∈ signatures.zip signerPubkeys, ValidSignature C messageHash x.1 x.2) ∧
          (∀ w ∈ weights, w ≠ 0) ∧ r.toNat = total.toNat + weightSum weights) := by
  intro signatures
  induction signatures with
  | nil =>
      intro signerPubkeys weights prev total hs hw
      obtain rfl : signerPubkeys = [] := List.length_eq_zero_iff.mp hs.symm
      obtain rfl : weights = [] := List.length_eq_zero_iff.mp hw
      have hchain : List.IsChain (· < ·) prev.toList := by cases prev <;> simp
      simp [verifyLoop, hchain, weightSum, ← UInt64.toNat_inj, eq_comm]
  | cons sig signatures ih =>
      intro signerPubkeys weights prev total hs hw
      cases signerPubkeys with
      | nil => cases hs
      | cons pubkey signerPubkeys =>
          cases weights with
          | nil => cases hw
          | cons weight weights =>
              have hchain : List.IsChain (· < ·) (prev.toList ++ pubkey :: signerPubkeys) ↔
                  (∀ p ∈ prev, p < pubkey) ∧ List.IsChain (· < ·) (pubkey :: signerPubkeys) := by
                cases prev with
                | none => simp
                | some p => simp
              have ih' := fun t => @ih signerPubkeys weights (some pubkey) t (Nat.succ.inj hs)
                (Nat.succ.inj hw)
              simp only [Option.toList_some, List.singleton_append] at ih'
              simp only [verifyLoop_cons_eq_ok, hchain, ih', List.zip_cons_cons,
                List.forall_mem_cons, weightSum, List.map_cons, List.sum_cons]
              constructor
              · rintro ⟨hp, hv, hw0, t, ht, hc, hvs, hws, hr⟩
                exact ⟨⟨hp, hc⟩, ⟨hv, hvs⟩, ⟨hw0, hws⟩, by omega⟩
              · rintro ⟨⟨hp, hc⟩, ⟨hv, hvs⟩, ⟨hw0, hws⟩, hr⟩
                -- the running sum is a part of the final one, so it fits
                have hlt := r.toNat_lt
                have ht : (UInt64.ofNat (total.toNat + weight.toNat)).toNat =
                    total.toNat + weight.toNat := by
                  refine UInt64.toNat_ofNat_of_lt' ?_
                  show _ < 18446744073709551616
                  omega
                exact ⟨hp, hv, hw0, _, ht, hc, hvs, hws, by omega⟩

end Loop

/-- What `verify` accepts, in terms of what the registry answers. -/
structure Accepted (C : Crypto) (S : SecurityClient) (envelope : Bytes)
    (signatures : List Ed25519Signature) (signerPubkeys : List Ed25519PubKey)
    (referenceBlock : Nat) (required : UInt64) : Prop where
  nonempty : signatures ≠ []
  sameLength : signatures.length = signerPubkeys.length
  required_eq : S.requiredWeightAt referenceBlock = some required
  required_pos : required ≠ 0
  ordered : signerPubkeys.Pairwise (· < ·)
  valid : ∀ x ∈ signatures.zip signerPubkeys,
    ValidSignature C (sep053Hash C envelope) x.1 x.2
  registered : ∀ w ∈ S.getSignerWeightsAt signerPubkeys referenceBlock, w ≠ 0
  fits : weightSum (S.getSignerWeightsAt signerPubkeys referenceBlock) ≤ u64Max
  enough : required.toNat ≤ weightSum (S.getSignerWeightsAt signerPubkeys referenceBlock)

theorem verify_eq_ok {C : Crypto} {S : SecurityClient}
    (hlen : ∀ keys b, (S.getSignerWeightsAt keys b).length = keys.length) {envelope : Bytes}
    {signatures : List Ed25519Signature} {signerPubkeys : List Ed25519PubKey}
    {referenceBlock : Nat} :
    verify C S envelope signatures signerPubkeys referenceBlock = .ok () ↔
      ∃ required, Accepted C S envelope signatures signerPubkeys referenceBlock required := by
  rw [verify]
  constructor
  · intro h
    split at h
    · cases h
    · next hne =>
        split at h
        · cases h
        · next hsame =>
            have hsame := not_not.mp hsame
            cases hreq : S.requiredWeightAt referenceBlock with
            | none => rw [hreq] at h; cases h
            | some required =>
                rw [hreq] at h
                dsimp only at h
                split at h
                · cases h
                · next hpos =>
                    obtain ⟨total, hloop, hend⟩ := Txn.except_bind_eq_ok.mp h
                    obtain ⟨hord, hvalid, hreg, htotal⟩ :=
                      (verifyLoop_eq_ok hsame (hlen signerPubkeys referenceBlock)).mp hloop
                    rw [UInt64.toNat_zero, Nat.zero_add] at htotal
                    have henough : required ≤ total := by
                      split at hend
                      · cases hend
                      · next hge => exact UInt64.not_lt.mp hge
                    exact ⟨required,
                      { nonempty := hne
                        sameLength := hsame
                        required_eq := hreq
                        required_pos := hpos
                        ordered := List.isChain_iff_pairwise.mp hord
                        valid := hvalid
                        registered := hreg
                        fits := htotal ▸ toNat_le_u64Max total
                        enough := htotal ▸ UInt64.le_iff_toNat_le.mp henough }⟩
  · rintro ⟨required, h⟩
    obtain ⟨total, htotal⟩ : ∃ total : UInt64, total.toNat =
        weightSum (S.getSignerWeightsAt signerPubkeys referenceBlock) :=
      ⟨_, UInt64.toNat_ofNat_of_lt' (Nat.lt_succ_of_le h.fits)⟩
    have hloop : verifyLoop C (sep053Hash C envelope) none 0 signatures signerPubkeys
        (S.getSignerWeightsAt signerPubkeys referenceBlock) = .ok total := by
      refine (verifyLoop_eq_ok h.sameLength (hlen signerPubkeys referenceBlock)).mpr
        ⟨List.isChain_iff_pairwise.mpr h.ordered, h.valid, h.registered, ?_⟩
      rw [htotal, UInt64.toNat_zero, Nat.zero_add]
    have henough : ¬ total < required := by
      rw [UInt64.lt_iff_toNat_lt, htotal]
      exact Nat.not_lt.mpr h.enough
    rw [if_neg h.nonempty, if_neg (not_not.mpr h.sameLength), h.required_eq]
    dsimp only
    rw [if_neg h.required_pos, hloop]
    exact if_neg henough

end BlendPool.Verification
