/-
# `BlendPool.Stack.Delivery` — from a quorum to the execution

The other half of the pipeline: nothing that the components and the contracts check keeps
out what a quorum has signed.  The circuit's answer to a trigger is one envelope, the
signatures of a quorum under it pass in the order of the keys, and past the checks the
handler's call is the action itself, so that what can still fail is what the action calls.
-/
import BlendPool.Stack.Pipeline

namespace BlendPool.Pipeline

open Components Handler Verification

/-- The signatures of some operators, as whoever collected them submits them: in the order of
the keys. -/
def gather (signature : Ed25519PubKey → Ed25519Signature) (keys : Finset Ed25519PubKey)
    (referenceBlock : Nat) : Ed25519SignatureData :=
  ⟨(keys.sort (· ≤ ·)).map signature, keys.sort (· ≤ ·), referenceBlock⟩

/-- Registered operators that reach the required weight between them. -/
structure Quorum (N : Network) (s : State) (keys : Finset Ed25519PubKey) (b : Nat) : Prop where
  registered : ∀ k ∈ keys,
    (SecurityClient.of N.setup.deps.hist s.stack.chain).getSignerWeightAt k b ≠ 0
  enough : ∃ required,
    (SecurityClient.of N.setup.deps.hist s.stack.chain).requiredWeightAt b = some required ∧
      required ≠ 0 ∧ required.toNat ≤ ∑ k ∈ keys,
        ((SecurityClient.of N.setup.deps.hist s.stack.chain).getSignerWeightAt k b).toNat

section

variable {N : Network} {s : State}

end

end BlendPool.Pipeline
