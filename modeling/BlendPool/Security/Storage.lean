/-
# `BlendPool.Security.Storage` — the signer registry's storage functions

The registry keeps three things in step: the vector of registered keys, one
timeline of weights per key, and a timeline of the total.  The timelines are
stored through `vec_history`, which belongs to the shared crate: it is the
parameter `H`, of which these functions only use `push`, `latest` and
`lookup_at`.  A trap (`-` and `checked_add().expect()` under overflow checks) is
`none`.
-/
import BlendPool.Host
import BlendPool.Lib.Bounded
import BlendPool.Lib.SortedVec
import BlendPool.Lib.Timeline

namespace BlendPool.Security

open Bounded Timeline

/-- How far back lookups are promised to be exact, in ledgers. -/
def historyCutoff : Nat := 200

structure Threshold where
  numerator : UInt64
  denominator : UInt64
  deriving DecidableEq, Repr

structure Ed25519SignerInfo where
  key : Ed25519PubKey
  weight : UInt64
  deriving DecidableEq

/-- The contract's storage. -/
structure Registry where
  admin : Address
  pendingAdmin : Option Address
  version : String
  threshold : Threshold
  allSigners : List Ed25519PubKey
  signerWeightHist : Ed25519PubKey → List (Entry UInt64)
  totalWeightHist : List (Entry UInt64)

/-! ## Signer enumeration -/

def insertAllSigners (st : Registry) (key : Ed25519PubKey) : Registry :=
  { st with
    allSigners := SortedVec.insertAt key st.allSigners (SortedVec.insertScan key st.allSigners) }

def removeAllSigners (st : Registry) (key : Ed25519PubKey) : Registry :=
  { st with
    allSigners := SortedVec.removeAt st.allSigners (SortedVec.removeScan key st.allSigners) }

section

variable (H : History UInt64)

/-! ## Current weights -/

def getTotalWeight (st : Registry) : UInt64 := H.latest st.totalWeightHist

/-- A weight of `0` reads as "not registered". -/
def getSignerWeight (st : Registry) (key : Ed25519PubKey) : Option UInt64 :=
  let weight := H.latest (st.signerWeightHist key)
  if weight = 0 then none else some weight

def getSignerWeights (st : Registry) (keys : List Ed25519PubKey) : List UInt64 :=
  keys.map fun key => (getSignerWeight H st key).getD 0

def listSigners (st : Registry) : List Ed25519SignerInfo :=
  st.allSigners.filterMap fun key =>
    (getSignerWeight H st key).map fun weight => ⟨key, weight⟩

/-! ## Signer management -/

/-- `vec_history::push(&SignerWeightHistory::new(env, key), weight)`. -/
def pushSignerWeight (now : Nat) (st : Registry) (key : Ed25519PubKey) (weight : UInt64) :
    Registry :=
  { st with
    signerWeightHist := Function.update st.signerWeightHist key
      (H.push historyCutoff now (st.signerWeightHist key) weight) }

/-- `vec_history::push(&TotalWeightHistory::new(env), total)`. -/
def pushTotalWeight (now : Nat) (st : Registry) (total : UInt64) : Registry :=
  { st with totalWeightHist := H.push historyCutoff now st.totalWeightHist total }

def addSigner (now : Nat) (st : Registry) (key : Ed25519PubKey) (weight : UInt64) :
    Option Registry :=
  let total := getTotalWeight H st
  match getSignerWeight H st key with
  | some oldWeight =>
      -- updating an existing signer: its old weight leaves the total first
      (subU64? total oldWeight).bind fun total =>
        (addU64? total weight).map fun total =>
          pushTotalWeight H now (pushSignerWeight H now st key weight) total
  | none =>
      (addU64? total weight).map fun total =>
        pushTotalWeight H now (pushSignerWeight H now (insertAllSigners st key) key weight) total

def removeSigner (now : Nat) (st : Registry) (key : Ed25519PubKey) : Option Registry :=
  match getSignerWeight H st key with
  | some oldWeight =>
      (subU64? (getTotalWeight H st) oldWeight).map fun newTotal =>
        pushTotalWeight H now (pushSignerWeight H now (removeAllSigners st key) key 0) newTotal
  | none => some st

theorem addSigner_threshold {now : Nat} {st st' : Registry} {key : Ed25519PubKey}
    {weight : UInt64} (h : addSigner H now st key weight = some st') :
    st'.threshold = st.threshold := by
  rw [addSigner] at h
  cases hw : getSignerWeight H st key with
  | none =>
      rw [hw] at h
      obtain ⟨total, -, rfl⟩ := Option.map_eq_some_iff.mp h
      rfl
  | some oldWeight =>
      rw [hw] at h
      obtain ⟨rest, -, h⟩ := Option.bind_eq_some_iff.mp h
      obtain ⟨total, -, rfl⟩ := Option.map_eq_some_iff.mp h
      rfl

theorem removeSigner_threshold {now : Nat} {st st' : Registry} {key : Ed25519PubKey}
    (h : removeSigner H now st key = some st') : st'.threshold = st.threshold := by
  rw [removeSigner] at h
  cases hw : getSignerWeight H st key with
  | none => rw [hw] at h; cases h; rfl
  | some oldWeight =>
      rw [hw] at h
      obtain ⟨total, -, rfl⟩ := Option.map_eq_some_iff.mp h
      rfl

/-! ## Historical lookups -/

def getSignerWeightAt (now : Nat) (st : Registry) (key : Ed25519PubKey) (referenceBlock : Nat) :
    UInt64 :=
  H.lookupAt historyCutoff now (st.signerWeightHist key) referenceBlock

def getSignerWeightsAt (now : Nat) (st : Registry) (keys : List Ed25519PubKey)
    (referenceBlock : Nat) : List UInt64 :=
  keys.map fun key => getSignerWeightAt H now st key referenceBlock

def getTotalWeightAt (now : Nat) (st : Registry) (referenceBlock : Nat) : UInt64 :=
  H.lookupAt historyCutoff now st.totalWeightHist referenceBlock

end

end BlendPool.Security
