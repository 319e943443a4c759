/-
# `BlendPool.Security.Contract` — the registry's entry points and its runs

An entry point is a transaction on the storage and the events of the call; a
call that returns an error, is not authorised or traps rolls back.  `step` is
the contract as the ledger sees it: ledgers close, and calls are made in the
current ledger, so the ledgers of the calls of a run never go back.
-/
import BlendPool.Security.Storage
import BlendPool.Lib.Runs

namespace BlendPool.Security

open Bounded Timeline

inductive SecurityError where
  | zeroDenominator
  | numeratorExceedsDenominator
  | zeroNumerator
  | zeroWeight
  deriving DecidableEq, Repr

/-- Why a call rolled back. -/
inductive Abort where
  | err (e : SecurityError)
  | unauthorized
  | trap
  deriving DecidableEq, Repr

inductive Event where
  | ed25519SignerAdded (key : Ed25519PubKey) (weight : UInt64)
  | ed25519SignerRemoved (key : Ed25519PubKey)
  | thresholdSet (numerator denominator : UInt64)
  | contractUpgraded (version : String)
  deriving DecidableEq

/-- The storage and the events of the running call. -/
structure Session where
  registry : Registry
  events : List Event

abbrev Call := Txn Session Abort

/-- What the registry is given from outside: the two shared modules. -/
structure Deps where
  hist : History UInt64
  admin : AdminTransfer

/-- The shared modules at their reference behaviour. -/
def Deps.reference : Deps := ⟨pruning, .twoStep⟩

/-- The threshold checks, in the order the contract makes them. -/
def checkThreshold (numerator denominator : UInt64) : Except SecurityError Threshold :=
  if denominator = 0 then .error .zeroDenominator
  else if numerator = 0 then .error .zeroNumerator
  else if denominator < numerator then .error .numeratorExceedsDenominator
  else .ok ⟨numerator, denominator⟩

/-- `__constructor`. -/
def constructor (admin : Address) (numerator denominator : UInt64) :
    Except SecurityError Registry :=
  (checkThreshold numerator denominator).map fun threshold =>
    { admin := admin
      pendingAdmin := none
      version := "0.1.0"
      threshold := threshold
      allSigners := []
      signerWeightHist := fun _ => []
      totalWeightHist := [] }

/-! ## Entry points -/

def getRegistry : Call Registry := Session.registry <$> get

def setRegistry (st : Registry) : Call Unit := modify fun s => { s with registry := st }

def publish (e : Event) : Call Unit := modify fun s => { s with events := s.events ++ [e] }

/-- `storage::get_admin(&env).require_auth()`. -/
def requireAdmin (auth : Address → Bool) : Call Unit := do
  let st ← getRegistry
  Txn.ensure (auth st.admin = true) .unauthorized

namespace Ed25519Security

variable (D : Deps) (auth : Address → Bool) (ledger : Nat)

def addSigner (key : Ed25519PubKey) (weight : UInt64) : Call Unit := do
  requireAdmin auth
  Txn.ensure (weight ≠ 0) (.err .zeroWeight)
  let st ← getRegistry
  let st' ← Txn.orAbort .trap (Security.addSigner D.hist ledger st key weight)
  setRegistry st'
  publish (.ed25519SignerAdded key weight)

def removeSigner (key : Ed25519PubKey) : Call Unit := do
  requireAdmin auth
  let st ← getRegistry
  let st' ← Txn.orAbort .trap (Security.removeSigner D.hist ledger st key)
  setRegistry st'
  publish (.ed25519SignerRemoved key)

def setThreshold (numerator denominator : UInt64) : Call Unit := do
  requireAdmin auth
  let threshold ← Txn.lift ((checkThreshold numerator denominator).mapError Abort.err)
  let st ← getRegistry
  setRegistry { st with threshold := threshold }
  publish (.thresholdSet numerator denominator)

/-- The installed code is replaced; a run of this module goes on with its own. -/
def upgrade (newVersion : String) : Call Unit := do
  requireAdmin auth
  let st ← getRegistry
  setRegistry { st with version := newVersion }
  publish (.contractUpgraded newVersion)

def proposeAdmin (newAdmin : Address) : Call Unit := do
  let st ← getRegistry
  let pending ← Txn.orAbort .unauthorized (D.admin.propose auth st.admin newAdmin st.pendingAdmin)
  setRegistry { st with pendingAdmin := pending }

def acceptAdmin : Call Unit := do
  let st ← getRegistry
  let accepted ← Txn.orAbort .unauthorized (D.admin.accept auth st.pendingAdmin)
  setRegistry { st with admin := accepted.1, pendingAdmin := accepted.2 }

end Ed25519Security

/-! ## Queries

The other queries are the storage functions of the same names. -/

/-- `get_signer_weight`: an unregistered key has weight zero. -/
def Ed25519Security.getSignerWeight (H : History UInt64) (st : Registry) (key : Ed25519PubKey) :
    UInt64 :=
  (Security.getSignerWeight H st key).getD 0

/-- `(total as u128 * numerator as u128 / denominator as u128) as u64`: the
product and the division may trap, the last cast truncates. -/
def fraction (total : UInt64) (t : Threshold) : Option UInt64 :=
  let product := total.toNat * t.numerator.toNat
  if u128Max < product ∨ t.denominator = 0 then none
  else some (UInt64.ofNat (product / t.denominator.toNat))

def requiredWeight (H : History UInt64) (st : Registry) : Option UInt64 :=
  fraction (getTotalWeight H st) st.threshold

def requiredWeightAt (H : History UInt64) (now : Nat) (st : Registry) (referenceBlock : Nat) :
    Option UInt64 :=
  fraction (getTotalWeightAt H now st referenceBlock) st.threshold

/-! ## Runs -/

inductive EntryPoint where
  | addSigner (key : Ed25519PubKey) (weight : UInt64)
  | removeSigner (key : Ed25519PubKey)
  | setThreshold (numerator denominator : UInt64)
  | upgrade (newVersion : String)
  | proposeAdmin (newAdmin : Address)
  | acceptAdmin

/-- The contract on its ledger. -/
structure Chain where
  ledger : Nat
  registry : Registry

inductive Action where
  /-- `n` ledgers close without a call -/
  | close (n : Nat)
  /-- a call, with the addresses that authorised it -/
  | call (auth : Address → Bool) (entry : EntryPoint)

def EntryPoint.body (D : Deps) (auth : Address → Bool) (ledger : Nat) : EntryPoint → Call Unit
  | .addSigner key weight => Ed25519Security.addSigner D auth ledger key weight
  | .removeSigner key => Ed25519Security.removeSigner D auth ledger key
  | .setThreshold numerator denominator => Ed25519Security.setThreshold auth numerator denominator
  | .upgrade newVersion => Ed25519Security.upgrade auth newVersion
  | .proposeAdmin newAdmin => Ed25519Security.proposeAdmin D auth newAdmin
  | .acceptAdmin => Ed25519Security.acceptAdmin D auth

/-- One call: the new storage and the call's events, or the reason it rolled back. -/
def invoke (D : Deps) (auth : Address → Bool) (c : Chain) (entry : EntryPoint) :
    Except Abort (Registry × List Event) :=
  match entry.body D auth c.ledger ⟨c.registry, []⟩ with
  | .ok ((), s) => .ok (s.registry, s.events)
  | .error e => .error e

def step (D : Deps) (c : Chain) : Action → Chain
  | .close n => { c with ledger := c.ledger + n }
  | .call auth entry =>
      match invoke D auth c entry with
      | .ok (st, _) => { c with registry := st }
      | .error _ => c

/-- A freshly deployed registry, at any ledger. -/
def Deployed (c : Chain) : Prop :=
  ∃ admin numerator denominator, constructor admin numerator denominator = .ok c.registry

/-- A registry deployed in ledger 100 by admin 1 with threshold 4/5. -/
def freshChain : Chain where
  ledger := 100
  registry :=
    { admin := 1, pendingAdmin := none, version := "0.1.0", threshold := ⟨4, 5⟩,
      allSigners := [], signerWeightHist := fun _ => [], totalWeightHist := [] }

theorem freshChain_deployed : Deployed freshChain := ⟨1, 4, 5, rfl⟩

end BlendPool.Security
