/-
# `BlendPool.Handler.System` — the quorum's entry point, and runs

`verify_xlm` checks first and marks last; in between lie a call to the
verification contract and a whole action.  The system is the handler on a
ledger where time passes, traders move the pool, Blend accrues interest or
writes it down, and anyone may send USDC to the handler's address.  A call that
fails leaves the world as it was.
-/
import BlendPool.Handler.Admin

namespace BlendPool.Handler

open Bounded

/-- The shared modules whose code is elsewhere: the two decoders and the
admin transfer. -/
structure Shared where
  /-- `XlmEnvelope::from_xdr` -/
  decodeEnvelope : Bytes → Option XlmEnvelope
  /-- `RebalanceAction::from_xdr` -/
  decodeAction : Bytes → Option RebalanceAction
  admin : AdminTransfer

/-- The `match` on the result of `try_verify`. -/
def requireAccepted : VerifyOutcome → Exec Unit
  | .accepted => pure ()
  | .badReturn => throw (.handler .unknownVerificationError)
  | .rejected e => throw (.handler (.ofVerify e))
  | .trapped => throw (.handler .otherInvocationError)

def dispatch (env : Env) : RebalanceAction → Exec Unit
  | .rebalance => executeRebalance env
  | .harvestYield => executeHarvestYield env

def markEventSeen (eventId : BytesN 20) : Exec Unit :=
  updateStorage fun st => st.markSeen eventId

def verifyXlm (P : Shared) (env : Env) (envelopeBytes : Bytes) (sigData : Ed25519SignatureData) :
    Exec Unit := do
  let w ← getWorld
  let st := w.storage
  Txn.ensure (st.paused = false) (.localError .paused)
  let envelope ← Txn.orAbort (.handler .invalidEnvelope) (P.decodeEnvelope envelopeBytes)
  Txn.ensure (envelope.eventId ∉ st.eventSeen) (.handler .eventAlreadySeen)
  Txn.ensure (sigData.referenceBlock ≤ w.sequence ∧
    w.sequence - sigData.referenceBlock ≤ maxReferenceBlockAge) (.handler .invalidReferenceBlock)
  requireAccepted (env.verify st.verificationContract envelopeBytes sigData.signatures
    sigData.signers sigData.referenceBlock)
  let action ← Txn.orAbort (.handler .invalidEnvelope) (P.decodeAction envelope.payload)
  dispatch env action
  markEventSeen envelope.eventId
  publish (.verified envelope.eventId)

theorem requireAccepted_bind_eq_ok {β : Type} {v : VerifyOutcome} {f : Unit → Exec β} {s : Session}
    {r : β × Session} :
    (requireAccepted v >>= f) s = .ok r ↔ v = .accepted ∧ f () s = .ok r := by
  cases v with
  | accepted => simp [requireAccepted]
  | badReturn => simp [requireAccepted]
  | rejected e => simp [requireAccepted]
  | trapped => simp [requireAccepted]

theorem requireAccepted_bind_error {β : Type} {v : VerifyOutcome} {f : Unit → Exec β} {s : Session}
    {e : Failure} (h : (requireAccepted v >>= f) s = .error e) :
    (∃ reason, .handler reason = e) ∨ f () s = .error e := by
  cases v with
  | accepted => exact .inr h
  | badReturn => exact .inl ⟨_, Except.error.inj h⟩
  | rejected _ => exact .inl ⟨_, Except.error.inj h⟩
  | trapped => exact .inl ⟨_, Except.error.inj h⟩

/-- A committed submission passed every check, dispatched, and was marked. -/
theorem verifyXlm_eq_ok {P : Shared} {env : Env} {envelopeBytes : Bytes}
    {sigData : Ed25519SignatureData} {s t : Session} :
    verifyXlm P env envelopeBytes sigData s = .ok ((), t) ↔
      let st := s.world.storage
      st.paused = false ∧
        ∃ envelope, P.decodeEnvelope envelopeBytes = some envelope ∧
        envelope.eventId ∉ st.eventSeen ∧
        (sigData.referenceBlock ≤ s.world.sequence ∧
          s.world.sequence - sigData.referenceBlock ≤ maxReferenceBlockAge) ∧
        env.verify st.verificationContract envelopeBytes sigData.signatures sigData.signers
          sigData.referenceBlock = .accepted ∧
        ∃ action, P.decodeAction envelope.payload = some action ∧
        ∃ u, dispatch env action s = .ok ((), u) ∧
          (u.update (·.markSeen envelope.eventId)).emit (.verified envelope.eventId) = t := by
  simp only [verifyXlm, getWorld_bind, Txn.ensure_bind_eq_ok, Txn.orAbort_bind_eq_ok,
    requireAccepted_bind_eq_ok]
  simp only [Txn.unit_bind_eq_ok, markEventSeen, updateStorage_run, publish_run, Except.ok.injEq,
    Prod.mk.injEq, true_and, exists_eq_left']

/-! ## Entry points -/

inductive EntryPoint where
  | verifyXlm (envelopeBytes : Bytes) (sigData : Ed25519SignatureData)
  | emergencyUnwind
  | manualToBlend (amount : Int)
  | manualFromBlend (amount : Int)
  | setMaxRebalanceAmount (amount : Int)
  | setMinRebalanceAmount (amount : Int)
  | pause
  | unpause
  | setTargetRatioBps (bps : Nat)
  | setRebalanceBandBps (bps : Nat)
  | setCriticalLiquidFloorBps (bps : Nat)
  | setMinTotalUsdc (amount : Int)
  | setRebalanceCooldownSecs (secs : Nat)
  | setBlndTreasury (treasury : Address)
  | setUsdcReserveTokenId (id : Nat)
  | upgrade (newVersion : String)
  | proposeAdmin (newAdmin : Address)
  | acceptAdmin

def EntryPoint.body (P : Shared) (env : Env) : EntryPoint → Exec Unit
  | .verifyXlm envelopeBytes sigData => Handler.verifyXlm P env envelopeBytes sigData
  | .emergencyUnwind => Handler.emergencyUnwind env
  | .manualToBlend amount => Handler.manualToBlend env amount
  | .manualFromBlend amount => Handler.manualFromBlend env amount
  | .setMaxRebalanceAmount amount => Handler.setMaxRebalanceAmount env amount
  | .setMinRebalanceAmount amount => Handler.setMinRebalanceAmount env amount
  | .pause => Handler.pause env
  | .unpause => Handler.unpause env
  | .setTargetRatioBps bps => Handler.setTargetRatioBps env bps
  | .setRebalanceBandBps bps => Handler.setRebalanceBandBps env bps
  | .setCriticalLiquidFloorBps bps => Handler.setCriticalLiquidFloorBps env bps
  | .setMinTotalUsdc amount => Handler.setMinTotalUsdc env amount
  | .setRebalanceCooldownSecs secs => Handler.setRebalanceCooldownSecs env secs
  | .setBlndTreasury treasury => Handler.setBlndTreasury env treasury
  | .setUsdcReserveTokenId id => Handler.setUsdcReserveTokenId env id
  | .upgrade newVersion => Handler.upgrade env newVersion
  | .proposeAdmin newAdmin => Handler.proposeAdmin P.admin env newAdmin
  | .acceptAdmin => Handler.acceptAdmin P.admin env

/-- A call about to run. -/
def Session.start (w : World) : Session := ⟨w, [], []⟩

/-- One call: what it left and what it did, or why it rolled back. -/
def invoke (P : Shared) (env : Env) (w : World) (entry : EntryPoint) : Except Failure Session :=
  match entry.body P env (.start w) with
  | .ok ((), s) => .ok s
  | .error e => .error e

theorem invoke_eq_ok {P : Shared} {env : Env} {w : World} {entry : EntryPoint} {t : Session} :
    invoke P env w entry = .ok t ↔ entry.body P env (.start w) = .ok ((), t) := by
  rw [invoke]
  cases entry.body P env (.start w) with
  | error e => simp
  | ok p => obtain ⟨⟨⟩, s⟩ := p; simp

theorem invoke_eq_error {P : Shared} {env : Env} {w : World} {entry : EntryPoint} {e : Failure} :
    invoke P env w entry = .error e ↔ entry.body P env (.start w) = .error e := by
  rw [invoke]
  cases entry.body P env (.start w) with
  | error e' => simp
  | ok p => simp

/-! ## Runs -/

inductive Action where
  | invoke (env : Env) (entry : EntryPoint)
  /-- trades leave the pool with these liquid balances -/
  | trade (liquid xlm : Nat)
  /-- interest on the handler's position -/
  | accrue (interest : Nat)
  /-- bad debt on the handler's position, no more than there is -/
  | writeDown (debt : Nat)
  /-- other users leave Blend with this much USDC -/
  | blendHolds (held : Nat)
  /-- someone sends USDC to the handler -/
  | send (amount : Nat)
  | advance (secs ledgers : Nat)

def Blend.writeDown (b : Blend) (debt : Nat) : Blend :=
  if (debt : Int) ≤ b.position then { b with position := b.position - debt } else b

def step (P : Shared) (w : World) : Action → World
  | .invoke env entry =>
      match invoke P env w entry with
      | .ok s => s.world
      | .error _ => w
  | .trade liquid xlm =>
      { w with venue := { w.venue with
        pool := { w.venue.pool with liquid := liquid, xlm := xlm } } }
  | .accrue interest =>
      { w with venue := { w.venue with
          blend := { w.venue.blend with position := w.venue.blend.position + interest } } }
  | .writeDown debt => { w with venue := { w.venue with blend := w.venue.blend.writeDown debt } }
  | .blendHolds held =>
      { w with venue := { w.venue with blend := { w.venue.blend with held := held } } }
  | .send amount => { w with handlerUsdc := w.handlerUsdc + amount }
  | .advance secs ledgers =>
      { w with timestamp := w.timestamp + secs, sequence := w.sequence + ledgers }

theorem step_invoke_ok {P : Shared} {env : Env} {w : World} {entry : EntryPoint} {t : Session}
    (h : invoke P env w entry = .ok t) : step P w (.invoke env entry) = t.world := by
  rw [step, h]

theorem step_invoke_error {P : Shared} {env : Env} {w : World} {entry : EntryPoint} {e : Failure}
    (h : invoke P env w entry = .error e) : step P w (.invoke env entry) = w := by
  rw [step, h]

/-- What the calls that go through keep of the storage, every step keeps. -/
theorem storage_step {P : Shared} {I : Storage → Prop} {w : World} {a : Action}
    (hw : I w.storage) (hinvoke : ∀ env entry t, a = .invoke env entry →
      invoke P env w entry = .ok t → I t.world.storage) : I (step P w a).storage := by
  cases a with
  | invoke env entry =>
      cases h : invoke P env w entry with
      | ok t =>
          rw [step_invoke_ok h]
          exact hinvoke env entry t rfl h
      | error e =>
          rw [step_invoke_error h]
          exact hw
  | _ => exact hw

/-- The world right after the deployment: the pool has delegated nothing yet. -/
structure Deployed (w : World) : Prop where
  constructed : ∃ c, constructor c = .ok w.storage
  undelegated : w.venue.pool.delegated = 0
  balance_nonneg : 0 ≤ w.handlerUsdc

/-! ## A deployment to compute with -/

/-- Blend delivers what it is asked for, up to the position. -/
def honestWithdraw (v : Venue) (requested : Int) : Option (Delivery requested) :=
  if h : 0 ≤ requested then
    some ⟨min requested (max v.blend.position 0),
      le_min h (le_max_right _ _), min_le_left _ _⟩
  else none

/-- Everyone authorises, every contract does what it is asked, USDC is the
pool's first token, and there are no emissions. -/
def Env.honest : Env where
  auth _ := true
  verify _ _ _ _ _ := .accepted
  status _ := some 1
  queryDelegateState v := some
    { liquidA := v.pool.liquid
      liquidB := v.pool.xlm
      delegatedA := v.pool.delegated
      delegatedB := 0
      totalA := v.pool.liquid + v.pool.delegated
      totalB := v.pool.xlm }
  claim _ := some 0
  withdraw := honestWithdraw
  accepts _ _ := true

/-- An envelope is its event id followed by one byte for the action. -/
def Shared.sample : Shared where
  decodeEnvelope bytes :=
    if h : bytes.length = 21 then some ⟨⟨bytes.take 20, by simp [h]⟩, bytes.drop 20⟩ else none
  decodeAction payload :=
    if payload = [0] then some .rebalance else if payload = [1] then some .harvestYield else none
  admin := .twoStep

/-- Target 50%, band 5%, floor 20%, no minimum, a minute of cooldown. -/
def sampleConfig : Config where
  admin := 10
  verificationContract := 20
  blendedPool := 30
  blendPool := 40
  usdc := 1
  xlm := 2
  blndTreasury := 50
  usdcReserveTokenId := 1
  targetRatioBps := 5000
  rebalanceBandBps := 500
  minTotalUsdc := 0
  rebalanceCooldownSecs := 60
  criticalLiquidFloorBps := 2000

/-- What the constructor writes for it. -/
def sampleStorage : Storage where
  admin := 10
  pendingAdmin := none
  verificationContract := 20
  blendedPool := 30
  blendPool := 40
  usdc := 1
  xlm := 2
  blndTreasury := 50
  usdcReserveTokenId := 1
  targetRatioBps := 5000
  rebalanceBandBps := 500
  criticalLiquidFloorBps := 2000
  minTotalUsdc := 0
  maxRebalanceAmount := 0
  minRebalanceAmount := 0
  rebalanceCooldownSecs := 60
  lastRebalanceTs := 0
  lastHarvestTs := 0
  principalSupplied := 0
  paused := false
  version := "0.1.0"
  eventSeen := ∅

/-- The sample deployment, over a pool with 1000 USDC. -/
def sampleWorld : World where
  storage := sampleStorage
  venue := ⟨⟨1000, 0, 5000⟩, ⟨0, 0⟩⟩
  handlerUsdc := 0
  treasuryBlnd := 0
  timestamp := 1000
  sequence := 500

theorem sampleWorld_deployed : Deployed sampleWorld where
  constructed := ⟨sampleConfig, rfl⟩
  undelegated := rfl
  balance_nonneg := le_refl 0

end BlendPool.Handler
