/-
# `BlendPool.Handler.Admin` — the admin's entry points

Three that move money — the full drain and the two manual moves — and the
setters, which are one definition: authorise, check, write, announce.
-/
import BlendPool.Handler.Harvest

namespace BlendPool.Handler

open Bounded

/-! ## Money -/

/-- What was redeemed goes back to the pool: the principal as a deposit, any
interest as a donation. -/
def returnToPool (env : Env) (st : Storage) (redeemed : Int) : Exec Unit := do
  let depositAmount := min redeemed st.principalSupplied
  Txn.when (0 < depositAmount) (depositFromDelegate env st.blendedPool st.usdc depositAmount)
  let donateAmount := saturatingSub redeemed st.principalSupplied
  Txn.when (0 < donateAmount) (donateToPool env st.blendedPool st.usdc donateAmount)

/-- The withdrawing half of `emergency_unwind`: what came out of Blend. -/
def drain (env : Env) (st : Storage) : Exec Int := do
  let before ← usdcBalance
  blendSubmitWithdraw env st.blendPool st.usdc i128Max
  let balance ← usdcBalance
  let redeemed := saturatingSub balance before
  Txn.when (0 < redeemed) (returnToPool env st redeemed)
  pure redeemed

/-- The end of an unwind. -/
def finishUnwind (redeemed principalBefore : Int) : Exec Unit := do
  setPrincipalSupplied 0
  publish (.emergencyUnwound redeemed principalBefore)
  assertNoUsdcResidue

def emergencyUnwind (env : Env) : Exec Unit := do
  requireAdmin env
  let st ← getStorage
  if 0 < st.principalSupplied then do
    let redeemed ← drain env st
    finishUnwind redeemed st.principalSupplied
  else finishUnwind 0 st.principalSupplied

def manualToBlend (env : Env) (amount : Int) : Exec Unit := do
  requireAdmin env
  Txn.ensure (0 < amount) (.assertion "amount must be positive")
  let st ← getStorage
  Txn.ensure (st.paused = false) (.localError .paused)
  let status ← blendStatus env
  Txn.ensure (status ≤ blendHealthyStatusMax)
    (.assertion "Blend pool is not healthy (status > 3); cannot Supply")
  withdrawToDelegate env st.blendedPool st.usdc amount
  blendSubmitSupply env st.blendPool st.usdc amount
  let principalAfter ← Txn.orAbort (.assertion "principal overflow")
    (checkedAdd st.principalSupplied amount)
  setPrincipalSupplied principalAfter
  let state ← queryDelegateState env
  let side := usdcSide st state
  publish (.rebalanceExecuted directionToBlend amount side.liquid side.delegated principalAfter)
  assertNoUsdcResidue

def manualFromBlend (env : Env) (amount : Int) : Exec Unit := do
  requireAdmin env
  Txn.ensure (0 < amount) (.assertion "amount must be positive")
  let st ← getStorage
  Txn.ensure (st.paused = false) (.localError .paused)
  Txn.ensure (amount ≤ st.principalSupplied)
    (.assertion "amount exceeds principal_supplied; use emergency_unwind for full drain")
  blendSubmitWithdraw env st.blendPool st.usdc amount
  depositFromDelegate env st.blendedPool st.usdc amount
  let rest ← Txn.orAbort .overflow (i128? (st.principalSupplied - amount))
  let principalAfter := max rest 0
  setPrincipalSupplied principalAfter
  let state ← queryDelegateState env
  let side := usdcSide st state
  publish (.rebalanceExecuted directionFromBlend amount side.liquid side.delegated principalAfter)
  assertNoUsdcResidue

/-! ## What the committed ones did -/

section

variable {env : Env} {s t : Session}

/-- The session after `r` went back to the pool: principal first, the rest as a donation. -/
def Session.returned (s : Session) (st : Storage) (r : Int) : Session :=
  let m := min r st.principalSupplied
  (s.afterIf (0 < m) (.depositFromDelegate st.blendedPool st.usdc m)).afterIf (0 < r - m)
    (.donate st.blendedPool st.usdc (r - m))

/-- What the pool must accept for `r` to go back to it. -/
def CanReturn (env : Env) (s : Session) (st : Storage) (r : Int) : Prop :=
  let m := min r st.principalSupplied
  let c := ExtCall.depositFromDelegate st.blendedPool st.usdc m
  let d := ExtCall.donate st.blendedPool st.usdc (r - m)
  let u := s.afterIf (0 < m) c
  (0 < m → env.accepts s.world.venue c = true ∧ c.Feasible s.world) ∧
    (0 < r - m → env.accepts u.world.venue d = true ∧ d.Feasible u.world)

theorem returnToPool_bind_eq_ok {β : Type} {st : Storage} {r : Int} {f : Unit → Exec β}
    {x : β × Session} (hp : 0 < st.principalSupplied) (hmax : r ≤ i128Max) :
    (returnToPool env st r >>= f) s = .ok x ↔
      CanReturn env s st r ∧ f () (s.returned st r) = .ok x := by
  simp only [returnToPool, bind_assoc, depositFromDelegate, donateToPool, when_request_bind_eq_ok]
  rw [CanReturn, Session.returned, and_assoc]
  rcases lt_or_ge st.principalSupplied r with hlt | hge
  · rw [saturatingSub_of_le hp.le hlt.le hmax, min_eq_right hlt.le]
  · -- no rest, on either side
    have hsat := saturatingSub_nonpos hge
    have hneg : ¬ 0 < saturatingSub r st.principalSupplied := not_lt.mpr hsat
    have hneg' : ¬ 0 < r - min r st.principalSupplied := by omega
    simp only [hneg, hneg', false_imp_iff, true_and, Session.afterIf_neg, not_false_eq_true]

theorem drain_eq_ok {st : Storage} {redeemed : Int} (hp : 0 < st.principalSupplied) :
    drain env st s = .ok (redeemed, t) ↔
      ∃ delivery, env.withdraw s.world.venue i128Max = some delivery ∧
        delivery.val ≤ s.world.venue.blend.held ∧
        let u := s.after (.withdraw st.blendPool st.usdc i128Max delivery.val)
        CanReturn env u st delivery.val ∧ delivery.val = redeemed ∧
        u.returned st delivery.val = t := by
  simp only [drain, usdcBalance_bind, blendSubmitWithdraw_bind_eq_ok, redeemed_eq,
    Txn.when_bind_eq_ok, Txn.pure_eq_ok]
  refine exists_congr fun delivery => and_congr_right fun _ => and_congr_right fun _ => ?_
  rw [returnToPool_bind_eq_ok hp delivery.property.2, Txn.pure_eq_ok]
  have hnonneg := delivery.property.1
  rcases lt_or_ge 0 delivery.val with hpos | hzero
  · simp only [hpos, true_and, not_true_eq_false, false_and, or_false]
  · -- nothing came back, and nothing is returned
    have hmin : ¬ 0 < min delivery.val st.principalSupplied := by omega
    have hdon : ¬ 0 < delivery.val - min delivery.val st.principalSupplied := by omega
    simp only [not_lt.mpr hzero, false_and, not_false_eq_true, true_and, false_or, CanReturn,
      Session.returned, hmin, hdon, false_imp_iff, Session.afterIf_neg]

/-- The session after the end of an unwind. -/
def Session.unwound (s : Session) (redeemed principalBefore : Int) : Session :=
  (s.update (·.withPrincipal 0)).emit (.emergencyUnwound redeemed principalBefore)

theorem finishUnwind_eq_ok {redeemed principalBefore : Int} :
    finishUnwind redeemed principalBefore s = .ok ((), t) ↔
      s.world.handlerUsdc = 0 ∧ t = s.unwound redeemed principalBefore := by
  simp only [finishUnwind, setPrincipalSupplied, updateStorage_bind, publish_bind,
    assertNoUsdcResidue_eq_ok, Session.emit_world, Session.update_world_handlerUsdc,
    Session.unwound]

theorem emergencyUnwind_eq_ok :
    emergencyUnwind env s = .ok ((), t) ↔
      let st := s.world.storage
      let p := st.principalSupplied
      env.auth st.admin = true ∧
        (0 < p ∧ (∃ redeemed u, drain env st s = .ok (redeemed, u) ∧ u.world.handlerUsdc = 0 ∧
            t = u.unwound redeemed p) ∨
          ¬ 0 < p ∧ s.world.handlerUsdc = 0 ∧ t = s.unwound 0 p) := by
  simp only [emergencyUnwind, requireAdmin_bind_eq_ok, getStorage_bind, Txn.ite_eq_ok]
  simp only [Txn.bind_eq_ok, finishUnwind_eq_ok]

theorem manualToBlend_eq_ok {amount : Int} :
    manualToBlend env amount s = .ok ((), t) ↔
      let st := s.world.storage
      let c := ExtCall.withdrawToDelegate st.blendedPool st.usdc amount
      let d := ExtCall.supply st.blendPool st.usdc amount
      env.auth st.admin = true ∧ 0 < amount ∧ st.paused = false ∧
        ∃ status, env.status s.world.venue = some status ∧ status ≤ blendHealthyStatusMax ∧
        (env.accepts s.world.venue c = true ∧ c.Feasible s.world) ∧
        (env.accepts (s.after c).world.venue d = true ∧ d.Feasible (s.after c).world) ∧
        ∃ principalAfter, checkedAdd st.principalSupplied amount = some principalAfter ∧
        let u := s.supplied st amount principalAfter
        ∃ state, env.queryDelegateState u.world.venue = some state ∧ u.world.handlerUsdc = 0 ∧
          t = u.emit (.rebalanceExecuted directionToBlend amount (usdcSide st state).liquid
            (usdcSide st state).delegated principalAfter) := by
  simp only [manualToBlend, requireAdmin_bind_eq_ok, Txn.ensure_bind_eq_ok, getStorage_bind,
    blendStatus_bind_eq_ok, withdrawToDelegate, blendSubmitSupply, request_bind_eq_ok,
    Txn.orAbort_bind_eq_ok, setPrincipalSupplied, updateStorage_bind, queryDelegateState_bind_eq_ok,
    publish_bind, assertNoUsdcResidue_eq_ok, Session.supplied, Session.emit_world, and_assoc]

theorem manualFromBlend_eq_ok {amount : Int} :
    manualFromBlend env amount s = .ok ((), t) ↔
      let st := s.world.storage
      env.auth st.admin = true ∧ 0 < amount ∧ st.paused = false ∧ amount ≤ st.principalSupplied ∧
        ∃ delivery, env.withdraw s.world.venue amount = some delivery ∧
        delivery.val ≤ s.world.venue.blend.held ∧
        let c := ExtCall.withdraw st.blendPool st.usdc amount delivery.val
        let d := ExtCall.depositFromDelegate st.blendedPool st.usdc amount
        (env.accepts (s.after c).world.venue d = true ∧ d.Feasible (s.after c).world) ∧
        ∃ rest, i128? (st.principalSupplied - amount) = some rest ∧
        let u := s.pulled st amount delivery.val (max rest 0)
        ∃ state, env.queryDelegateState u.world.venue = some state ∧ u.world.handlerUsdc = 0 ∧
          t = u.emit (.rebalanceExecuted directionFromBlend amount (usdcSide st state).liquid
            (usdcSide st state).delegated (max rest 0)) := by
  simp only [manualFromBlend, requireAdmin_bind_eq_ok, Txn.ensure_bind_eq_ok, getStorage_bind,
    blendSubmitWithdraw_bind_eq_ok, depositFromDelegate, request_bind_eq_ok,
    Txn.orAbort_bind_eq_ok, setPrincipalSupplied, updateStorage_bind, queryDelegateState_bind_eq_ok,
    publish_bind, assertNoUsdcResidue_eq_ok, Session.pulled, Session.emit_world, and_assoc]

end

/-! ## Settings -/

/-- What every setter does. -/
def configure (env : Env) (valid : Storage → Bool) (failure : Failure) (write : Storage → Storage)
    (event : Event) : Exec Unit := do
  requireAdmin env
  let st ← getStorage
  Txn.ensure (valid st = true) failure
  updateStorage write
  publish event

theorem configure_eq_ok {env : Env} {valid : Storage → Bool} {failure : Failure}
    {write : Storage → Storage} {event : Event} {s t : Session} :
    configure env valid failure write event s = .ok ((), t) ↔
      env.auth s.world.storage.admin = true ∧ valid s.world.storage = true ∧
        (s.update write).emit event = t := by
  simp only [configure, requireAdmin_bind_eq_ok, getStorage_bind, Txn.ensure_bind_eq_ok,
    updateStorage_bind, publish_run, Except.ok.injEq, Prod.mk.injEq, true_and]

section

variable (env : Env)

def setMaxRebalanceAmount (amount : Int) : Exec Unit :=
  configure env (fun _ => 0 ≤ amount) (.assertion "max_rebalance_amount must be non-negative")
    (fun st => { st with maxRebalanceAmount := amount }) (.configUpdated "max_reb" amount)

def setMinRebalanceAmount (amount : Int) : Exec Unit :=
  configure env (fun _ => 0 ≤ amount) (.assertion "min_rebalance_amount must be non-negative")
    (fun st => { st with minRebalanceAmount := amount }) (.configUpdated "min_reb" amount)

def pause : Exec Unit :=
  configure env (fun _ => true) .unauthorized (fun st => { st with paused := true })
    (.pauseToggled true)

def unpause : Exec Unit :=
  configure env (fun _ => true) .unauthorized (fun st => { st with paused := false })
    (.pauseToggled false)

def setTargetRatioBps (bps : Nat) : Exec Unit :=
  configure env (fun _ => 0 < bps ∧ bps < 10000)
    (.assertion "target_ratio_bps must be in (0, 10000)")
    (fun st => { st with targetRatioBps := bps }) (.configUpdated "target" bps)

def setRebalanceBandBps (bps : Nat) : Exec Unit :=
  configure env (fun _ => bps < 10000) (.assertion "rebalance_band_bps must be < 10000")
    (fun st => { st with rebalanceBandBps := bps }) (.configUpdated "band" bps)

def setCriticalLiquidFloorBps (bps : Nat) : Exec Unit :=
  configure env (fun st => bps < lowerBandBps st.targetRatioBps st.rebalanceBandBps)
    (.handler .invalidEnvelope)
    (fun st => { st with criticalLiquidFloorBps := bps }) (.configUpdated "crit_bps" bps)

def setMinTotalUsdc (amount : Int) : Exec Unit :=
  configure env (fun _ => 0 ≤ amount) (.assertion "min_total_usdc must be non-negative")
    (fun st => { st with minTotalUsdc := amount }) (.configUpdated "min_tot" amount)

def setRebalanceCooldownSecs (secs : Nat) : Exec Unit :=
  configure env (fun _ => true) .unauthorized
    (fun st => { st with rebalanceCooldownSecs := secs }) (.configUpdated "cooldown" secs)

def setBlndTreasury (treasury : Address) : Exec Unit :=
  configure env (fun _ => true) .unauthorized
    (fun st => { st with blndTreasury := treasury }) (.addressConfigUpdated "treasury" treasury)

def setUsdcReserveTokenId (id : Nat) : Exec Unit :=
  configure env (fun _ => id % 2 ≠ 0) (.localError .invalidReserveTokenId)
    (fun st => { st with usdcReserveTokenId := id }) (.configUpdated "usdc_id" id)

/-- The installed code is replaced; a run of this module goes on with its own. -/
def upgrade (newVersion : String) : Exec Unit :=
  configure env (fun _ => true) .unauthorized (fun st => { st with version := newVersion })
    (.contractUpgraded newVersion)

end

/-! ## Admin transfer -/

def proposeAdmin (A : AdminTransfer) (env : Env) (newAdmin : Address) : Exec Unit := do
  let st ← getStorage
  let pending ← Txn.orAbort .unauthorized (A.propose env.auth st.admin newAdmin st.pendingAdmin)
  updateStorage fun st => { st with pendingAdmin := pending }

def acceptAdmin (A : AdminTransfer) (env : Env) : Exec Unit := do
  let st ← getStorage
  let accepted ← Txn.orAbort .unauthorized (A.accept env.auth st.pendingAdmin)
  updateStorage fun st => { st with admin := accepted.1, pendingAdmin := accepted.2 }

theorem proposeAdmin_eq_ok {A : AdminTransfer} {env : Env} {newAdmin : Address} {s t : Session} :
    proposeAdmin A env newAdmin s = .ok ((), t) ↔
      ∃ pending, A.propose env.auth s.world.storage.admin newAdmin s.world.storage.pendingAdmin =
          some pending ∧
        s.update (fun st => { st with pendingAdmin := pending }) = t := by
  simp only [proposeAdmin, getStorage_bind, Txn.orAbort_bind_eq_ok, updateStorage_run,
    Except.ok.injEq, Prod.mk.injEq, true_and]

theorem acceptAdmin_eq_ok {A : AdminTransfer} {env : Env} {s t : Session} :
    acceptAdmin A env s = .ok ((), t) ↔
      ∃ accepted, A.accept env.auth s.world.storage.pendingAdmin = some accepted ∧
        s.update (fun st => { st with admin := accepted.1, pendingAdmin := accepted.2 }) = t := by
  simp only [acceptAdmin, getStorage_bind, Txn.orAbort_bind_eq_ok, updateStorage_run,
    Except.ok.injEq, Prod.mk.injEq, true_and]

end BlendPool.Handler
