/-
# `BlendPool.Handler.Harvest` — emissions to the treasury, interest to the pool

The claim comes first and stands whatever happens next.  The interest leg takes
everything out of Blend, puts the smaller of the principal and what came back in
again, and donates the rest; its withdrawal is the one external call that is
made recoverably, so that a revert there does not take the claim with it.
-/
import BlendPool.Handler.Rebalance

namespace BlendPool.Handler

open Bounded

/-- The event of a write-down. -/
def announceBadDebt (principal actualRedeemable : Int) : Exec Unit := do
  let shortfall ← Txn.orAbort .overflow (i128? (principal - actualRedeemable))
  publish (.badDebtDetected principal actualRedeemable shortfall)

/-- After the withdrawal: put the principal back and donate the rest.  Returns
the interest donated and the principal left. -/
def settleInterest (env : Env) (st : Storage) (actualRedeemable : Int) : Exec (Int × Int) := do
  let supplyAmount := min st.principalSupplied actualRedeemable
  Txn.when (0 < supplyAmount) (blendSubmitSupply env st.blendPool st.usdc supplyAmount)
  setPrincipalSupplied supplyAmount
  -- redeemed less than the principal: Blend wrote the position down
  Txn.when (actualRedeemable < st.principalSupplied)
    (announceBadDebt st.principalSupplied actualRedeemable)
  let interest := saturatingSub actualRedeemable supplyAmount
  Txn.when (0 < interest) (donateToPool env st.blendedPool st.usdc interest)
  pure (if 0 < interest then interest else 0, supplyAmount)

/-- The interest leg, when Blend is healthy and there is a principal. -/
def interestLeg (env : Env) (st : Storage) (blndRouted : Int) : Exec (Int × Int) := do
  let usdcBeforeWithdraw ← usdcBalance
  let withdrawn ← Txn.attempt (blendSubmitWithdraw env st.blendPool st.usdc i128Max)
  match withdrawn with
  | .error _ => do
      publish (.harvestPartial blndRouted)
      pure (0, st.principalSupplied)
  | .ok _ => do
      let balance ← usdcBalance
      settleInterest env st (saturatingSub balance usdcBeforeWithdraw)

/-- The reason given when nothing was harvested. -/
def skipReason (blendHealthy : Bool) (principal : Int) : Symbol :=
  if blendHealthy = false then "frozen" else if principal = 0 then "noprin" else "noyield"

/-- The end of a harvest, given the interest donated and the principal left. -/
def reportHarvest (now : Nat) (blndRouted : Int) (leg : Int × Int) (blendHealthy : Bool)
    (principal : Int) : Exec Unit :=
  if 0 < blndRouted ∨ 0 < leg.1 then do
    setLastHarvestTs now
    publish (.harvestCompleted leg.1 blndRouted leg.2)
    assertNoUsdcResidue
  else do
    publish (.harvestSkipped (skipReason blendHealthy principal))
    assertNoUsdcResidue

def executeHarvestYield (env : Env) : Exec Unit := do
  let w ← getWorld
  let st := w.storage
  let blndRouted ← blendClaim env st.blendPool [st.usdcReserveTokenId] st.blndTreasury
  let status ← blendStatus env
  let blendHealthy := decide (status ≤ blendHealthyStatusMax)
  if 0 < st.principalSupplied ∧ blendHealthy = true then do
    let leg ← interestLeg env st blndRouted
    reportHarvest w.timestamp blndRouted leg blendHealthy st.principalSupplied
  else
    reportHarvest w.timestamp blndRouted (0, st.principalSupplied) blendHealthy
      st.principalSupplied

/-! ## What a committed harvest did -/

section

variable {env : Env} {s t : Session}

theorem when_announceBadDebt_bind_eq_ok {β : Type} {principal redeemed : Int} {f : Unit → Exec β}
    {r : β × Session} :
    (Txn.when (redeemed < principal) (announceBadDebt principal redeemed) >>= f) s = .ok r ↔
      (redeemed < principal → InI128 (principal - redeemed)) ∧
        f () (s.emitIf (redeemed < principal)
          (.badDebtDetected principal redeemed (principal - redeemed))) = .ok r := by
  rw [Txn.when_bind_eq_ok, announceBadDebt, bind_assoc, Txn.orAbort_bind_eq_ok]
  simp only [publish_bind, i128?_eq_some]
  by_cases h : redeemed < principal
  · simp [h, Session.emitIf, Session.emit]
  · simp [h, Session.emitIf]

/-- The session after `r` came back: `min p r` is supplied again, the rest is donated. -/
def Session.settled (s : Session) (st : Storage) (r : Int) : Session :=
  let p := st.principalSupplied
  (((s.afterIf (0 < min p r) (.supply st.blendPool st.usdc (min p r))).update
    (·.withPrincipal (min p r))).emitIf (r < p) (.badDebtDetected p r (p - r))).afterIf
      (0 < r - min p r) (.donate st.blendedPool st.usdc (r - min p r))

theorem settleInterest_eq_ok {st : Storage} {r : Int} {out : Int × Int}
    (hp : 0 < st.principalSupplied) (hr : 0 ≤ r) (hmax : r ≤ i128Max) :
    settleInterest env st r s = .ok (out, t) ↔
      let c := ExtCall.supply st.blendPool st.usdc (min st.principalSupplied r)
      let d := ExtCall.donate st.blendedPool st.usdc (r - min st.principalSupplied r)
      let u := s.afterIf (0 < min st.principalSupplied r) c
      (0 < min st.principalSupplied r → env.accepts s.world.venue c = true ∧ c.Feasible s.world) ∧
        (r < st.principalSupplied → InI128 (st.principalSupplied - r)) ∧
        (0 < r - min st.principalSupplied r →
          env.accepts u.world.venue d = true ∧ d.Feasible u.world) ∧
        (r - min st.principalSupplied r, min st.principalSupplied r) = out ∧
        s.settled st r = t := by
  have hinterest : saturatingSub r (min st.principalSupplied r) = r - min st.principalSupplied r :=
    saturatingSub_of_le (le_min hp.le hr) (min_le_right _ _) hmax
  have hout : (if 0 < r - min st.principalSupplied r then r - min st.principalSupplied r else 0) =
      r - min st.principalSupplied r := by
    split
    · rfl
    · omega
  simp only [settleInterest, blendSubmitSupply, when_request_bind_eq_ok, setPrincipalSupplied,
    updateStorage_bind, when_announceBadDebt_bind_eq_ok, donateToPool, hinterest, Txn.pure_eq_ok,
    hout, Session.settled, Session.emitIf_world, Session.update_world_venue, feasible_update]

/-- An interest leg either redeemed some `r` and settled it, or could not withdraw. -/
theorem interestLeg_eq_ok {st : Storage} {blndRouted : Int} {out : Int × Int} :
    interestLeg env st blndRouted s = .ok (out, t) ↔
      (∃ delivery, env.withdraw s.world.venue i128Max = some delivery ∧
        delivery.val ≤ s.world.venue.blend.held ∧
        settleInterest env st delivery.val
          (s.after (.withdraw st.blendPool st.usdc i128Max delivery.val)) = .ok (out, t)) ∨
      ((∃ e, blendSubmitWithdraw env st.blendPool st.usdc i128Max s = .error e) ∧
        (0, st.principalSupplied) = out ∧ s.emit (.harvestPartial blndRouted) = t) := by
  simp only [interestLeg, usdcBalance_bind, Txn.attempt_bind_eq_ok, publish_bind, Txn.pure_eq_ok]
  constructor
  · rintro (⟨⟨⟩, u, hu, hrest⟩ | ⟨e, he, hout, ht⟩)
    · obtain ⟨delivery, hd, hheld, rfl⟩ := blendSubmitWithdraw_eq_ok.mp hu
      rw [redeemed_eq] at hrest
      exact .inl ⟨delivery, hd, hheld, hrest⟩
    · exact .inr ⟨⟨e, he⟩, hout, ht⟩
  · rintro (⟨delivery, hd, hheld, hrest⟩ | ⟨⟨e, he⟩, hout, ht⟩)
    · refine .inl ⟨(), _, blendSubmitWithdraw_eq_ok.mpr ⟨delivery, hd, hheld, rfl⟩, ?_⟩
      rw [redeemed_eq]
      exact hrest
    · exact .inr ⟨e, he, hout, ht⟩

/-- The session after the report of a harvest. -/
def Session.reported (s : Session) (now : Nat) (blndRouted : Int) (leg : Int × Int)
    (blendHealthy : Bool) (principal : Int) : Session :=
  if 0 < blndRouted ∨ 0 < leg.1 then
    (s.update (·.withLastHarvest now)).emit (.harvestCompleted leg.1 blndRouted leg.2)
  else s.emit (.harvestSkipped (skipReason blendHealthy principal))

theorem reportHarvest_eq_ok {now : Nat} {blndRouted : Int} {leg : Int × Int} {blendHealthy : Bool}
    {principal : Int} :
    reportHarvest now blndRouted leg blendHealthy principal s = .ok ((), t) ↔
      s.world.handlerUsdc = 0 ∧ t = s.reported now blndRouted leg blendHealthy principal := by
  rw [reportHarvest, Session.reported]
  split
  · simp only [setLastHarvestTs, updateStorage_bind, publish_bind, assertNoUsdcResidue_eq_ok,
      Session.emit_world, Session.update_world_handlerUsdc]
  · simp only [publish_bind, assertNoUsdcResidue_eq_ok, Session.emit_world]

theorem executeHarvestYield_eq_ok :
    executeHarvestYield env s = .ok ((), t) ↔
      let st := s.world.storage
      ∃ routed, env.claim s.world.venue = some routed ∧
        let u := s.after (.claim st.blendPool [st.usdcReserveTokenId] st.blndTreasury routed)
        ∃ status, env.status s.world.venue = some status ∧
          let healthy := decide (status ≤ blendHealthyStatusMax)
          ((0 < st.principalSupplied ∧ healthy = true) ∧
              (∃ leg v, interestLeg env st routed u = .ok (leg, v) ∧ v.world.handlerUsdc = 0 ∧
                t = v.reported s.world.timestamp routed leg healthy st.principalSupplied) ∨
            ¬ (0 < st.principalSupplied ∧ healthy = true) ∧ s.world.handlerUsdc = 0 ∧
              t = u.reported s.world.timestamp routed (0, st.principalSupplied) healthy
                st.principalSupplied) := by
  simp only [executeHarvestYield, getWorld_bind, blendClaim_bind_eq_ok, blendStatus_bind_eq_ok,
    Txn.ite_eq_ok, after_claim_venue]
  simp only [Txn.bind_eq_ok, reportHarvest_eq_ok, after_claim_handlerUsdc]

end

end BlendPool.Handler
