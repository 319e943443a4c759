/-
# `BlendPool.Handler.WriteDown` — pulling from a position that was written down

A pull asks Blend for an amount and then deposits that amount, not what came.
The amount is capped at the principal, which a write-down does not touch until a
harvest corrects it; so the cap protects only as far as the written-down
position still covers the amount.
-/
import BlendPool.Handler.Principal

namespace BlendPool.Handler

open Bounded

/-- Blend is healthy and has the position's USDC; a withdrawal within the
position delivers, one beyond it delivers the position or reverts; and the pool
takes deposits. -/
structure PaysPosition (env : Env) (v : Venue) : Prop where
  healthy : ∃ status, env.status v = some status ∧ status ≤ blendHealthyStatusMax
  nonneg : 0 ≤ v.blend.position
  held : v.blend.position ≤ v.blend.held
  within : ∀ x, 0 ≤ x → x ≤ v.blend.position →
    ∃ delivery, env.withdraw v x = some delivery ∧ delivery.val = x
  beyond : ∀ x delivery, v.blend.position < x → env.withdraw v x = some delivery →
    delivery.val = v.blend.position
  deposits : ∀ u pool token amount, env.accepts u (.depositFromDelegate pool token amount) = true

/-! ## The pull -/

theorem capped_le_iff {cap n p : Int} : capped cap n ≤ p ↔ n ≤ p ∨ 0 < cap ∧ cap ≤ p := by
  rw [capped]
  split
  · next h => exact ⟨fun hle => .inr ⟨h.1, hle⟩, fun hor => hor.elim h.2.le.trans And.right⟩
  · next h => exact ⟨.inl, fun hor => hor.elim id fun hcap => by omega⟩

section

variable {env : Env} {s : Session} {now : Nat} {g : Gauge} {liquid delegated : Int}

theorem pull_le_position (hpays : PaysPosition env s.world.venue) (hempty : s.world.handlerUsdc = 0)
    {x : Int} {pool blend token token' : Address} {delivery : Delivery x}
    (hdelivery : env.withdraw s.world.venue x = some delivery)
    (hdeposit : (ExtCall.depositFromDelegate pool token x).Feasible
      (s.after (.withdraw blend token' x delivery.val)).world) :
    x ≤ s.world.venue.blend.position := by
  have hbalance : x ≤ s.world.handlerUsdc + delivery.val := hdeposit.2.1
  rcases le_or_gt x s.world.venue.blend.position with hle | hgt
  · exact hle
  · have hshort := hpays.beyond x delivery hgt hdelivery
    omega

theorem pulled_within (hpays : PaysPosition env s.world.venue) (hempty : s.world.handlerUsdc = 0)
    {x principalAfter : Int} {st : Storage} (hx : 0 ≤ x) (hle : x ≤ s.world.venue.blend.position)
    (hcover : x ≤ s.world.venue.pool.delegated) :
    ∃ delivery, env.withdraw s.world.venue x = some delivery ∧
      delivery.val ≤ s.world.venue.blend.held ∧
      (ExtCall.depositFromDelegate st.blendedPool st.usdc x).Feasible
        (s.after (.withdraw st.blendPool st.usdc x delivery.val)).world ∧
      (s.pulled st x delivery.val principalAfter).world.handlerUsdc = 0 := by
  obtain ⟨delivery, hdelivery, hval⟩ := hpays.within x hx hle
  refine ⟨delivery, hdelivery, ?_, ⟨hx, ?_, hcover⟩, ?_⟩
  · rw [hval]
    exact hle.trans hpays.held
  · show x ≤ s.world.handlerUsdc + delivery.val
    omega
  · show s.world.handlerUsdc + delivery.val + -x = 0
    omega

theorem rebalanceFromBlend_survives (hpays : PaysPosition env s.world.venue)
    (hempty : s.world.handlerUsdc = 0) (hfits : PrincipalFits s.world)
    (hcover : s.world.books.principal ≤ s.world.books.delegated)
    (hliquid : 0 ≤ liquid ∧ liquid ≤ g.targetLiquid ∧ g.targetLiquid ≤ i128Max)
    (hdelegated : 0 ≤ delegated ∧ delegated ≤ i128Max) :
    let st := s.world.storage
    let bounded := min (g.targetLiquid - liquid) st.principalSupplied
    (∃ t, rebalanceFromBlend env st now g liquid delegated s = .ok ((), t)) ↔
      bounded < st.minRebalanceAmount ∨
        capped st.maxRebalanceAmount bounded ≤ s.world.venue.blend.position := by
  intro st bounded
  have hnatural : checkedSub g.targetLiquid liquid = some (g.targetLiquid - liquid) :=
    i128?_of_in (inI128_of_nonneg (by omega) (by omega))
  constructor
  · rintro ⟨t, ht⟩
    obtain ⟨natural, hn, hcases⟩ := rebalanceFromBlend_eq_ok.mp ht
    obtain rfl := Option.some.inj (hnatural.symm.trans hn)
    obtain ⟨hdust, -⟩ | ⟨-, ⟨-, delivery, hdelivery, -, hdeposit, -⟩ | ⟨hzero, -⟩⟩ := hcases
    · exact .inl hdust
    · exact .inr (pull_le_position hpays hempty hdelivery hdeposit.2)
    · exact .inr ((not_lt.mp hzero).trans hpays.nonneg)
  · intro hor
    rcases lt_or_ge bounded st.minRebalanceAmount with hdust | hdust
    · exact ⟨s, rebalanceFromBlend_eq_ok.mpr ⟨_, hnatural, .inl ⟨hdust, rfl⟩⟩⟩
    have hle := hor.resolve_left (not_lt.mpr hdust)
    have hamount : capped st.maxRebalanceAmount bounded ≤ bounded := capped_le _ _
    have hbounded : bounded ≤ g.targetLiquid - liquid ∧ bounded ≤ st.principalSupplied :=
      ⟨min_le_left _ _, min_le_right _ _⟩
    have hprincipal : st.principalSupplied ≤ i128Max := hfits.2
    rcases lt_or_ge 0 (capped st.maxRebalanceAmount bounded) with hpos | hzero
    · have hpull : capped st.maxRebalanceAmount bounded ≤ s.world.venue.pool.delegated :=
        (hamount.trans hbounded.2).trans hcover
      obtain ⟨delivery, hdelivery, hheld, hfeasible, hclean⟩ :=
        pulled_within hpays hempty hpos.le hle hpull
      have hrest := i128?_of_in (inI128_of_nonneg
        (n := st.principalSupplied - capped st.maxRebalanceAmount bounded) (by omega) (by omega))
      have hafter := i128?_of_in (inI128_of_nonneg
        (n := liquid + capped st.maxRebalanceAmount bounded) (by omega) (by omega))
      have hmin : i128Min + i128Max ≤ 0 := by decide
      have hdelegatedAfter : InI128 (delegated - capped st.maxRebalanceAmount bounded) :=
        ⟨by omega, by omega⟩
      exact ⟨_, rebalanceFromBlend_eq_ok.mpr ⟨_, hnatural, .inr ⟨not_lt.mpr hdust, .inl ⟨hpos,
        delivery, hdelivery, hheld, ⟨hpays.deposits _ _ _ _, hfeasible⟩, _, hrest, _, hafter, _,
        i128?_of_in hdelegatedAfter, hclean, rfl⟩⟩⟩⟩
    · exact ⟨_, rebalanceFromBlend_eq_ok.mpr ⟨_, hnatural, .inr ⟨not_lt.mpr hdust, .inr
        ⟨not_lt.mpr hzero, hempty, rfl⟩⟩⟩⟩

/-- A healthy Blend and a pool that reports leave the decision to the policy. -/
theorem executeRebalance_ok_iff {state : DelegateState} (hpays : PaysPosition env s.world.venue)
    (hstate : env.queryDelegateState s.world.venue = some state) {t : Session} :
    executeRebalance env s = .ok ((), t) ↔
      rebalanceOn env s.world.storage s.world.timestamp (usdcSide s.world.storage state) s =
        .ok ((), t) := by
  obtain ⟨status, hstatus, hhealthy⟩ := hpays.healthy
  rw [executeRebalance_eq_ok]
  constructor
  · rintro ⟨status', hstatus', ⟨hfrozen, -⟩ | ⟨-, state', hstate', hon⟩⟩
    · obtain rfl := Option.some.inj (hstatus.symm.trans hstatus')
      exact absurd hfrozen (not_lt.mpr hhealthy)
    · obtain rfl := Option.some.inj (hstate.symm.trans hstate')
      exact hon
  · intro hon
    exact ⟨status, hstatus, .inr ⟨not_lt.mpr hhealthy, state, hstate, hon⟩⟩

/-- The policy on an under-liquid snapshot: too little in the pool, on cooldown,
or a pull. -/
theorem rebalanceOn_underLiquid {st : Storage} {side : Side} (h : UnderLiquid st side)
    (hg : gauge st now side.liquid side.total = .ok g)
    (hbounds : side.liquid < g.lower ∧ g.lower ≤ g.upper) :
    (∃ t, rebalanceOn env st now side s = .ok ((), t)) ↔
      side.total < st.minTotalUsdc ∨
        (g.cooldownActive = true ∧ ¬ g.isCritical = true) ∨
        ∃ t, rebalanceFromBlend env st now g side.liquid (side.total - side.liquid) s =
          .ok ((), t) := by
  have hvalid : ¬ (side.liquid < 0 ∨ side.total ≤ 0) := by
    rintro (hneg | hnone)
    · exact absurd h.liquid_nonneg (not_le.mpr hneg)
    · exact absurd h.total_pos (not_lt.mpr hnone)
  have hdelegated : i128? (side.total - side.liquid) = some (side.total - side.liquid) :=
    i128?_of_in (inI128_of_nonneg (Int.sub_nonneg_of_le h.liquid_le)
      ((Int.sub_le_self _ h.liquid_nonneg).trans h.total_fits))
  have hnotOver : ¬ g.upper < side.liquid := not_lt.mpr (hbounds.1.le.trans hbounds.2)
  constructor
  · rintro ⟨t, ht⟩
    obtain ⟨hsmall, -⟩ | ⟨-, -, g', hg', ⟨hwait, -⟩ | ⟨-, _, hd, hmove⟩⟩ := rebalanceOn_eq_ok.mp ht
    · exact .inl hsmall
    · obtain rfl := Except.ok.inj (hg.symm.trans hg')
      exact .inr (.inl hwait)
    · obtain rfl := Except.ok.inj (hg.symm.trans hg')
      obtain rfl := Option.some.inj (hdelegated.symm.trans hd)
      obtain ⟨hover, -⟩ | ⟨-, ⟨-, hpull⟩ | ⟨hnot, -⟩⟩ := hmove
      · exact absurd hover hnotOver
      · exact .inr (.inr ⟨t, hpull⟩)
      · exact absurd hbounds.1 hnot
  · intro hor
    rcases Decidable.em (side.total < st.minTotalUsdc) with hsmall | hsmall
    · exact ⟨s, rebalanceOn_eq_ok.mpr (.inl ⟨hsmall, rfl⟩)⟩
    rcases Decidable.em (g.cooldownActive = true ∧ ¬ g.isCritical = true) with hwait | hwait
    · exact ⟨s, rebalanceOn_eq_ok.mpr (.inr ⟨hsmall, hvalid, g, hg, .inl ⟨hwait, rfl⟩⟩)⟩
    obtain ⟨t, hpull⟩ := (hor.resolve_left hsmall).resolve_left hwait
    exact ⟨t, rebalanceOn_eq_ok.mpr (.inr ⟨hsmall, hvalid, g, hg, .inr ⟨hwait, _, hdelegated,
      .inr ⟨hnotOver, .inl ⟨hbounds.1, hpull⟩⟩⟩⟩)⟩

end

/-! ## Reachable states -/

/-- In a reachable state, on an under-liquid snapshot and against a Blend position
that may have been written down: the rebalance does not fail exactly when it has
nothing to do or the amount it would pull is within the position. -/
theorem writeDown_survived_iff (P : Shared) {w₀ : World} (h₀ : Deployed w₀) (as : List Action)
    {env : Env} {state : DelegateState} :
    let w := Runs.run (step P) w₀ as
    let st := w.storage
    let side := usdcSide st state
    let target := targetOf st side.total
    let p := w.venue.blend.position
    PaysPosition env w.venue → w.handlerUsdc = 0 →
      env.queryDelegateState w.venue = some state → UnderLiquid st side →
      ((∃ t, executeRebalance env (.start w) = .ok ((), t)) ↔
        side.total < st.minTotalUsdc ∨
        (cooldownActive st w.timestamp = true ∧
          ¬ isCritical st (ratioOf side) side.liquid target = true) ∨
        min (target - side.liquid) st.principalSupplied < st.minRebalanceAmount ∨
        target - side.liquid ≤ p ∨ st.principalSupplied ≤ p ∨
        0 < st.maxRebalanceAmount ∧ st.maxRebalanceAmount ≤ p) := by
  intro w st side target p hpays hempty hstate hunder
  have hg := gauge_of_underLiquid hunder w.timestamp
  have hband := hunder.band_nonneg
  have htarget : target ≤ i128Max := hunder.target_le.trans (by decide)
  have hliquid := hunder.liquid_nonneg
  have hbelow : side.liquid < target - bandOf st side.total := hunder.below
  have hunderTarget : side.liquid ≤ target := by omega
  have hwindow : target - bandOf st side.total ≤ target + bandOf st side.total := by omega
  have hon : (∃ t, executeRebalance env (.start w) = .ok ((), t)) ↔
      ∃ t, rebalanceOn env st w.timestamp side (.start w) = .ok ((), t) :=
    exists_congr fun t => executeRebalance_ok_iff (s := .start w) hpays hstate
  have hpull : (∃ t, rebalanceFromBlend env st w.timestamp (gaugeOf st w.timestamp side) side.liquid
      (side.total - side.liquid) (.start w) = .ok ((), t)) ↔
      min (target - side.liquid) st.principalSupplied < st.minRebalanceAmount ∨
        capped st.maxRebalanceAmount (min (target - side.liquid) st.principalSupplied) ≤ p :=
    rebalanceFromBlend_survives (s := .start w) hpays hempty (principalFits_run h₀ as)
      (principal_le_delegated h₀ as) ⟨hliquid, hunderTarget, htarget⟩
      ⟨Int.sub_nonneg_of_le hunder.liquid_le,
        (Int.sub_le_self _ hliquid).trans hunder.total_fits⟩
  rw [hon, rebalanceOn_underLiquid hunder hg ⟨hbelow, hwindow⟩, hpull,
    capped_le_iff, min_le_iff, or_assoc]
  exact Iff.rfl

/-! ## Two losses -/

theorem paysPosition_honest {v : Venue} (hnonneg : 0 ≤ v.blend.position)
    (hheld : v.blend.position ≤ v.blend.held) : PaysPosition .honest v where
  healthy := ⟨1, rfl, by decide⟩
  nonneg := hnonneg
  held := hheld
  within x hx hle := by
    refine ⟨_, dif_pos hx, ?_⟩
    show min x (max v.blend.position 0) = x
    rw [max_eq_left hnonneg]
    exact min_eq_left hle
  beyond x delivery hlt h := by
    have hx : 0 ≤ x := hnonneg.trans hlt.le
    obtain rfl := Option.some.inj ((dif_pos hx).symm.trans h)
    show min x (max v.blend.position 0) = v.blend.position
    rw [max_eq_left hnonneg]
    exact min_eq_right hlt.le
  deposits _ _ _ _ := rfl

/-- 600 supplied, some of it lost, and the pool traded down to 50 of 650. -/
def afterLoss (debt : Nat) : World :=
  Runs.run (step .sample) sampleWorld
    [.invoke .honest (.manualToBlend 600), .writeDown debt, .trade 50 5000]

/-- What the pool then reports. -/
def reportAfterLoss : DelegateState := ⟨50, 5000, 600, 0, 650, 5000⟩

theorem underLiquid_afterLoss :
    UnderLiquid sampleStorage (usdcSide sampleStorage reportAfterLoss) where
  liquid_nonneg := by decide
  liquid_le := by decide
  below := by decide
  total_fits := by decide
  target_fits := by decide
  band_fits := by decide
  ratio_fits := by decide

/-- With 300 left, the 275 that are wanted come. -/
theorem writeDown_survived_sample :
    ∃ t, executeRebalance .honest (.start (afterLoss 300)) = .ok ((), t) :=
  (writeDown_survived_iff .sample sampleWorld_deployed
    [.invoke .honest (.manualToBlend 600), .writeDown 300, .trade 50 5000]
    (paysPosition_honest (by decide) (by decide)) rfl rfl { underLiquid_afterLoss with }).mpr
      (by decide)

/-- With 100 left, the rebalance fails. -/
theorem writeDown_bricks :
    ¬ ∀ (P : Shared) (w₀ : World) (as : List Action) (env : Env) (state : DelegateState),
        Deployed w₀ → PaysPosition env (Runs.run (step P) w₀ as).venue →
        (Runs.run (step P) w₀ as).handlerUsdc = 0 →
        env.queryDelegateState (Runs.run (step P) w₀ as).venue = some state →
        UnderLiquid (Runs.run (step P) w₀ as).storage
          (usdcSide (Runs.run (step P) w₀ as).storage state) →
        ∃ t, executeRebalance env (.start (Runs.run (step P) w₀ as)) = .ok ((), t) := by
  intro hclaim
  obtain ⟨t, ht⟩ := hclaim .sample sampleWorld
    [.invoke .honest (.manualToBlend 600), .writeDown 500, .trade 50 5000] .honest reportAfterLoss
    sampleWorld_deployed (paysPosition_honest (by decide) (by decide)) rfl rfl
    { underLiquid_afterLoss with }
  have hfails : executeRebalance .honest (.start (afterLoss 500)) =
      .error (.insufficient (.depositFromDelegate 30 1 275)) := rfl
  rw [afterLoss, ht] at hfails
  cases hfails

end BlendPool.Handler
