/-
# `BlendPool.Handler.Bypass` — what becomes of a critical bypass

A pool whose liquid share has fallen below the critical floor is rebalanced on
cooldown too.  Where the floor is below the routine window, as its setter sees to,
and the pool is not tiny, such a snapshot is under the window, whatever the three
floor divisions round away: the call gets to the pulling branch.  There it may find
nothing to pull, and announces that — unless the dust floor ends the call first.
-/
import BlendPool.Handler.Arithmetic

namespace BlendPool.Handler

open Bounded

/-! ## Under the window -/

section

variable {st : Storage} {now : Nat} {side : Side}

/-- In basis points the floor is a whole point below the window, and a point of the
total is what the floor divisions can lose. -/
theorem Critical.below (h : Critical st side)
    (hfloor : st.criticalLiquidFloorBps < lowerBandBps st.targetRatioBps st.rebalanceBandBps)
    (htotal : bpsDen ≤ side.total) :
    side.liquid < targetOf st side.total - bandOf st side.total := by
  have hpos : 0 < side.total := bpsDen_pos.trans_le htotal
  have hshare : side.liquid * bpsDen < st.criticalLiquidFloorBps * side.total :=
    (Int.ediv_lt_iff_lt_mul hpos).mp h.2.1
  have hpoints : (st.criticalLiquidFloorBps : Int) + st.rebalanceBandBps + 1 ≤
      st.targetRatioBps := by
    rw [lowerBandBps] at hfloor
    omega
  have hwindow : st.criticalLiquidFloorBps * side.total + side.total * st.rebalanceBandBps +
      side.total ≤ side.total * st.targetRatioBps := by
    have hmul := Int.mul_le_mul_of_nonneg_left hpoints hpos.le
    rw [Int.mul_add, Int.mul_add, Int.mul_one, Int.mul_comm side.total] at hmul
    exact hmul
  have htarget : side.total * st.targetRatioBps < (targetOf st side.total + 1) * bpsDen :=
    Int.lt_ediv_add_one_mul_self _ bpsDen_pos
  have hband : bandOf st side.total * bpsDen ≤ side.total * st.rebalanceBandBps :=
    Int.ediv_mul_le _ bpsDen_pos.ne'
  unfold bpsDen at *
  omega

theorem executeRebalance_pulls {env : Env} {s : Session} {status : Nat} {state : DelegateState}
    {g : Gauge}
    (hst : 0 < s.world.storage.targetRatioBps ∧ s.world.storage.targetRatioBps < 10000)
    (hstatus : env.status s.world.venue = some status) (hhealthy : status ≤ blendHealthyStatusMax)
    (hstate : env.queryDelegateState s.world.venue = some state)
    (hside : usdcSide s.world.storage state = side)
    (henough : s.world.storage.minTotalUsdc ≤ side.total) (hliquid : 0 ≤ side.liquid)
    (htotal : 0 < side.total)
    (hg : gauge s.world.storage s.world.timestamp side.liquid side.total = .ok g)
    (hcrit : Critical s.world.storage side)
    (hbelow : side.liquid <
      targetOf s.world.storage side.total - bandOf s.world.storage side.total) :
    executeRebalance env s =
      rebalanceFromBlend env s.world.storage s.world.timestamp g side.liquid
        (side.total - side.liquid) s := by
  obtain ⟨hfits, rfl⟩ := (gauge_eq_ok hliquid htotal).mp hg
  have hband := bandOf_nonneg s.world.storage htotal.le
  have htarget := targetOf_le hst.2 htotal.le
  have hshare : (1 : Int) ≤ s.world.storage.targetRatioBps := by
    have hpos := hst.1
    omega
  have hle : side.total ≤ i128Max := (le_mul_of_one_le_right htotal.le hshare).trans hfits.target
  have hv : side.Valid := ⟨hliquid, htotal, by omega, hle⟩
  have hdue : ¬ ((gaugeAt s.world.storage s.world.timestamp side).cooldownActive = true ∧
      ¬ (gaugeAt s.world.storage s.world.timestamp side).isCritical = true) := by
    rw [waits_iff hst.2 hliquid htotal, not_not]
    exact .inr hcrit
  have hnotOver : ¬ (gaugeAt s.world.storage s.world.timestamp side).upper < side.liquid := by
    show ¬ targetOf s.world.storage side.total + bandOf s.world.storage side.total < side.liquid
    omega
  have hunder : side.liquid < (gaugeAt s.world.storage s.world.timestamp side).lower := hbelow
  rw [executeRebalance_of_snapshot hstatus hhealthy hstate, hside,
    rebalanceOn_of_fits henough hv hfits, if_neg hdue, if_neg hnotOver, if_pos hunder]

end

theorem rebalanceFromBlend_moves {env : Env} {st : Storage} {now : Nat} {g : Gauge}
    {liquid delegated : Int} {w : World} {t : Session}
    (h : rebalanceFromBlend env st now g liquid delegated (.start w) = .ok ((), t))
    (amount : Int) : moveOf t.calls ≠ .toBlend amount := by
  obtain ⟨natural, -, ⟨-, rfl⟩ | ⟨-, ⟨-, delivery, -, -, -, _, -, _, -, _, -, -, rfl⟩ |
    ⟨-, -, rfl⟩⟩⟩ := rebalanceFromBlend_eq_ok.mp h
  · exact Decision.noConfusion
  · exact Decision.noConfusion
  · exact Decision.noConfusion

/-- A bypass is always a pull: with the floor below the window and a pool of at least
ten thousand units, a critical snapshot is under the window, so the call is its pulling
branch, whether or not the cooldown is active, and supplies nothing to Blend. -/
theorem critical_bypass_pulls (env : Env) {w : World} {status : Nat} {state : DelegateState}
    {g : Gauge} (htarget : 0 < w.storage.targetRatioBps ∧ w.storage.targetRatioBps < 10000)
    (hfloor : w.storage.criticalLiquidFloorBps <
      lowerBandBps w.storage.targetRatioBps w.storage.rebalanceBandBps)
    (hstate : env.queryDelegateState w.venue = some state) :
    let st := w.storage
    let side := usdcSide st state
    bpsDen ≤ side.total → 0 ≤ side.liquid →
    gauge st w.timestamp side.liquid side.total = .ok g → g.isCritical = true →
    side.liquid < side.total * st.targetRatioBps / bpsDen -
        side.total * st.rebalanceBandBps / bpsDen ∧
      (env.status w.venue = some status → status ≤ blendHealthyStatusMax →
        st.minTotalUsdc ≤ side.total →
        executeRebalance env (.start w) =
            rebalanceFromBlend env st w.timestamp g side.liquid (side.total - side.liquid)
              (.start w) ∧
          ∀ t amount, executeRebalance env (.start w) = .ok ((), t) →
            moveOf t.calls ≠ .toBlend amount) := by
  intro st side htotal hliquid hg hcritical
  have hpos : 0 < side.total := bpsDen_pos.trans_le htotal
  have hcrit : Critical st side := by
    obtain ⟨-, rfl⟩ := (gauge_eq_ok hliquid hpos).mp hg
    exact (isCritical_iff htarget.2 hliquid hpos).mp hcritical
  have hbelow := hcrit.below hfloor htotal
  refine ⟨hbelow, ?_⟩
  intro hstatus hhealthy henough
  have hpulls : executeRebalance env (.start w) =
      rebalanceFromBlend env st w.timestamp g side.liquid (side.total - side.liquid) (.start w) :=
    executeRebalance_pulls (s := .start w) htarget hstatus hhealthy hstate rfl henough hliquid hpos
      hg hcrit hbelow
  refine ⟨hpulls, ?_⟩
  intro t amount ht
  rw [hpulls] at ht
  exact rebalanceFromBlend_moves ht amount

/-- The sample deployment on cooldown, with a tenth of 10000 liquid. -/
def lowWorld : World :=
  { sampleWorld with
    storage := { sampleStorage with principalSupplied := 9000, lastRebalanceTs := 990 }
    venue := ⟨⟨1000, 9000, 5000⟩, ⟨9000, 9000⟩⟩ }

theorem critical_bypass_pulls_low :
    (∃ t, executeRebalance .honest (.start lowWorld) = .ok ((), t) ∧
      moveOf t.calls = .fromBlend 4000) ∧
    ∀ t amount, executeRebalance .honest (.start lowWorld) = .ok ((), t) →
      moveOf t.calls ≠ .toBlend amount := by
  refine ⟨⟨_, rfl, by decide⟩, ?_⟩
  obtain ⟨-, hpulls⟩ := @critical_bypass_pulls .honest lowWorld 1 _ _ ⟨by decide,
    by decide⟩ (by decide) rfl (by decide) (by decide) rfl (by decide)
  exact (hpulls rfl (by decide) (by decide)).2

/-! ## A bypass with nothing to pull -/

def Event.isUnavailable : Event → Bool
  | .criticalBypassUnavailable _ _ _ _ => true
  | _ => false

/-- There the amount to pull is zero, and the dust floor decides what becomes of it. -/
theorem rebalanceFromBlend_nothing {env : Env} {st : Storage} {now : Nat} {g : Gauge}
    {liquid delegated : Int} {s t : Session} (hp : st.principalSupplied = 0)
    (hunder : liquid < g.targetLiquid) (hbypass : g.Bypass)
    (h : rebalanceFromBlend env st now g liquid delegated s = .ok ((), t)) :
    0 < st.minRebalanceAmount ∧ t = s ∨
      st.minRebalanceAmount ≤ 0 ∧ t = s.emit (criticalUnavailableEvent st g) := by
  obtain ⟨natural, hnatural, hcases⟩ := rebalanceFromBlend_eq_ok.mp h
  obtain rfl := (i128?_eq_some.mp hnatural).2
  have hbounded : min (g.targetLiquid - liquid) st.principalSupplied = 0 := by omega
  have hcap : capped st.maxRebalanceAmount 0 ≤ 0 := capped_le _ _
  rw [hbounded] at hcases
  obtain ⟨hdust, rfl⟩ | ⟨hdust, ⟨hpos, -⟩ | ⟨-, -, rfl⟩⟩ := hcases
  · exact .inl ⟨hdust, rfl⟩
  · exact absurd hcap (not_le.mpr hpos)
  · refine .inr ⟨not_lt.mp hdust, ?_⟩
    rw [Session.emitIf, if_pos hbypass, Session.emit]

/-- A bypass that finds nothing to pull changes nothing, and is announced exactly when
there is no dust floor: a zero amount is dust under every other. -/
theorem unavailable_announced_iff (env : Env) {w : World} {t : Session} {status : Nat}
    {state : DelegateState} (hst : InRange w.storage) (hstatus : env.status w.venue = some status)
    (hhealthy : status ≤ blendHealthyStatusMax)
    (hstate : env.queryDelegateState w.venue = some state)
    (h : executeRebalance env (.start w) = .ok ((), t)) :
    let st := w.storage
    let side := usdcSide st state
    st.minTotalUsdc ≤ side.total → 0 ≤ side.liquid → 0 < side.total →
    ¬ CooldownElapsed st w.timestamp → Critical st side →
    side.liquid < targetOf st side.total - bandOf st side.total → st.principalSupplied = 0 →
    ((t.events.filter Event.isUnavailable).length = 1 ∧ t.world = w ↔
        st.minRebalanceAmount = 0) ∧
      (st.minRebalanceAmount = 0 → t.events =
        [.criticalBypassUnavailable (ratioOf side) st.criticalLiquidFloorBps 0 "no_princ"]) := by
  intro st side henough hliquid htotal hactive hcrit hbelow hprincipal
  have hrun : executeRebalance env (.start w) = rebalanceOn env st w.timestamp side (.start w) :=
    executeRebalance_of_snapshot (s := .start w) hstatus hhealthy hstate
  have hsigns : ¬ (side.liquid < 0 ∨ side.total ≤ 0) := by omega
  cases hg : gauge st w.timestamp side.liquid side.total with
  | error e =>
      rw [hrun, rebalanceOn_of_gauge_error henough hsigns hg] at h
      cases h
  | ok g =>
      rw [executeRebalance_pulls (s := .start w) hst.target hstatus hhealthy hstate rfl henough
        hliquid htotal hg hcrit hbelow] at h
      obtain ⟨-, rfl⟩ := (gauge_eq_ok hliquid htotal).mp hg
      have hbypass : (gaugeAt st w.timestamp side).Bypass :=
        ⟨(isCritical_iff hst.target.2 hliquid htotal).mpr hcrit, cooldownActive_iff.mpr hactive⟩
      have hmin := hst.minAmount
      obtain ⟨hdust, rfl⟩ | ⟨hnone, rfl⟩ :=
        rebalanceFromBlend_nothing hprincipal hcrit.2.2 hbypass h
      · have hne : st.minRebalanceAmount ≠ 0 := hdust.ne'
        refine ⟨⟨?_, fun hzero => absurd hzero hne⟩, fun hzero => absurd hzero hne⟩
        rintro ⟨hcount, -⟩
        exact absurd hcount Nat.zero_ne_one
      · have hzero : st.minRebalanceAmount = 0 := le_antisymm hnone hmin
        refine ⟨iff_of_true ⟨rfl, rfl⟩ hzero, fun _ => ?_⟩
        have hle : side.liquid ≤ side.total :=
          hcrit.2.2.le.trans (targetOf_le hst.target.2 htotal.le)
        show [criticalUnavailableEvent st (gaugeAt st w.timestamp side)] = _
        rw [criticalUnavailableEvent, gaugeAt, ratio_cast hliquid hle htotal, hprincipal]

/-- Nine tenths of the sample pool are supplied and written off, the loss is booked,
and the cooldown is made longer than the ledger is old. -/
def lossRun (minFloor : Int) : List Action :=
  [.invoke .honest (.manualToBlend 900), .writeDown 900, .invoke .honest .emergencyUnwind,
    .invoke .honest (.setMinRebalanceAmount minFloor),
    .invoke .honest (.setRebalanceCooldownSecs 5000)]

def lossWorld (minFloor : Int) : World := Runs.run (step .sample) sampleWorld (lossRun minFloor)

/-- Without a dust floor the operator is told. -/
theorem unavailable_announced_sample :
    ∃ t, executeRebalance .honest (.start (lossWorld 0)) = .ok ((), t) ∧
      t.events = [.criticalBypassUnavailable 1000 2000 0 "no_princ"] := by
  obtain ⟨t, ht⟩ : ∃ t, executeRebalance .honest (.start (lossWorld 0)) = .ok ((), t) := ⟨_, rfl⟩
  have hrange : InRange (lossWorld 0).storage :=
    inRange_run .sample sampleWorld_deployed (lossRun 0)
  obtain ⟨-, hevent⟩ := @unavailable_announced_iff .honest _ _ 1 _ hrange rfl (by decide) rfl
    ht (by decide) (by decide) (by decide) (by decide) (by decide) (by decide) rfl
  exact ⟨t, ht, hevent rfl⟩

/-- With a floor of one unit the same bypass ends in silence. -/
theorem bypass_unannounced :
    ∃ w₀ as state t, Deployed w₀ ∧
      let w := Runs.run (step .sample) w₀ as
      let side := usdcSide w.storage state
      Env.honest.status w.venue = some 1 ∧ Env.honest.queryDelegateState w.venue = some state ∧
        w.storage.minTotalUsdc ≤ side.total ∧ 0 ≤ side.liquid ∧ 0 < side.total ∧
        executeRebalance .honest (.start w) = .ok ((), t) ∧
        ¬ CooldownElapsed w.storage w.timestamp ∧ Critical w.storage side ∧
        side.liquid < targetOf w.storage side.total - bandOf w.storage side.total ∧
        w.storage.principalSupplied = 0 ∧ (t.events.filter Event.isUnavailable).length ≠ 1 := by
  refine ⟨sampleWorld, lossRun 1, ⟨100, 5000, 900, 0, 1000, 5000⟩, .start (lossWorld 1),
    sampleWorld_deployed, rfl, rfl, by decide, by decide, by decide, rfl, by decide, by decide,
    by decide, rfl, by decide⟩

end BlendPool.Handler
