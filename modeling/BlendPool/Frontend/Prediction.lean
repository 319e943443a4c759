/-
# `BlendPool.Frontend.Prediction` — the predicted next rebalance

The dashboard reads the pool and the handler and shows what `execute_rebalance`
would do now.  It computes the decision again, in integers without bounds: the
gates and the amounts are those of the contract, the edges of the band are not.
The contract rounds the target down and the width of the band down, and adds; the
dashboard adds the two ratios and rounds once.  So its band can reach one unit
further on either side, and a balance on that unit is shown as inside while the
contract moves it.

Nor does the dashboard know whether the calls of a move would be taken.  A move that
fails moves nothing, whatever was shown.

`forecast` is the decision the dashboard shows.  Where a move is due it is what the
contract then does exactly if the balance is off such a unit and the move goes
through, or on it and the move fails (`prediction_agrees_iff`).
-/
import BlendPool.Frontend.Amounts
import BlendPool.Handler.Cooldown

namespace BlendPool.Frontend

open Bounded Handler

/-! ## What the dashboard reads -/

/-- What `predictAction` looks at in the handler's `query_state`. -/
structure HandlerState where
  paused : Bool
  targetRatioBps : Nat
  rebalanceBandBps : Nat
  minTotalUsdc : Int
  maxRebalanceAmount : Int
  minRebalanceAmount : Int
  principalSupplied : Int

def queryState (st : Storage) : HandlerState where
  paused := st.paused
  targetRatioBps := st.targetRatioBps
  rebalanceBandBps := st.rebalanceBandBps
  minTotalUsdc := st.minTotalUsdc
  maxRebalanceAmount := st.maxRebalanceAmount
  minRebalanceAmount := st.minRebalanceAmount
  principalSupplied := st.principalSupplied

/-- `latestPoolState`, as far as the amounts go. -/
structure PoolState where
  liqA : Int
  liqB : Int
  delA : Int
  delB : Int
  totA : Int
  totB : Int
  aIsUsdc : Bool

/-- The snapshot `renderPoolPanel` takes; `aAddr` is the address of the pool's asset A. -/
def poolState (usdcId aAddr : Address) (delegateState : DelegateState) : PoolState where
  liqA := delegateState.liquidA
  liqB := delegateState.liquidB
  delA := delegateState.delegatedA
  delB := delegateState.delegatedB
  totA := delegateState.totalA
  totB := delegateState.totalB
  aIsUsdc := aAddr = usdcId

/-! ## The prediction -/

def bps : Int := 10000

inductive ActionClass where
  | paused
  | unhealthy
  | belowFloor
  | noop
  | toBlend
  | fromBlend
  deriving DecidableEq

structure Prediction where
  cls : ActionClass
  label : String
  reason : String

/-- The part of `predictAction` after the two blocking gates.  The division of two
integers drops the fraction. -/
def predictRebalance (pool : PoolState) (h : HandlerState) : Prediction :=
  let liq := if pool.aIsUsdc then pool.liqA else pool.liqB
  let del := if pool.aIsUsdc then pool.delA else pool.delB
  let tot := liq + del
  let floor := h.minTotalUsdc
  if tot < floor then
    { cls := .belowFloor, label := "no-op (below floor)"
      reason := "total " ++ fmtAmt (some tot) ++ " USDC < floor " ++ fmtAmt (some floor) ++
        " USDC" }
  else
    let tgtBps : Int := h.targetRatioBps
    let bandBps : Int := h.rebalanceBandBps
    let targetLiq := (tot * tgtBps).tdiv bps
    let upper := (tot * (tgtBps + bandBps)).tdiv bps
    let lower := if bandBps < tgtBps then (tot * (tgtBps - bandBps)).tdiv bps else 0
    let maxCap := h.maxRebalanceAmount
    let minFloor := h.minRebalanceAmount
    let clamp := fun amount : Int => if 0 < maxCap ∧ maxCap < amount then maxCap else amount
    if upper < liq then
      let natural := liq - targetLiq
      if natural < minFloor then
        { cls := .noop, label := "no-op (dust)"
          reason := "natural ToBlend " ++ fmtAmt (some natural) ++ " < min_rebalance " ++
            fmtAmt (some minFloor) }
      else
        let amount := clamp natural
        { cls := .toBlend, label := "ToBlend " ++ fmtAmt (some amount) ++ " USDC"
          reason := "liquid " ++ fmtAmt (some liq) ++ " > upper band " ++ fmtAmt (some upper) ++
            "; clamp=" ++ if maxCap = 0 then "—" else fmtAmt (some maxCap) }
    else if liq < lower then
      let natural := targetLiq - liq
      let principal := h.principalSupplied
      let bounded := if principal < natural then principal else natural
      if bounded = 0 then
        { cls := .noop, label := "no-op (no principal)"
          reason := "would top up by " ++ fmtAmt (some natural) ++
            " but principal_supplied = 0" }
      else if bounded < minFloor then
        { cls := .noop, label := "no-op (dust)"
          reason := "bounded FromBlend " ++ fmtAmt (some bounded) ++ " < min_rebalance " ++
            fmtAmt (some minFloor) }
      else
        let amount := clamp bounded
        { cls := .fromBlend, label := "FromBlend " ++ fmtAmt (some amount) ++ " USDC"
          reason := "liquid " ++ fmtAmt (some liq) ++ " < lower band " ++ fmtAmt (some lower) ++
            "; principal cap=" ++ fmtAmt (some principal) }
    else
      { cls := .noop, label := "no-op (within band)"
        reason := "liquid " ++ fmtAmt (some liq) ++ " ∈ [" ++ fmtAmt (some lower) ++ ", " ++
          fmtAmt (some upper) ++ "]" }

/-- A status that could not be read is `none`, and blocks nothing. -/
def predictAction (pool : PoolState) (h : HandlerState) (blendStatus : Option Nat) : Prediction :=
  if h.paused = true then
    { cls := .paused, label := "blocked (paused)"
      reason := "handler is paused — verify_xlm reverts with LocalError::Paused (600)" }
  else match blendStatus with
    | some status =>
        if 3 < status then
          { cls := .unhealthy, label := "blocked (Blend unhealthy)"
            reason := "Blend pool status " ++ toString status ++
              " > 3 (Frozen/Setup) — handler refuses Supply/Withdraw" }
        else predictRebalance pool h
    | none => predictRebalance pool h

/-- What the line on the dashboard says the handler would do. -/
def Prediction.Says (p : Prediction) : Decision → Prop
  | .hold => p.cls ≠ .toBlend ∧ p.cls ≠ .fromBlend
  | .toBlend amount => p.cls = .toBlend ∧ p.label = "ToBlend " ++ fmtAmt (some amount) ++ " USDC"
  | .fromBlend amount =>
      p.cls = .fromBlend ∧ p.label = "FromBlend " ++ fmtAmt (some amount) ++ " USDC"

theorem label_inj {front back : String} {a b : Int} (ha : 0 ≤ a)
    (h : front ++ fmtAmt (some a) ++ back = front ++ fmtAmt (some b) ++ back) : a = b := by
  have hlist := congrArg String.toList h
  simp only [String.toList_append] at hlist
  have hamount := List.append_cancel_left (List.append_cancel_right hlist)
  exact fmtAmt_inj ha (String.toList_inj.mp hamount)

theorem says_hold {p : Prediction} {d : Decision} (hto : p.cls ≠ .toBlend)
    (hfrom : p.cls ≠ .fromBlend) : p.Says d ↔ d = .hold := by
  cases d with
  | hold => exact iff_of_true ⟨hto, hfrom⟩ rfl
  | toBlend amount => exact iff_of_false (fun h => hto h.1) (by simp)
  | fromBlend amount => exact iff_of_false (fun h => hfrom h.1) (by simp)

theorem says_toBlend {p : Prediction} {d : Decision} {n : Int} (hn : 0 ≤ n)
    (hcls : p.cls = .toBlend) (hlabel : p.label = "ToBlend " ++ fmtAmt (some n) ++ " USDC") :
    p.Says d ↔ d = .toBlend n := by
  cases d with
  | hold => exact iff_of_false (fun h => h.1 hcls) (by simp)
  | toBlend amount =>
      constructor
      · rintro ⟨-, h⟩
        rw [label_inj hn (hlabel.symm.trans h)]
      · rintro ⟨⟩
        exact ⟨hcls, hlabel⟩
  | fromBlend amount => exact iff_of_false (fun h => by simp [Prediction.Says, hcls] at h) (by simp)

theorem says_fromBlend {p : Prediction} {d : Decision} {n : Int} (hn : 0 ≤ n)
    (hcls : p.cls = .fromBlend) (hlabel : p.label = "FromBlend " ++ fmtAmt (some n) ++ " USDC") :
    p.Says d ↔ d = .fromBlend n := by
  cases d with
  | hold => exact iff_of_false (fun h => h.2 hcls) (by simp)
  | toBlend amount => exact iff_of_false (fun h => by simp [Prediction.Says, hcls] at h) (by simp)
  | fromBlend amount =>
      constructor
      · rintro ⟨-, h⟩
        rw [label_inj hn (hlabel.symm.trans h)]
      · rintro ⟨⟩
        exact ⟨hcls, hlabel⟩

/-! ## The decision shown -/

/-- The edges of the band with the two ratios added before rounding. -/
def upperEdge (st : Storage) (total : Int) : Int :=
  total * (st.targetRatioBps + st.rebalanceBandBps) / bpsDen

def lowerEdge (st : Storage) (total : Int) : Int :=
  if st.rebalanceBandBps < st.targetRatioBps then
    total * (st.targetRatioBps - st.rebalanceBandBps) / bpsDen
  else 0

/-- `correction`, for a band with the edges `upper` and `lower`. -/
def correctionBetween (minFloor target upper lower liquid principal : Int) : Decision :=
  if upper < liquid then
    if minFloor ≤ liquid - target then .toBlend (liquid - target) else .hold
  else if liquid < lower then
    if max 1 minFloor ≤ min (target - liquid) principal then
      .fromBlend (min (target - liquid) principal)
    else .hold
  else .hold

theorem correction_eq_between (minFloor target band liquid principal : Int) :
    correction minFloor target band liquid principal =
      correctionBetween minFloor target (target + band) (target - band) liquid principal := rfl

/-- The decision the dashboard shows. -/
def forecast (st : Storage) (status : Nat) (side : Side) : Decision :=
  if status ≤ blendHealthyStatusMax ∧ st.minTotalUsdc ≤ side.total then
    (correctionBetween st.minRebalanceAmount (targetOf st side.total) (upperEdge st side.total)
      (lowerEdge st side.total) side.liquid st.principalSupplied).limit st.maxRebalanceAmount
  else .hold

section

variable {st : Storage} {side : Side}

/-- Rounding once keeps what the two fractions add up to. -/
theorem upperEdge_eq (st : Storage) (total : Int) :
    upperEdge st total = targetOf st total + bandOf st total +
      if bpsDen ≤ total * st.targetRatioBps % bpsDen + total * st.rebalanceBandBps % bpsDen then 1
      else 0 := by
  rw [upperEdge, targetOf, bandOf, Int.mul_add]
  generalize total * (st.targetRatioBps : Int) = x
  generalize total * (st.rebalanceBandBps : Int) = y
  unfold bpsDen
  split
  · omega
  · omega

/-- And loses one more where the fraction taken away is the larger. -/
theorem lowerEdge_eq {st : Storage} {total : Int} (h : st.rebalanceBandBps < st.targetRatioBps) :
    lowerEdge st total = targetOf st total - bandOf st total -
      if total * st.targetRatioBps % bpsDen < total * st.rebalanceBandBps % bpsDen then 1
      else 0 := by
  rw [lowerEdge, if_pos h, targetOf, bandOf, Int.mul_sub]
  generalize total * (st.targetRatioBps : Int) = x
  generalize total * (st.rebalanceBandBps : Int) = y
  unfold bpsDen
  split
  · omega
  · omega

theorem lowerEdge_of_le {st : Storage} {total : Int} (h : st.targetRatioBps ≤ st.rebalanceBandBps)
    (htotal : 0 ≤ total) :
    lowerEdge st total = 0 ∧ targetOf st total - bandOf st total ≤ 0 := by
  refine ⟨if_neg (Nat.not_lt.mpr h), Int.sub_nonpos_of_le ?_⟩
  refine Int.ediv_le_ediv bpsDen_pos ?_
  exact Int.mul_le_mul_of_nonneg_left (Int.ofNat_le.mpr h) htotal

theorem le_upperEdge (st : Storage) (total : Int) :
    targetOf st total + bandOf st total ≤ upperEdge st total := by
  rw [upperEdge_eq]
  split
  · omega
  · omega

theorem lowerEdge_le (st : Storage) {total : Int} (htotal : 0 ≤ total) :
    lowerEdge st total ≤ max 0 (targetOf st total - bandOf st total) := by
  by_cases hwide : st.rebalanceBandBps < st.targetRatioBps
  · rw [lowerEdge_eq hwide]
    split
    · omega
    · omega
  · rw [(lowerEdge_of_le (Nat.not_lt.mp hwide) htotal).1]
    exact le_max_left _ _

/-- What the dashboard divides is not negative, so it divides as the contract does. -/
theorem tdiv_target (st : Storage) {total : Int} (h : 0 ≤ total) :
    (total * (st.targetRatioBps : Int)).tdiv bps = targetOf st total :=
  Int.tdiv_eq_ediv_of_nonneg (Int.mul_nonneg h (Int.natCast_nonneg _))

theorem tdiv_upper (st : Storage) {total : Int} (h : 0 ≤ total) :
    (total * ((st.targetRatioBps : Int) + st.rebalanceBandBps)).tdiv bps = upperEdge st total :=
  Int.tdiv_eq_ediv_of_nonneg (Int.mul_nonneg h (by omega))

theorem tdiv_lower (st : Storage) {total : Int} (h : 0 ≤ total) :
    (if (st.rebalanceBandBps : Int) < st.targetRatioBps then
      (total * ((st.targetRatioBps : Int) - st.rebalanceBandBps)).tdiv bps else 0) =
      lowerEdge st total := by
  rw [lowerEdge]
  by_cases hwide : st.rebalanceBandBps < st.targetRatioBps
  · rw [if_pos hwide, if_pos (Int.ofNat_lt.mpr hwide)]
    refine Int.tdiv_eq_ediv_of_nonneg (Int.mul_nonneg h ?_)
    omega
  · rw [if_neg hwide, if_neg (fun h => hwide (Int.ofNat_lt.mp h))]

/-- The verdict after the gates is a correction between the dashboard's edges. -/
theorem predictRebalance_shows {pool : PoolState} {d : Decision}
    (hliquid : (if pool.aIsUsdc then pool.liqA else pool.liqB) = side.liquid)
    (hdelegated : (if pool.aIsUsdc then pool.delA else pool.delB) = side.delegated)
    (htotal : side.total = side.liquid + side.delegated) (hpos : 0 ≤ side.total)
    (hprincipal : 0 ≤ st.principalSupplied) :
    (predictRebalance pool (queryState st)).Says d ↔
      d = if st.minTotalUsdc ≤ side.total then
          (correctionBetween st.minRebalanceAmount (targetOf st side.total)
            (upperEdge st side.total) (lowerEdge st side.total) side.liquid
            st.principalSupplied).limit st.maxRebalanceAmount
        else .hold := by
  simp only [predictRebalance, queryState, hliquid, hdelegated, ← htotal, tdiv_target st hpos,
    tdiv_upper st hpos, tdiv_lower st hpos]
  have hmin : (if st.principalSupplied < targetOf st side.total - side.liquid then
      st.principalSupplied else targetOf st side.total - side.liquid) =
      min (targetOf st side.total - side.liquid) st.principalSupplied := by
    rw [min_def]
    split
    · rw [if_neg (by omega)]
    · rw [if_pos (by omega)]
  rw [hmin]
  have hheld : ∀ {cls : ActionClass} {label reason : String}, cls ≠ .toBlend → cls ≠ .fromBlend →
      (Prediction.Says ⟨cls, label, reason⟩ d ↔ d = .hold) := by
    intro cls label reason hto hfrom
    exact says_hold (p := ⟨cls, label, reason⟩) hto hfrom
  by_cases hfloor : side.total < st.minTotalUsdc
  · rw [if_pos hfloor, if_neg (not_le.mpr hfloor)]
    exact hheld nofun nofun
  rw [if_neg hfloor, if_pos (not_lt.mp hfloor), correctionBetween]
  by_cases hover : upperEdge st side.total < side.liquid
  · rw [if_pos hover, if_pos hover]
    have hedge := le_upperEdge st side.total
    have hband := bandOf_nonneg st hpos
    by_cases hdust : side.liquid - targetOf st side.total < st.minRebalanceAmount
    · rw [if_pos hdust, if_neg (not_le.mpr hdust)]
      exact hheld nofun nofun
    · rw [if_neg hdust, if_pos (not_lt.mp hdust)]
      exact says_toBlend (capped_pos (by omega)).le rfl rfl
  rw [if_neg hover, if_neg hover]
  by_cases hunder : side.liquid < lowerEdge st side.total
  · rw [if_pos hunder, if_pos hunder]
    have hnatural : 0 ≤ targetOf st side.total - side.liquid := by
      have hedge := lowerEdge_le st hpos
      have hband := bandOf_nonneg st hpos
      have htarget_nonneg := targetOf_nonneg st hpos
      omega
    have hbounded : 0 ≤ min (targetOf st side.total - side.liquid) st.principalSupplied :=
      le_min hnatural hprincipal
    generalize min (targetOf st side.total - side.liquid) st.principalSupplied = bounded
      at hbounded ⊢
    by_cases hnone : bounded = 0
    · rw [if_pos hnone, if_neg (by omega)]
      exact hheld nofun nofun
    by_cases hdust : bounded < st.minRebalanceAmount
    · rw [if_neg hnone, if_pos hdust, if_neg (by omega)]
      exact hheld nofun nofun
    · have hunit : max 1 st.minRebalanceAmount ≤ bounded := by omega
      rw [if_neg hnone, if_neg hdust, if_pos hunit]
      exact says_fromBlend (capped_pos (Int.one_pos.trans_le (le_of_max_le_left hunit))).le rfl rfl
  · rw [if_neg hunder, if_neg hunder]
    exact hheld nofun nofun

end

/-! ## The prediction and the contract -/

/-- The liquid balance is the first unit outside the band of the contract, on a side
on which the fractions lost to rounding make the dashboard's band reach one
further, and the contract has an amount to move that is not dust. -/
def OnRoundedEdge (st : Storage) (side : Side) : Prop :=
  let lostTarget := side.total * st.targetRatioBps % bpsDen
  let lostBand := side.total * st.rebalanceBandBps % bpsDen
  (side.liquid = targetOf st side.total + bandOf st side.total + 1 ∧
      bpsDen ≤ lostTarget + lostBand ∧ st.minRebalanceAmount ≤ bandOf st side.total + 1) ∨
    (side.liquid = targetOf st side.total - bandOf st side.total - 1 ∧ lostTarget < lostBand ∧
      max 1 st.minRebalanceAmount ≤ min (bandOf st side.total + 1) st.principalSupplied)

section

variable {st : Storage} {status now : Nat} {side : Side}

/-- A wider band holds where it alone has the balance inside and the narrower one finds
something to move, and corrects alike elsewhere. -/
theorem correctionBetween_cases (minFloor principal : Int) {target band upper lower liquid : Int}
    (hliquid : 0 ≤ liquid) (hband : 0 ≤ band) (hupper : target + band ≤ upper)
    (hlower : lower ≤ max 0 (target - band)) :
    let held := target + band < liquid ∧ liquid ≤ upper ∧ minFloor ≤ liquid - target ∨
      lower ≤ liquid ∧ liquid < target - band ∧ max 1 minFloor ≤ min (target - liquid) principal
    (held → correctionBetween minFloor target upper lower liquid principal = .hold) ∧
      (¬ held → correctionBetween minFloor target upper lower liquid principal =
        correction minFloor target band liquid principal) := by
  intro held
  rw [correction_eq_between, correctionBetween, correctionBetween]
  constructor
  · intro hheld
    have hinside : ¬ upper < liquid := by omega
    have hnot : ¬ liquid < lower := by omega
    rw [if_neg hinside, if_neg hnot]
  · intro hfree
    by_cases hover : target + band < liquid
    · rw [if_pos hover]
      by_cases hfar : upper < liquid
      · rw [if_pos hfar]
      · have hnot : ¬ liquid < lower := by omega
        have hdust : ¬ minFloor ≤ liquid - target := by omega
        rw [if_neg hfar, if_neg hnot, if_neg hdust]
    have hinside : ¬ upper < liquid := by omega
    rw [if_neg hover, if_neg hinside]
    by_cases hunder : liquid < target - band
    · rw [if_pos hunder]
      by_cases hfar : liquid < lower
      · rw [if_pos hfar]
      · have hdust : ¬ max 1 minFloor ≤ min (target - liquid) principal := by omega
        rw [if_neg hfar, if_neg hdust]
    · have hnot : ¬ liquid < lower := by omega
      rw [if_neg hunder, if_neg hnot]

/-- With the dashboard's edges, that is one unit. -/
theorem onRoundedEdge_iff (hliquid : 0 ≤ side.liquid) (htotal : 0 ≤ side.total) :
    (targetOf st side.total + bandOf st side.total < side.liquid ∧
        side.liquid ≤ upperEdge st side.total ∧
        st.minRebalanceAmount ≤ side.liquid - targetOf st side.total ∨
      lowerEdge st side.total ≤ side.liquid ∧
        side.liquid < targetOf st side.total - bandOf st side.total ∧
        max 1 st.minRebalanceAmount ≤
          min (targetOf st side.total - side.liquid) st.principalSupplied) ↔
      OnRoundedEdge st side := by
  have hupper := upperEdge_eq st side.total
  rw [OnRoundedEdge]
  refine or_congr ?_ ?_
  · rw [hupper]
    split
    · omega
    · omega
  · by_cases hwide : st.rebalanceBandBps < st.targetRatioBps
    · rw [lowerEdge_eq hwide]
      split
      · omega
      · omega
    · obtain ⟨-, hnone⟩ := lowerEdge_of_le (Nat.not_lt.mp hwide) htotal
      refine iff_of_false ?_ ?_
      · omega
      · omega

/-- The forecast holds on that unit, and is the policy elsewhere. -/
theorem forecast_cases (status : Nat) (hliquid : 0 ≤ side.liquid) (htotal : 0 ≤ side.total)
    (hdue : CooldownElapsed st now) :
    (OnRoundedEdge st side → forecast st status side = .hold) ∧
      (¬ OnRoundedEdge st side → forecast st status side = policy st status now side) := by
  obtain ⟨hheld, hfree⟩ := correctionBetween_cases st.minRebalanceAmount st.principalSupplied
    hliquid (bandOf_nonneg st htotal) (le_upperEdge st side.total) (lowerEdge_le st htotal)
  rw [onRoundedEdge_iff hliquid htotal] at hheld hfree
  rw [forecast, policy]
  by_cases hopen : status ≤ blendHealthyStatusMax ∧ st.minTotalUsdc ≤ side.total
  · rw [if_pos hopen, if_pos ⟨hopen.1, hopen.2, .inl hdue⟩, correctionOf]
    exact ⟨fun hedge => by rw [hheld hedge]; rfl, fun hedge => by rw [hfree hedge]⟩
  · have hgates : ¬ GatesOpen st status now side := fun h => hopen ⟨h.healthy, h.enough⟩
    rw [if_neg hopen, if_neg hgates]
    exact ⟨fun _ => rfl, fun _ => rfl⟩

theorem predictAction_shows {delegateState : DelegateState} {aAddr : Address} {d : Decision}
    (hassets : aAddr = st.usdc ↔ st.usdc < st.xlm) (hside : side = usdcSide st delegateState)
    (htotal : side.total = side.liquid + side.delegated) (hpos : 0 ≤ side.total)
    (hprincipal : 0 ≤ st.principalSupplied) (hpaused : st.paused = false) :
    (predictAction (poolState st.usdc aAddr delegateState) (queryState st) (some status)).Says d ↔
      d = forecast st status side := by
  have hread : (if (poolState st.usdc aAddr delegateState).aIsUsdc then delegateState.liquidA
        else delegateState.liquidB) = side.liquid ∧
      (if (poolState st.usdc aAddr delegateState).aIsUsdc then delegateState.delegatedA
        else delegateState.delegatedB) = side.delegated := by
    subst hside
    by_cases hsorted : st.usdc < st.xlm
    · simp [poolState, usdcSide, hsorted, hassets.mpr hsorted]
    · simp [poolState, usdcSide, hsorted, mt hassets.mp hsorted]
  have hunpaused : ¬ (queryState st).paused = true := Bool.eq_false_iff.mp hpaused
  rw [predictAction, if_neg hunpaused, forecast]
  by_cases hfrozen : 3 < status
  · rw [if_pos hfrozen, if_neg fun h => absurd h.1 (Nat.not_le.mpr hfrozen)]
    exact says_hold nofun nofun
  · rw [if_neg hfrozen, predictRebalance_shows hread.1 hread.2 htotal hpos hprincipal]
    have hhealthy : status ≤ blendHealthyStatusMax := Nat.not_lt.mp hfrozen
    simp only [hhealthy, true_and]

end

/-! ## What the contract moves -/

/-- What a rebalance moves; one that fails moves nothing. -/
def rebalanced (env : Env) (w : World) : Decision :=
  match executeRebalance env (.start w) with
  | .ok ((), t) => moveOf t.calls
  | .error _ => .hold

/-- Neither the gauge overflows, where it is read, nor the principal, where it grows. -/
structure NoOverflow (st : Storage) (status : Nat) (side : Side) : Prop where
  gauge : status ≤ blendHealthyStatusMax → st.minTotalUsdc ≤ side.total → GaugeFits st side
  principal : Over st side → st.principalSupplied +
    capped st.maxRebalanceAmount (side.liquid - targetOf st side.total) ≤ i128Max

/-- One snapshot at a moment when the cooldown is over: what the dashboard and the contract
look at. -/
structure Snapshot (env : Env) (w : World) (status : Nat) (state : DelegateState)
    (aAddr : Address) : Prop where
  range : InRange w.storage
  principal : 0 ≤ w.storage.principalSupplied ∧ w.storage.principalSupplied ≤ i128Max
  unpaused : w.storage.paused = false
  health : env.status w.venue = some status
  delegate : env.queryDelegateState w.venue = some state
  /-- they agree on which of the pool's assets is USDC -/
  assets : aAddr = w.storage.usdc ↔ w.storage.usdc < w.storage.xlm
  liquid : 0 ≤ (usdcSide w.storage state).liquid
  total : (usdcSide w.storage state).total =
    (usdcSide w.storage state).liquid + (usdcSide w.storage state).delegated
  pos : 0 < (usdcSide w.storage state).total
  elapsed : CooldownElapsed w.storage w.timestamp
  fits : NoOverflow w.storage status (usdcSide w.storage state)

section

variable {env : Env} {w : World} {status : Nat} {state : DelegateState} {aAddr : Address}

theorem rebalanced_of_ok {t : Session} (h : executeRebalance env (.start w) = .ok ((), t)) :
    rebalanced env w = moveOf t.calls := by
  rw [rebalanced, h]

theorem Snapshot.rebalanced_eq (hs : Snapshot env w status state aAddr) {t : Session}
    (h : executeRebalance env (.start w) = .ok ((), t)) :
    rebalanced env w = policy w.storage status w.timestamp (usdcSide w.storage state) :=
  (rebalanced_of_ok h).trans (moveOf_carriedOut
    (executeRebalance_decides hs.range.target.2 hs.health hs.delegate rfl hs.liquid hs.pos h))

theorem rebalanced_of_fails (h : ¬ ∃ t, executeRebalance env (.start w) = .ok ((), t)) :
    rebalanced env w = .hold := by
  rw [rebalanced]
  split
  · next t ht => exact absurd ⟨t, ht⟩ h
  · rfl

theorem Snapshot.rebalanced_hold (hs : Snapshot env w status state aAddr)
    (hhold : policy w.storage status w.timestamp (usdcSide w.storage state) = .hold) :
    rebalanced env w = .hold := by
  by_cases h : ∃ t, executeRebalance env (.start w) = .ok ((), t)
  · obtain ⟨t, ht⟩ := h
    exact (hs.rebalanced_eq ht).trans hhold
  · exact rebalanced_of_fails h

/-- Two readings of one move: one holds on an edge, the other where the move fails. -/
theorem holds_agree_iff {shown done move : Decision} {edge goes : Prop} (hmove : move ≠ .hold)
    (hedge : edge → shown = .hold) (hinside : ¬ edge → shown = move)
    (hgoes : goes → done = move) (hfails : ¬ goes → done = .hold) :
    shown = done ↔ (edge ↔ ¬ goes) := by
  by_cases he : edge
  · by_cases hg : goes
    · rw [hedge he, hgoes hg]
      exact iff_of_false hmove.symm fun h => h.mp he hg
    · rw [hedge he, hfails hg]
      exact iff_of_true rfl (iff_of_true he hg)
  · by_cases hg : goes
    · rw [hinside he, hgoes hg]
      exact iff_of_true rfl (iff_of_false he fun h => h hg)
    · rw [hinside he, hfails hg]
      exact iff_of_false hmove fun h => he (h.mpr hg)

theorem Snapshot.agrees_of_move (hs : Snapshot env w status state aAddr) {move : Decision}
    (hmove : policy w.storage status w.timestamp (usdcSide w.storage state) = move)
    (hne : move ≠ .hold)
    (hgoes : (∃ t, executeRebalance env (.start w) = .ok ((), t)) ↔ GoesThrough env w move) :
    forecast w.storage status (usdcSide w.storage state) = rebalanced env w ↔
      (OnRoundedEdge w.storage (usdcSide w.storage state) ↔ ¬ GoesThrough env w move) := by
  obtain ⟨hedge, hinside⟩ := forecast_cases status hs.liquid hs.pos.le hs.elapsed
  rw [hmove] at hinside
  refine holds_agree_iff hne hedge hinside ?_ ?_
  · intro h
    obtain ⟨t, ht⟩ := hgoes.mpr h
    exact (hs.rebalanced_eq ht).trans hmove
  · intro h
    exact rebalanced_of_fails fun ht => h (hgoes.mp ht)

theorem Snapshot.agrees_of_hold (hs : Snapshot env w status state aAddr)
    (hhold : policy w.storage status w.timestamp (usdcSide w.storage state) = .hold) :
    forecast w.storage status (usdcSide w.storage state) = rebalanced env w := by
  obtain ⟨hedge, hinside⟩ := forecast_cases status hs.liquid hs.pos.le hs.elapsed
  rw [hs.rebalanced_hold hhold]
  by_cases h : OnRoundedEdge w.storage (usdcSide w.storage state)
  · exact hedge h
  · exact (hinside h).trans hhold

theorem not_over_and_under {st : Storage} {side : Side} (htotal : 0 ≤ side.total) :
    ¬ (Over st side ∧ Under st side) := by
  rintro ⟨hover, hunder⟩
  have hband := bandOf_nonneg st htotal
  have habove := hover.1
  have hbelow := hunder.1
  omega

end

/-- The prediction against the contract, on one snapshot with the cooldown over.  Where
Blend is frozen, the pool too small, or nothing due, they agree.  Where a move is due they
agree exactly if the move goes through and the liquid balance is not on the unit that only
the dashboard's band still holds, or if it is there and the move fails. -/
theorem prediction_agrees_iff {env : Env} {w : World} {status : Nat} {state : DelegateState}
    {aAddr : Address} (hs : Snapshot env w status state aAddr) :
    let st := w.storage
    let side := usdcSide st state
    let shown := predictAction (poolState st.usdc aAddr state) (queryState st) (some status)
    (∀ d, shown.Says d ↔ rebalanced env w = d) ↔
      (status ≤ blendHealthyStatusMax → st.minTotalUsdc ≤ side.total →
        (Over st side → (OnRoundedEdge st side ↔ ¬ GoesThrough env w
          (.toBlend (capped st.maxRebalanceAmount (side.liquid - targetOf st side.total))))) ∧
        (Under st side → (OnRoundedEdge st side ↔ ¬ GoesThrough env w
          (.fromBlend (capped st.maxRebalanceAmount
            (min (targetOf st side.total - side.liquid) st.principalSupplied)))))) := by
  intro st side shown
  have hshown : ∀ d, shown.Says d ↔ d = forecast st status side := fun d =>
    predictAction_shows hs.assets rfl hs.total hs.pos.le hs.principal.1 hs.unpaused
  have hagree : (∀ d, shown.Says d ↔ rebalanced env w = d) ↔
      forecast st status side = rebalanced env w := by
    constructor
    · intro h
      exact ((h _).mp ((hshown _).mpr rfl)).symm
    · intro heq d
      rw [hshown, heq, eq_comm]
  rw [hagree]
  by_cases hopen : status ≤ blendHealthyStatusMax ∧ st.minTotalUsdc ≤ side.total
  · have hgates : GatesOpen st status w.timestamp side := ⟨hopen.1, hopen.2, .inl hs.elapsed⟩
    have hfits := hs.fits.gauge hopen.1 hopen.2
    have hboth : ¬ (Over st side ∧ Under st side) := not_over_and_under hs.pos.le
    by_cases hover : Over st side
    · rw [hs.agrees_of_move (policy_toBlend.mpr ⟨hgates, hover, rfl⟩) Decision.noConfusion
        (toBlend_goesThrough hs.range hs.health hs.delegate rfl hs.liquid hs.pos hfits hgates hover
          hs.principal.1 (hs.fits.principal hover))]
      exact ⟨fun h _ _ => ⟨fun _ => h, fun hunder => absurd ⟨hover, hunder⟩ hboth⟩,
        fun h => (h hopen.1 hopen.2).1 hover⟩
    by_cases hunder : Under st side
    · rw [hs.agrees_of_move ((policy_fromBlend hs.pos.le).mpr ⟨hgates, hunder, rfl⟩)
        Decision.noConfusion
        (fromBlend_goesThrough hs.range hs.health hs.delegate rfl hs.liquid hs.pos hfits hgates
          hunder hs.principal.2)]
      exact ⟨fun h _ _ => ⟨fun hover' => absurd hover' hover, fun _ => h⟩,
        fun h => (h hopen.1 hopen.2).2 hunder⟩
    · have hhold : policy st status w.timestamp side = .hold := by
        cases hp : policy st status w.timestamp side with
        | hold => rfl
        | toBlend a => exact absurd (policy_toBlend.mp hp).2.1 hover
        | fromBlend a => exact absurd ((policy_fromBlend hs.pos.le).mp hp).2.1 hunder
      exact iff_of_true (hs.agrees_of_hold hhold) fun _ _ =>
        ⟨fun h => absurd h hover, fun h => absurd h hunder⟩
  · have hhold : policy st status w.timestamp side = .hold :=
      if_neg fun h => hopen ⟨h.healthy, h.enough⟩
    exact iff_of_true (hs.agrees_of_hold hhold) fun hhealthy henough =>
      absurd ⟨hhealthy, henough⟩ hopen

theorem snapshot_sampleWorld :
    Snapshot .honest sampleWorld 1 ⟨1000, 5000, 0, 0, 1000, 5000⟩ 1 where
  range := sampleStorage_inRange
  principal := by decide
  unpaused := rfl
  health := rfl
  delegate := rfl
  assets := by decide
  liquid := by decide
  total := by decide
  pos := by decide
  elapsed := by decide
  fits := ⟨fun _ _ => ⟨by decide, by decide, by decide⟩, fun _ => by decide⟩

/-- The sample pool, all of it liquid, is shown as it is handled. -/
theorem prediction_agrees_sample :
    let shown := predictAction (poolState 1 1 ⟨1000, 5000, 0, 0, 1000, 5000⟩)
      (queryState sampleStorage) (some 1)
    shown.Says (.toBlend 500) ∧ rebalanced .honest sampleWorld = .toBlend 500 := by
  intro shown
  have hedge : ¬ OnRoundedEdge sampleStorage ⟨1000, 0, 1000⟩ := by
    unfold OnRoundedEdge
    decide
  have hgoes : GoesThrough .honest sampleWorld (.toBlend 500) := ⟨rfl, by decide, rfl, rfl⟩
  have hunder : ¬ Under sampleStorage ⟨1000, 0, 1000⟩ := by
    unfold Under
    decide
  have hagree := (prediction_agrees_iff snapshot_sampleWorld).mpr fun _ _ =>
    ⟨fun _ => iff_of_false hedge fun h => h hgoes, fun h => absurd h hunder⟩
  have hmoved : rebalanced .honest sampleWorld = .toBlend 500 := by decide
  exact ⟨(hagree _).mpr hmoved, hmoved⟩

/-- The sample handler over a pool of 10019 with 5510 liquid.  The target is 5009, half the
band 500, and the two fractions dropped add up to more than one. -/
def edgeWorld : World :=
  { sampleWorld with
    storage := sampleStorage.withPrincipal 4509
    venue := ⟨⟨5510, 4509, 5000⟩, ⟨4509, 0⟩⟩ }

/-- The contract supplies 501 to Blend where the dashboard says the balance is in the band. -/
theorem edge_shown_inside :
    ¬ ∀ (env : Env) (w : World) (status : Nat) (state : DelegateState) (aAddr : Address),
        Snapshot env w status state aAddr → 0 ≤ (usdcSide w.storage state).delegated →
        ∀ d, (predictAction (poolState w.storage.usdc aAddr state) (queryState w.storage)
            (some status)).Says d ↔ rebalanced env w = d := by
  intro hclaim
  have hsnapshot : Snapshot .honest edgeWorld 1 ⟨5510, 5000, 4509, 0, 10019, 5000⟩ 1 :=
    { range := { sampleStorage_inRange with }
      principal := by decide
      unpaused := rfl
      health := rfl
      delegate := rfl
      assets := by decide
      liquid := by decide
      total := by decide
      pos := by decide
      elapsed := by decide
      fits := ⟨fun _ _ => ⟨by decide, by decide, by decide⟩, fun _ => by decide⟩ }
  have hmoved : rebalanced .honest edgeWorld = .toBlend 501 := by decide
  have hshown := (hclaim .honest edgeWorld 1 _ 1 hsnapshot (by decide) (.toBlend 501)).mpr hmoved
  exact absurd hshown.1 (by decide)

end BlendPool.Frontend
