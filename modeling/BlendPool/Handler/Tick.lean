/-
# `BlendPool.Handler.Tick` — a submission is a tick of the regulator

While nothing else happens — Blend healthy and paying, the pool reporting what it
holds, the cooldown over — a submission of a rebalance does what the regulator of
the configuration and the pool's total decides (`ticked`), or nothing where the
minimum or stray USDC on the handler keeps it from it.  It moves USDC only between
the two sides of the pool, so the next submission meets the same regulator, and a
steady world stays steady.
-/
import BlendPool.Handler.Regulator
import BlendPool.Handler.Residue
import BlendPool.Handler.Authority
import BlendPool.Handler.WriteDown

namespace BlendPool.Handler

open Bounded

/-! ## The handler as a regulator -/

/-- The pool's USDC as it is. -/
def World.side (w : World) : Side where
  liquid := w.venue.pool.liquid
  delegated := w.venue.pool.delegated
  total := w.venue.pool.liquid + w.venue.pool.delegated

def World.holding (w : World) : Holding where
  liquid := w.venue.pool.liquid
  principal := w.storage.principalSupplied

def World.regulator (w : World) : Regulator where
  target := targetOf w.storage w.side.total
  band := bandOf w.storage w.side.total
  minFloor := w.storage.minRebalanceAmount
  maxCap := w.storage.maxRebalanceAmount

/-- The pool is large enough to be rebalanced, and the handler is empty: on a
handler that someone sent USDC to, a rebalance fails its residue check. -/
def World.Running (w : World) : Prop :=
  w.storage.minTotalUsdc ≤ w.side.total ∧ w.handlerUsdc = 0

instance decRunning (w : World) : Decidable w.Running := inferInstanceAs (Decidable (_ ∧ _))

/-- What a rebalance does when nothing keeps it from it. -/
def World.due (w : World) : Decision :=
  if w.Running then w.regulator.decision w.holding else .hold

/-- Why a rebalance moves nothing. -/
def Settled (w : World) : Prop :=
  w.regulator.Stalled w.holding ∨ w.side.total < w.storage.minTotalUsdc ∨ w.handlerUsdc ≠ 0

/-- A configuration the handler admits, a pool on whose snapshot nothing overflows,
and a principal that is in the pool's books and in Blend. -/
structure Steady (w : World) : Prop where
  range : InRange w.storage
  liquid : 0 ≤ w.venue.pool.liquid
  delegated : 0 ≤ w.venue.pool.delegated
  fits : GaugeFits w.storage w.side
  representable : i128Min ≤ w.storage.principalSupplied
  pooled : w.storage.principalSupplied ≤ w.venue.pool.delegated
  covered : w.storage.principalSupplied ≤ w.venue.blend.position

/-- Blend is healthy, pays and takes supplies, and the pool reports what it holds. -/
structure Calm (env : Env) (w : World) : Prop where
  pays : PaysPosition env w.venue
  accepts : ∀ v c, env.accepts v c = true
  truthful : ∃ state, env.queryDelegateState w.venue = some state ∧
    usdcSide w.storage state = w.side

section

variable {env : Env} {w : World} {u : Session}

theorem Steady.total_nonneg (hw : Steady w) : 0 ≤ w.side.total :=
  Int.add_nonneg hw.liquid hw.delegated

theorem Steady.band_nonneg (hw : Steady w) : 0 ≤ w.regulator.band :=
  bandOf_nonneg w.storage hw.total_nonneg

theorem Steady.target_nonneg (hw : Steady w) : 0 ≤ w.regulator.target :=
  targetOf_nonneg w.storage hw.total_nonneg

theorem Steady.target_le (hw : Steady w) : w.regulator.target ≤ w.side.total :=
  targetOf_le hw.range.target.2 hw.total_nonneg

theorem Steady.total_le (hw : Steady w) : w.side.total ≤ i128Max :=
  hw.fits.total_le hw.range hw.total_nonneg

theorem due_eq_hold (hw : Steady w) : w.due = .hold ↔ Settled w := by
  rw [World.due, Settled]
  constructor
  · intro hhold
    split at hhold
    · exact .inl ((Regulator.decision_hold hw.band_nonneg).mp hhold)
    · next hshut =>
        rw [World.Running, not_and_or, not_le] at hshut
        exact .inr hshut
  · intro hsettled
    split
    · next hrun =>
        refine (Regulator.decision_hold hw.band_nonneg).mpr (hsettled.resolve_right ?_)
        rintro (hsmall | hgift)
        · exact absurd hrun.1 (not_le.mpr hsmall)
        · exact hgift hrun.2
    · rfl

theorem due_of_empty (hw : Steady w) (hempty : ¬ 0 < w.side.total) : w.due = .hold := by
  have hzero : w.side.total = 0 := le_antisymm (not_lt.mp hempty) hw.total_nonneg
  have htarget : w.regulator.target = 0 :=
    le_antisymm (hw.target_le.trans hzero.le) hw.target_nonneg
  have hband := hw.band_nonneg
  have hliquid : w.holding.liquid = 0 := by
    have hsum : w.venue.pool.liquid + w.venue.pool.delegated = 0 := hzero
    have h₁ := hw.liquid
    have h₂ := hw.delegated
    show w.venue.pool.liquid = 0
    omega
  refine (due_eq_hold hw).mpr (.inl (.inl ?_))
  omega

end

/-! ## One rebalance -/

section

variable {env : Env} {s t : Session}

/-- What comes out of Blend is what was asked for, and goes to the pool. -/
theorem executeRebalance_usdc (hpays : PaysPosition env s.world.venue)
    (hcovered : s.world.storage.principalSupplied ≤ s.world.venue.blend.position)
    (h : executeRebalance env s = .ok ((), t)) : t.world.handlerUsdc = s.world.handlerUsdc := by
  obtain rfl | ⟨g, _, _, hto | hfrom⟩ := executeRebalance_branches h
  · rfl
  · obtain ⟨_, -, ⟨-, rfl⟩ | ⟨-, -, -, _, -, _, -, _, -, -, rfl⟩⟩ := rebalanceToBlend_eq_ok.mp hto
    · rfl
    · exact Int.add_neg_cancel_right _ _
  · obtain ⟨natural, -, ⟨-, rfl⟩ | ⟨-, ⟨hpos, hpull⟩ | ⟨-, -, rfl⟩⟩⟩ :=
      rebalanceFromBlend_eq_ok.mp hfrom
    · rfl
    · obtain ⟨delivery, hdelivery, -, -, _, -, _, -, _, -, -, rfl⟩ := hpull
      have hle : capped s.world.storage.maxRebalanceAmount
          (min natural s.world.storage.principalSupplied) ≤ s.world.venue.blend.position :=
        ((capped_le _ _).trans (min_le_right _ _)).trans hcovered
      obtain ⟨full, hfull, hval⟩ := hpays.within _ hpos.le hle
      obtain rfl := Option.some.inj (hdelivery.symm.trans hfull)
      show s.world.handlerUsdc + delivery.val + -_ = s.world.handlerUsdc
      rw [hval]
      exact Int.add_neg_cancel_right _ _
    · rfl

theorem capped_nonneg {maxCap n : Int} (hn : 0 ≤ n) : 0 ≤ capped maxCap n := by
  rw [capped]
  split
  · next h => exact h.1.le
  · exact hn

end

section

variable {env : Env} {w : World} {u : Session}

theorem rebalanceToBlend_succeeds (hw : Steady w) (haccepts : ∀ v c, env.accepts v c = true)
    (hempty : w.handlerUsdc = 0) (hover : w.regulator.target ≤ w.venue.pool.liquid) :
    ∃ u, rebalanceToBlend env w.storage w.timestamp (gaugeAt w.storage w.timestamp w.side)
      w.venue.pool.liquid w.venue.pool.delegated (.start w) = .ok ((), u) := by
  have hliquid := hw.liquid
  have hdelegated := hw.delegated
  have hrepresentable := hw.representable
  have hpooled := hw.pooled
  have htarget := hw.target_nonneg
  have htotal : w.venue.pool.liquid + w.venue.pool.delegated ≤ i128Max := hw.total_le
  have hmin := i128Min_nonpos
  let natural := w.venue.pool.liquid - w.regulator.target
  have hnatural : checkedSub w.venue.pool.liquid w.regulator.target = some natural :=
    i128?_of_in (inI128_of_nonneg (by omega) (by omega))
  rcases lt_or_ge natural w.storage.minRebalanceAmount with hdust | hdust
  · exact ⟨.start w, rebalanceToBlend_eq_ok.mpr ⟨_, hnatural, .inl ⟨hdust, rfl⟩⟩⟩
  let amount := capped w.storage.maxRebalanceAmount natural
  have hnonneg : 0 ≤ amount := capped_nonneg (Int.sub_nonneg_of_le hover)
  have hle : amount ≤ natural := capped_le _ _
  have hpool : amount ≤ w.venue.pool.liquid := by omega
  have hsupply : amount ≤ w.handlerUsdc + amount := by omega
  have hnew : checkedAdd w.storage.principalSupplied amount =
      some (w.storage.principalSupplied + amount) := i128?_of_in ⟨by omega, by omega⟩
  have hafter : i128? (w.venue.pool.liquid - amount) = some (w.venue.pool.liquid - amount) :=
    i128?_of_in (inI128_of_nonneg (by omega) (by omega))
  have hout : i128? (w.venue.pool.delegated + amount) = some (w.venue.pool.delegated + amount) :=
    i128?_of_in (inI128_of_nonneg (by omega) (by omega))
  have hclean : w.handlerUsdc + amount + -amount = 0 := by omega
  exact ⟨_, rebalanceToBlend_eq_ok.mpr ⟨_, hnatural, .inr ⟨not_lt.mpr hdust,
    ⟨haccepts _ _, hnonneg, hpool⟩, ⟨haccepts _ _, hnonneg, hsupply⟩, _, hnew, _, hafter, _,
    hout, hclean, rfl⟩⟩⟩

theorem rebalanceFromBlend_succeeds (hw : Steady w) (hpays : PaysPosition env w.venue)
    (hempty : w.handlerUsdc = 0) (hunder : w.venue.pool.liquid ≤ w.regulator.target) :
    ∃ u, rebalanceFromBlend env w.storage w.timestamp (gaugeAt w.storage w.timestamp w.side)
      w.venue.pool.liquid w.venue.pool.delegated (.start w) = .ok ((), u) := by
  have hliquid := hw.liquid
  have hdelegated := hw.delegated
  have hpooled := hw.pooled
  have htarget : w.regulator.target ≤ i128Max := hw.target_le.trans hw.total_le
  have htotal : w.venue.pool.liquid + w.venue.pool.delegated ≤ i128Max := hw.total_le
  have hfloor := hw.range.minAmount
  let bounded := min (w.regulator.target - w.venue.pool.liquid) w.storage.principalSupplied
  have hle : bounded ≤ w.storage.principalSupplied := min_le_right _ _
  rcases lt_or_ge w.storage.principalSupplied 0 with hnone | hprincipal
  · -- no pull is larger than a negative principal, and none is that small
    have hnatural : checkedSub w.regulator.target w.venue.pool.liquid =
        some (w.regulator.target - w.venue.pool.liquid) :=
      i128?_of_in (inI128_of_nonneg (by omega) (by omega))
    have hdust : bounded < w.storage.minRebalanceAmount := by omega
    exact ⟨.start w, rebalanceFromBlend_eq_ok.mpr ⟨_, hnatural, .inl ⟨hdust, rfl⟩⟩⟩
  · have hfits : PrincipalFits w := ⟨hprincipal, hpooled.trans (by omega)⟩
    have hpull : capped w.storage.maxRebalanceAmount bounded ≤ w.venue.blend.position :=
      ((capped_le _ _).trans hle).trans hw.covered
    exact (rebalanceFromBlend_survives (s := .start w) hpays hempty hfits hpooled
      ⟨hliquid, hunder, htarget⟩ ⟨hdelegated, by omega⟩).mpr (.inr hpull)

/-- On a calm ledger a rebalance of a running handler goes through. -/
theorem executeRebalance_succeeds (hw : Steady w) (hcalm : Calm env w)
    (hcool : CooldownElapsed w.storage w.timestamp) (hrun : w.Running)
    (htotal : 0 < w.side.total) : ∃ u, executeRebalance env (.start w) = .ok ((), u) := by
  obtain ⟨status, hstatus, hhealthy⟩ := hcalm.pays.healthy
  obtain ⟨state, hstate, hside⟩ := hcalm.truthful
  have hreach := executeRebalance_open hw.range hstatus hstate hside hw.liquid htotal hw.fits
    ⟨hhealthy, hrun.1, .inl hcool⟩
  have hdelegated : w.side.total - w.side.liquid = w.venue.pool.delegated :=
    add_sub_cancel_left w.venue.pool.liquid w.venue.pool.delegated
  rw [hdelegated] at hreach
  have hband := hw.band_nonneg
  rcases lt_or_ge (w.regulator.target + w.regulator.band) w.venue.pool.liquid with hover | hnotOver
  · obtain ⟨u, hu⟩ := rebalanceToBlend_succeeds hw hcalm.accepts hrun.2 (by omega)
    exact ⟨u, (hreach u).mpr (.inl ⟨hover, hu⟩)⟩
  rcases lt_or_ge w.venue.pool.liquid (w.regulator.target - w.regulator.band) with hunder | hinside
  · obtain ⟨u, hu⟩ := rebalanceFromBlend_succeeds hw hcalm.pays hrun.2 (by omega)
    exact ⟨u, (hreach u).mpr (.inr ⟨not_lt.mpr hnotOver, .inl ⟨hunder, hu⟩⟩)⟩
  · exact ⟨.start w,
      (hreach _).mpr (.inr ⟨not_lt.mpr hnotOver, .inr ⟨not_lt.mpr hinside, hrun.2, rfl⟩⟩)⟩

theorem executeRebalance_due (hw : Steady w) (hcalm : Calm env w)
    (hcool : CooldownElapsed w.storage w.timestamp)
    (h : executeRebalance env (.start w) = .ok ((), u)) :
    CarriedOut (.start w) u w.side w.due ∧ u.world.handlerUsdc = w.handlerUsdc := by
  have husdc : u.world.handlerUsdc = w.handlerUsdc :=
    executeRebalance_usdc (s := .start w) hcalm.pays hw.covered h
  refine ⟨?_, husdc⟩
  have hheld : w.due = .hold → u = .start w → CarriedOut (.start w) u w.side w.due := by
    rintro hhold rfl
    rw [hhold]
    exact carriedOut_refl _ _
  rcases Decidable.em (w.handlerUsdc = 0) with hempty | hgift
  · rcases Decidable.em (0 < w.side.total) with htotal | hzero
    · obtain ⟨status, hstatus, hhealthy⟩ := hcalm.pays.healthy
      obtain ⟨state, hstate, hside⟩ := hcalm.truthful
      have hdone := executeRebalance_decides (s := .start w) hw.range.target.2 hstatus hstate
        hside.symm hw.liquid htotal h
      have hpolicy : policy w.storage status w.timestamp w.side = w.due := by
        have hgates : GatesOpen w.storage status w.timestamp w.side ↔ w.Running :=
          ⟨fun hopen => ⟨hopen.enough, hempty⟩, fun hrun => ⟨hhealthy, hrun.1, .inl hcool⟩⟩
        rw [policy, World.due]
        exact if_congr hgates rfl rfl
      rw [← hpolicy]
      exact hdone
    · refine hheld (due_of_empty hw hzero) ?_
      obtain hsame | ⟨status, state, -, hstate, htotal, -⟩ :=
        executeRebalance_cases (s := .start w) hw.range.target.2 h
      · exact hsame
      · obtain ⟨state', hstate', hside⟩ := hcalm.truthful
        obtain rfl := Option.some.inj (hstate.symm.trans hstate')
        have htotal' : 0 < (usdcSide w.storage state).total := htotal
        rw [hside] at htotal'
        exact absurd htotal' hzero
  · have hshut : w.due = .hold := if_neg fun hrun => hgift hrun.2
    refine hheld hshut ((executeRebalance_clean h).resolve_left ?_)
    rw [husdc]
    exact hgift

end

/-! ## One tick -/

/-- From `w` to `v` the decision `d` was carried out between the two sides of the pool,
and nothing else that a rebalance looks at has changed. -/
structure Follows (w v : World) (d : Decision) : Prop where
  held : d = .hold → v.venue = w.venue
  holding : v.holding = d.apply w.holding
  total : v.side.total = w.side.total
  governed : v.storage.governed = w.storage.governed
  cover : w.venue.blend.position - w.storage.principalSupplied ≤
    v.venue.blend.position - v.storage.principalSupplied
  usdc : v.handlerUsdc = w.handlerUsdc

theorem follows_refl (w : World) : Follows w w .hold :=
  ⟨fun _ => rfl, rfl, rfl, rfl, le_refl _, rfl⟩

section

variable {w v : World} {d : Decision} {u : Session}

theorem follows_moved {side : Side} {direction : Symbol} {amount delta : Int} {f : Flow}
    {calls : List ExtCall} (hmoved : Moved (.start w) u side direction amount delta f calls)
    (husdc : u.world.handlerUsdc = w.handlerUsdc) (hd : d ≠ .hold)
    (hholding : ⟨(f.apply w.books).liquid, (f.apply w.books).principal⟩ = d.apply w.holding)
    (hdonated : f.donated w.books = 0)
    (hcover : w.books.position - w.books.principal ≤
      (f.apply w.books).position - (f.apply w.books).principal) :
    Follows w u.world d := by
  have hbooks : u.world.books = f.apply w.books := hmoved.performs.books
  have hpooled : u.world.books.pooled = w.books.pooled := by
    rw [hbooks, Flow.pooled_apply, hdonated, Int.add_zero]
  rw [← hbooks] at hholding hcover
  exact
    { held := fun hhold => absurd hhold hd
      holding := hholding
      total := hpooled
      governed := by rw [hmoved.storage]; rfl
      cover := hcover
      usdc := husdc }

theorem follows_carriedOut {side : Side} (h : CarriedOut (.start w) u side d)
    (husdc : u.world.handlerUsdc = w.handlerUsdc) : Follows w u.world d := by
  cases d with
  | hold =>
      rw [h.1]
      exact follows_refl w
  | toBlend amount =>
      refine follows_moved h husdc Decision.noConfusion rfl rfl ?_
      dsimp only [Flow.apply]
      omega
  | fromBlend amount =>
      obtain ⟨redeemed, hmoved⟩ := h
      obtain ⟨-, -, -, hredeemed⟩ := hmoved.performs.legal
      refine follows_moved hmoved husdc Decision.noConfusion rfl rfl ?_
      dsimp only [Flow.apply]
      omega

theorem Follows.setting {α : Type} (h : Follows w v d) (f : Storage → α)
    (hf : ∀ st : Storage, f st.governed = f st) : f v.storage = f w.storage := by
  rw [← hf, h.governed, hf]

theorem Follows.regulator (h : Follows w v d) : v.regulator = w.regulator := by
  have htarget : v.storage.targetRatioBps = w.storage.targetRatioBps :=
    h.setting Storage.targetRatioBps fun _ => rfl
  have hband : v.storage.rebalanceBandBps = w.storage.rebalanceBandBps :=
    h.setting Storage.rebalanceBandBps fun _ => rfl
  have hmin : v.storage.minRebalanceAmount = w.storage.minRebalanceAmount :=
    h.setting Storage.minRebalanceAmount fun _ => rfl
  have hmax : v.storage.maxRebalanceAmount = w.storage.maxRebalanceAmount :=
    h.setting Storage.maxRebalanceAmount fun _ => rfl
  simp only [World.regulator, targetOf, bandOf, h.total, htarget, hband, hmin, hmax]

theorem Follows.running (h : Follows w v d) : v.Running ↔ w.Running := by
  have hmin : v.storage.minTotalUsdc = w.storage.minTotalUsdc :=
    h.setting Storage.minTotalUsdc fun _ => rfl
  rw [World.Running, World.Running, hmin, h.total, h.usdc]

theorem Follows.due (h : Follows w v .hold) : v.due = w.due := by
  have hholding : v.holding = w.holding := h.holding
  rw [World.due, World.due, h.regulator, hholding]
  exact if_congr h.running rfl rfl

theorem apply_conserves (d : Decision) (h : Holding) :
    (d.apply h).liquid + (d.apply h).principal = h.liquid + h.principal := by
  cases d with
  | hold => rfl
  | toBlend amount | fromBlend amount =>
      dsimp only [Decision.apply]
      omega

/-- Where the liquid balance and the principal can be after what the regulator decided:
no higher than they were or than the target, and not below zero for it. -/
theorem Steady.reach (hw : Steady w) (h : Follows w v d)
    (hd : d = .hold ∨ d = w.regulator.decision w.holding) :
    (v.venue.pool.liquid ≤ w.venue.pool.liquid ∨ v.venue.pool.liquid ≤ w.regulator.target) ∧
      0 ≤ v.venue.pool.liquid ∧
      min 0 w.storage.principalSupplied ≤ v.storage.principalSupplied := by
  have hliquid := hw.liquid
  rcases Decidable.em (d = .hold) with rfl | hne
  · have hsame : v.holding = w.holding := h.holding
    have h₁ : v.venue.pool.liquid = w.venue.pool.liquid := congrArg Holding.liquid hsame
    have h₂ : v.storage.principalSupplied = w.storage.principalSupplied :=
      congrArg Holding.principal hsame
    omega
  · obtain rfl := hd.resolve_left hne
    have htick : v.holding = w.regulator.tick w.holding := h.holding
    obtain ⟨habove, hbelow, hcloser, hdrawn, -, -⟩ :=
      Regulator.tick_approaches hw.band_nonneg hne
    rw [← htick] at habove hbelow hcloser hdrawn
    have htarget := hw.target_nonneg
    dsimp only [World.holding] at habove hbelow hcloser hdrawn
    omega

/-- The target times ten thousand is no more than a product that fits. -/
theorem GaugeFits.follows (hfits : GaugeFits w.storage w.side) (h : Follows w v d)
    (hliquid : v.venue.pool.liquid ≤ w.venue.pool.liquid ∨
      v.venue.pool.liquid ≤ w.regulator.target) : GaugeFits v.storage v.side where
  target := by
    rw [h.total, h.setting Storage.targetRatioBps fun _ => rfl]
    exact hfits.target
  band := by
    rw [h.total, h.setting Storage.rebalanceBandBps fun _ => rfl]
    exact hfits.band
  ratio := by
    have hden : 0 ≤ bpsDen := bpsDen_pos.le
    obtain hle | hle := hliquid
    · exact (Int.mul_le_mul_of_nonneg_right hle hden).trans hfits.ratio
    · refine (Int.mul_le_mul_of_nonneg_right hle hden).trans (le_trans ?_ hfits.target)
      exact Int.ediv_mul_le _ bpsDen_pos.ne'

/-- A world that was steady is steady after what the regulator decided. -/
theorem Steady.follows (hw : Steady w) (h : Follows w v d)
    (hd : d = .hold ∨ d = w.regulator.decision w.holding) : Steady v := by
  obtain ⟨hreach, hnonneg, hdrawn⟩ := hw.reach h hd
  have hsum : v.venue.pool.liquid + v.storage.principalSupplied =
      w.venue.pool.liquid + w.storage.principalSupplied := by
    have hconserved := apply_conserves d w.holding
    rw [← h.holding] at hconserved
    exact hconserved
  have hpooled : v.venue.pool.liquid + v.venue.pool.delegated =
      w.venue.pool.liquid + w.venue.pool.delegated := h.total
  have htarget : w.regulator.target ≤ w.venue.pool.liquid + w.venue.pool.delegated := hw.target_le
  have hdelegated := hw.delegated
  have hprincipal := hw.pooled
  have hrepresentable := hw.representable
  have hcovered := hw.covered
  have hcover := h.cover
  have hmin := i128Min_nonpos
  have hrange : InRange v.storage.governed := by
    rw [h.governed]
    exact { hw.range with }
  exact
    { range := { hrange with }
      liquid := hnonneg
      delegated := by omega
      fits := hw.fits.follows h hreach
      representable := by omega
      pooled := by omega
      covered := by omega }

end

/-! ### A submission -/

/-- A submission of a rebalance that the quorum accepts, on a calm ledger and with the
cooldown over. -/
structure RebalanceTick (P : Shared) (w : World) (env : Env) (entry : EntryPoint) : Prop where
  admitted : ∃ envelopeBytes sigData id, entry = .verifyXlm envelopeBytes sigData ∧
    Admitted P env w envelopeBytes sigData id
  rebalances : entry.rebalances P = true
  calm : Calm env w
  elapsed : CooldownElapsed w.storage w.timestamp

/-- Rebalances and the passing of time, and nothing else. -/
def Tick (P : Shared) (w : World) : Action → Prop
  | .invoke env entry => RebalanceTick P w env entry
  | .advance _ _ => True
  | _ => False

/-- What a tick does. -/
structure Ticked (P : Shared) (w : World) (a : Action) : Prop where
  follows : Follows w (step P w a) (autoMove P w a)
  decided : autoMove P w a = .hold ∨ autoMove P w a = w.regulator.decision w.holding
  due : ∀ env entry, a = .invoke env entry → autoMove P w a = w.due

section

variable {P : Shared} {env : Env} {w : World} {entry : EntryPoint}

theorem RebalanceTick.invoke_ok (h : RebalanceTick P w env entry) {u : Session}
    (hu : executeRebalance env (.start w) = .ok ((), u)) :
    ∃ t, invoke P env w entry = .ok t := by
  obtain ⟨envelopeBytes, sigData, id, rfl, hadmitted⟩ := h.admitted
  obtain ⟨envelope, henvelope, -⟩ := Option.map_eq_some_iff.mp hadmitted.decoded
  have haction : P.decodeAction envelope.payload = some .rebalance := by
    have hdecoded : (P.decodeEnvelope envelopeBytes).bind (fun e => P.decodeAction e.payload) =
        some .rebalance := of_decide_eq_true h.rebalances
    rw [henvelope] at hdecoded
    exact hdecoded
  have hid : envelope.eventId ∉ w.storage.eventSeen := by
    have hsome := hadmitted.decoded
    rw [henvelope] at hsome
    obtain rfl := Option.some.inj hsome
    exact hadmitted.unseen
  exact ⟨_, invoke_eq_ok.mpr (verifyXlm_eq_ok.mpr ⟨hadmitted.unpaused, envelope, henvelope, hid,
    ⟨hadmitted.recent.1, Nat.sub_le_iff_le_add'.mpr hadmitted.recent.2⟩, hadmitted.verified,
    .rebalance, haction, u, hu, rfl⟩)⟩

theorem RebalanceTick.due (hw : Steady w) (h : RebalanceTick P w env entry) :
    Follows w (step P w (.invoke env entry)) w.due ∧
      autoMove P w (.invoke env entry) = w.due := by
  cases hcall : invoke P env w entry with
  | ok t =>
      obtain ⟨u, id, hu, rfl⟩ := invoke_rebalance hcall h.rebalances
      obtain ⟨hdone, husdc⟩ := executeRebalance_due hw h.calm h.elapsed hu
      have hfollows := follows_carriedOut hdone husdc
      have hmoves : moveOf u.calls = w.due := moveOf_carriedOut hdone
      rw [step_invoke_ok hcall, autoMove_ok hcall, if_pos h.rebalances]
      exact ⟨⟨hfollows.held, hfollows.holding, hfollows.total, hfollows.governed, hfollows.cover,
        hfollows.usdc⟩, hmoves⟩
  | error e =>
      -- a submission that fails had nothing to do
      have hhold : w.due = .hold := by
        by_contra hmove
        have hrun : w.Running := by
          by_contra hshut
          exact hmove (if_neg hshut)
        have htotal : 0 < w.side.total := by
          by_contra hempty
          exact hmove (due_of_empty hw hempty)
        obtain ⟨u, hu⟩ := executeRebalance_succeeds hw h.calm h.elapsed hrun htotal
        obtain ⟨t, ht⟩ := h.invoke_ok hu
        rw [hcall] at ht
        cases ht
      rw [step_invoke_error hcall, autoMove_error hcall, hhold]
      exact ⟨follows_refl w, rfl⟩

theorem ticked (hw : Steady w) {a : Action} (ha : Tick P w a) : Ticked P w a := by
  cases a with
  | invoke env entry =>
      obtain ⟨hfollows, hdue⟩ := RebalanceTick.due hw ha
      refine ⟨?_, ?_, ?_⟩
      · rw [hdue]
        exact hfollows
      · rw [hdue, World.due]
        split
        · exact .inr rfl
        · exact .inl rfl
      · intro env' entry' _
        exact hdue
  | advance secs ledgers =>
      refine ⟨⟨fun _ => rfl, rfl, rfl, rfl, le_refl _, rfl⟩, .inl rfl, ?_⟩
      intro env entry hsame
      cases hsame
  | trade _ _ | accrue _ | writeDown _ | blendHolds _ | send _ => exact ha.elim

variable {a : Action}

theorem Ticked.steady (hw : Steady w) (h : Ticked P w a) : Steady (step P w a) :=
  hw.follows h.follows h.decided

theorem Ticked.regulator (h : Ticked P w a) : (step P w a).regulator = w.regulator :=
  h.follows.regulator

theorem Ticked.decision_of_move (h : Ticked P w a) {d : Decision} (hd : autoMove P w a = d)
    (hmove : d ≠ .hold) : w.regulator.decision w.holding = d := by
  obtain rfl := hd
  exact (h.decided.resolve_left hmove).symm

theorem Ticked.approaches (hw : Steady w) (h : Ticked P w a) (hmove : autoMove P w a ≠ .hold) :
    w.regulator.decision w.holding ≠ .hold ∧
      (step P w a).holding = w.regulator.tick w.holding ∧
      w.regulator.Approaches w.holding (step P w a).holding := by
  have hdecision := h.decision_of_move rfl hmove
  have htick : (step P w a).holding = w.regulator.tick w.holding := by
    rw [h.follows.holding, ← hdecision]
    rfl
  rw [← hdecision] at hmove
  rw [htick]
  exact ⟨hmove, rfl, Regulator.tick_approaches hw.band_nonneg hmove⟩

theorem Ticked.holding_of_hold (h : Ticked P w a) (hhold : autoMove P w a = .hold) :
    (step P w a).holding = w.holding := by
  rw [h.follows.holding, hhold]
  rfl

theorem Ticked.settled_of_hold (hw : Steady w) (h : Ticked P w a)
    (hhold : autoMove P w a = .hold) (hsettled : Settled w) : Settled (step P w a) := by
  have hfollows := h.follows
  rw [hhold] at hfollows
  rw [← due_eq_hold (h.steady hw), hfollows.due]
  exact (due_eq_hold hw).mpr hsettled

end

end BlendPool.Handler
