/-
# `BlendPool.Handler.ClaimSafety` — what can take the claim back

A harvest claims first, and the BLND is in the treasury only if the rest of the
call goes through.  The withdrawal of the interest leg is made recoverably; the
supply that follows it is not.  So the claim is safe from a withdrawal that
fails and not from a supply that fails, and the gate before the leg, status at
most 3, lets the leg run where Blend takes withdrawals but no supplies.
-/
import BlendPool.Handler.Residue

namespace BlendPool.Handler

open Bounded

/-! ## The treasury -/

theorem treasury_afterIf {s : Session} {p : Prop} [Decidable p] {c : ExtCall}
    (hc : c.routed = 0) : (s.afterIf p c).world.treasuryBlnd = s.world.treasuryBlnd := by
  rw [Session.afterIf]
  split
  · show s.world.treasuryBlnd + c.routed = _
    rw [hc, Int.add_zero]
  · rfl

theorem treasury_settled (s : Session) (st : Storage) (r : Int) :
    (s.settled st r).world.treasuryBlnd = s.world.treasuryBlnd := by
  rw [Session.settled, treasury_afterIf rfl, Session.emitIf_world,
    Session.update_world_treasuryBlnd, treasury_afterIf rfl]

theorem treasury_reported (s : Session) (now : Nat) (routed : Int) (leg : Int × Int)
    (healthy : Bool) (principal : Int) :
    (s.reported now routed leg healthy principal).world.treasuryBlnd = s.world.treasuryBlnd := by
  rw [Session.reported]
  split
  · rfl
  · rfl

section

variable {env : Env} {s t : Session}

theorem interestLeg_treasury {st : Storage} {routed : Int} {out : Int × Int}
    (hp : 0 < st.principalSupplied) (h : interestLeg env st routed s = .ok (out, t)) :
    t.world.treasuryBlnd = s.world.treasuryBlnd := by
  obtain ⟨delivery, -, -, hsettle⟩ | ⟨-, -, rfl⟩ := interestLeg_eq_ok.mp h
  · obtain ⟨hr, hmax⟩ := delivery.property
    obtain ⟨-, -, -, -, rfl⟩ := (settleInterest_eq_ok hp hr hmax).mp hsettle
    exact (treasury_settled _ st _).trans (Int.add_zero _)
  · rfl

theorem executeHarvestYield_treasury {routed : Int}
    (hclaim : env.claim s.world.venue = some routed)
    (h : executeHarvestYield env s = .ok ((), t)) :
    t.world.treasuryBlnd = s.world.treasuryBlnd + routed := by
  obtain ⟨routed', hrouted, _, -, ⟨hgo, _, v, hleg, -, rfl⟩ | ⟨-, -, rfl⟩⟩ :=
    executeHarvestYield_eq_ok.mp h
  all_goals obtain rfl := Option.some.inj (hclaim.symm.trans hrouted)
  · rw [treasury_reported, interestLeg_treasury hgo.1 hleg]
    rfl
  · rw [treasury_reported]
    rfl

end

/-! ## The interest leg -/

/-- The venue with `r` withdrawn. -/
def Venue.without (v : Venue) (st : Storage) (r : Int) : Venue :=
  ExtCall.applyVenue v (.withdraw st.blendPool st.usdc i128Max r)

/-- The venue with `n` supplied. -/
def Venue.resupplied (v : Venue) (st : Storage) (n : Int) : Venue :=
  ExtCall.applyVenue v (.supply st.blendPool st.usdc n)

/-- With `r` out of Blend and a principal `p`: Blend takes the smaller of the two
again, and the pool takes what is left over. -/
structure Settles (env : Env) (st : Storage) (v : Venue) (r : Int) : Prop where
  supply : 0 < min st.principalSupplied r →
    env.accepts (v.without st r)
      (.supply st.blendPool st.usdc (min st.principalSupplied r)) = true
  donate : st.principalSupplied < r →
    env.accepts ((v.without st r).resupplied st st.principalSupplied)
      (.donate st.blendedPool st.usdc (r - st.principalSupplied)) = true

/-- There is no interest leg, or Blend refuses its withdrawal, or what follows the
withdrawal goes through. -/
def LegSurvives (env : Env) (w : World) (status : Nat) : Prop :=
  w.storage.principalSupplied ≤ 0 ∨ blendHealthyStatusMax < status ∨
    ∀ delivery, env.withdraw w.venue i128Max = some delivery →
      delivery.val ≤ w.venue.blend.held → Settles env w.storage w.venue delivery.val

section

variable {env : Env} {s : Session} {st : Storage}

/-- After a withdrawal into an empty handler, the leg settles exactly when Blend and
the pool take what they are given; the handler is then empty again. -/
theorem settleInterest_ok_iff {r : Int} (hst : st = s.world.storage)
    (hp : 0 < st.principalSupplied)
    (hfits : st.principalSupplied ≤ i128Max) (hr : 0 ≤ r) (hmax : r ≤ i128Max)
    (hempty : s.world.handlerUsdc = 0) :
    (∃ out t, settleInterest env st r (s.after (.withdraw st.blendPool st.usdc i128Max r)) =
        .ok (out, t) ∧ t.world.handlerUsdc = 0) ↔ Settles env st s.world.venue r := by
  have husdc : (s.after (.withdraw st.blendPool st.usdc i128Max r)).world.handlerUsdc = r := by
    show s.world.handlerUsdc + r = r
    rw [hempty, Int.zero_add]
  constructor
  · rintro ⟨out, t, h, -⟩
    obtain ⟨hsupply, -, hdonate, -, -⟩ := (settleInterest_eq_ok hp hr hmax).mp h
    refine ⟨fun hpos => (hsupply hpos).1, ?_⟩
    intro hover
    have hmin : min st.principalSupplied r = st.principalSupplied := min_eq_left hover.le
    rw [hmin, Session.afterIf, if_pos hp] at hdonate
    exact (hdonate (Int.sub_pos_of_lt hover)).1
  · intro h
    refine ⟨_, _, (settleInterest_eq_ok hp hr hmax).mpr ⟨?_, ?_, ?_, rfl, rfl⟩, ?_⟩
    · intro hpos
      refine ⟨h.supply hpos, hpos.le, ?_⟩
      rw [husdc]
      exact min_le_right _ _
    · intro _
      exact inI128_of_nonneg (by omega) (by omega)
    · intro hover
      have hlt : st.principalSupplied < r := by omega
      have hmin : min st.principalSupplied r = st.principalSupplied := min_eq_left hlt.le
      rw [hmin, Session.afterIf, if_pos hp]
      refine ⟨h.donate hlt, Int.sub_nonneg_of_le hlt.le, ?_⟩
      show r - st.principalSupplied ≤
        (s.after (.withdraw st.blendPool st.usdc i128Max r)).world.handlerUsdc +
          -st.principalSupplied
      rw [husdc]
      omega
    · have husdc : _ = s.world.handlerUsdc :=
        congrArg Books.usdc (Performs.settled (s := s) hst hp hr).books
      exact husdc.trans hempty

/-- A leg whose withdrawal fails ends with the handler as it was. -/
theorem interestLeg_ok_iff {routed : Int} (hst : st = s.world.storage)
    (hp : 0 < st.principalSupplied) (hfits : st.principalSupplied ≤ i128Max)
    (hempty : s.world.handlerUsdc = 0) :
    (∃ out t, interestLeg env st routed s = .ok (out, t) ∧ t.world.handlerUsdc = 0) ↔
      ∀ delivery, env.withdraw s.world.venue i128Max = some delivery →
        delivery.val ≤ s.world.venue.blend.held → Settles env st s.world.venue delivery.val := by
  constructor
  · rintro ⟨out, t, h, hzero⟩ delivery hdelivery hheld
    obtain ⟨hr, hmax⟩ := delivery.property
    refine (settleInterest_ok_iff hst hp hfits hr hmax hempty).mp ?_
    obtain ⟨delivery', hdelivery', -, hsettle⟩ | ⟨⟨e, he⟩, -, -⟩ := interestLeg_eq_ok.mp h
    · obtain rfl := Option.some.inj (hdelivery.symm.trans hdelivery')
      exact ⟨out, t, hsettle, hzero⟩
    · -- the withdrawal was possible
      rw [blendSubmitWithdraw_eq_ok.mpr ⟨delivery, hdelivery, hheld, rfl⟩] at he
      cases he
  · intro h
    cases hwithdraw : blendSubmitWithdraw env st.blendPool st.usdc i128Max s with
    | ok p =>
        obtain ⟨⟨⟩, u⟩ := p
        obtain ⟨delivery, hdelivery, hheld, rfl⟩ := blendSubmitWithdraw_eq_ok.mp hwithdraw
        obtain ⟨hr, hmax⟩ := delivery.property
        obtain ⟨out, t, hsettle, hzero⟩ :=
          (settleInterest_ok_iff hst hp hfits hr hmax hempty).mpr (h delivery hdelivery hheld)
        exact ⟨out, t, interestLeg_eq_ok.mpr (.inl ⟨delivery, hdelivery, hheld, hsettle⟩), hzero⟩
    | error e =>
        exact ⟨_, _, interestLeg_eq_ok.mpr (.inr ⟨⟨e, hwithdraw⟩, rfl, rfl⟩), hempty⟩

end

/-! ## The claim -/

/-- With a claim and a status in hand and an empty handler, the harvest goes through,
and the treasury keeps what the claim routed, exactly when the leg survives. -/
theorem claim_survives_iff (env : Env) {w : World} {routed : Int} {status : Nat}
    (hempty : w.handlerUsdc = 0) (hfits : w.storage.principalSupplied ≤ i128Max)
    (hclaim : env.claim w.venue = some routed) (hstatus : env.status w.venue = some status) :
    (∃ t, executeHarvestYield env (.start w) = .ok ((), t) ∧
        t.world.treasuryBlnd = w.treasuryBlnd + routed) ↔ LegSurvives env w status := by
  have hkept : (∃ t, executeHarvestYield env (.start w) = .ok ((), t) ∧
      t.world.treasuryBlnd = w.treasuryBlnd + routed) ↔
        ∃ t, executeHarvestYield env (.start w) = .ok ((), t) :=
    exists_congr fun t => and_iff_left_of_imp (executeHarvestYield_treasury hclaim)
  have hleg : ∀ hp : 0 < w.storage.principalSupplied,
      (∃ out t, interestLeg env w.storage routed ((Session.start w).after
          (.claim w.storage.blendPool [w.storage.usdcReserveTokenId] w.storage.blndTreasury
            routed)) = .ok (out, t) ∧ t.world.handlerUsdc = 0) ↔
        ∀ delivery, env.withdraw w.venue i128Max = some delivery →
          delivery.val ≤ w.venue.blend.held → Settles env w.storage w.venue delivery.val :=
    fun hp => interestLeg_ok_iff rfl hp hfits ((after_claim_handlerUsdc _ _ _ _ _).trans hempty)
  rw [hkept]
  constructor
  · rintro ⟨t, h⟩
    obtain ⟨routed', hrouted, status', hstatus', ⟨hgo, out, v, hv, hzero, -⟩ | ⟨hskip, -, -⟩⟩ :=
      executeHarvestYield_eq_ok.mp h
    all_goals
      obtain rfl := Option.some.inj (hclaim.symm.trans hrouted)
      obtain rfl := Option.some.inj (hstatus.symm.trans hstatus')
    · exact .inr (.inr ((hleg hgo.1).mp ⟨out, v, hv, hzero⟩))
    · rw [decide_eq_true_eq, not_and_or, not_lt, not_le] at hskip
      exact hskip.imp_right .inl
  · intro h
    rcases Decidable.em (0 < w.storage.principalSupplied ∧ status ≤ blendHealthyStatusMax) with
      hgo | hskip
    · have hsettles := (h.resolve_left (not_le.mpr hgo.1)).resolve_left (not_lt.mpr hgo.2)
      obtain ⟨out, v, hv, hzero⟩ := (hleg hgo.1).mpr hsettles
      exact ⟨_, executeHarvestYield_eq_ok.mpr ⟨routed, hclaim, status, hstatus,
        .inl ⟨⟨hgo.1, decide_eq_true hgo.2⟩, out, v, hv, hzero, rfl⟩⟩⟩
    · have hnot : ¬ (0 < w.storage.principalSupplied ∧
          decide (status ≤ blendHealthyStatusMax) = true) := by
        rw [decide_eq_true_eq]
        exact hskip
      exact ⟨_, executeHarvestYield_eq_ok.mpr ⟨routed, hclaim, status, hstatus,
        .inr ⟨hnot, hempty, rfl⟩⟩⟩

/-- 100 supplied that grew to 105, and emissions of 7. -/
def harvestable : World :=
  Runs.run (step .sample) sampleWorld
    [.invoke .honest (.manualToBlend 100), .accrue 5, .blendHolds 1000]

/-- Everyone answers, with emissions of 7. -/
def Env.emitting : Env := { Env.honest with claim := fun _ => some 7 }

theorem claim_survives_iff_sample :
    ∃ t, executeHarvestYield .emitting (.start harvestable) = .ok ((), t) ∧
      t.world.treasuryBlnd = 7 := by
  have hsettles : LegSurvives .emitting harvestable 1 :=
    .inr (.inr fun _ _ _ => ⟨fun _ => rfl, fun _ => rfl⟩)
  exact (claim_survives_iff .emitting rfl (by decide) rfl rfl).mpr hsettles

/-- Blend on ice: status 3, it pays out, and it takes no supplies. -/
def Env.onIce : Env :=
  { Env.emitting with
    status := fun _ => some 3
    accepts := fun _ c => match c with
      | .supply _ _ _ => false
      | _ => true }

/-- There the harvest fails, and the emissions with it. -/
theorem claim_rolled_back :
    ¬ ∀ (P : Shared) (env : Env) (w₀ : World) (as : List Action) (routed : Int) (status : Nat),
        Deployed w₀ →
        let w := Runs.run (step P) w₀ as
        w.handlerUsdc = 0 → env.claim w.venue = some routed →
        env.status w.venue = some status →
        (∀ v pool token amount, env.accepts v (.donate pool token amount) = true) →
        ∃ t, executeHarvestYield env (.start w) = .ok ((), t) ∧
          t.world.treasuryBlnd = w.treasuryBlnd + routed := by
  intro hclaim
  obtain ⟨t, ht, -⟩ := hclaim .sample .onIce sampleWorld
    [.invoke .honest (.manualToBlend 100), .accrue 5, .blendHolds 1000] 7 3 sampleWorld_deployed
    rfl rfl rfl (fun _ _ _ _ => rfl)
  cases ht

end BlendPool.Handler
