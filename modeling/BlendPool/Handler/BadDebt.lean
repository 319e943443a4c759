/-
# `BlendPool.Handler.BadDebt` — which losses are announced

`BadDebtDetected` is for a principal that shrinks because Blend redeemed less.  Two
actions book such a loss, and one of them announces it: a harvest does, always and
with the right amounts, and an unwind does not.  So over a run from the deployment the
announced shortfalls account for the gap between the pool's delegated counter and the
principal exactly when no unwind in it came back short.
-/
import BlendPool.Handler.Principal

namespace BlendPool.Handler

open Bounded

/-! ## Announcements -/

def Event.isBadDebt : Event → Bool
  | .badDebtDetected _ _ _ => true
  | _ => false

def Event.announcedShortfall : Event → Int
  | .badDebtDetected _ _ shortfall => shortfall
  | _ => 0

/-- The losses a session has announced. -/
def Session.badDebts (s : Session) : List Event := s.events.filter Event.isBadDebt

/-- The announcements due for withdrawals against a principal: one for each that came
back short. -/
def lossEvents (principal : Int) (redeemed : List Int) : List Event :=
  (redeemed.filter (· < principal)).map fun r => .badDebtDetected principal r (principal - r)

theorem badDebts_emit (s : Session) {e : Event} (h : e.isBadDebt = false) :
    (s.emit e).badDebts = s.badDebts := by
  rw [Session.badDebts, Session.emit_events, List.filter_append, List.filter_singleton, h]
  exact List.append_nil _

theorem badDebts_emitIf (s : Session) (p : Prop) [Decidable p] {e : Event}
    (h : e.isBadDebt = false) : (s.emitIf p e).badDebts = s.badDebts := by
  rw [Session.badDebts, Session.emitIf_events, List.filter_append]
  split
  · rw [List.filter_singleton, h]
    exact List.append_nil _
  · exact List.append_nil _

theorem badDebts_afterIf (s : Session) (p : Prop) [Decidable p] (c : ExtCall) :
    (s.afterIf p c).badDebts = s.badDebts := by
  rw [Session.afterIf]
  split
  · rfl
  · rfl

theorem sum_lossEvents (principal : Int) (redeemed : List Int) :
    ((lossEvents principal redeemed).map Event.announcedShortfall).sum =
      (redeemed.map fun r => max 0 (principal - r)).sum := by
  induction redeemed with
  | nil => rfl
  | cons r rs ih =>
      rw [lossEvents] at ih ⊢
      rw [List.filter_cons, List.map_cons, List.sum_cons]
      split
      · next hshort =>
          have hlt : r < principal := of_decide_eq_true hshort
          rw [List.map_cons, List.map_cons, List.sum_cons, ih, Event.announcedShortfall]
          omega
      · next hfull =>
          have hge : ¬ r < principal := fun hlt => hfull (decide_eq_true hlt)
          rw [ih]
          omega

/-! ## What each action announces -/

section

variable {env : Env} {s t : Session} {w : World}

theorem executeRebalance_badDebts (h : executeRebalance env s = .ok ((), t)) :
    t.badDebts = s.badDebts := by
  obtain rfl | ⟨g, _, _, hto | hfrom⟩ := executeRebalance_branches h
  · rfl
  · obtain ⟨_, -, ⟨-, rfl⟩ | ⟨-, -, -, _, -, _, -, _, -, -, rfl⟩⟩ := rebalanceToBlend_eq_ok.mp hto
    · rfl
    · exact badDebts_emit _ rfl
  · obtain ⟨_, -, ⟨-, rfl⟩ | ⟨-, ⟨-, _, -, -, -, _, -, _, -, _, -, -, rfl⟩ | ⟨-, -, rfl⟩⟩⟩ :=
      rebalanceFromBlend_eq_ok.mp hfrom
    · rfl
    · exact (badDebts_emitIf _ _ rfl).trans (badDebts_emit _ rfl)
    · exact badDebts_emitIf _ _ rfl

theorem manualToBlend_badDebts {amount : Int} (h : manualToBlend env amount s = .ok ((), t)) :
    t.badDebts = s.badDebts := by
  obtain ⟨-, -, -, _, -, -, -, -, _, -, _, -, -, rfl⟩ := manualToBlend_eq_ok.mp h
  exact badDebts_emit _ rfl

theorem manualFromBlend_badDebts {amount : Int} (h : manualFromBlend env amount s = .ok ((), t)) :
    t.badDebts = s.badDebts := by
  obtain ⟨-, -, -, -, _, -, -, -, _, -, _, -, -, rfl⟩ := manualFromBlend_eq_ok.mp h
  exact badDebts_emit _ rfl

theorem emergencyUnwind_badDebts (h : emergencyUnwind env s = .ok ((), t)) :
    t.badDebts = s.badDebts := by
  obtain ⟨-, ⟨hp, _, _, hdrain, -, rfl⟩ | ⟨-, -, rfl⟩⟩ := emergencyUnwind_eq_ok.mp h
  · obtain ⟨_, -, -, -, -, rfl⟩ := (drain_eq_ok hp).mp hdrain
    refine (badDebts_emit _ rfl).trans ?_
    exact (badDebts_afterIf _ _ _).trans (badDebts_afterIf _ _ _)
  · exact badDebts_emit _ rfl

theorem badDebts_reported (s : Session) (now : Nat) (routed : Int) (leg : Int × Int)
    (healthy : Bool) (principal : Int) :
    (s.reported now routed leg healthy principal).badDebts = s.badDebts := by
  rw [Session.reported]
  split
  · exact badDebts_emit _ rfl
  · exact badDebts_emit _ rfl

theorem badDebts_settled (s : Session) (st : Storage) (r : Int) :
    (s.settled st r).badDebts = s.badDebts ++ lossEvents st.principalSupplied [r] := by
  rw [Session.settled, badDebts_afterIf, Session.badDebts, Session.emitIf_events,
    Session.update_events, List.filter_append]
  have hbefore : (s.afterIf (0 < min st.principalSupplied r)
      (.supply st.blendPool st.usdc (min st.principalSupplied r))).events.filter Event.isBadDebt =
      s.badDebts := badDebts_afterIf s _ _
  rw [hbefore, lossEvents, List.filter_singleton]
  split
  · next hshort =>
      rw [decide_eq_true hshort]
      rfl
  · next hfull =>
      rw [decide_eq_false hfull]
      rfl

theorem redemptions_settled (s : Session) (st : Storage) (r : Int) :
    redemptions (s.settled st r).calls = redemptions s.calls := by
  rw [Session.settled, redemptions_afterIf rfl, Session.emitIf_calls, Session.update_calls,
    redemptions_afterIf rfl]

/-- A harvest announces every withdrawal that came back short of the principal. -/
theorem executeHarvestYield_badDebts (h : executeHarvestYield env (.start w) = .ok ((), t)) :
    t.badDebts = lossEvents w.storage.principalSupplied (redemptions t.calls) := by
  obtain ⟨routed, -, status, -, ⟨hgo, leg, v, hleg, -, rfl⟩ | ⟨-, -, rfl⟩⟩ :=
    executeHarvestYield_eq_ok.mp h
  · rw [badDebts_reported, (Session.reported_books _ _ _ _ _ _).2]
    obtain ⟨delivery, -, -, hsettle⟩ | ⟨-, -, rfl⟩ := interestLeg_eq_ok.mp hleg
    · obtain ⟨hr, hmax⟩ := delivery.property
      obtain ⟨-, -, -, -, rfl⟩ := (settleInterest_eq_ok hgo.1 hr hmax).mp hsettle
      rw [badDebts_settled, redemptions_settled, redemptions_after, redemptions_after]
      rfl
    · exact badDebts_emit _ rfl
  · rw [badDebts_reported, (Session.reported_books _ _ _ _ _ _).2]
    rfl

theorem setting_badDebts {P : Shared} {entry : EntryPoint} (h : invoke P env w entry = .ok t)
    (hsetting : entry.setting = true) : t.badDebts = [] := by
  have hbody := invoke_eq_ok.mp h
  cases entry with
  | verifyXlm _ _ | emergencyUnwind | manualToBlend _ | manualFromBlend _ => cases hsetting
  | setMaxRebalanceAmount _ | setMinRebalanceAmount _ | pause | unpause | setTargetRatioBps _
  | setRebalanceBandBps _ | setCriticalLiquidFloorBps _ | setMinTotalUsdc _
  | setRebalanceCooldownSecs _ | setBlndTreasury _ | setUsdcReserveTokenId _ | upgrade _ =>
      obtain ⟨-, -, rfl⟩ := configure_eq_ok.mp hbody
      exact badDebts_emit _ rfl
  | proposeAdmin newAdmin =>
      obtain ⟨pending, -, rfl⟩ := proposeAdmin_eq_ok.mp hbody
      rfl
  | acceptAdmin =>
      obtain ⟨accepted, -, rfl⟩ := acceptAdmin_eq_ok.mp hbody
      rfl

end

/-! ## Steps -/

/-- The losses a step announces. -/
def announcedLosses (P : Shared) (w : World) : Action → List Event
  | .invoke env entry =>
      match invoke P env w entry with
      | .ok t => t.badDebts
      | .error _ => []
  | _ => []

/-- The announcements due for a step: the drains that came back short of the principal. -/
def dueLosses (P : Shared) (w : World) : Action → List Event
  | .invoke env entry =>
      match invoke P env w entry with
      | .ok t =>
          if entry.drains P then lossEvents w.storage.principalSupplied (redemptions t.calls)
          else []
      | .error _ => []
  | _ => []

/-- The sum of the shortfalls a step announces. -/
def announcedShortfall (P : Shared) (w : World) (a : Action) : Int :=
  ((announcedLosses P w a).map Event.announcedShortfall).sum

/-- The step announces the losses it books, and no others. -/
def Announces (P : Shared) (w : World) (a : Action) : Prop :=
  announcedLosses P w a = dueLosses P w a

/-- An unwind that goes through although Blend delivers less than the principal. -/
def ShortUnwind (w : World) : Action → Prop
  | .invoke env .emergencyUnwind =>
      let st := w.storage
      env.auth st.admin = true ∧ w.handlerUsdc = 0 ∧
        ∃ delivery, env.withdraw w.venue i128Max = some delivery ∧
          delivery.val < st.principalSupplied ∧ delivery.val ≤ w.venue.blend.held ∧
          CanReturn env ((Session.start w).after
            (.withdraw st.blendPool st.usdc i128Max delivery.val)) st delivery.val
  | _ => False

section

variable {P : Shared} {env : Env} {w : World} {t : Session}

theorem unwind_due (h : invoke P env w .emergencyUnwind = .ok t) :
    dueLosses P w (.invoke env .emergencyUnwind) =
      lossEvents w.storage.principalSupplied (redemptions t.calls) := by
  rw [dueLosses, h]
  rfl

theorem ShortUnwind.ok (h : ShortUnwind w (.invoke env .emergencyUnwind)) :
    ∃ t r, invoke P env w .emergencyUnwind = .ok t ∧ r < w.storage.principalSupplied ∧
      redemptions t.calls = [r] := by
  obtain ⟨hauth, hempty, delivery, hdelivery, hshort, hheld, hreturn⟩ := h
  have hp : 0 < w.storage.principalSupplied := delivery.property.1.trans_lt hshort
  have hperforms := Performs.returned (s := .start w) (rfl : w.storage = w.storage) hp
    delivery.property.1 rfl
  have hclean := congrArg Books.usdc hperforms.books
  exact ⟨_, delivery.val, invoke_eq_ok.mpr (emergencyUnwind_eq_ok.mpr ⟨hauth, .inl ⟨hp, _, _,
    (drain_eq_ok hp).mpr ⟨delivery, hdelivery, hheld, hreturn, rfl, rfl⟩, hclean.trans hempty,
    rfl⟩⟩), hshort, hperforms.redemptions⟩

theorem unwind_due_of_not_short (h : invoke P env w .emergencyUnwind = .ok t)
    (hnot : ¬ ShortUnwind w (.invoke env .emergencyUnwind)) :
    lossEvents w.storage.principalSupplied (redemptions t.calls) = [] := by
  obtain ⟨hauth, ⟨hp, _, u, hdrain, hzero, rfl⟩ | ⟨-, -, rfl⟩⟩ :=
    emergencyUnwind_eq_ok.mp (invoke_eq_ok.mp h)
  · obtain ⟨delivery, hdelivery, hheld, hreturn, rfl, hu⟩ := (drain_eq_ok hp).mp hdrain
    have hperforms := Performs.returned (s := .start w) rfl hp delivery.property.1 hu
    have hempty : w.handlerUsdc = 0 := (congrArg Books.usdc hperforms.books).symm.trans hzero
    have hfull : ¬ delivery.val < w.storage.principalSupplied := fun hshort =>
      hnot ⟨hauth, hempty, delivery, hdelivery, hshort, hheld, hreturn⟩
    have hlog : redemptions (u.unwound delivery.val w.storage.principalSupplied).calls =
        [delivery.val] := hperforms.redemptions
    show lossEvents w.storage.principalSupplied
      (redemptions (u.unwound delivery.val w.storage.principalSupplied).calls) = []
    rw [hlog, lossEvents, List.filter_singleton, decide_eq_false hfull]
    rfl
  · rfl

/-- An accepted harvest announces what is due for it, an accepted rebalance nothing. -/
theorem submission_announces {envelopeBytes : Bytes} {sigData : Ed25519SignatureData}
    (h : invoke P env w (.verifyXlm envelopeBytes sigData) = .ok t) :
    t.badDebts = if (EntryPoint.verifyXlm envelopeBytes sigData).drains P then
      lossEvents w.storage.principalSupplied (redemptions t.calls) else [] := by
  obtain ⟨-, envelope, henvelope, -, -, -, action, haction, u, hu, rfl⟩ :=
    verifyXlm_eq_ok.mp (invoke_eq_ok.mp h)
  have hdecoded : (P.decodeEnvelope envelopeBytes).bind (fun e => P.decodeAction e.payload) =
      some action := by
    rw [henvelope, Option.bind_some, haction]
  rw [EntryPoint.drains, hdecoded, badDebts_emit _ rfl]
  cases action with
  | rebalance => exact executeRebalance_badDebts hu
  | harvestYield =>
      have hlosses : u.badDebts = lossEvents w.storage.principalSupplied (redemptions u.calls) :=
        executeHarvestYield_badDebts hu
      exact hlosses

theorem announces_of_not_short {a : Action} (hnot : ¬ ShortUnwind w a) : Announces P w a := by
  cases a with
  | invoke env entry =>
      cases h : invoke P env w entry with
      | error e => rw [Announces, announcedLosses, dueLosses, h]
      | ok t =>
          have hevents : announcedLosses P w (.invoke env entry) = t.badDebts := by
            rw [announcedLosses, h]
          have hdue : dueLosses P w (.invoke env entry) = if entry.drains P then
              lossEvents w.storage.principalSupplied (redemptions t.calls) else [] := by
            rw [dueLosses, h]
          rw [Announces, hevents, hdue]
          cases entry with
          | verifyXlm envelopeBytes sigData => exact submission_announces h
          | emergencyUnwind =>
              refine (emergencyUnwind_badDebts (invoke_eq_ok.mp h)).trans ?_
              exact (unwind_due_of_not_short h hnot).symm
          | manualToBlend amount => exact manualToBlend_badDebts (invoke_eq_ok.mp h)
          | manualFromBlend amount => exact manualFromBlend_badDebts (invoke_eq_ok.mp h)
          | _ => exact setting_badDebts h rfl
  | trade _ _ | accrue _ | writeDown _ | blendHolds _ | send _ | advance _ _ => rfl

theorem announced_of_short {a : Action} (hshort : ShortUnwind w a) :
    announcedLosses P w a = [] ∧ ∃ r, r < w.storage.principalSupplied ∧
      dueLosses P w a = [.badDebtDetected w.storage.principalSupplied r
        (w.storage.principalSupplied - r)] ∧
      shortfall P w a = w.storage.principalSupplied - r := by
  cases a with
  | invoke env entry =>
      cases entry with
      | emergencyUnwind =>
          obtain ⟨t, r, ht, hr, hlog⟩ := hshort.ok (P := P)
          refine ⟨?_, r, hr, ?_, ?_⟩
          · rw [announcedLosses, ht]
            exact emergencyUnwind_badDebts (invoke_eq_ok.mp ht)
          · rw [unwind_due ht, hlog, lossEvents, List.filter_singleton, decide_eq_true hr]
            rfl
          · rw [shortfall_invoke_ok ht, hlog]
            show max 0 (w.storage.principalSupplied - r) + 0 = _
            omega
      | _ => exact hshort.elim
  | trade _ _ | accrue _ | writeDown _ | blendHolds _ | send _ | advance _ _ =>
      exact hshort.elim

theorem sum_dueLosses (a : Action) :
    ((dueLosses P w a).map Event.announcedShortfall).sum = shortfall P w a := by
  cases a with
  | invoke env entry =>
      cases h : invoke P env w entry with
      | error e => rw [dueLosses, shortfall, h]; rfl
      | ok t =>
          rw [dueLosses, shortfall, h]
          dsimp only
          split
          · exact sum_lossEvents _ _
          · rfl
  | trade _ _ | accrue _ | writeDown _ | blendHolds _ | send _ | advance _ _ => rfl

/-- A step announces the losses it books exactly if it is not a short unwind. -/
theorem announces_iff {a : Action} : Announces P w a ↔ ¬ ShortUnwind w a := by
  refine ⟨?_, announces_of_not_short⟩
  intro hsame hshort
  obtain ⟨hnone, r, -, hdue, -⟩ := announced_of_short (P := P) hshort
  rw [Announces, hnone, hdue] at hsame
  cases hsame

theorem unannounced_iff {a : Action} :
    0 ≤ shortfall P w a - announcedShortfall P w a ∧
      (shortfall P w a - announcedShortfall P w a = 0 ↔ ¬ ShortUnwind w a) := by
  rcases Classical.em (ShortUnwind w a) with hshort | hnot
  · obtain ⟨hnone, r, hr, -, hlost⟩ := announced_of_short (P := P) hshort
    rw [announcedShortfall, hnone, hlost]
    refine ⟨?_, ?_⟩
    · show 0 ≤ w.storage.principalSupplied - r - 0
      omega
    · refine iff_of_false ?_ (not_not.mpr hshort)
      show w.storage.principalSupplied - r - 0 ≠ 0
      omega
  · have hsame : announcedShortfall P w a = shortfall P w a := by
      rw [announcedShortfall, announces_of_not_short hnot, sum_dueLosses]
    rw [hsame, Int.sub_self]
    exact ⟨le_refl 0, iff_of_true rfl hnot⟩

end

/-! ## Runs -/

/-- In a run from the deployment: every step announces exactly the losses it books, if and
only if no unwind that goes through is delivered less than the principal; and the same
holds of the announced shortfalls adding up to the gap between the two counters. -/
theorem bad_debt_announced_iff (P : Shared) {w₀ : World} (h₀ : Deployed w₀) (as : List Action) :
    let w := Runs.run (step P) w₀ as
    let NoShortUnwind := Runs.Along (step P) (fun w a => ¬ ShortUnwind w a) w₀ as
    (Runs.Along (step P) (Announces P) w₀ as ↔ NoShortUnwind) ∧
    (Runs.tally (step P) (announcedShortfall P) w₀ as =
        w.venue.pool.delegated - w.storage.principalSupplied ↔ NoShortUnwind) := by
  intro w NoShortUnwind
  refine ⟨Runs.along_congr (step P) fun _ _ => announces_iff, ?_⟩
  have hgap : w.venue.pool.delegated - w.storage.principalSupplied =
      Runs.tally (step P) (shortfall P) w₀ as := gap_eq_tally h₀ as
  have hrest := Runs.tally_sub (step P) (shortfall P) (announcedShortfall P) w₀ as
  have hzero : Runs.tally (step P) (fun w a => shortfall P w a - announcedShortfall P w a) w₀ as =
      0 ↔ NoShortUnwind := by
    refine (Runs.tally_eq_zero_iff (step P) fun _ _ => unannounced_iff.1).trans ?_
    exact Runs.along_congr (step P) fun _ _ => unannounced_iff.2
  rw [hgap, ← hzero, hrest, sub_eq_zero]
  exact eq_comm

/-- 600 supplied and 100 of them lost in Blend. -/
def lossBefore (last : Action) : List Action :=
  [.invoke .honest (.manualToBlend 600), .writeDown 100, last]

/-- A harvest announces the loss. -/
theorem bad_debt_announced_harvest :
    let harvest := Action.invoke .honest (.verifyXlm (List.replicate 20 7 ++ [1]) ⟨[], [], 500⟩)
    let w := Runs.run (step .sample) sampleWorld (lossBefore harvest)
    Runs.tally (step .sample) (announcedShortfall .sample) sampleWorld (lossBefore harvest) =
        w.venue.pool.delegated - w.storage.principalSupplied ∧
      w.venue.pool.delegated - w.storage.principalSupplied = 100 := by
  intro harvest w
  have hnone : Runs.Along (step .sample) (fun w a => ¬ ShortUnwind w a) sampleWorld
      (lossBefore harvest) := ⟨id, id, id, trivial⟩
  exact ⟨(bad_debt_announced_iff .sample sampleWorld_deployed _).2.mpr hnone, by decide⟩

/-- An unwind books the same loss, and does not. -/
theorem unwind_unannounced :
    ∃ w₀ as, Deployed w₀ ∧ ¬ Runs.Along (step .sample) (Announces .sample) w₀ as ∧
      Runs.tally (step .sample) (announcedShortfall .sample) w₀ as ≠
        (Runs.run (step .sample) w₀ as).venue.pool.delegated -
          (Runs.run (step .sample) w₀ as).storage.principalSupplied := by
  refine ⟨sampleWorld, lossBefore (.invoke .honest .emergencyUnwind), sampleWorld_deployed, ?_,
    by decide⟩
  rintro ⟨-, -, hunwind, -⟩
  exact absurd hunwind (by unfold Announces; decide)

end BlendPool.Handler
