/-
# `BlendPool.Handler.Settings` — what the actions leave alone, and the critical floor

The two executors and the admin's money actions write the principal and the two
timestamps and nothing else of the storage (`SameSettings`), as they are composed
of steps that do; the admin's setters write one setting each, and a submission
adds its event to those seen.

The floor of the cooldown bypass is meant to lie below the routine window.  The
constructor and `set_critical_liquid_floor_bps` see to it; the setters of the
target and the band do not look at the floor.
-/
import BlendPool.Handler.Composition

namespace BlendPool.Handler

open Bounded

/-! ## The frame -/

/-- The storage with the principal and the timestamps blanked. -/
def Storage.settings (st : Storage) : Storage :=
  { st with principalSupplied := 0, lastRebalanceTs := 0, lastHarvestTs := 0 }

/-- A call that left the settings as they were. -/
def SameSettings (s t : Session) : Prop := t.world.storage.settings = s.world.storage.settings

theorem sameSettings_stepRelation : StepRelation SameSettings where
  refl _ := rfl
  trans h h' := Eq.trans h' h
  after _ _ := rfl
  principal _ _ := rfl
  rebalanced _ _ := rfl
  harvested _ _ := rfl
  emit _ _ := rfl

section Frame

/-- Transactions that leave the settings alone. -/
abbrev Quiet {α : Type} (x : Exec α) : Prop := Txn.Respects SameSettings x

/-- The actions leave the settings alone. -/
theorem Composed.quiet {env : Env} {ok : ExtCall → Prop} {α : Type} {x : Exec α}
    (h : Composed env ok x) : Quiet x :=
  h.respects sameSettings_stepRelation

theorem quiet_operation (env : Env) (o : Operation) : Quiet (o.body env) :=
  (composed_operation env o).quiet

theorem quiet_dispatch (env : Env) (action : RebalanceAction) : Quiet (dispatch env action) :=
  (composed_dispatch env action).quiet

end Frame

theorem settings_of_quiet {x : Exec Unit} (hx : Quiet x) {s t : Session}
    (h : x s = .ok ((), t)) : t.world.storage.settings = s.world.storage.settings :=
  hx s () t h

/-! ## Ranges -/

/-- Every setting is one its setter accepts. -/
structure InRange (st : Storage) : Prop where
  target : 0 < st.targetRatioBps ∧ st.targetRatioBps < 10000
  band : st.rebalanceBandBps < 10000
  minTotal : 0 ≤ st.minTotalUsdc
  maxAmount : 0 ≤ st.maxRebalanceAmount
  minAmount : 0 ≤ st.minRebalanceAmount
  reserve : st.usdcReserveTokenId % 2 ≠ 0

theorem inRange_settings {st : Storage} : InRange st.settings ↔ InRange st := by
  constructor
  · intro h
    exact ⟨h.target, h.band, h.minTotal, h.maxAmount, h.minAmount, h.reserve⟩
  · intro h
    exact ⟨h.target, h.band, h.minTotal, h.maxAmount, h.minAmount, h.reserve⟩

theorem inRange_of_quiet {x : Exec Unit} (hx : Quiet x) {s t : Session} (h : x s = .ok ((), t))
    (hs : InRange s.world.storage) : InRange t.world.storage := by
  rw [← inRange_settings, settings_of_quiet hx h]
  exact inRange_settings.mpr hs

theorem Fresh.inRange {st : Storage} (h : Fresh st) : InRange st where
  target := ⟨h.target_pos, h.target_lt⟩
  band := h.band_lt
  minTotal := h.minTotal_nonneg
  maxAmount := h.maxAmount_eq.ge
  minAmount := h.minAmount_eq.ge
  reserve := Nat.mod_two_ne_zero.mpr h.reserve_odd

theorem inRange_invoke {P : Shared} {env : Env} {w : World} {entry : EntryPoint} {t : Session}
    (h : invoke P env w entry = .ok t) (hw : InRange w.storage) : InRange t.world.storage := by
  have hbody := invoke_eq_ok.mp h
  cases entry with
  | verifyXlm envelopeBytes sigData =>
      obtain ⟨-, envelope, -, -, -, -, action, -, u, hu, rfl⟩ := verifyXlm_eq_ok.mp hbody
      have hu := inRange_of_quiet (quiet_dispatch env action) hu hw
      exact { hu with }
  | emergencyUnwind => exact inRange_of_quiet (quiet_operation env .emergencyUnwind) hbody hw
  | manualToBlend amount =>
      exact inRange_of_quiet (quiet_operation env (.manualToBlend amount)) hbody hw
  | manualFromBlend amount =>
      exact inRange_of_quiet (quiet_operation env (.manualFromBlend amount)) hbody hw
  | setMaxRebalanceAmount amount =>
      obtain ⟨-, hvalid, rfl⟩ := configure_eq_ok.mp hbody
      exact { hw with maxAmount := of_decide_eq_true hvalid }
  | setMinRebalanceAmount amount =>
      obtain ⟨-, hvalid, rfl⟩ := configure_eq_ok.mp hbody
      exact { hw with minAmount := of_decide_eq_true hvalid }
  | setTargetRatioBps bps =>
      obtain ⟨-, hvalid, rfl⟩ := configure_eq_ok.mp hbody
      exact { hw with target := of_decide_eq_true hvalid }
  | setRebalanceBandBps bps =>
      obtain ⟨-, hvalid, rfl⟩ := configure_eq_ok.mp hbody
      exact { hw with band := of_decide_eq_true hvalid }
  | setMinTotalUsdc amount =>
      obtain ⟨-, hvalid, rfl⟩ := configure_eq_ok.mp hbody
      exact { hw with minTotal := of_decide_eq_true hvalid }
  | setUsdcReserveTokenId id =>
      obtain ⟨-, hvalid, rfl⟩ := configure_eq_ok.mp hbody
      exact { hw with reserve := of_decide_eq_true hvalid }
  | setCriticalLiquidFloorBps _ | pause | unpause | setRebalanceCooldownSecs _
  | setBlndTreasury _ | upgrade _ =>
      obtain ⟨-, -, rfl⟩ := configure_eq_ok.mp hbody
      exact { hw with }
  | proposeAdmin newAdmin =>
      obtain ⟨pending, -, rfl⟩ := proposeAdmin_eq_ok.mp hbody
      exact { hw with }
  | acceptAdmin =>
      obtain ⟨accepted, -, rfl⟩ := acceptAdmin_eq_ok.mp hbody
      exact { hw with }

theorem inRange_step {P : Shared} {w : World} (hw : InRange w.storage) (a : Action) :
    InRange (step P w a).storage := by
  refine storage_step hw ?_
  intro env entry t _ h
  exact inRange_invoke h hw

theorem inRange_run (P : Shared) {w₀ : World} (h₀ : Deployed w₀) (as : List Action) :
    InRange (Runs.run (step P) w₀ as).storage := by
  obtain ⟨c, hc⟩ := h₀.constructed
  exact Runs.Invariant.run (step P) (I := fun w => InRange w.storage)
    (fun _ a hw => inRange_step hw a) (constructor_fresh hc).inRange as

/-! ## The critical floor -/

/-- The bypass is off, or its floor lies below the routine window. -/
def FloorBelowBand (st : Storage) : Prop :=
  st.criticalLiquidFloorBps = 0 ∨
    st.criticalLiquidFloorBps < lowerBandBps st.targetRatioBps st.rebalanceBandBps

instance decFloorBelowBand (st : Storage) : Decidable (FloorBelowBand st) :=
  inferInstanceAs (Decidable (_ ∨ _))

/-- The setters of the target and the band, when they go through, are given a
value that leaves the floor below the window. -/
def KeepsFloor (w : World) : Action → Prop
  | .invoke env (.setTargetRatioBps bps) =>
      env.auth w.storage.admin = true → 0 < bps ∧ bps < 10000 →
        w.storage.criticalLiquidFloorBps = 0 ∨
          w.storage.criticalLiquidFloorBps < bps - w.storage.rebalanceBandBps
  | .invoke env (.setRebalanceBandBps bps) =>
      env.auth w.storage.admin = true → bps < 10000 →
        w.storage.criticalLiquidFloorBps = 0 ∨
          w.storage.criticalLiquidFloorBps < w.storage.targetRatioBps - bps
  | _ => True

theorem floorBelowBand_of_settings {st st' : Storage} (h : st'.settings = st.settings) :
    FloorBelowBand st' ↔ FloorBelowBand st := by
  have htarget := congrArg Storage.targetRatioBps h
  have hband := congrArg Storage.rebalanceBandBps h
  have hfloor := congrArg Storage.criticalLiquidFloorBps h
  dsimp only [Storage.settings] at htarget hband hfloor
  rw [FloorBelowBand, htarget, hband, hfloor]
  exact Iff.rfl

theorem floorBelowBand_quiet {x : Exec Unit} (hx : Quiet x) {w : World} {t : Session}
    (h : x (.start w) = .ok ((), t)) : FloorBelowBand t.world.storage ↔ FloorBelowBand w.storage :=
  floorBelowBand_of_settings (settings_of_quiet hx h)

theorem floorBelowBand_invoke {P : Shared} {env : Env} {w : World} {entry : EntryPoint}
    {t : Session} (h : invoke P env w entry = .ok t) (hw : FloorBelowBand w.storage) :
    FloorBelowBand t.world.storage ↔ KeepsFloor w (.invoke env entry) := by
  have hbody := invoke_eq_ok.mp h
  have hsame : FloorBelowBand w.storage ↔ True := iff_true_intro hw
  cases entry with
  | verifyXlm envelopeBytes sigData =>
      obtain ⟨-, envelope, -, -, -, -, action, -, u, hu, rfl⟩ := verifyXlm_eq_ok.mp hbody
      exact (floorBelowBand_quiet (quiet_dispatch env action) hu).trans hsame
  | emergencyUnwind =>
      exact (floorBelowBand_quiet (quiet_operation env .emergencyUnwind) hbody).trans hsame
  | manualToBlend amount =>
      exact (floorBelowBand_quiet (quiet_operation env (.manualToBlend amount)) hbody).trans hsame
  | manualFromBlend amount =>
      exact (floorBelowBand_quiet (quiet_operation env (.manualFromBlend amount)) hbody).trans hsame
  | setTargetRatioBps bps =>
      obtain ⟨hauth, hvalid, rfl⟩ := configure_eq_ok.mp hbody
      have hrange : 0 < bps ∧ bps < 10000 := of_decide_eq_true hvalid
      exact ⟨fun hf _ _ => hf, fun hk => hk hauth hrange⟩
  | setRebalanceBandBps bps =>
      obtain ⟨hauth, hvalid, rfl⟩ := configure_eq_ok.mp hbody
      have hrange : bps < 10000 := of_decide_eq_true hvalid
      exact ⟨fun hf _ _ => hf, fun hk => hk hauth hrange⟩
  | setCriticalLiquidFloorBps bps =>
      obtain ⟨-, hvalid, rfl⟩ := configure_eq_ok.mp hbody
      exact iff_true_intro (.inr (of_decide_eq_true hvalid))
  | setMaxRebalanceAmount _ | setMinRebalanceAmount _ | pause | unpause | setMinTotalUsdc _
  | setRebalanceCooldownSecs _ | setBlndTreasury _ | setUsdcReserveTokenId _ | upgrade _ =>
      -- one other setting each
      obtain ⟨-, -, rfl⟩ := configure_eq_ok.mp hbody
      exact hsame
  | proposeAdmin newAdmin =>
      obtain ⟨pending, -, rfl⟩ := proposeAdmin_eq_ok.mp hbody
      exact hsame
  | acceptAdmin =>
      obtain ⟨accepted, -, rfl⟩ := acceptAdmin_eq_ok.mp hbody
      exact hsame

/-- A setter that was authorised and given a value it accepts does not fail. -/
theorem invoke_configure_ne_error {P : Shared} {env : Env} {w : World} {entry : EntryPoint}
    {valid : Storage → Bool} {failure e : Failure} {write : Storage → Storage} {event : Event}
    (hbody : entry.body P env = configure env valid failure write event)
    (hauth : env.auth w.storage.admin = true) (hvalid : valid w.storage = true) :
    invoke P env w entry ≠ .error e := by
  have hok : invoke P env w entry = .ok (((Session.start w).update write).emit event) := by
    rw [invoke_eq_ok, hbody]
    exact configure_eq_ok.mpr ⟨hauth, hvalid, rfl⟩
  rw [hok]
  intro h
  cases h

theorem keepsFloor_of_error {P : Shared} {env : Env} {w : World} {entry : EntryPoint} {e : Failure}
    (h : invoke P env w entry = .error e) : KeepsFloor w (.invoke env entry) := by
  cases entry with
  | setTargetRatioBps bps =>
      intro hauth hrange
      exact absurd h (invoke_configure_ne_error rfl hauth (decide_eq_true hrange))
  | setRebalanceBandBps bps =>
      intro hauth hrange
      exact absurd h (invoke_configure_ne_error rfl hauth (decide_eq_true hrange))
  | _ => exact trivial

theorem floorBelowBand_step (P : Shared) (w : World) (a : Action) (hw : FloorBelowBand w.storage) :
    FloorBelowBand (step P w a).storage ↔ KeepsFloor w a := by
  cases a with
  | invoke env entry =>
      cases h : invoke P env w entry with
      | ok t =>
          rw [step_invoke_ok h]
          exact floorBelowBand_invoke h hw
      | error e =>
          rw [step_invoke_error h]
          exact iff_of_true hw (keepsFloor_of_error h)
  | trade _ _ | accrue _ | writeDown _ | blendHolds _ | send _ | advance _ _ =>
      exact iff_of_true hw trivial

/-- From the deployment on, the floor lies below the window in every state of a
run exactly when the setters of the target and the band are careful in it. -/
theorem critical_floor_iff (P : Shared) {w₀ : World} (h₀ : Deployed w₀) (as : List Action) :
    Runs.Always (step P) (fun w => FloorBelowBand w.storage) w₀ as ↔
      Runs.Along (step P) KeepsFloor w₀ as := by
  obtain ⟨c, hc⟩ := h₀.constructed
  have hfloor : FloorBelowBand w₀.storage := .inr (constructor_fresh hc).floor_lt
  exact Runs.always_iff_along (step P) (floorBelowBand_step P) hfloor

/-- The sample deployment: raise the target, widen the band, move the floor. -/
theorem critical_floor_iff_sample :
    Runs.Always (step .sample) (fun w => FloorBelowBand w.storage) sampleWorld
      [.invoke .honest (.setTargetRatioBps 6000), .invoke .honest (.setRebalanceBandBps 1000),
        .invoke .honest (.setCriticalLiquidFloorBps 4999)] :=
  (critical_floor_iff .sample sampleWorld_deployed _).mpr
    ⟨fun _ _ => by decide, fun _ _ => by decide, trivial, trivial⟩

/-- Lowering the target to 10% leaves the floor at 20%, above the window. -/
theorem critical_floor_overlaps :
    ∃ w₀ as, Deployed w₀ ∧
      ¬ Runs.Always (step .sample) (fun w => FloorBelowBand w.storage) w₀ as := by
  refine ⟨sampleWorld, [.invoke .honest (.setTargetRatioBps 1000)], sampleWorld_deployed, ?_⟩
  intro h
  exact absurd h.last (by decide)

end BlendPool.Handler
