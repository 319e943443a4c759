/-
# `BlendPool.Handler.Pause` — what goes on while the handler is paused

Three entry points look at the pause flag, each for itself, and fifteen do not.
What those fifteen can still do is settings, the admin transfer and an unwind;
an unwind only brings money home.  A submission that comes in during the pause
fails before it marks anything, so the run is the same without it.
-/
import BlendPool.Handler.Cooldown
import BlendPool.Handler.Replay

namespace BlendPool.Handler

/-- The entry points that a pause closes. -/
def EntryPoint.closed : EntryPoint → Bool
  | .verifyXlm _ _ | .manualToBlend _ | .manualFromBlend _ => true
  | _ => false

/-- The call takes USDC out of the pool, or puts it into Blend. -/
def ExtCall.spends : ExtCall → Bool
  | .withdrawToDelegate _ _ _ | .supply _ _ _ => true
  | _ => false

/-- The action submits these bytes. -/
def Action.submits (envelopeBytes : Bytes) : Action → Bool
  | .invoke _ (.verifyXlm bytes _) => bytes = envelopeBytes
  | _ => false

/-- What a call that goes through in a pause may have done. -/
structure Harmless (w : World) (entry : EntryPoint) (t : Session) : Prop where
  unlocked : entry.closed = false
  seen : t.world.storage.eventSeen = w.storage.eventSeen
  lastRebalance : t.world.storage.lastRebalanceTs = w.storage.lastRebalanceTs
  lastHarvest : t.world.storage.lastHarvestTs = w.storage.lastHarvestTs
  principal : t.world.storage.principalSupplied = w.storage.principalSupplied ∨
    entry = .emergencyUnwind ∧ t.world.storage.principalSupplied = 0
  spends : ∀ c ∈ t.calls, c.spends = false
  liquid : w.venue.pool.liquid ≤ t.world.venue.pool.liquid
  moves : entry ≠ .emergencyUnwind →
    t.calls = [] ∧ t.world = { w with storage := t.world.storage }

/-! ## One call -/

theorem mem_calls_afterIf {s : Session} {p : Prop} [Decidable p] {c c' : ExtCall}
    (h : c' ∈ (s.afterIf p c).calls) : c' ∈ s.calls ∨ c' = c := by
  rw [Session.afterIf] at h
  split at h
  · rw [Session.after_calls, List.mem_append, List.mem_singleton] at h
    exact h
  · exact .inl h

section

variable {P : Shared} {env : Env} {w : World} {entry : EntryPoint} {t : Session}

theorem emergencyUnwind_spends (h : emergencyUnwind env (.start w) = .ok ((), t)) :
    ∀ c ∈ t.calls, c.spends = false := by
  obtain ⟨-, ⟨hp, redeemed, u, hdrain, -, rfl⟩ | ⟨-, -, rfl⟩⟩ := emergencyUnwind_eq_ok.mp h
  · obtain ⟨delivery, -, -, -, -, rfl⟩ := (drain_eq_ok hp).mp hdrain
    intro c hc
    obtain hc | rfl := mem_calls_afterIf hc
    · obtain hc | rfl := mem_calls_afterIf hc
      · obtain rfl := List.mem_singleton.mp hc
        rfl
      · rfl
    · rfl
  · intro c hc
    cases hc

theorem emergencyUnwind_liquid (h : emergencyUnwind env (.start w) = .ok ((), t)) :
    w.venue.pool.liquid ≤ t.world.venue.pool.liquid := by
  obtain ⟨-, delivery, -, hf⟩ | ⟨-, hf⟩ := emergencyUnwind_flow h
  · have hliquid : t.world.venue.pool.liquid = w.venue.pool.liquid + delivery.val :=
      congrArg Books.liquid hf.books
    rw [hliquid]
    exact Int.le_add_of_nonneg_right delivery.property.1
  · have hliquid : t.world.venue.pool.liquid = w.venue.pool.liquid :=
      congrArg Books.liquid hf.books
    exact hliquid.ge

theorem emergencyUnwind_harmless (h : emergencyUnwind env (.start w) = .ok ((), t)) :
    Harmless w .emergencyUnwind t := by
  have hst : t.world.storage = w.storage.withPrincipal 0 := emergencyUnwind_storage h
  exact
    { unlocked := rfl
      seen := by rw [hst]; rfl
      lastRebalance := by rw [hst]; rfl
      lastHarvest := by rw [hst]; rfl
      principal := .inr ⟨rfl, by rw [hst]; rfl⟩
      spends := emergencyUnwind_spends h
      liquid := emergencyUnwind_liquid h
      moves := fun hother => absurd rfl hother }

theorem harmless_setting (hentry : entry.setting = true) (hwrote : Wrote w t) :
    Harmless w entry t := by
  have hopen : entry.closed = false := by
    cases entry with
    | verifyXlm _ _ | manualToBlend _ | manualFromBlend _ => cases hentry
    | _ => rfl
  have hnone : ∀ c ∈ t.calls, c.spends = false := by
    rw [hwrote.calls]
    intro c hc
    cases hc
  exact
    { unlocked := hopen
      seen := hwrote.seen
      lastRebalance := hwrote.lastRebalance
      lastHarvest := hwrote.lastHarvest
      principal := .inl hwrote.principal
      spends := hnone
      liquid := by rw [hwrote.world]
      moves := fun _ => ⟨hwrote.calls, hwrote.world⟩ }

theorem invoke_harmless (h : invoke P env w entry = .ok t) (hpaused : w.storage.paused = true) :
    Harmless w entry t := by
  have hshut : w.storage.paused ≠ false := by
    rw [hpaused]
    exact Bool.noConfusion
  cases invoke_done h with
  | submission _ _ _ => exact absurd (verifyXlm_eq_ok.mp (invoke_eq_ok.mp h)).1 hshut
  | manualToBlend hbody => exact absurd (manualToBlend_eq_ok.mp hbody).2.2.1 hshut
  | manualFromBlend hbody => exact absurd (manualFromBlend_eq_ok.mp hbody).2.2.1 hshut
  | emergencyUnwind hbody => exact emergencyUnwind_harmless hbody
  | setting hentry hwrote => exact harmless_setting hentry hwrote

end

/-! ## Runs -/

/-- What holds of each step of a pause. -/
def PausedStep (P : Shared) (w : World) : Action → Prop
  | .invoke env entry => ∀ t, invoke P env w entry = .ok t → Harmless w entry t
  | _ => True

/-- What a pause leaves as it was; the principal may be gone. -/
structure Kept (before after : Storage) : Prop where
  seen : after.eventSeen = before.eventSeen
  lastRebalance : after.lastRebalanceTs = before.lastRebalanceTs
  lastHarvest : after.lastHarvestTs = before.lastHarvestTs
  principal : after.principalSupplied = before.principalSupplied ∨ after.principalSupplied = 0

theorem Kept.refl (st : Storage) : Kept st st := ⟨rfl, rfl, rfl, .inl rfl⟩

theorem Harmless.kept {st : Storage} {w : World} {entry : EntryPoint} {t : Session}
    (h : Harmless w entry t) (hw : Kept st w.storage) : Kept st t.world.storage where
  seen := h.seen.trans hw.seen
  lastRebalance := h.lastRebalance.trans hw.lastRebalance
  lastHarvest := h.lastHarvest.trans hw.lastHarvest
  principal := by
    obtain hsame | ⟨-, hzero⟩ := h.principal
    · rw [hsame]
      exact hw.principal
    · exact .inr hzero

theorem pausedStep {P : Shared} {w : World} (hw : w.storage.paused = true) (a : Action) :
    PausedStep P w a := by
  cases a with
  | invoke env entry =>
      intro t h
      exact invoke_harmless h hw
  | _ => exact trivial

theorem kept_step {P : Shared} {st : Storage} {w : World} {a : Action} (hw : Kept st w.storage)
    (ha : PausedStep P w a) : Kept st (step P w a).storage := by
  refine storage_step hw ?_
  rintro env entry t rfl h
  exact (ha t h).kept hw

theorem submits_idle {P : Shared} {w : World} (hw : w.storage.paused = true) {a : Action}
    {envelopeBytes : Bytes} (ha : a.submits envelopeBytes = true) : step P w a = w := by
  cases a with
  | invoke env entry =>
      cases h : invoke P env w entry with
      | error e => exact step_invoke_error h
      | ok t =>
          have hopen := (invoke_harmless h hw).unlocked
          cases entry with
          | verifyXlm bytes sigData => cases hopen
          | _ => cases ha
  | _ => cases ha

/-- While the handler is paused, whatever is called in whatever order: submissions and
manual moves fail and every other call is harmless; the seen events and both
timestamps are as they were, the principal too or zero; and whatever comes after
the pause comes out as if a given envelope had not been submitted in it. -/
theorem pause_safety (P : Shared) {w : World} {as : List Action}
    (hpaused : Runs.Always (step P) (fun w => w.storage.paused = true) w as) :
    Runs.Along (step P) (PausedStep P) w as ∧
      Kept w.storage (Runs.run (step P) w as).storage ∧
      ∀ envelopeBytes after,
        Runs.run (step P) w (as.filter (fun a => !a.submits envelopeBytes) ++ after) =
          Runs.run (step P) w (as ++ after) := by
  have hsteps : Runs.Along (step P) (PausedStep P) w as :=
    hpaused.along (step P) fun _ a hw => pausedStep hw a
  refine ⟨hsteps, ?_, ?_⟩
  · exact Runs.Along.run (step P) (I := fun v => Kept w.storage v.storage)
      (fun _ _ hw ha => kept_step hw ha) (.refl w.storage) hsteps
  · intro envelopeBytes after
    have hidle : Runs.Along (step P)
        (fun v a => (!a.submits envelopeBytes) = false → step P v a = v) w as := by
      refine hpaused.along (step P) ?_
      intro v a hv ha
      rw [Bool.not_eq_false'] at ha
      exact submits_idle hv ha
    rw [Runs.run_append, Runs.run_append, Runs.run_filter (step P) hidle]

/-- A rebalance submitted in a pause, and again after it. -/
theorem pause_safety_sample :
    let w := step .sample sampleWorld (.invoke .honest .pause)
    let resumed := Runs.run (step .sample) w
      [rebalanceEvent .honest 1, .advance 5 1, .invoke .honest .unpause, rebalanceEvent .honest 1]
    resumed = Runs.run (step .sample) w
        [.advance 5 1, .invoke .honest .unpause, rebalanceEvent .honest 1] ∧
      resumed.storage.principalSupplied = 500 := by
  intro w resumed
  have hpaused : Runs.Always (step .sample) (fun w => w.storage.paused = true) w
      [rebalanceEvent .honest 1, .advance 5 1] := ⟨rfl, rfl, rfl⟩
  obtain ⟨-, -, hsame⟩ := pause_safety .sample hpaused
  have hresumed := hsame (List.replicate 20 1 ++ [0])
    [.invoke .honest .unpause, rebalanceEvent .honest 1]
  exact ⟨hresumed.symm, by decide⟩

end BlendPool.Handler
