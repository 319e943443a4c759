/-
# `BlendPool.Handler.Unwind` — what the emergency exit leaves in Blend

`emergency_unwind` asks Blend for everything, but only if the handler's own
principal is positive.  The position can outlive the principal: interest stays
in Blend when the principal is withdrawn.
-/
import BlendPool.Handler.Principal

namespace BlendPool.Handler

open Bounded

/-- Blend answers a request for everything with the whole position, or not at all. -/
def Env.HonoursAll (env : Env) (v : Venue) : Prop :=
  ∀ delivery, env.withdraw v i128Max = some delivery → delivery.val = v.blend.position

/-- The position is gone, and all of it is in the pool. -/
def BroughtHome (before after : Venue) : Prop :=
  after.blend.position = 0 ∧ after.pool.liquid = before.pool.liquid + before.blend.position

theorem broughtHome_of_unwind {s t : Session} {r : Int} (h : Performs (.unwind r) s t)
    (hr : r = s.world.venue.blend.position) : BroughtHome s.world.venue t.world.venue := by
  subst hr
  have hposition := congrArg Books.position h.books
  have hliquid := congrArg Books.liquid h.books
  exact ⟨hposition.trans (Int.sub_self _), hliquid⟩

theorem broughtHome_of_reset {s t : Session} (h : Performs .reset s t) :
    BroughtHome s.world.venue t.world.venue ↔ s.world.venue.blend.position = 0 := by
  have hposition : t.world.venue.blend.position = s.world.venue.blend.position :=
    congrArg Books.position h.books
  have hliquid : t.world.venue.pool.liquid = s.world.venue.pool.liquid :=
    congrArg Books.liquid h.books
  rw [BroughtHome, hposition, hliquid]
  omega

/-- In a reachable state, an unwind that goes through, with Blend honouring the
request, brings everything home exactly when there is a principal to account for
or nothing in Blend. -/
theorem unwind_brings_home_iff (P : Shared) {w₀ : World} (h₀ : Deployed w₀) (as : List Action)
    {env : Env} {t : Session} (hall : env.HonoursAll (Runs.run (step P) w₀ as).venue)
    (h : invoke P env (Runs.run (step P) w₀ as) .emergencyUnwind = .ok t) :
    let w := Runs.run (step P) w₀ as
    BroughtHome w.venue t.world.venue ↔
      w.storage.principalSupplied ≠ 0 ∨ w.venue.blend.position = 0 := by
  intro w
  have hp : 0 ≤ w.storage.principalSupplied := (principalFits_run h₀ as).1
  obtain ⟨hpos, delivery, hdelivery, hf⟩ | ⟨hzero, hf⟩ := emergencyUnwind_flow (invoke_eq_ok.mp h)
  · have hhome : BroughtHome w.venue t.world.venue :=
      broughtHome_of_unwind hf (hall delivery hdelivery)
    exact iff_of_true hhome (.inl (ne_of_gt hpos))
  · have hnone : w.storage.principalSupplied = 0 := le_antisymm (not_lt.mp hzero) hp
    exact (broughtHome_of_reset hf).trans
      ⟨.inr, fun hor => hor.resolve_left fun hne => hne hnone⟩

/-- 100 supplied, 5 earned, all of the principal withdrawn. -/
def interestOnly : List Action :=
  [.invoke .honest (.manualToBlend 100), .accrue 5, .blendHolds 1000,
    .invoke .honest (.manualFromBlend 100)]

/-- With 40 of the 100 withdrawn, the unwind brings the remaining 65 home. -/
theorem unwind_brings_home_sample :
    let w := Runs.run (step .sample) sampleWorld
      [.invoke .honest (.manualToBlend 100), .accrue 5, .blendHolds 1000,
        .invoke .honest (.manualFromBlend 40)]
    ∃ t, invoke .sample .honest w .emergencyUnwind = .ok t ∧ w.venue.blend.position = 65 ∧
      BroughtHome w.venue t.world.venue := by
  intro w
  obtain ⟨t, ht⟩ : ∃ t, invoke .sample .honest w .emergencyUnwind = .ok t := ⟨_, rfl⟩
  have hall : Env.honest.HonoursAll w.venue := by
    intro delivery h
    cases h
    decide
  have hhome : BroughtHome w.venue t.world.venue :=
    (unwind_brings_home_iff .sample sampleWorld_deployed _ hall ht).mpr (.inl (by decide))
  exact ⟨t, ht, by decide, hhome⟩

/-- After `interestOnly` the unwind succeeds and leaves the interest in Blend. -/
theorem unwind_leaves_interest :
    ¬ ∀ (P : Shared) (w₀ : World) (as : List Action) (env : Env) (t : Session), Deployed w₀ →
        env.HonoursAll (Runs.run (step P) w₀ as).venue →
        invoke P env (Runs.run (step P) w₀ as) .emergencyUnwind = .ok t →
        BroughtHome (Runs.run (step P) w₀ as).venue t.world.venue := by
  intro hclaim
  have hhome := hclaim .sample sampleWorld interestOnly .honest _ sampleWorld_deployed
    (fun delivery h => by cases h; decide) rfl
  exact absurd hhome.1 (by decide)

end BlendPool.Handler
