/-
# `BlendPool.Handler.Interest` — where the interest went

The handler never measures interest; it infers it as what came out of Blend beyond
the principal.  Over a run, what was donated and what still lies in the position
beyond the principal is what Blend accrued, less what it wrote down, plus the
losses that a drain recognised by lowering the principal:

    Σ donated + position − principal  =  Σ interest − Σ write-downs + Σ shortfalls

USDC that someone sends to the handler can make up for a withdrawal that came back
short, so in general the handler's balance and the gifts belong in the balance too.
-/
import BlendPool.Handler.Principal
import BlendPool.Handler.Residue

namespace BlendPool.Handler

/-! ## What a step contributes -/

/-- The USDC a step donates to the pool. -/
def donated (P : Shared) (w : World) : Action → Int
  | .invoke env entry =>
      match invoke P env w entry with
      | .ok t => donations t.calls
      | .error _ => 0
  | _ => 0

def interest (_ : World) : Action → Int
  | .accrue n => n
  | _ => 0

/-- The bad debt Blend applied. -/
def writtenDown (w : World) : Action → Int
  | .writeDown debt => if (debt : Int) ≤ w.venue.blend.position then debt else 0
  | _ => 0

/-- The USDC sent to the handler. -/
def gifts (_ : World) : Action → Int
  | .send amount => amount
  | _ => 0

theorem donated_of_performs {P : Shared} {env : Env} {w : World} {entry : EntryPoint}
    {t : Session} {f : Flow} (h : invoke P env w entry = .ok t) (hf : Performs f (.start w) t) :
    donated P w (.invoke env entry) = f.donated w.books := by
  have hlog : donations t.calls = f.donated w.books := hf.donations.trans (Int.zero_add _)
  rw [donated, h]
  exact hlog

theorem donated_invoke_error {P : Shared} {env : Env} {w : World} {entry : EntryPoint}
    {e : Failure} (h : invoke P env w entry = .error e) :
    donated P w (.invoke env entry) = 0 := by
  rw [donated, h]

theorem stake_writeDown (w : World) (debt : Nat) :
    (w.venue.blend.writeDown debt).position =
      w.venue.blend.position - writtenDown w (.writeDown debt) := by
  rw [Blend.writeDown, writtenDown]
  split
  · rfl
  · exact (Int.sub_zero _).symm

theorem stake_step (P : Shared) (w : World) (a : Action) (hp : PrincipalFits w) :
    (step P w a).books.stake =
      w.books.stake +
        (interest w a - writtenDown w a + shortfall P w a + gifts w a - donated P w a) := by
  cases a with
  | invoke env entry =>
      show _ = w.books.stake + (0 - 0 + shortfall P w _ + 0 - donated P w _)
      cases h : invoke P env w entry with
      | ok t =>
          obtain ⟨f, hf, hfits⟩ := invoke_performs h
          have hbooks : t.world.books = f.apply w.books := hf.books
          rw [step_invoke_ok h, shortfall_of_performs h hf hfits, donated_of_performs h hf, hbooks,
            Flow.stake_apply hp.1 hf.legal]
          omega
      | error e =>
          rw [step_invoke_error h, shortfall_invoke_error h, donated_invoke_error h]
          omega
  | accrue n =>
      show w.venue.blend.position + n + w.handlerUsdc - w.storage.principalSupplied =
        w.venue.blend.position + w.handlerUsdc - w.storage.principalSupplied +
          ((n : Int) - 0 + 0 + 0 - 0)
      omega
  | writeDown debt =>
      show (w.venue.blend.writeDown debt).position + w.handlerUsdc - w.storage.principalSupplied =
        w.venue.blend.position + w.handlerUsdc - w.storage.principalSupplied +
          (0 - writtenDown w (.writeDown debt) + 0 + 0 - 0)
      rw [stake_writeDown]
      omega
  | send amount =>
      show w.venue.blend.position + (w.handlerUsdc + amount) - w.storage.principalSupplied =
        w.venue.blend.position + w.handlerUsdc - w.storage.principalSupplied +
          (0 - 0 + 0 + (amount : Int) - 0)
      omega
  | trade _ _ | blendHolds _ | advance _ _ => exact (Int.add_zero _).symm

/-! ## A handler nobody sends USDC to -/

theorem invoke_empty {P : Shared} {env : Env} {w : World} {entry : EntryPoint} {t : Session}
    (h : invoke P env w entry = .ok t) (hw : w.handlerUsdc = 0) : t.world.handlerUsdc = 0 := by
  have hstays : ∀ (o : Operation) {u : Session}, o.body env (.start w) = .ok ((), u) →
      u.world.handlerUsdc = 0 := by
    intro o u hu
    obtain hzero | ⟨-, rfl⟩ := operation_clean hu
    · exact hzero
    · exact hw
  cases invoke_done h with
  | @submission _ _ _ action u _ _ hu =>
      show u.world.handlerUsdc = 0
      cases action with
      | rebalance => exact hstays .executeRebalance hu
      | harvestYield => exact hstays .executeHarvestYield hu
  | emergencyUnwind hbody => exact hstays .emergencyUnwind hbody
  | manualToBlend hbody => exact hstays (.manualToBlend _) hbody
  | manualFromBlend hbody => exact hstays (.manualFromBlend _) hbody
  | setting _ hwrote =>
      rw [hwrote.world]
      exact hw

theorem empty_step {P : Shared} {w : World} {a : Action} (hw : w.handlerUsdc = 0)
    (ha : gifts w a = 0) : (step P w a).handlerUsdc = 0 := by
  cases a with
  | invoke env entry =>
      cases h : invoke P env w entry with
      | ok t =>
          rw [step_invoke_ok h]
          exact invoke_empty h hw
      | error e =>
          rw [step_invoke_error h]
          exact hw
  | send amount =>
      show w.handlerUsdc + amount = 0
      rw [hw, Int.zero_add]
      exact ha
  | trade _ _ | accrue _ | writeDown _ | blendHolds _ | advance _ _ => exact hw

theorem along_giftless {P : Shared} {as : List Action} (has : ∀ n, .send n ∉ as) (w : World) :
    Runs.Along (step P) (fun w a => gifts w a = 0) w as := by
  refine Runs.Along.of_mem (step P) ?_ w
  intro a ha v
  cases a with
  | send n => exact absurd ha (has n)
  | invoke _ _ | trade _ _ | accrue _ | writeDown _ | blendHolds _ | advance _ _ => rfl

/-! ## The identity -/

/-- In every reachable state, from a deployment with an empty position: what was
donated and what the handler holds beyond its principal, in Blend and by itself, is
the interest less the write-downs, plus the shortfalls and what was sent to it; so
where nothing is sent to it, the first two are the next three. -/
theorem interest_ledger (P : Shared) {w₀ : World} (h₀ : Deployed w₀)
    (hposition : w₀.venue.blend.position = 0) (as : List Action) :
    let w := Runs.run (step P) w₀ as
    let sum := fun g => Runs.tally (step P) g w₀ as
    sum (donated P) + (w.venue.blend.position + w.handlerUsdc) - w.storage.principalSupplied =
        sum interest - sum writtenDown + sum (shortfall P) + (w₀.handlerUsdc + sum gifts) ∧
      (w₀.handlerUsdc = 0 → (∀ n, .send n ∉ as) →
        sum (donated P) + w.venue.blend.position - w.storage.principalSupplied =
          sum interest - sum writtenDown + sum (shortfall P)) := by
  intro w sum
  have hidentity : sum (donated P) + (w.venue.blend.position + w.handlerUsdc) -
      w.storage.principalSupplied =
        sum interest - sum writtenDown + sum (shortfall P) + (w₀.handlerUsdc + sum gifts) := by
    have htally := Runs.tally_account (step P) (I := PrincipalFits) (f := fun v => v.books.stake)
      (fun v a hv => (counters_step P v a hv).1) (stake_step P) h₀.principalFits as
    rw [Runs.tally_sub, Runs.tally_add, Runs.tally_add, Runs.tally_sub] at htally
    have hprincipal : w₀.storage.principalSupplied = 0 := h₀.principal_eq
    dsimp only [Books.stake, World.books] at htally
    rw [hposition, hprincipal] at htally
    dsimp only [sum, w]
    omega
  refine ⟨hidentity, ?_⟩
  intro hempty hnone
  have hgifts : Runs.Along (step P) (fun v a => gifts v a = 0) w₀ as := along_giftless hnone w₀
  have hzero : sum gifts = 0 := Runs.tally_eq_zero (step P) hgifts
  have husdc : w.handlerUsdc = 0 :=
    Runs.Along.run (step P) (I := fun v => v.handlerUsdc = 0) (fun _ _ hv ha => empty_step hv ha)
      hempty hgifts
  omega

/-- Supply 600, earn 50, harvest, lose 100, unwind: 50 were donated, and the loss is
the shortfall of the unwind. -/
theorem interest_ledger_sample :
    let as := [.invoke .honest (.manualToBlend 600), .accrue 50, .blendHolds 1000,
      .invoke .honest (.verifyXlm (List.replicate 20 7 ++ [1]) ⟨[], [], 500⟩), .writeDown 100,
      .invoke .honest .emergencyUnwind]
    let w := Runs.run (step .sample) sampleWorld as
    let sum := fun g => Runs.tally (step .sample) g sampleWorld as
    sum (donated .sample) = 50 ∧ sum (shortfall .sample) = 100 ∧
      sum (donated .sample) + w.venue.blend.position - w.storage.principalSupplied =
        sum interest - sum writtenDown + sum (shortfall .sample) := by
  intro as w sum
  have hnone : ∀ n, Action.send n ∉ as := by
    intro n hn
    simp [as] at hn
  exact ⟨by decide, by decide,
    (interest_ledger .sample sampleWorld_deployed rfl as).2 rfl hnone⟩

end BlendPool.Handler
