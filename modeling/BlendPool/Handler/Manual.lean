/-
# `BlendPool.Handler.Manual` — the admin's moves are the executor's

`manual_to_blend` and `manual_from_blend` are written apart from the branches of
`execute_rebalance` that move.  The executor predicts the balances it announces from
the snapshot it decided on; the manual moves ask the pool again.  On a pool that
reports what it holds the two agree, and a manual move of the amount an automatic one
moves does what that did, but for the time of the last move.
-/
import BlendPool.Handler.Bypass

namespace BlendPool.Handler

open Bounded

/-- The pool reports what it holds, as its two sides and their sum. -/
def Truthful (env : Env) (st : Storage) : Prop :=
  ∀ v, ∃ state, env.queryDelegateState v = some state ∧
    usdcSide st state = ⟨v.pool.liquid, v.pool.delegated, v.pool.liquid + v.pool.delegated⟩

/-- A decision carried out by the admin. -/
def Decision.byHand (env : Env) : Decision → Exec Unit
  | .hold => pure ()
  | .toBlend amount => manualToBlend env amount
  | .fromBlend amount => manualFromBlend env amount

/-- From `w` the automatic move ended in `t` and the manual one in `u`: the same world but
for the time of the last move, the same calls and the same announcement of the move, to
which the automatic one may add that it ignored the cooldown. -/
structure SameMove (w : World) (t u : Session) : Prop where
  world : t.world = { u.world with storage := u.world.storage.withLastRebalance w.timestamp }
  calls : t.calls = u.calls
  events : ∃ e, e.isRebalance = true ∧ u.events = [e] ∧
    (t.events = [e] ∨ ∃ ratio floor secs, t.events = [e, .criticalRebalance ratio floor secs])

section

variable {env : Env} {w : World} {t : Session} {g : Gauge} {now : Nat}

theorem rebalanceToBlend_byHand (hauth : env.auth w.storage.admin = true)
    (hpaused : w.storage.paused = false) (htruth : Truthful env w.storage)
    (hhealthy : ∃ status, env.status w.venue = some status ∧ status ≤ blendHealthyStatusMax)
    (hover : g.targetLiquid < w.venue.pool.liquid)
    (h : rebalanceToBlend env w.storage w.timestamp g w.venue.pool.liquid w.venue.pool.delegated
      (.start w) = .ok ((), t)) (hmove : moveOf t.calls ≠ .hold) :
    ∃ u, (moveOf t.calls).byHand env (.start w) = .ok ((), u) ∧ SameMove w t u := by
  obtain ⟨natural, hnatural, ⟨-, rfl⟩ | ⟨-, hpool, hblend, principalAfter, hprincipal, liquidAfter,
    hliquid, delegatedAfter, hdelegated, hclean, rfl⟩⟩ := rebalanceToBlend_eq_ok.mp h
  · exact absurd rfl hmove
  obtain rfl := (i128?_eq_some.mp hnatural).2
  obtain rfl := (i128?_eq_some.mp hliquid).2
  obtain rfl := (i128?_eq_some.mp hdelegated).2
  have hpos : 0 < capped w.storage.maxRebalanceAmount (w.venue.pool.liquid - g.targetLiquid) :=
    capped_pos (by omega)
  clear h hmove
  generalize capped w.storage.maxRebalanceAmount (w.venue.pool.liquid - g.targetLiquid) =
    amount at *
  obtain ⟨status, hstatus, hle⟩ := hhealthy
  obtain ⟨state, hstate, hside⟩ :=
    htruth ((Session.start w).supplied w.storage amount principalAfter).world.venue
  -- what the pool now reports is what the executor predicted
  have hafter : usdcSide w.storage state = ⟨w.venue.pool.liquid - amount,
      w.venue.pool.delegated + amount, _⟩ := hside
  refine ⟨_, manualToBlend_eq_ok.mpr ⟨hauth, hpos, hpaused, status, hstatus, hle, hpool, hblend,
    principalAfter, hprincipal, state, hstate, hclean, rfl⟩, rfl, rfl,
    .rebalanceExecuted directionToBlend amount (w.venue.pool.liquid - amount)
      (w.venue.pool.delegated + amount) principalAfter, rfl, ?_, .inl rfl⟩
  show [Event.rebalanceExecuted _ _ (usdcSide w.storage state).liquid
    (usdcSide w.storage state).delegated _] = _
  rw [hafter]

theorem rebalanceFromBlend_byHand (hauth : env.auth w.storage.admin = true)
    (hpaused : w.storage.paused = false) (htruth : Truthful env w.storage)
    (h : rebalanceFromBlend env w.storage w.timestamp g w.venue.pool.liquid w.venue.pool.delegated
      (.start w) = .ok ((), t)) (hmove : moveOf t.calls ≠ .hold) :
    ∃ u, (moveOf t.calls).byHand env (.start w) = .ok ((), u) ∧ SameMove w t u := by
  obtain ⟨natural, hnatural, ⟨-, rfl⟩ | ⟨-, ⟨hpos, delivery, hdelivery, hheld, hdeposit, rest, hrest,
    liquidAfter, hliquid, delegatedAfter, hdelegated, hclean, rfl⟩ | ⟨-, -, rfl⟩⟩⟩ :=
    rebalanceFromBlend_eq_ok.mp h
  · exact absurd rfl hmove
  · obtain rfl := (i128?_eq_some.mp hliquid).2
    obtain rfl := (i128?_eq_some.mp hdelegated).2
    have hle : capped w.storage.maxRebalanceAmount (min natural w.storage.principalSupplied) ≤
        w.storage.principalSupplied := (capped_le _ _).trans (min_le_right _ _)
    clear h hmove
    generalize capped w.storage.maxRebalanceAmount (min natural w.storage.principalSupplied) =
      amount at *
    obtain ⟨state, hstate, hside⟩ :=
      htruth ((Session.start w).pulled w.storage amount delivery.val (max rest 0)).world.venue
    have hafter : usdcSide w.storage state = ⟨w.venue.pool.liquid + amount,
        w.venue.pool.delegated - amount, _⟩ := hside
    refine ⟨_, manualFromBlend_eq_ok.mpr ⟨hauth, hpos, hpaused, hle, delivery, hdelivery, hheld,
      hdeposit, rest, hrest, state, hstate, hclean, rfl⟩, rfl, rfl,
      .rebalanceExecuted directionFromBlend amount (w.venue.pool.liquid + amount)
        (w.venue.pool.delegated - amount) (max rest 0), rfl, ?_, ?_⟩
    · show [Event.rebalanceExecuted _ _ (usdcSide w.storage state).liquid
        (usdcSide w.storage state).delegated _] = _
      rw [hafter]
    · rw [Session.emitIf_events]
      split
      · exact .inr ⟨_, _, _, rfl⟩
      · exact .inl rfl
  · exact absurd rfl hmove

theorem executeRebalance_byHand (hauth : env.auth w.storage.admin = true)
    (hpaused : w.storage.paused = false) (htruth : Truthful env w.storage)
    (h : executeRebalance env (.start w) = .ok ((), t)) (hmove : moveOf t.calls ≠ .hold) :
    ∃ u, (moveOf t.calls).byHand env (.start w) = .ok ((), u) ∧ SameMove w t u := by
  obtain ⟨status, hstatus, ⟨-, rfl⟩ | ⟨hhealthy, state, hstate, hon⟩⟩ :=
    executeRebalance_eq_ok.mp h
  · exact absurd rfl hmove
  obtain ⟨state', hstate', hside⟩ := htruth w.venue
  obtain rfl := Option.some.inj (hstate.symm.trans hstate')
  obtain ⟨side, hsnapshot⟩ : ∃ side, usdcSide w.storage state = side := ⟨_, rfl⟩
  have hon : rebalanceOn env w.storage w.timestamp side (.start w) = .ok ((), t) := by
    rw [← hsnapshot]
    exact hon
  have hliquid : side.liquid = w.venue.pool.liquid := by rw [← hsnapshot, hside]
  have hdelegated : side.total - side.liquid = w.venue.pool.delegated := by
    rw [← hsnapshot, hside]
    exact add_sub_cancel_left _ _
  obtain ⟨-, rfl⟩ | ⟨-, hsigns, g, hg, ⟨-, rfl⟩ | ⟨-, delegatedBefore, hbefore, hbranch⟩⟩ :=
    rebalanceOn_eq_ok.mp hon
  · exact absurd rfl hmove
  · exact absurd rfl hmove
  obtain ⟨hnotNeg, hsome⟩ := not_or.mp hsigns
  obtain ⟨-, rfl⟩ := (gauge_eq_ok (not_lt.mp hnotNeg) (not_le.mp hsome)).mp hg
  obtain rfl := (i128?_eq_some.mp hbefore).2
  rw [hdelegated, hliquid] at hbranch
  obtain ⟨hover, hto⟩ | ⟨-, ⟨-, hfrom⟩ | ⟨-, -, rfl⟩⟩ := hbranch
  · have hband := bandOf_nonneg w.storage (not_le.mp hsome).le
    have habove : (gaugeAt w.storage w.timestamp side).targetLiquid < w.venue.pool.liquid :=
      (Int.le_add_of_nonneg_right hband).trans_lt hover
    exact rebalanceToBlend_byHand hauth hpaused htruth ⟨status, hstatus, not_lt.mp hhealthy⟩ habove
      hto hmove
  · exact rebalanceFromBlend_byHand hauth hpaused htruth hfrom hmove
  · exact absurd rfl hmove

end

/-- Where the executor moves an amount, the admin's move of that amount in the same state
goes through and is the same move; and no manual move touches the time of the last
automatic one. -/
theorem manual_is_automatic (env : Env) {w : World} {t : Session}
    (hauth : env.auth w.storage.admin = true) (hpaused : w.storage.paused = false)
    (htruth : Truthful env w.storage) (h : executeRebalance env (.start w) = .ok ((), t)) :
    (∀ amount, moveOf t.calls = .toBlend amount →
      ∃ u, manualToBlend env amount (.start w) = .ok ((), u) ∧ SameMove w t u) ∧
    (∀ amount, moveOf t.calls = .fromBlend amount →
      ∃ u, manualFromBlend env amount (.start w) = .ok ((), u) ∧ SameMove w t u) ∧
    ∀ amount s u, manualToBlend env amount s = .ok ((), u) ∨
        manualFromBlend env amount s = .ok ((), u) →
      u.world.storage.lastRebalanceTs = s.world.storage.lastRebalanceTs := by
  refine ⟨?_, ?_, ?_⟩
  · intro amount hmove
    have hbyHand := executeRebalance_byHand hauth hpaused htruth h (by simp [hmove])
    rw [hmove] at hbyHand
    exact hbyHand
  · intro amount hmove
    have hbyHand := executeRebalance_byHand hauth hpaused htruth h (by simp [hmove])
    rw [hmove] at hbyHand
    exact hbyHand
  · rintro amount s u (hto | hfrom)
    · obtain ⟨principal, hst⟩ := manualToBlend_storage hto
      rw [hst]
      rfl
    · obtain ⟨principal, hst⟩ := manualFromBlend_storage hfrom
      rw [hst]
      rfl

theorem truthful_honest {st : Storage} (h : st.usdc < st.xlm) : Truthful .honest st := by
  intro v
  refine ⟨_, rfl, ?_⟩
  rw [usdcSide, if_pos h]

/-- The sample pool's first move, made by the admin. -/
theorem manual_is_automatic_sample :
    ∃ t u, executeRebalance .honest (.start sampleWorld) = .ok ((), t) ∧
      manualToBlend .honest 500 (.start sampleWorld) = .ok ((), u) ∧
      SameMove sampleWorld t u := by
  obtain ⟨t, ht, hmove⟩ : ∃ t, executeRebalance .honest (.start sampleWorld) = .ok ((), t) ∧
      moveOf t.calls = .toBlend 500 := ⟨_, rfl, by decide⟩
  obtain ⟨u, hu, hsame⟩ := (manual_is_automatic .honest rfl rfl (truthful_honest (by decide))
    ht).1 500 hmove
  exact ⟨t, u, ht, hu, hsame⟩

end BlendPool.Handler
