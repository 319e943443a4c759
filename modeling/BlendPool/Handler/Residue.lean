/-
# `BlendPool.Handler.Residue` — no USDC stays on the handler

Every money action ends in a check that the handler's balance is zero, except
for the early returns of a rebalance, which have done nothing.  Two consequences.

* Started empty, the handler ends empty, and what left one venue arrived in the
  other (`usdc_conservation`).
* Started with somebody's gift of `d` on its balance, the handler computes
  exactly what it would have computed without it — amounts come from the pool's
  report or from differences of balances, in both of which the gift cancels —
  and carries the gift into the check.  `Tolerates` is that simulation.
-/
import BlendPool.Handler.Flows

namespace BlendPool.Handler

open Bounded

/-! ## The end of an action -/

section

variable {env : Env} {s t : Session}

/-- The dust floor ends a move before it begins, and on anyone's balance. -/
theorem rebalanceToBlend_ends {st : Storage} {now : Nat} {g : Gauge} {liquid delegated : Int}
    (h : rebalanceToBlend env st now g liquid delegated s = .ok ((), t)) :
    (liquid - g.targetLiquid < st.minRebalanceAmount ∧
        ∀ u, rebalanceToBlend env st now g liquid delegated u = .ok ((), u)) ∨
      (¬ liquid - g.targetLiquid < st.minRebalanceAmount ∧ t.world.handlerUsdc = 0) := by
  obtain ⟨natural, hnatural, hcases⟩ := rebalanceToBlend_eq_ok.mp h
  obtain rfl := (i128?_eq_some.mp hnatural).2
  obtain ⟨hdust, -⟩ | ⟨hdust, -, -, _, -, _, -, _, -, hzero, rfl⟩ := hcases
  · exact .inl ⟨hdust, fun u => rebalanceToBlend_eq_ok.mpr ⟨_, hnatural, .inl ⟨hdust, rfl⟩⟩⟩
  · exact .inr ⟨hdust, hzero⟩

theorem rebalanceFromBlend_ends {st : Storage} {now : Nat} {g : Gauge} {liquid delegated : Int}
    (h : rebalanceFromBlend env st now g liquid delegated s = .ok ((), t)) :
    let bounded := min (g.targetLiquid - liquid) st.principalSupplied
    (bounded < st.minRebalanceAmount ∧
        ∀ u, rebalanceFromBlend env st now g liquid delegated u = .ok ((), u)) ∨
      (¬ bounded < st.minRebalanceAmount ∧ t.world.handlerUsdc = 0) := by
  obtain ⟨natural, hnatural, hcases⟩ := rebalanceFromBlend_eq_ok.mp h
  obtain rfl := (i128?_eq_some.mp hnatural).2
  obtain ⟨hdust, -⟩ | ⟨hdust, ⟨-, _, -, -, -, _, -, _, -, _, -, hzero, rfl⟩ | ⟨-, hzero, rfl⟩⟩ :=
    hcases
  · exact .inl ⟨hdust, fun u => rebalanceFromBlend_eq_ok.mpr ⟨_, hnatural, .inl ⟨hdust, rfl⟩⟩⟩
  · exact .inr ⟨hdust, hzero⟩
  · exact .inr ⟨hdust, hzero⟩

/-- What ends a rebalance before its last check: a pool that is too small, the cooldown, or
dust.  A balance in the band and a pull without principal are checked. -/
def EarlyOn (st : Storage) (now : Nat) (side : Side) : Prop :=
  let g := gaugeAt st now side
  side.total < st.minTotalUsdc ∨
    (g.cooldownActive = true ∧ ¬ g.isCritical = true) ∨
    (g.upper < side.liquid ∧ side.liquid - g.targetLiquid < st.minRebalanceAmount) ∨
    (¬ g.upper < side.liquid ∧ side.liquid < g.lower ∧
      min (g.targetLiquid - side.liquid) st.principalSupplied < st.minRebalanceAmount)

/-- The same of a call, which a frozen Blend ends as well. -/
def ReturnsEarly (env : Env) (w : World) : Prop :=
  ∃ status, env.status w.venue = some status ∧
    (blendHealthyStatusMax < status ∨
      ∃ state, env.queryDelegateState w.venue = some state ∧
        EarlyOn w.storage w.timestamp (usdcSide w.storage state))

theorem rebalanceOn_ends {st : Storage} {now : Nat} {side : Side}
    (h : rebalanceOn env st now side s = .ok ((), t)) :
    (EarlyOn st now side ∧ ∀ u, rebalanceOn env st now side u = .ok ((), u)) ∨
      (¬ EarlyOn st now side ∧ t.world.handlerUsdc = 0) := by
  obtain ⟨hsmall, -⟩ | ⟨hlarge, hvalid, g, hg, hcases⟩ := rebalanceOn_eq_ok.mp h
  · exact .inl ⟨.inl hsmall, fun u => rebalanceOn_eq_ok.mpr (.inl ⟨hsmall, rfl⟩)⟩
  have hliquid : 0 ≤ side.liquid := not_lt.mp fun hneg => hvalid (.inl hneg)
  have htotal : 0 < side.total := not_le.mp fun hnone => hvalid (.inr hnone)
  obtain ⟨-, rfl⟩ := (gauge_eq_ok hliquid htotal).mp hg
  obtain ⟨hwait, -⟩ | ⟨hdue, delegated, hdelegated, hmove⟩ := hcases
  · exact .inl ⟨.inr (.inl hwait), fun u =>
      rebalanceOn_eq_ok.mpr (.inr ⟨hlarge, hvalid, _, hg, .inl ⟨hwait, rfl⟩⟩)⟩
  obtain ⟨hover, hto⟩ | ⟨hnotOver, ⟨hunder, hfrom⟩ | ⟨hnotUnder, hzero, rfl⟩⟩ := hmove
  · obtain ⟨hdust, hends⟩ | ⟨hdust, hzero⟩ := rebalanceToBlend_ends hto
    · exact .inl ⟨.inr (.inr (.inl ⟨hover, hdust⟩)), fun u => rebalanceOn_eq_ok.mpr
        (.inr ⟨hlarge, hvalid, _, hg, .inr ⟨hdue, _, hdelegated, .inl ⟨hover, hends u⟩⟩⟩)⟩
    · refine .inr ⟨?_, hzero⟩
      rintro (hsmall | hwait | hearly | hearly)
      · exact hlarge hsmall
      · exact hdue hwait
      · exact hdust hearly.2
      · exact hearly.1 hover
  · obtain ⟨hdust, hends⟩ | ⟨hdust, hzero⟩ := rebalanceFromBlend_ends hfrom
    · exact .inl ⟨.inr (.inr (.inr ⟨hnotOver, hunder, hdust⟩)), fun u => rebalanceOn_eq_ok.mpr
        (.inr ⟨hlarge, hvalid, _, hg, .inr ⟨hdue, _, hdelegated, .inr ⟨hnotOver,
          .inl ⟨hunder, hends u⟩⟩⟩⟩)⟩
    · refine .inr ⟨?_, hzero⟩
      rintro (hsmall | hwait | hearly | hearly)
      · exact hlarge hsmall
      · exact hdue hwait
      · exact hnotOver hearly.1
      · exact hdust hearly.2.2
  · refine .inr ⟨?_, hzero⟩
    rintro (hsmall | hwait | hearly | hearly)
    · exact hlarge hsmall
    · exact hdue hwait
    · exact hnotOver hearly.1
    · exact hnotUnder hearly.2.1

/-- A committed rebalance returned early, which it would have done on any balance, or it
left the handler empty. -/
theorem executeRebalance_ends (h : executeRebalance env s = .ok ((), t)) :
    (ReturnsEarly env s.world ∧ ∀ u : Session, u.world.venue = s.world.venue →
        u.world.storage = s.world.storage → u.world.timestamp = s.world.timestamp →
          executeRebalance env u = .ok ((), u)) ∨
      (¬ ReturnsEarly env s.world ∧ t.world.handlerUsdc = 0) := by
  obtain ⟨status, hstatus, ⟨hfrozen, -⟩ | ⟨hhealthy, state, hstate, hon⟩⟩ :=
    executeRebalance_eq_ok.mp h
  · refine .inl ⟨⟨status, hstatus, .inl hfrozen⟩, ?_⟩
    intro u hvenue _ _
    exact executeRebalance_eq_ok.mpr ⟨status, hvenue ▸ hstatus, .inl ⟨hfrozen, rfl⟩⟩
  · obtain ⟨hearly, hends⟩ | ⟨hchecked, hzero⟩ := rebalanceOn_ends hon
    · refine .inl ⟨⟨status, hstatus, .inr ⟨state, hstate, hearly⟩⟩, ?_⟩
      intro u hvenue hstorage htime
      refine executeRebalance_eq_ok.mpr
        ⟨status, hvenue ▸ hstatus, .inr ⟨hhealthy, state, hvenue ▸ hstate, ?_⟩⟩
      rw [hstorage, htime]
      exact hends u
    · refine .inr ⟨?_, hzero⟩
      rintro ⟨status', hstatus', hfrozen | ⟨state', hstate', hearly⟩⟩
      · obtain rfl := Option.some.inj (hstatus.symm.trans hstatus')
        exact hhealthy hfrozen
      · obtain rfl := Option.some.inj (hstate.symm.trans hstate')
        exact hchecked hearly

theorem executeRebalance_clean (h : executeRebalance env s = .ok ((), t)) :
    t.world.handlerUsdc = 0 ∨ t = s := by
  obtain ⟨-, hends⟩ | ⟨-, hzero⟩ := executeRebalance_ends h
  · have hsame := h.symm.trans (hends s rfl rfl rfl)
    cases hsame
    exact .inr rfl
  · exact .inl hzero

theorem reported_handlerUsdc (s : Session) (now : Nat) (routed : Int) (leg : Int × Int)
    (healthy : Bool) (principal : Int) :
    (s.reported now routed leg healthy principal).world.handlerUsdc = s.world.handlerUsdc :=
  congrArg Books.usdc (s.reported_books now routed leg healthy principal).1

theorem executeHarvestYield_clean (h : executeHarvestYield env s = .ok ((), t)) :
    t.world.handlerUsdc = 0 := by
  obtain ⟨_, -, _, -, ⟨-, _, v, -, hzero, rfl⟩ | ⟨-, hzero, rfl⟩⟩ := executeHarvestYield_eq_ok.mp h
  · exact (reported_handlerUsdc _ _ _ _ _ _).trans hzero
  · rw [reported_handlerUsdc, after_claim_handlerUsdc]
    exact hzero

theorem emergencyUnwind_clean (h : emergencyUnwind env s = .ok ((), t)) :
    t.world.handlerUsdc = 0 := by
  obtain ⟨-, ⟨-, _, _, -, hzero, rfl⟩ | ⟨-, hzero, rfl⟩⟩ := emergencyUnwind_eq_ok.mp h
  · exact hzero
  · exact hzero

theorem manualToBlend_clean {amount : Int} (h : manualToBlend env amount s = .ok ((), t)) :
    t.world.handlerUsdc = 0 := by
  obtain ⟨-, -, -, _, -, -, -, -, _, -, _, -, hzero, rfl⟩ := manualToBlend_eq_ok.mp h
  exact hzero

theorem manualFromBlend_clean {amount : Int} (h : manualFromBlend env amount s = .ok ((), t)) :
    t.world.handlerUsdc = 0 := by
  obtain ⟨-, -, -, -, _, -, -, -, _, -, _, -, hzero, rfl⟩ := manualFromBlend_eq_ok.mp h
  exact hzero

theorem operation_checked {o : Operation} (h : o.body env s = .ok ((), t))
    (hlate : ¬ (o = .executeRebalance ∧ ReturnsEarly env s.world)) :
    t.world.handlerUsdc = 0 := by
  cases o with
  | executeRebalance =>
      obtain ⟨hearly, -⟩ | ⟨-, hzero⟩ := executeRebalance_ends h
      · exact absurd ⟨rfl, hearly⟩ hlate
      · exact hzero
  | executeHarvestYield => exact executeHarvestYield_clean h
  | emergencyUnwind => exact emergencyUnwind_clean h
  | manualToBlend amount => exact manualToBlend_clean h
  | manualFromBlend amount => exact manualFromBlend_clean h

theorem operation_clean {o : Operation} (h : o.body env s = .ok ((), t)) :
    t.world.handlerUsdc = 0 ∨ o = .executeRebalance ∧ t = s := by
  by_cases hearly : o = .executeRebalance ∧ ReturnsEarly env s.world
  · obtain ⟨rfl, -⟩ := hearly
    exact (executeRebalance_clean h).imp_right fun ht => ⟨rfl, ht⟩
  · exact .inl (operation_checked h hearly)

end

/-! ## Conservation -/

/-- What an action that took `redeemed` out of Blend, if anything, donates. -/
def donation (o : Operation) (principal : Int) (redeemed : Option Int) : Int :=
  if o.drains then redeemed.elim 0 fun r => max 0 (r - principal) else 0

theorem donated_eq_donation {f : Flow} {o : Operation} (b : Books) (h : f.Fits o.drains) :
    f.donated b = donation o b.principal f.redeemed := by
  have hsum : (f.redeemed.toList.map fun r => max 0 (r - b.principal)).sum =
      f.redeemed.elim 0 fun r => max 0 (r - b.principal) := by
    cases f.redeemed with
    | none => rfl
    | some r => exact List.sum_singleton
  rw [Flow.donated_of_fits h, donation, hsum]

/-- A committed action, started on an empty handler: it is empty again, liquid
and Blend-held USDC change by opposite amounts, and the pool's total by what was
donated, which is what a drain brought back beyond the principal. -/
theorem usdc_conservation (env : Env) (o : Operation) {w : World} {t : Session}
    (h₀ : w.handlerUsdc = 0) (h : o.body env (.start w) = .ok ((), t)) :
    t.world.handlerUsdc = 0 ∧
      (t.world.venue.pool.liquid - w.venue.pool.liquid) +
        (t.world.venue.blend.held - w.venue.blend.held) = 0 ∧
      (t.world.venue.pool.liquid + t.world.venue.pool.delegated) -
        (w.venue.pool.liquid + w.venue.pool.delegated) = donations t.calls ∧
      0 ≤ donations t.calls ∧
      ∃ redeemed : Option Int, redemptions t.calls = redeemed.toList ∧
        donations t.calls = donation o w.storage.principalSupplied redeemed := by
  have hclean : t.world.handlerUsdc = 0 := by
    obtain hzero | ⟨-, rfl⟩ := operation_clean h
    · exact hzero
    · exact h₀
  obtain ⟨f, hf, hfits⟩ := operation_performs h
  have hbooks : t.world.books = f.apply w.books := hf.books
  have hdonated : donations t.calls = f.donated w.books :=
    hf.donations.trans (Int.zero_add _)
  have hpot : t.world.books.pot = w.books.pot := by
    rw [hbooks, Flow.pot_apply]
  have hpooled : t.world.books.pooled = w.books.pooled + donations t.calls := by
    rw [hbooks, Flow.pooled_apply, hdonated]
  dsimp only [Books.pot, Books.pooled, World.books] at hpot hpooled
  refine ⟨hclean, by omega, by omega, ?_, f.redeemed, hf.redemptions, ?_⟩
  · rw [hdonated]
    exact Flow.donated_nonneg _ f
  · rw [hdonated]
    exact donated_eq_donation w.books hfits

/-- Supplied 600 that grew to 650: an unwind brings all of it back and donates the 50, a
harvest donates the 50 and leaves the 600 where they were. -/
theorem usdc_conservation_drains :
    let w : World := { sampleWorld with
      storage := sampleStorage.withPrincipal 600
      venue := ⟨⟨400, 600, 5000⟩, ⟨1000, 650⟩⟩ }
    (∃ t, Operation.emergencyUnwind.body .honest (.start w) = .ok ((), t) ∧
      donations t.calls = 50 ∧ t.world.handlerUsdc = 0 ∧
      t.world.venue = ⟨⟨1050, 0, 5000⟩, ⟨350, 0⟩⟩ ∧
      (t.world.venue.pool.liquid - 400) + (t.world.venue.blend.held - 1000) = 0) ∧
    ∃ t, Operation.executeHarvestYield.body .honest (.start w) = .ok ((), t) ∧
      donations t.calls = 50 ∧ t.world.handlerUsdc = 0 ∧
      t.world.venue = ⟨⟨450, 600, 5000⟩, ⟨950, 600⟩⟩ ∧
      (t.world.venue.pool.liquid - 400) + (t.world.venue.blend.held - 1000) = 0 := by
  intro w
  constructor
  · obtain ⟨t, ht, hfifty, hbooks⟩ : ∃ t,
        Operation.emergencyUnwind.body .honest (.start w) = .ok ((), t) ∧
          donations t.calls = 50 ∧ t.world.venue = ⟨⟨1050, 0, 5000⟩, ⟨350, 0⟩⟩ :=
      ⟨_, rfl, by decide, rfl⟩
    have hconserved := usdc_conservation .honest .emergencyUnwind rfl ht
    exact ⟨t, ht, hfifty, hconserved.1, hbooks, hconserved.2.1⟩
  · obtain ⟨t, ht, hfifty, hbooks⟩ : ∃ t,
        Operation.executeHarvestYield.body .honest (.start w) = .ok ((), t) ∧
          donations t.calls = 50 ∧ t.world.venue = ⟨⟨450, 600, 5000⟩, ⟨950, 600⟩⟩ :=
      ⟨_, rfl, by decide, rfl⟩
    have hconserved := usdc_conservation .honest .executeHarvestYield rfl ht
    exact ⟨t, ht, hfifty, hconserved.1, hbooks, hconserved.2.1⟩

/-! ## A gift on the balance -/

/-- The world after someone sent `d` USDC to the handler. -/
def World.receive (w : World) (d : Int) : World := { w with handlerUsdc := w.handlerUsdc + d }

def Session.receive (s : Session) (d : Int) : Session := { s with world := s.world.receive d }

theorem receive_after (s : Session) (d : Int) (c : ExtCall) :
    (s.receive d).after c = (s.after c).receive d := by
  have husdc : s.world.handlerUsdc + d + c.credit = s.world.handlerUsdc + c.credit + d :=
    Int.add_right_comm _ _ _
  simp only [Session.after, Session.receive, World.receive, ExtCall.apply, husdc]

theorem feasible_receive {w : World} {d : Int} (hd : 0 ≤ d) {c : ExtCall} (h : c.Feasible w) :
    c.Feasible (w.receive d) := by
  cases c with
  | depositFromDelegate _ _ _ => exact ⟨h.1, le_add_of_le_of_nonneg h.2.1 hd, h.2.2⟩
  | donate _ _ _ | supply _ _ _ => exact ⟨h.1, le_add_of_le_of_nonneg h.2 hd⟩
  | withdrawToDelegate _ _ _ | withdraw _ _ _ _ | claim _ _ _ _ => exact h

/-- Transactions that do with a gift of `d` what they do without it, or abort
with `UsdcLeak`. -/
abbrev Tolerates (d : Int) {α : Type} (x : Exec α) : Prop :=
  Txn.Shifts (fun s : Session => s.receive d) (Failure.localError .usdcLeak) x

section Tolerates

variable {d : Int}

theorem tolerates_look {α : Type} {k : World → Exec α} (hk : ∀ w, Tolerates d (k w))
    (hsame : ∀ w usdc, k { w with handlerUsdc := usdc } = k w) : Tolerates d (getWorld >>= k) := by
  intro s a t h
  rw [getWorld_bind] at h
  have hread : (getWorld >>= k) (s.receive d) = k s.world (s.receive d) := by
    rw [getWorld_bind]
    exact congrFun (hsame s.world _) _
  rw [hread]
  exact hk s.world s a t h

theorem tolerates_perform (hd : 0 ≤ d) (c : ExtCall) : Tolerates d (perform c) := by
  intro s a t h
  rw [perform, getWorld_bind, Txn.ensure_bind_eq_ok] at h
  obtain ⟨hfeasible, hafter⟩ := h
  cases hafter
  left
  rw [perform, getWorld_bind, Txn.ensure_bind_eq_ok]
  exact ⟨feasible_receive hd hfeasible, by rw [Txn.modify_run, receive_after]⟩

/-- The check is where a gift shows. -/
theorem tolerates_assertNoUsdcResidue : Tolerates d assertNoUsdcResidue := by
  intro s a t h
  obtain ⟨-, rfl⟩ := assertNoUsdcResidue_eq_ok.mp h
  have hrun : assertNoUsdcResidue (t.receive d) =
      Txn.ensure ((t.receive d).world.handlerUsdc = 0) (.localError .usdcLeak) (t.receive d) := rfl
  rw [Txn.ensure] at hrun
  split at hrun
  · exact .inl hrun
  · exact .inr hrun

/-- In a difference of two balances the gift cancels. -/
theorem tolerates_measure {α β : Type} {x : Exec α} {k : α → Int → Exec β}
    (hx : Tolerates d x) (hk : ∀ a r, Tolerates d (k a r)) :
    Tolerates d (usdcBalance >>= fun before => x >>= fun a => usdcBalance >>= fun balance =>
      k a (saturatingSub balance before)) := by
  intro s b u h
  rw [usdcBalance_bind] at h
  obtain ⟨a, t, ht, h⟩ := Txn.bind_eq_ok.mp h
  rw [usdcBalance_bind] at h
  have hcancel : saturatingSub (t.receive d).world.handlerUsdc (s.receive d).world.handlerUsdc =
      saturatingSub t.world.handlerUsdc s.world.handlerUsdc :=
    congrArg clampI128 (Int.add_sub_add_right _ _ _)
  rw [usdcBalance_bind]
  obtain hmirror | hleak := hx s a t ht
  · rw [Txn.bind_run_ok hmirror, usdcBalance_bind, hcancel]
    exact hk a _ t b u h
  · exact .inr (Txn.bind_run_error hleak)

/-- A withdrawal does not look at the balance, not even when it fails. -/
theorem blendSubmitWithdraw_receive (env : Env) (blendPool usdc : Address) (amount : Int)
    (s : Session) :
    blendSubmitWithdraw env blendPool usdc amount (s.receive d) =
      (blendSubmitWithdraw env blendPool usdc amount s).map fun p => (p.1, p.2.receive d) := by
  rw [blendSubmitWithdraw, getWorld_bind, getWorld_bind]
  show (Txn.orAbort _ (env.withdraw s.world.venue amount) >>= _) _ = _
  cases env.withdraw s.world.venue amount with
  | none => rfl
  | some delivery =>
      let c := ExtCall.withdraw blendPool usdc amount delivery.val
      show perform c (s.receive d) = (perform c s).map fun p => (p.1, p.2.receive d)
      rw [perform_run, perform_run]
      have hsame : c.Feasible (s.receive d).world ↔ c.Feasible s.world := Iff.rfl
      rcases Decidable.em (c.Feasible s.world) with hf | hf
      · rw [if_pos hf, if_pos (hsame.mpr hf), receive_after]
        rfl
      · rw [if_neg hf, if_neg fun h => hf (hsame.mp h)]
        rfl

/-- The actions, on a handler that was given something. -/
theorem Composed.tolerates {env : Env} {ok : ExtCall → Prop} {α : Type} {x : Exec α}
    (h : Composed env ok x) (hd : 0 ≤ d) : Tolerates d x := by
  induction h with
  | pure a => exact .pure a
  | fail _ => exact .throw _
  | call _ => exact tolerates_perform hd _
  | look _ hsame ih => exact tolerates_look ih hsame
  | storage => exact .read fun _ => rfl
  | principal amount => exact .modify fun _ => rfl
  | rebalanced ts => exact .modify fun _ => rfl
  | harvested ts => exact .modify fun _ => rfl
  | publish e => exact .modify fun _ => rfl
  | residue => exact tolerates_assertNoUsdcResidue
  | measure _ _ ihx ihk => exact tolerates_measure ihx ihk
  | attempt _ _ => exact .attempt (blendSubmitWithdraw_receive env _ _ _)
  | bind _ _ ihx ihf => exact ihx.bind ihf
  | ite _ _ ihx ihy => exact .ite ihx ihy

end Tolerates

/-- A gift makes an action that would have gone through revert with `UsdcLeak`, unless it is
a rebalance that returns early; and that one does nothing with or without the gift. -/
theorem gift_reverts (env : Env) (o : Operation) {w : World} {t : Session} {d : Int} (hd : 0 < d)
    (h : o.body env (.start w) = .ok ((), t)) :
    (o.body env (.start (w.receive d)) = .error (.localError .usdcLeak) ↔
        ¬ (o = .executeRebalance ∧ ReturnsEarly env w)) ∧
      (o = .executeRebalance ∧ ReturnsEarly env w → t = .start w ∧
        o.body env (.start (w.receive d)) = .ok ((), .start (w.receive d))) := by
  have hearly : o = .executeRebalance ∧ ReturnsEarly env w → t = .start w ∧
      o.body env (.start (w.receive d)) = .ok ((), .start (w.receive d)) := by
    rintro ⟨rfl, hreturns⟩
    obtain ⟨-, hends⟩ | ⟨hchecked, -⟩ := executeRebalance_ends h
    · have hsame := h.symm.trans (hends (.start w) rfl rfl rfl)
      cases hsame
      exact ⟨rfl, hends (.start (w.receive d)) rfl rfl rfl⟩
    · exact absurd hreturns hchecked
  refine ⟨⟨?_, ?_⟩, hearly⟩
  · intro hleak hreturns
    rw [(hearly hreturns).2] at hleak
    cases hleak
  · intro hlate
    obtain hmirror | hleak := (composed_operation env o).tolerates hd.le (.start w) () t h
    · -- both ends empty: then there was no gift
      have hzero : t.world.handlerUsdc = 0 := operation_checked h hlate
      have hgift : t.world.handlerUsdc + d = 0 := operation_checked hmirror hlate
      omega
    · exact hleak

/-- The sample deployment with 100 supplied, and a gift of 7: no manual move. -/
theorem gift_reverts_manualFromBlend :
    let w := Runs.run (step .sample) sampleWorld [.invoke .honest (.manualToBlend 100)]
    (∃ t, (Operation.manualFromBlend 40).body .honest (.start w) = .ok ((), t)) ∧
      (Operation.manualFromBlend 40).body .honest (.start (w.receive 7)) =
        .error (.localError .usdcLeak) := by
  intro w
  obtain ⟨t, ht⟩ : ∃ t, (Operation.manualFromBlend 40).body .honest (.start w) = .ok ((), t) :=
    ⟨_, rfl⟩
  exact ⟨⟨t, ht⟩, (gift_reverts .honest (.manualFromBlend 40) (by decide) ht).1.mpr nofun⟩

/-- One unit of USDC keeps the admin from unwinding. -/
theorem gift_disables_unwind :
    ¬ ∀ (P : Shared) (w₀ : World) (as : List Action) (env : Env) (o : Operation) (d : Int)
        (t : Session), Deployed w₀ → 0 < d →
        o.body env (.start (Runs.run (step P) w₀ as)) = .ok ((), t) →
        ∃ t', o.body env (.start ((Runs.run (step P) w₀ as).receive d)) = .ok ((), t') := by
  intro hclaim
  obtain ⟨t', ht'⟩ := hclaim .sample sampleWorld [.invoke .honest (.manualToBlend 100)] .honest
    .emergencyUnwind 1 _ sampleWorld_deployed (by decide) rfl
  have hleak : Operation.emergencyUnwind.body .honest
      (.start ((Runs.run (step .sample) sampleWorld
        [.invoke .honest (.manualToBlend 100)]).receive 1)) = .error (.localError .usdcLeak) := rfl
  rw [hleak] at ht'
  cases ht'

end BlendPool.Handler
