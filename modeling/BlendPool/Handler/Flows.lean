/-
# `BlendPool.Handler.Flows` — every committed action performs a flow

`Performs f s t` reads a call that went from session `s` to session `t` as the
flow `f`: the flow was legal, the books moved by it, and the log shows what it
took out and donated.  There is one theorem per action, taken off the
characterisation of its committed runs, and one for all entry points,
`invoke_performs`.
-/
import BlendPool.Handler.Books
import BlendPool.Handler.Composition

namespace BlendPool.Handler

open Bounded

/-! ## The books of a world -/

def World.books (w : World) : Books where
  principal := w.storage.principalSupplied
  liquid := w.venue.pool.liquid
  delegated := w.venue.pool.delegated
  held := w.venue.blend.held
  position := w.venue.blend.position
  usdc := w.handlerUsdc

/-- What a call does to the books. -/
def ExtCall.book (b : Books) : ExtCall → Books
  | .withdrawToDelegate _ _ amount =>
      { b with
        liquid := b.liquid - amount, delegated := b.delegated + amount, usdc := b.usdc + amount }
  | .depositFromDelegate _ _ amount =>
      { b with
        liquid := b.liquid + amount, delegated := b.delegated - amount, usdc := b.usdc - amount }
  | .donate _ _ amount => { b with liquid := b.liquid + amount, usdc := b.usdc - amount }
  | .supply _ _ amount =>
      { b with
        held := b.held + amount, position := b.position + amount, usdc := b.usdc - amount }
  | .withdraw _ _ _ redeemed =>
      { b with
        held := b.held - redeemed, position := b.position - redeemed, usdc := b.usdc + redeemed }
  | .claim _ _ _ _ => b

/-- What a withdrawal took out. -/
def ExtCall.redeemed? : ExtCall → Option Int
  | .withdraw _ _ _ redeemed => some redeemed
  | _ => none

def ExtCall.donation : ExtCall → Int
  | .donate _ _ amount => amount
  | _ => 0

/-- The withdrawals from Blend in a log. -/
def redemptions (calls : List ExtCall) : List Int := calls.filterMap ExtCall.redeemed?

/-- The sum of the donations in a log. -/
def donations (calls : List ExtCall) : Int := (calls.map ExtCall.donation).sum

theorem books_after (s : Session) (c : ExtCall) :
    (s.after c).world.books = c.book s.world.books := by
  cases c with
  | claim _ _ _ _ =>
      ext1
      case usdc => exact Int.add_zero _
      all_goals rfl
  | withdrawToDelegate _ _ _ | depositFromDelegate _ _ _ | donate _ _ _ | supply _ _ _
  | withdraw _ _ _ _ => rfl

theorem redemptions_after (s : Session) (c : ExtCall) :
    redemptions (s.after c).calls = redemptions s.calls ++ c.redeemed?.toList := by
  rw [redemptions, Session.after_calls, List.filterMap_append]
  cases c with
  | withdraw _ _ _ _ => rfl
  | withdrawToDelegate _ _ _ | depositFromDelegate _ _ _ | donate _ _ _ | supply _ _ _
  | claim _ _ _ _ => rfl

theorem donations_after (s : Session) (c : ExtCall) :
    donations (s.after c).calls = donations s.calls + c.donation := by
  rw [donations, Session.after_calls, List.map_append, List.sum_append]
  exact congrArg _ List.sum_singleton

/-- A call that is left out only when it would move nothing. -/
theorem books_afterIf {p : Prop} [Decidable p] {s : Session} {c : ExtCall}
    (h : ¬ p → c.book s.world.books = s.world.books) :
    (s.afterIf p c).world.books = c.book s.world.books := by
  rw [Session.afterIf]
  split
  · exact books_after s c
  · next hp => exact (h hp).symm

theorem redemptions_afterIf {p : Prop} [Decidable p] {s : Session} {c : ExtCall}
    (h : c.redeemed? = none) : redemptions (s.afterIf p c).calls = redemptions s.calls := by
  rw [Session.afterIf]
  split
  · rw [redemptions_after, h]
    exact List.append_nil _
  · rfl

theorem donations_afterIf {p : Prop} [Decidable p] {s : Session} {c : ExtCall}
    (h : ¬ p → c.donation = 0) :
    donations (s.afterIf p c).calls = donations s.calls + c.donation := by
  rw [Session.afterIf]
  split
  · exact donations_after s c
  · next hp => rw [h hp, Int.add_zero]

theorem book_supply_zero (b : Books) (blend token : Address) :
    (ExtCall.supply blend token 0).book b = b := by
  simp [ExtCall.book]

theorem book_donate_zero (b : Books) (pool token : Address) :
    (ExtCall.donate pool token 0).book b = b := by
  simp [ExtCall.book]

theorem book_deposit_zero (b : Books) (pool token : Address) :
    (ExtCall.depositFromDelegate pool token 0).book b = b := by
  simp [ExtCall.book]

theorem books_withPrincipal (s : Session) (n : Int) :
    (s.update (·.withPrincipal n)).world.books = { s.world.books with principal := n } := rfl

/-! ## The reading of a call -/

structure Performs (f : Flow) (s t : Session) : Prop where
  legal : f.Legal s.world.books
  books : t.world.books = f.apply s.world.books
  redemptions : redemptions t.calls = redemptions s.calls ++ f.redeemed.toList
  donations : donations t.calls = donations s.calls + f.donated s.world.books

namespace Performs

variable {f : Flow} {s t u : Session}

theorem congr_right (h : Performs f s t) (hbooks : u.world.books = t.world.books)
    (hcalls : u.calls = t.calls) : Performs f s u where
  legal := h.legal
  books := hbooks.trans h.books
  redemptions := by rw [hcalls, h.redemptions]
  donations := by rw [hcalls, h.donations]

theorem idle (hbooks : t.world.books = s.world.books) (hr : Handler.redemptions t.calls =
    Handler.redemptions s.calls) (hd : Handler.donations t.calls = Handler.donations s.calls) :
    Performs .idle s t where
  legal := trivial
  books := hbooks
  redemptions := hr.trans (List.append_nil _).symm
  donations := hd.trans (Int.add_zero _).symm

theorem refl (s : Session) : Performs .idle s s := idle rfl rfl rfl

theorem idle_trans (h : Performs .idle s t) (h' : Performs f t u) : Performs f s u where
  legal := by
    have hbooks : t.world.books = s.world.books := h.books
    rw [← hbooks]
    exact h'.legal
  books := by rw [h'.books, h.books]; rfl
  redemptions := by rw [h'.redemptions, h.redemptions, Flow.redeemed]; simp
  donations := by rw [h'.donations, h.donations, h.books]; simp [Flow.donated, Flow.apply]

theorem claim (s : Session) (blend : Address) (ids : List Nat) (recipient : Address)
    (routed : Int) : Performs .idle s (s.after (.claim blend ids recipient routed)) := by
  refine idle (books_after s _) ?_ ?_
  · rw [redemptions_after]
    exact List.append_nil _
  · rw [donations_after]
    exact Int.add_zero _

theorem supplied (st : Storage) {amount principalAfter : Int} (hamount : 0 ≤ amount)
    (hadd : checkedAdd s.world.storage.principalSupplied amount = some principalAfter) :
    Performs (.toBlend amount) s (s.supplied st amount principalAfter) where
  legal := ⟨hamount, (i128?_eq_some.mp hadd).1.2⟩
  books := by
    rw [Session.supplied, books_withPrincipal, books_after, books_after,
      (i128?_eq_some.mp hadd).2]
    ext1
    case usdc => exact Int.add_sub_cancel _ _
    all_goals rfl
  redemptions := by
    rw [Session.supplied, Session.update_calls, redemptions_after, redemptions_after]
    simp [ExtCall.redeemed?, Flow.redeemed]
  donations := by
    rw [Session.supplied, Session.update_calls, donations_after, donations_after]
    simp [ExtCall.donation, Flow.donated]

theorem pulled (st : Storage) {amount redeemed rest : Int} (hamount : 0 < amount)
    (hle : amount ≤ s.world.storage.principalSupplied) (hr : 0 ≤ redeemed ∧ redeemed ≤ amount)
    (hrest : rest = s.world.storage.principalSupplied - amount) :
    Performs (.fromBlend amount redeemed) s (s.pulled st amount redeemed (max rest 0)) where
  legal := ⟨hamount, hle, hr⟩
  books := by
    have hmax : max rest 0 = s.world.storage.principalSupplied - amount := by omega
    rw [Session.pulled, books_withPrincipal, books_after, books_after, hmax]
    rfl
  redemptions := by
    rw [Session.pulled, Session.update_calls, redemptions_after, redemptions_after]
    simp [ExtCall.redeemed?, Flow.redeemed]
  donations := by
    rw [Session.pulled, Session.update_calls, donations_after, donations_after]
    simp [ExtCall.donation, Flow.donated]

/-- Out of Blend, the principal back into it, the rest donated. -/
theorem settled {st : Storage} {r : Int} (hst : st = s.world.storage)
    (hp : 0 < st.principalSupplied) (hr : 0 ≤ r) :
    Performs (.harvest r) s
      ((s.after (.withdraw st.blendPool st.usdc i128Max r)).settled st r) where
  legal := by
    subst hst
    exact ⟨hp, hr⟩
  books := by
    have hm : 0 ≤ min st.principalSupplied r := le_min hp.le hr
    have hmr : min st.principalSupplied r ≤ r := min_le_right _ _
    rw [Session.settled, books_afterIf, Session.emitIf_world, books_withPrincipal, books_afterIf,
      books_after]
    · subst hst
      ext1
      case usdc =>
        show s.world.books.usdc + r - min _ r - (r - min _ r) = s.world.books.usdc
        omega
      all_goals rfl
    · intro hzero
      rw [show min st.principalSupplied r = 0 by omega]
      exact book_supply_zero _ _ _
    · intro hzero
      rw [show r - min st.principalSupplied r = 0 by omega]
      exact book_donate_zero _ _ _
  redemptions := by
    rw [Session.settled, redemptions_afterIf rfl, Session.emitIf_calls, Session.update_calls,
      redemptions_afterIf rfl, redemptions_after]
    rfl
  donations := by
    rw [Session.settled, donations_afterIf, Session.emitIf_calls, Session.update_calls,
      donations_afterIf, donations_after]
    · subst hst
      show _ + 0 + 0 + (r - min _ r) = _ + max 0 (r - _)
      simp only [World.books]
      omega
    · intro _
      rfl
    · intro hzero
      have hmr : min st.principalSupplied r ≤ r := min_le_right _ _
      exact le_antisymm (not_lt.mp hzero) (Int.sub_nonneg_of_le hmr)

theorem returned {st : Storage} {r : Int} (hst : st = s.world.storage)
    (hp : 0 < st.principalSupplied) (hr : 0 ≤ r)
    (ht : (s.after (.withdraw st.blendPool st.usdc i128Max r)).returned st r = t) :
    Performs (.unwind r) s (t.unwound r st.principalSupplied) where
  legal := by
    subst hst
    exact ⟨hp, hr⟩
  books := by
    have hm : 0 ≤ min r st.principalSupplied := le_min hr hp.le
    have hmr : min r st.principalSupplied ≤ r := min_le_left _ _
    rw [← ht, Session.unwound, Session.emit_world, books_withPrincipal, Session.returned,
      books_afterIf, books_afterIf, books_after]
    · subst hst
      ext1
      case usdc =>
        show s.world.books.usdc + r - min r _ - (r - min r _) = s.world.books.usdc
        omega
      case liquid =>
        show s.world.books.liquid + min r _ + (r - min r _) = s.world.books.liquid + r
        omega
      all_goals rfl
    · intro hzero
      rw [show min r st.principalSupplied = 0 by omega]
      exact book_deposit_zero _ _ _
    · intro hzero
      rw [show r - min r st.principalSupplied = 0 by omega]
      exact book_donate_zero _ _ _
  redemptions := by
    rw [← ht, Session.unwound, Session.emit_calls, Session.update_calls, Session.returned,
      redemptions_afterIf rfl, redemptions_afterIf rfl, redemptions_after]
    rfl
  donations := by
    rw [← ht, Session.unwound, Session.emit_calls, Session.update_calls, Session.returned,
      donations_afterIf, donations_afterIf, donations_after]
    · subst hst
      show _ + 0 + 0 + (r - min r _) = _ + max 0 (r - _)
      simp only [World.books]
      omega
    · intro _
      rfl
    · intro hzero
      have hmr : min r st.principalSupplied ≤ r := min_le_left _ _
      exact le_antisymm (not_lt.mp hzero) (Int.sub_nonneg_of_le hmr)

theorem reset (hp : ¬ 0 < s.world.storage.principalSupplied) :
    Performs .reset s (s.unwound 0 s.world.storage.principalSupplied) where
  legal := not_lt.mp hp
  books := rfl
  redemptions := (List.append_nil _).symm
  donations := (Int.add_zero _).symm

end Performs

/-! ## The five money actions -/

/-- The ones that ask Blend for everything. -/
def Operation.drains : Operation → Bool
  | .executeHarvestYield | .emergencyUnwind => true
  | .executeRebalance | .manualToBlend _ | .manualFromBlend _ => false

section

variable {env : Env} {s t : Session}

theorem rebalanceToBlend_performs {now : Nat} {g : Gauge} {liquid delegated : Int}
    (h : rebalanceToBlend env s.world.storage now g liquid delegated s = .ok ((), t)) :
    ∃ f, Performs f s t ∧ f.Fits false := by
  obtain ⟨natural, -, ⟨-, rfl⟩ | ⟨-, hmove⟩⟩ := rebalanceToBlend_eq_ok.mp h
  · -- dust
    exact ⟨.idle, .refl s, trivial⟩
  · obtain ⟨⟨-, hfeasible⟩, -, principalAfter, hprincipal, _, -, _, -, -, rfl⟩ := hmove
    have hmoved := Performs.supplied s.world.storage hfeasible.1 hprincipal
    exact ⟨.toBlend _, hmoved.congr_right rfl rfl, rfl⟩

theorem rebalanceFromBlend_performs {now : Nat} {g : Gauge} {liquid delegated : Int}
    (h : rebalanceFromBlend env s.world.storage now g liquid delegated s = .ok ((), t)) :
    ∃ f, Performs f s t ∧ f.Fits false := by
  obtain ⟨natural, -, ⟨-, rfl⟩ | ⟨-, ⟨hpos, hmove⟩ | ⟨-, -, rfl⟩⟩⟩ := rebalanceFromBlend_eq_ok.mp h
  · -- dust
    exact ⟨.idle, .refl s, trivial⟩
  · obtain ⟨delivery, -, -, -, rest, hrest, _, -, _, -, -, rfl⟩ := hmove
    have hcap : capped s.world.storage.maxRebalanceAmount
        (min natural s.world.storage.principalSupplied) ≤ s.world.storage.principalSupplied :=
      (capped_le _ _).trans (min_le_right _ _)
    have hmoved := Performs.pulled s.world.storage hpos hcap delivery.property
      (i128?_eq_some.mp hrest).2
    exact ⟨.fromBlend _ delivery.val, hmoved.congr_right rfl rfl, rfl⟩
  · -- nothing to pull
    exact ⟨.idle, (Performs.refl s).congr_right rfl rfl, trivial⟩

theorem executeRebalance_performs (h : executeRebalance env s = .ok ((), t)) :
    ∃ f, Performs f s t ∧ f.Fits false := by
  obtain rfl | ⟨g, _, _, hto | hfrom⟩ := executeRebalance_branches h
  · exact ⟨.idle, .refl t, trivial⟩
  · exact rebalanceToBlend_performs hto
  · exact rebalanceFromBlend_performs hfrom

theorem Session.reported_books (s : Session) (now : Nat) (routed : Int) (leg : Int × Int)
    (healthy : Bool) (principal : Int) :
    (s.reported now routed leg healthy principal).world.books = s.world.books ∧
      (s.reported now routed leg healthy principal).calls = s.calls := by
  rw [Session.reported]
  split
  · exact ⟨rfl, rfl⟩
  · exact ⟨rfl, rfl⟩

theorem interestLeg_performs {st : Storage} {routed : Int} {out : Int × Int}
    (h : interestLeg env st routed s = .ok (out, t)) (hst : st = s.world.storage)
    (hp : 0 < st.principalSupplied) : ∃ f, Performs f s t ∧ f.Fits true := by
  obtain ⟨delivery, -, -, hsettle⟩ | ⟨-, -, rfl⟩ := interestLeg_eq_ok.mp h
  · obtain ⟨hr, hmax⟩ := delivery.property
    obtain ⟨-, -, -, -, rfl⟩ := (settleInterest_eq_ok hp hr hmax).mp hsettle
    exact ⟨.harvest delivery.val, .settled hst hp hr, rfl⟩
  · -- the withdrawal was refused
    exact ⟨.idle, (Performs.refl s).congr_right rfl rfl, trivial⟩

theorem executeHarvestYield_performs (h : executeHarvestYield env s = .ok ((), t)) :
    ∃ f, Performs f s t ∧ f.Fits true := by
  obtain ⟨routed, -, status, -, ⟨hgo, leg, v, hleg, -, rfl⟩ | ⟨-, -, rfl⟩⟩ :=
    executeHarvestYield_eq_ok.mp h
  · have hclaim := Performs.claim s s.world.storage.blendPool [s.world.storage.usdcReserveTokenId]
      s.world.storage.blndTreasury routed
    obtain ⟨f, hf, hfits⟩ := interestLeg_performs hleg rfl hgo.1
    obtain ⟨hbooks, hcalls⟩ := v.reported_books s.world.timestamp routed leg
      (decide (status ≤ blendHealthyStatusMax)) s.world.storage.principalSupplied
    exact ⟨f, (hclaim.idle_trans hf).congr_right hbooks hcalls, hfits⟩
  · obtain ⟨hbooks, hcalls⟩ := Session.reported_books _ s.world.timestamp routed
      (0, s.world.storage.principalSupplied) (decide (status ≤ blendHealthyStatusMax))
      s.world.storage.principalSupplied
    exact ⟨.idle, (Performs.claim s _ _ _ routed).congr_right hbooks hcalls, trivial⟩

/-- With a principal, an unwind moves whatever Blend delivers; without one, nothing. -/
theorem emergencyUnwind_flow (h : emergencyUnwind env s = .ok ((), t)) :
    (0 < s.world.storage.principalSupplied ∧ ∃ delivery,
        env.withdraw s.world.venue i128Max = some delivery ∧
          Performs (.unwind delivery.val) s t) ∨
      ¬ 0 < s.world.storage.principalSupplied ∧ Performs .reset s t := by
  obtain ⟨-, ⟨hp, redeemed, u, hdrain, -, rfl⟩ | ⟨hp, -, rfl⟩⟩ := emergencyUnwind_eq_ok.mp h
  · obtain ⟨delivery, hdelivery, -, -, rfl, hu⟩ := (drain_eq_ok hp).mp hdrain
    exact .inl ⟨hp, delivery, hdelivery, .returned rfl hp delivery.property.1 hu⟩
  · exact .inr ⟨hp, .reset hp⟩

theorem emergencyUnwind_performs (h : emergencyUnwind env s = .ok ((), t)) :
    ∃ f, Performs f s t ∧ f.Fits true := by
  obtain ⟨-, delivery, -, hf⟩ | ⟨-, hf⟩ := emergencyUnwind_flow h
  · exact ⟨.unwind delivery.val, hf, rfl⟩
  · exact ⟨.reset, hf, rfl⟩

theorem manualToBlend_performs {amount : Int} (h : manualToBlend env amount s = .ok ((), t)) :
    ∃ f, Performs f s t ∧ f.Fits false := by
  obtain ⟨-, hpos, -, _, -, -, -, -, principalAfter, hprincipal, _, -, -, rfl⟩ :=
    manualToBlend_eq_ok.mp h
  have hmoved := Performs.supplied s.world.storage hpos.le hprincipal
  exact ⟨.toBlend amount, hmoved.congr_right rfl rfl, rfl⟩

theorem manualFromBlend_performs {amount : Int} (h : manualFromBlend env amount s = .ok ((), t)) :
    ∃ f, Performs f s t ∧ f.Fits false := by
  obtain ⟨-, hpos, -, hle, delivery, -, -, -, rest, hrest, _, -, -, rfl⟩ :=
    manualFromBlend_eq_ok.mp h
  have hmoved := Performs.pulled s.world.storage hpos hle delivery.property
    (i128?_eq_some.mp hrest).2
  exact ⟨.fromBlend amount delivery.val, hmoved.congr_right rfl rfl, rfl⟩

/-- Every committed money action performs a flow of its kind. -/
theorem operation_performs {o : Operation} (h : o.body env s = .ok ((), t)) :
    ∃ f, Performs f s t ∧ f.Fits o.drains := by
  cases o with
  | executeRebalance => exact executeRebalance_performs h
  | executeHarvestYield => exact executeHarvestYield_performs h
  | emergencyUnwind => exact emergencyUnwind_performs h
  | manualToBlend amount => exact manualToBlend_performs h
  | manualFromBlend amount => exact manualFromBlend_performs h

end

/-! ## The entry points -/

/-- The entry points that ask Blend for everything: an unwind, and a submission
that decodes to a harvest. -/
def EntryPoint.drains (P : Shared) : EntryPoint → Bool
  | .emergencyUnwind => true
  | .verifyXlm envelopeBytes _ =>
      (P.decodeEnvelope envelopeBytes).bind (fun e => P.decodeAction e.payload) = some .harvestYield
  | _ => false

theorem verifyXlm_performs {P : Shared} {env : Env} {s t : Session} {envelopeBytes : Bytes}
    {sigData : Ed25519SignatureData} (h : verifyXlm P env envelopeBytes sigData s = .ok ((), t)) :
    ∃ f, Performs f s t ∧ f.Fits ((EntryPoint.verifyXlm envelopeBytes sigData).drains P) := by
  obtain ⟨-, envelope, henvelope, -, -, -, action, haction, u, hu, rfl⟩ := verifyXlm_eq_ok.mp h
  have hdecoded : (P.decodeEnvelope envelopeBytes).bind (fun e => P.decodeAction e.payload) =
      some action := by
    rw [henvelope, Option.bind_some, haction]
  rw [EntryPoint.drains, hdecoded]
  cases action with
  | rebalance =>
      obtain ⟨f, hf, hfits⟩ := executeRebalance_performs hu
      exact ⟨f, hf.congr_right rfl rfl, hfits⟩
  | harvestYield =>
      obtain ⟨f, hf, hfits⟩ := executeHarvestYield_performs hu
      exact ⟨f, hf.congr_right rfl rfl, hfits⟩

/-- Every committed call performs a flow of its kind. -/
theorem invoke_performs {P : Shared} {env : Env} {w : World} {entry : EntryPoint} {t : Session}
    (h : invoke P env w entry = .ok t) :
    ∃ f, Performs f (.start w) t ∧ f.Fits (entry.drains P) := by
  cases invoke_done h with
  | submission _ _ _ => exact verifyXlm_performs (invoke_eq_ok.mp h)
  | emergencyUnwind hbody => exact emergencyUnwind_performs hbody
  | manualToBlend hbody => exact manualToBlend_performs hbody
  | manualFromBlend hbody => exact manualFromBlend_performs hbody
  | setting _ hwrote =>
      refine ⟨.idle, (Performs.refl _).congr_right ?_ hwrote.calls, trivial⟩
      rw [World.books, hwrote.world, hwrote.principal]
      rfl

end BlendPool.Handler
