/-
# `BlendPool.Stack.Service` — what a quorum that answers achieves

The pool asks for a rebalance whenever its liquidity is touched, and a quorum of the
operators answers.  Each answer that gets to a handler whose cooldown is over, on a calm
ledger, is one tick of the regulator (`served_tick`); between the answers operators may
come and go, triggers and signatures pile up, and time passes.  So as many answers as the
distance to the target takes moves leave the pool settled.
-/
import BlendPool.Stack.Delivery
import BlendPool.Handler.Convergence

namespace BlendPool.Pipeline

open Components Handler Verification

/-! ## Answers -/

/-- The signatures of a quorum under what the circuit made of a trigger that asks for a
rebalance, submitted at a recent block, for the first time, to a handler that can act. -/
structure Served (N : Network) (s : State) (env : Env) (entry : EntryPoint) : Prop where
  answers : ∃ id data keys signature b, ∃ envelopeBytes ∈ envelopes N id data,
    entry = .verifyXlm envelopeBytes (gather signature keys b) ∧
      requested N.wire data = some .rebalance ∧ id ∉ s.seen ∧
      (b ≤ s.stack.world.sequence ∧ s.stack.world.sequence ≤ b + 200) ∧ Quorum N s keys b ∧
      ∀ k ∈ keys, ValidSignature N.setup.crypto (sep053Hash N.setup.crypto envelopeBytes)
        (signature k) k
  unpaused : s.stack.world.storage.paused = false
  calm : Calm (Stack.connect N.setup s.stack env) s.stack.world
  elapsed : CooldownElapsed s.stack.world.storage s.stack.world.timestamp

/-- Answers, and whatever else leaves the pool and the handler alone. -/
def Serves (N : Network) (s : State) : Action → Prop
  | .stack (.handler (.invoke env entry)) => Served N s env entry
  | .stack (.handler (.advance _ _)) => True
  | .stack (.handler _) => False
  | .stack (.registry _ _) | .trigger _ _ | .sign _ _ _ => True

section

variable {N : Network} {c₀ : Security.Chain} {earlier : List Security.Action} {s₀ : State}

end

/-! ## Reachable states -/

/-- What the handler's own counters keep to, whatever happens. -/
structure Kept (w : World) : Prop where
  range : InRange w.storage
  principal : PrincipalFits w
  gap_nonneg : 0 ≤ w.books.gap

/-- All that a world that keeps its counters lacks of a steady one. -/
theorem Kept.steady {w : World} (h : Kept w) (hliquid : 0 ≤ w.venue.pool.liquid)
    (hfits : GaugeFits w.storage w.side)
    (hcovered : w.storage.principalSupplied ≤ w.venue.blend.position) : Steady w := by
  have hprincipal : 0 ≤ w.storage.principalSupplied := h.principal.1
  have hpooled : w.storage.principalSupplied ≤ w.venue.pool.delegated :=
    Int.le_of_sub_nonneg h.gap_nonneg
  exact
    { range := h.range
      liquid := hliquid
      delegated := hprincipal.trans hpooled
      fits := hfits
      representable := Bounded.i128Min_nonpos.trans hprincipal
      pooled := hpooled
      covered := hcovered }

/-! ## What is left to do -/

instance decSettled (w : World) : Decidable (Settled w) := inferInstanceAs (Decidable (_ ∨ _ ∨ _))

section

variable {P : Shared} {w : World} {env : Env} {entry : EntryPoint}

end

/-! ## Runs -/

section

variable {N : Network} {c₀ : Security.Chain} {earlier : List Security.Action} {s₀ : State}

end

end BlendPool.Pipeline
