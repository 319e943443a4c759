/-
# `BlendPool.Handler.Externals` — the other contracts, and the call that runs

The handler moves other people's money through two contracts it does not
control.  What is fixed about them is how tokens move: `ExtCall.apply` says
what each call does to the pool, to Blend and to the handler's balance, and
`ExtCall.Feasible` that no transfer exceeds what is there.  Everything else —
whether they accept, what Blend delivers, what the pool reports — is the
environment `Env` of the call, and may be anything; it sees the state of the
two venues and not the handler's balance.

Amounts delivered by a withdrawal carry their bound: no more than was asked
for, and never negative.  A supply of one token is finite, so crediting a
balance does not overflow.

`Exec` is a call in progress: the world so far, the events and the external
calls.  Each primitive comes with the lemma that says what it did when it
committed.
-/
import BlendPool.Handler.State

namespace BlendPool.Handler

open Bounded Verification

/-! ## The venues -/

/-- `DelegateState`, without the delegate's address. -/
structure DelegateState where
  liquidA : Int
  liquidB : Int
  delegatedA : Int
  delegatedB : Int
  totalA : Int
  totalB : Int

/-- The blended pool: its USDC, liquid and delegated, and its XLM. -/
structure Pool where
  liquid : Int
  delegated : Int
  xlm : Int
  deriving DecidableEq

/-- The Blend pool: the USDC it holds, and the redeemable value of the
handler's position in it. -/
structure Blend where
  held : Int
  position : Int
  deriving DecidableEq

structure Venue where
  pool : Pool
  blend : Blend
  deriving DecidableEq

/-- The ledger as far as this development looks. -/
structure World where
  storage : Storage
  venue : Venue
  handlerUsdc : Int
  treasuryBlnd : Int
  timestamp : Nat
  sequence : Nat

/-! ## What a call moves -/

/-- No transfer exceeds the balance it is taken from. -/
def ExtCall.Feasible (w : World) : ExtCall → Prop
  | .withdrawToDelegate _ _ amount => 0 ≤ amount ∧ amount ≤ w.venue.pool.liquid
  | .depositFromDelegate _ _ amount =>
      0 ≤ amount ∧ amount ≤ w.handlerUsdc ∧ amount ≤ w.venue.pool.delegated
  | .donate _ _ amount => 0 ≤ amount ∧ amount ≤ w.handlerUsdc
  | .supply _ _ amount => 0 ≤ amount ∧ amount ≤ w.handlerUsdc
  | .withdraw _ _ _ redeemed => redeemed ≤ w.venue.blend.held
  | .claim _ _ _ _ => True

instance decFeasible (w : World) : (c : ExtCall) → Decidable (c.Feasible w)
  | .withdrawToDelegate _ _ _ => inferInstanceAs (Decidable (_ ∧ _))
  | .depositFromDelegate _ _ _ => inferInstanceAs (Decidable (_ ∧ _ ∧ _))
  | .donate _ _ _ => inferInstanceAs (Decidable (_ ∧ _))
  | .supply _ _ _ => inferInstanceAs (Decidable (_ ∧ _))
  | .withdraw _ _ _ _ => inferInstanceAs (Decidable (_ ≤ _))
  | .claim _ _ _ _ => .isTrue trivial

def ExtCall.applyVenue (v : Venue) : ExtCall → Venue
  | .withdrawToDelegate _ _ amount =>
      { v with pool := { v.pool with
          liquid := v.pool.liquid - amount, delegated := v.pool.delegated + amount } }
  | .depositFromDelegate _ _ amount =>
      { v with pool := { v.pool with
          liquid := v.pool.liquid + amount, delegated := v.pool.delegated - amount } }
  | .donate _ _ amount => { v with pool := { v.pool with liquid := v.pool.liquid + amount } }
  | .supply _ _ amount =>
      { v with blend := { held := v.blend.held + amount, position := v.blend.position + amount } }
  | .withdraw _ _ _ redeemed =>
      { v with blend :=
          { held := v.blend.held - redeemed, position := v.blend.position - redeemed } }
  | .claim _ _ _ _ => v

/-- What the call adds to the handler's USDC. -/
def ExtCall.credit : ExtCall → Int
  | .withdrawToDelegate _ _ amount => amount
  | .depositFromDelegate _ _ amount | .donate _ _ amount | .supply _ _ amount => -amount
  | .withdraw _ _ _ redeemed => redeemed
  | .claim _ _ _ _ => 0

/-- What the call adds to the treasury's BLND. -/
def ExtCall.routed : ExtCall → Int
  | .claim _ _ _ routed => routed
  | _ => 0

@[simps]
def ExtCall.apply (w : World) (c : ExtCall) : World :=
  { w with
    venue := c.applyVenue w.venue
    handlerUsdc := w.handlerUsdc + c.credit
    treasuryBlnd := w.treasuryBlnd + c.routed }

/-! ## The environment of a call -/

/-- What `try_verify` came back with. -/
inductive VerifyOutcome where
  | accepted
  | badReturn
  | rejected (e : VerifyError)
  | trapped
  deriving DecidableEq, Repr

/-- What a withdrawal of `requested` may deliver. -/
abbrev Delivery (requested : Int) := { r : Int // 0 ≤ r ∧ r ≤ requested }

/-- Everything a call is answered from outside; `none` and `false` are traps. -/
structure Env where
  /-- the addresses that authorised the call -/
  auth : Address → Bool
  verify : Address → Bytes → List Ed25519Signature → List Ed25519PubKey → Nat → VerifyOutcome
  /-- `get_config().status` -/
  status : Venue → Option Nat
  queryDelegateState : Venue → Option DelegateState
  claim : Venue → Option Int
  withdraw : Venue → (requested : Int) → Option (Delivery requested)
  /-- whether a pool call or a supply, if feasible, is accepted -/
  accepts : Venue → ExtCall → Bool

/-! ## Calls in progress -/

/-- A running call of the handler. -/
structure Session where
  world : World
  events : List Event
  calls : List ExtCall

/-- The session after a call. -/
@[simps]
def Session.after (s : Session) (c : ExtCall) : Session :=
  { s with world := c.apply s.world, calls := s.calls ++ [c] }

/-- The session after a call that is only made if `p`. -/
def Session.afterIf (s : Session) (p : Prop) [Decidable p] (c : ExtCall) : Session :=
  if p then s.after c else s

theorem Session.afterIf_neg {p : Prop} [Decidable p] (h : ¬ p) (s : Session) (c : ExtCall) :
    s.afterIf p c = s := if_neg h

/-- The session after a write to the storage. -/
@[simps]
def Session.update (s : Session) (f : Storage → Storage) : Session :=
  { s with world := { s.world with storage := f s.world.storage } }

/-- The session after an event. -/
@[simps]
def Session.emit (s : Session) (e : Event) : Session := { s with events := s.events ++ [e] }

/-- The session after an event that is only emitted if `p`. -/
@[simps]
def Session.emitIf (s : Session) (p : Prop) [Decidable p] (e : Event) : Session :=
  { s with events := s.events ++ if p then [e] else [] }

abbrev Exec := Txn Session Failure

def getWorld : Exec World := Session.world <$> get

def getStorage : Exec Storage := (fun s => s.world.storage) <$> get

/-- A write to the storage. -/
def updateStorage (f : Storage → Storage) : Exec Unit := modify fun s => s.update f

def setPrincipalSupplied (amount : Int) : Exec Unit :=
  updateStorage fun st => st.withPrincipal amount

def setLastRebalanceTs (ts : Nat) : Exec Unit :=
  updateStorage fun st => st.withLastRebalance ts

def setLastHarvestTs (ts : Nat) : Exec Unit :=
  updateStorage fun st => st.withLastHarvest ts

def publish (e : Event) : Exec Unit := modify fun s => s.emit e

/-- `storage::get_admin(&env).require_auth()`. -/
def requireAdmin (env : Env) : Exec Unit := do
  let st ← getStorage
  Txn.ensure (env.auth st.admin = true) .unauthorized

/-- `usdc_token.balance(&env.current_contract_address())`. -/
def usdcBalance : Exec Int := (fun s => s.world.handlerUsdc) <$> get

/-- `BlendPoolClient::get_config().status`. -/
def blendStatus (env : Env) : Exec Nat := do
  let w ← getWorld
  Txn.orAbort .external (env.status w.venue)

/-- `BlendedPoolClient::query_delegate_state()`. -/
def queryDelegateState (env : Env) : Exec DelegateState := do
  let w ← getWorld
  Txn.orAbort .external (env.queryDelegateState w.venue)

/-- A call that moved tokens. -/
def perform (c : ExtCall) : Exec Unit := do
  let w ← getWorld
  Txn.ensure (c.Feasible w) (.insufficient c)
  modify fun s => s.after c

/-- A call to the pool, or a supply. -/
def request (env : Env) (c : ExtCall) : Exec Unit := do
  let w ← getWorld
  Txn.ensure (env.accepts w.venue c = true) .external
  perform c

/-- `pool_client.withdraw_to_delegate`. -/
def withdrawToDelegate (env : Env) (blendedPool usdc : Address) (amount : Int) : Exec Unit :=
  request env (.withdrawToDelegate blendedPool usdc amount)

def depositFromDelegate (env : Env) (blendedPool usdc : Address) (amount : Int) : Exec Unit :=
  request env (.depositFromDelegate blendedPool usdc amount)

def donateToPool (env : Env) (blendedPool usdc : Address) (amount : Int) : Exec Unit :=
  request env (.donate blendedPool usdc amount)

/-- `blend_submit(.., BLEND_REQUEST_SUPPLY, amount)`. -/
def blendSubmitSupply (env : Env) (blendPool usdc : Address) (amount : Int) : Exec Unit :=
  request env (.supply blendPool usdc amount)

/-- `blend_submit(.., BLEND_REQUEST_WITHDRAW, amount)`. -/
def blendSubmitWithdraw (env : Env) (blendPool usdc : Address) (amount : Int) : Exec Unit := do
  let w ← getWorld
  let delivery ← Txn.orAbort .external (env.withdraw w.venue amount)
  perform (.withdraw blendPool usdc amount delivery.val)

/-- `blend.claim`: the BLND goes straight to the treasury. -/
def blendClaim (env : Env) (blendPool : Address) (ids : List Nat)
    (recipient : Address) : Exec Int := do
  let w ← getWorld
  let routed ← Txn.orAbort .external (env.claim w.venue)
  perform (.claim blendPool ids recipient routed)
  pure routed

/-- The post-condition of the actions that move money. -/
def assertNoUsdcResidue : Exec Unit := do
  let balance ← usdcBalance
  Txn.ensure (balance = 0) (.localError .usdcLeak)

/-! ## What the primitives do -/

section

variable {β : Type} {env : Env} {s : Session} {r : β × Session}

@[simp] theorem getWorld_bind (f : World → Exec β) (s : Session) :
    (getWorld >>= f) s = f s.world s := rfl

@[simp] theorem getStorage_bind (f : Storage → Exec β) (s : Session) :
    (getStorage >>= f) s = f s.world.storage s := rfl

@[simp] theorem updateStorage_bind (u : Storage → Storage) (f : Unit → Exec β) (s : Session) :
    (updateStorage u >>= f) s = f () (s.update u) := rfl

@[simp] theorem updateStorage_run (u : Storage → Storage) (s : Session) :
    updateStorage u s = .ok ((), s.update u) := rfl

@[simp] theorem publish_bind (e : Event) (f : Unit → Exec β) (s : Session) :
    (publish e >>= f) s = f () (s.emit e) := rfl

@[simp] theorem publish_run (e : Event) (s : Session) : publish e s = .ok ((), s.emit e) := rfl

@[simp] theorem when_publish_bind (p : Prop) [Decidable p] (e : Event) (f : Unit → Exec β)
    (s : Session) : (Txn.when p (publish e) >>= f) s = f () (s.emitIf p e) := by
  by_cases h : p
  · simp [Txn.when, Session.emitIf, Session.emit, h]
  · simp [Txn.when, Session.emitIf, h]

@[simp] theorem usdcBalance_bind (f : Int → Exec β) (s : Session) :
    (usdcBalance >>= f) s = f s.world.handlerUsdc s := rfl

@[simp] theorem feasible_update (s : Session) (f : Storage → Storage) (c : ExtCall) :
    c.Feasible (s.update f).world ↔ c.Feasible s.world := by
  cases c <;> exact Iff.rfl

theorem requireAdmin_bind_eq_ok {f : Unit → Exec β} :
    (requireAdmin env >>= f) s = .ok r ↔
      env.auth s.world.storage.admin = true ∧ f () s = .ok r := by
  show ((getStorage >>= fun st => Txn.ensure (env.auth st.admin = true) .unauthorized) >>= f) s =
    _ ↔ _
  rw [bind_assoc, getStorage_bind, Txn.ensure_bind_eq_ok]

theorem requireAdmin_bind_error {f : Unit → Exec β} {e : Failure}
    (h : (requireAdmin env >>= f) s = .error e) : .unauthorized = e ∨ f () s = .error e := by
  have hensure : (Txn.ensure (env.auth s.world.storage.admin = true) .unauthorized >>= f) s =
      .error e := h
  exact (Txn.ensure_bind_error hensure).imp_right And.right

theorem blendStatus_bind_eq_ok {f : Nat → Exec β} :
    (blendStatus env >>= f) s = .ok r ↔
      ∃ status, env.status s.world.venue = some status ∧ f status s = .ok r := by
  show ((getWorld >>= fun w => Txn.orAbort .external (env.status w.venue)) >>= f) s = _ ↔ _
  rw [bind_assoc, getWorld_bind, Txn.orAbort_bind_eq_ok]

theorem queryDelegateState_bind_eq_ok {f : DelegateState → Exec β} :
    (queryDelegateState env >>= f) s = .ok r ↔
      ∃ state, env.queryDelegateState s.world.venue = some state ∧ f state s = .ok r := by
  show ((getWorld >>= fun w => Txn.orAbort .external (env.queryDelegateState w.venue)) >>= f) s =
    _ ↔ _
  rw [bind_assoc, getWorld_bind, Txn.orAbort_bind_eq_ok]

theorem perform_run (c : ExtCall) (s : Session) :
    perform c s = if c.Feasible s.world then .ok ((), s.after c) else .error (.insufficient c) := by
  rw [perform, getWorld_bind, Txn.ensure]
  split
  · rfl
  · rfl

theorem perform_bind_eq_ok {c : ExtCall} {f : Unit → Exec β} :
    (perform c >>= f) s = .ok r ↔ c.Feasible s.world ∧ f () (s.after c) = .ok r := by
  show ((getWorld >>= fun w => Txn.ensure (c.Feasible w) (.insufficient c) >>= fun _ =>
    modify fun s => s.after c) >>= f) s = _ ↔ _
  rw [bind_assoc, getWorld_bind, bind_assoc, Txn.ensure_bind_eq_ok]
  rfl

theorem request_bind_eq_ok {c : ExtCall} {f : Unit → Exec β} :
    (request env c >>= f) s = .ok r ↔
      env.accepts s.world.venue c = true ∧ c.Feasible s.world ∧ f () (s.after c) = .ok r := by
  show ((getWorld >>= fun w => Txn.ensure (env.accepts w.venue c = true) .external >>= fun _ =>
    perform c) >>= f) s = _ ↔ _
  rw [bind_assoc, getWorld_bind, bind_assoc, Txn.ensure_bind_eq_ok, perform_bind_eq_ok]

theorem when_request_bind_eq_ok {p : Prop} [Decidable p] {c : ExtCall} {f : Unit → Exec β} :
    (Txn.when p (request env c) >>= f) s = .ok r ↔
      (p → env.accepts s.world.venue c = true ∧ c.Feasible s.world) ∧
        f () (s.afterIf p c) = .ok r := by
  rw [Txn.when_bind_eq_ok, request_bind_eq_ok]
  by_cases h : p
  · simp [h, Session.afterIf, and_assoc]
  · simp [h, Session.afterIf]

theorem blendSubmitWithdraw_eq_ok {blendPool usdc : Address} {amount : Int} {t : Session} :
    blendSubmitWithdraw env blendPool usdc amount s = .ok ((), t) ↔
      ∃ delivery, env.withdraw s.world.venue amount = some delivery ∧
        delivery.val ≤ s.world.venue.blend.held ∧
        t = s.after (.withdraw blendPool usdc amount delivery.val) := by
  show (getWorld >>= fun w => Txn.orAbort .external (env.withdraw w.venue amount) >>=
    fun delivery => perform (.withdraw blendPool usdc amount delivery.val)) s = _ ↔ _
  rw [getWorld_bind, Txn.orAbort_bind_eq_ok]
  simp only [perform, getWorld_bind, Txn.ensure_bind_eq_ok, Txn.modify_run]
  simp only [ExtCall.Feasible, Except.ok.injEq, Prod.mk.injEq, true_and, eq_comm]

theorem blendSubmitWithdraw_bind_eq_ok {blendPool usdc : Address} {amount : Int}
    {f : Unit → Exec β} :
    (blendSubmitWithdraw env blendPool usdc amount >>= f) s = .ok r ↔
      ∃ delivery, env.withdraw s.world.venue amount = some delivery ∧
        delivery.val ≤ s.world.venue.blend.held ∧
        f () (s.after (.withdraw blendPool usdc amount delivery.val)) = .ok r := by
  show ((getWorld >>= fun w => Txn.orAbort .external (env.withdraw w.venue amount) >>=
    fun delivery => perform (.withdraw blendPool usdc amount delivery.val)) >>= f) s = _ ↔ _
  rw [bind_assoc, getWorld_bind, bind_assoc, Txn.orAbort_bind_eq_ok]
  simp only [perform_bind_eq_ok]
  rfl

@[simp] theorem after_claim_venue (s : Session) (blendPool : Address) (ids : List Nat)
    (recipient : Address) (routed : Int) :
    (s.after (.claim blendPool ids recipient routed)).world.venue = s.world.venue := rfl

@[simp] theorem after_claim_handlerUsdc (s : Session) (blendPool : Address) (ids : List Nat)
    (recipient : Address) (routed : Int) :
    (s.after (.claim blendPool ids recipient routed)).world.handlerUsdc = s.world.handlerUsdc :=
  Int.add_zero _

/-- The balance difference around a full withdrawal is what it delivered. -/
theorem redeemed_eq (s : Session) (blendPool usdc : Address) (d : Delivery i128Max) :
    saturatingSub (s.after (.withdraw blendPool usdc i128Max d.val)).world.handlerUsdc
      s.world.handlerUsdc = d.val :=
  saturatingSub_add_left d.property.1 d.property.2

theorem blendClaim_bind_eq_ok {blendPool recipient : Address} {ids : List Nat} {f : Int → Exec β} :
    (blendClaim env blendPool ids recipient >>= f) s = .ok r ↔
      ∃ routed, env.claim s.world.venue = some routed ∧
        f routed (s.after (.claim blendPool ids recipient routed)) = .ok r := by
  show ((getWorld >>= fun w => Txn.orAbort .external (env.claim w.venue) >>= fun routed =>
    perform (.claim blendPool ids recipient routed) >>= fun _ => pure routed) >>= f) s = _ ↔ _
  rw [bind_assoc, getWorld_bind, bind_assoc, Txn.orAbort_bind_eq_ok]
  simp only [bind_assoc, perform_bind_eq_ok, pure_bind, ExtCall.Feasible, true_and]

theorem assertNoUsdcResidue_eq_ok {t : Session} :
    assertNoUsdcResidue s = .ok ((), t) ↔ s.world.handlerUsdc = 0 ∧ t = s := by
  show (usdcBalance >>= fun balance => Txn.ensure (balance = 0) (.localError .usdcLeak)) s = _ ↔ _
  rw [usdcBalance_bind, Txn.ensure_eq_ok]
  simp

end

end BlendPool.Handler
