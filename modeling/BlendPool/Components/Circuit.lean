/-
# `BlendPool.Components.Circuit` — from a trigger to a payload

Every operator runs the circuit on every trigger: an event of the pool, or a tick of the
clock.  What comes out is at most one payload, a unit variant of `RebalanceAction` in XDR,
with no amount, no salt and no ordering.  The XDR codec is a library's and is the parameter
`W`; what crosses the wire, and what the handler makes of it, is here.

An error is its outermost text.
-/
import BlendPool.Handler.State

namespace BlendPool.Components

open Handler

/-! ## The wire -/

/-- The values that are sent or looked at; of every other one only that it is another. -/
inductive ScVal where
  | symbol (text : String)
  | string (text : String)
  | vec (elements : Option (List ScVal))
  | other (discriminant : Nat)

/-- The XDR codec, on both sides of the wire. -/
structure Wire where
  /-- `to_xdr(Limits::none())` -/
  toXdr : ScVal → Option Bytes
  /-- `from_xdr`, on the host -/
  fromXdr : Bytes → Option ScVal
  /-- `ScVal::from_xdr_base64` -/
  fromXdrBase64 : String → Option ScVal

/-- What `RebalanceAction::from_xdr` makes of a decoded value: a unit variant is a vector
that holds its name as a symbol and nothing else. -/
def RebalanceAction.ofScVal : ScVal → Option RebalanceAction
  | .vec (some [.symbol tag]) =>
      if tag = "Rebalance" then some .rebalance
      else if tag = "HarvestYield" then some .harvestYield
      else none
  | _ => none

/-! ## `payload.rs` -/

inductive Direction where
  | rebalance
  | harvestYield
  deriving DecidableEq, Repr

def Direction.tag : Direction → String
  | .rebalance => "Rebalance"
  | .harvestYield => "HarvestYield"

/-- The action a direction stands for. -/
def Direction.action : Direction → RebalanceAction
  | .rebalance => .rebalance
  | .harvestYield => .harvestYield

/-- A symbol has at most 32 bytes. -/
def symbolVal (s : String) : Except String ScVal :=
  if s.utf8ByteSize ≤ 32 then .ok (.symbol s) else .error "symbol too long"

/-- `VecM<ScVal>`, whose length is a `u32`. -/
def vecM (elements : List ScVal) : Except String (List ScVal) :=
  if elements.length < 2 ^ 32 then .ok elements else .error "enum payload vec"

def encode (W : Wire) (direction : Direction) : Except String Bytes := do
  let tag ← symbolVal direction.tag
  let elements ← vecM [tag]
  match W.toXdr (.vec (some elements)) with
  | some bytes => .ok bytes
  | none => .error "xdr-encode RebalanceAction"

/-! ## `phoenix.rs` -/

def topicSwap : String := "swap"

def topicProvideLiquidity : String := "provide_liquidity"

def topicWithdrawLiquidity : String := "withdraw_liquidity"

/-- Whether the first topic is one of the three; what cannot be read is not. -/
def isRelevantEvent (W : Wire) : List String → Except String Bool
  | [] => .ok false
  | first :: _ =>
      match W.fromXdrBase64 first with
      | none => .ok false
      | some (.symbol topic) | some (.string topic) =>
          .ok (topic = topicSwap ∨ topic = topicProvideLiquidity ∨ topic = topicWithdrawLiquidity)
      | some _ => .ok false

/-! ## `lib.rs` -/

/-- What woke the circuit: of a contract's event, the topics. -/
inductive TriggerData where
  | stellarContractEvent (topicSegments : List String)
  | cron
  | other
  deriving DecidableEq

structure WasmResponse where
  payload : Bytes
  ordering : Option Nat
  eventIdSalt : Option Bytes
  deriving DecidableEq

def handlePoolEvent (W : Wire) (topicSegments : List String) :
    Except String (List WasmResponse) := do
  let relevant ← isRelevantEvent W topicSegments
  if ¬ relevant then .ok []
  else
    let bytes ← encode W .rebalance
    .ok [{ payload := bytes, ordering := none, eventIdSalt := none }]

def harvestYieldResponse (W : Wire) : Except String WasmResponse := do
  let bytes ← encode W .harvestYield
  .ok { payload := bytes, ordering := none, eventIdSalt := none }

/-- `run` and `run_inner`. -/
def run (W : Wire) : TriggerData → Except String (List WasmResponse)
  | .stellarContractEvent topicSegments => handlePoolEvent W topicSegments
  | .cron => do
      let response ← harvestYieldResponse W
      .ok [response]
  | .other => .error "unexpected trigger type"

/-! ## What comes out -/

/-- What a trigger asks of the handler. -/
def requested (W : Wire) : TriggerData → Option Direction
  | .stellarContractEvent topicSegments =>
      if isRelevantEvent W topicSegments = .ok true then some .rebalance else none
  | .cron => some .harvestYield
  | .other => none

/-- The codec carries the two payloads: what the circuit writes the host reads. -/
def Wire.Carries (W : Wire) : Prop :=
  ∀ direction : Direction, ∃ bytes,
    W.toXdr (.vec (some [.symbol direction.tag])) = some bytes ∧
      W.fromXdr bytes = some (.vec (some [.symbol direction.tag]))

variable {W : Wire}

theorem isRelevantEvent_total (W : Wire) (topicSegments : List String) :
    ∃ relevant, isRelevantEvent W topicSegments = .ok relevant := by
  cases topicSegments with
  | nil => exact ⟨false, rfl⟩
  | cons first rest =>
      rw [isRelevantEvent]
      cases W.fromXdrBase64 first with
      | none => exact ⟨false, rfl⟩
      | some v =>
          cases v with
          | symbol topic | string topic => exact ⟨_, rfl⟩
          | vec _ | other _ => exact ⟨false, rfl⟩

/-- Of the three ways to fail, only the codec's is left. -/
theorem encode_eq (W : Wire) (direction : Direction) :
    encode W direction =
      match W.toXdr (.vec (some [.symbol direction.tag])) with
      | some bytes => .ok bytes
      | none => .error "xdr-encode RebalanceAction" := by
  cases direction with
  | rebalance | harvestYield => rfl

/-- What is encoded is read as the action it stands for. -/
theorem encode_decodes (hW : W.Carries) (direction : Direction) :
    ∃ bytes, encode W direction = .ok bytes ∧
      (W.fromXdr bytes).bind RebalanceAction.ofScVal = some direction.action := by
  obtain ⟨bytes, hto, hfrom⟩ := hW direction
  refine ⟨bytes, ?_, ?_⟩
  · rw [encode_eq, hto]
  · rw [hfrom]
    cases direction with
    | rebalance | harvestYield => rfl

/-- The circuit answers with the payload of what was requested, and with nothing where
nothing was; only a trigger it does not know is an error. -/
theorem run_eq (W : Wire) (data : TriggerData) :
    run W data =
      match requested W data with
      | some direction =>
          (encode W direction).map fun bytes => [⟨bytes, none, none⟩]
      | none => if data = .other then .error "unexpected trigger type" else .ok [] := by
  cases data with
  | stellarContractEvent topicSegments =>
      obtain ⟨relevant, hrelevant⟩ := isRelevantEvent_total W topicSegments
      rw [run, handlePoolEvent, requested, hrelevant]
      cases relevant with
      | false => rfl
      | true =>
          show (encode W .rebalance).bind _ = (encode W .rebalance).map _
          cases encode W .rebalance with
          | ok bytes => rfl
          | error e => rfl
  | cron =>
      show ((encode W .harvestYield).bind _).bind _ = (encode W .harvestYield).map _
      cases encode W .harvestYield with
      | ok bytes => rfl
      | error e => rfl
  | other => rfl

/-- Every response is for something that was requested, and is read as that. -/
theorem run_decodes (hW : W.Carries) {data : TriggerData} {rs : List WasmResponse}
    (h : run W data = .ok rs) {r : WasmResponse} (hr : r ∈ rs) :
    rs = [r] ∧ r.ordering = none ∧ r.eventIdSalt = none ∧
      ∃ direction, requested W data = some direction ∧
        (W.fromXdr r.payload).bind RebalanceAction.ofScVal = some direction.action := by
  rw [run_eq] at h
  cases hrequested : requested W data with
  | none =>
      rw [hrequested] at h
      dsimp only at h
      split at h
      · cases h
      · cases h
        cases hr
  | some direction =>
      obtain ⟨bytes, hbytes, hread⟩ := encode_decodes hW direction
      rw [hrequested] at h
      dsimp only at h
      rw [hbytes] at h
      cases h
      obtain rfl := List.mem_singleton.mp hr
      exact ⟨rfl, rfl, rfl, direction, rfl, hread⟩

end BlendPool.Components
