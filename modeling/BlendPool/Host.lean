/-
# `BlendPool.Host` — what the three contracts share

Byte strings, addresses and the one library function family whose code is not in
this repository but whose result the contracts store: the two-step admin
transfer.

Addresses are only compared, for equality and for order (the handler sorts the
two tokens of the pool), so any countable linear order will do.  Byte arrays
are ordered lexicographically, which is what `BytesN::cmp` and the comparison
of `[u8; N]` arrays do.
-/
import BlendPool.Lib.Txn
import Mathlib.Data.List.Lex
import Mathlib.Data.UInt
import Mathlib.Order.Fin.Basic

namespace BlendPool

abbrev Byte := Fin 256

instance byteNeZero : NeZero 256 := ⟨Nat.succ_ne_zero 255⟩

abbrev Bytes := List Byte

/-- `BytesN<N>`: exactly `n` bytes. -/
abbrev BytesN (n : Nat) := { b : Bytes // b.length = n }

abbrev Ed25519PubKey := BytesN 32

abbrev Ed25519Signature := BytesN 64

abbrev Address := Nat

/-- A short host symbol, by its text. -/
abbrev Symbol := String

/-- `n` copies of one byte. -/
def BytesN.const (n : Nat) (b : Byte) : BytesN n := ⟨List.replicate n b, List.length_replicate⟩

/-- `warpdrive_shared::admin`, whose code lives in the shared crate.  It is
told who authorised the call and keeps the pending admin; `none` is a refusal. -/
structure AdminTransfer where
  propose : (Address → Bool) → Address → Address → Option Address → Option (Option Address)
  accept : (Address → Bool) → Option Address → Option (Address × Option Address)

/-- The transfer as its interface describes it: the admin proposes, the pending
admin accepts. -/
def AdminTransfer.twoStep : AdminTransfer where
  propose auth admin newAdmin _ := if auth admin then some (some newAdmin) else none
  accept auth pending := pending.bind fun admin => if auth admin then some (admin, none) else none

end BlendPool
