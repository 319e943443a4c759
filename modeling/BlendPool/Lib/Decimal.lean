/-
# `BlendPool.Lib.Decimal` — decimal numerals and fixed-point integers

A numeral is digits, and possibly a point and more digits.  At a scale of `d`
places it denotes the integer `scaled d`: the digits with the point moved `d`
places to the right.  Many numerals denote one integer — leading zeros, and
zeros at the end of the fraction — and `ofScaled d n` is the one without any.

What connects a printer to a reader is `scaled_ofScaled`; what a printer and a
reader do to the text is the business of whoever uses this, who shows that the
one writes `(ofScaled d n).text` and that the other reads `scaled d` off a text.
-/
import Mathlib.Algebra.Order.Ring.Int
import Mathlib.Data.List.DropRight
import Mathlib.Tactic.Common

namespace Decimal

/-- Digits only, of any number. -/
def Digits (l : List Char) : Prop := ∀ c ∈ l, c.isDigit = true

theorem point_notMem {l : List Char} (h : Digits l) : '.' ∉ l := by
  intro hmem
  exact absurd (h '.' hmem) (by decide)

/-- The integer a list of digits denotes. -/
def value (l : List Char) : Nat := Nat.ofDigitChars 10 l 0

theorem digits_toDigits (n : Nat) : Digits (Nat.toDigits 10 n) := fun _ hc =>
  Nat.isDigit_of_mem_toDigits (by decide) (by decide) hc

theorem value_toDigits (n : Nat) : value (Nat.toDigits 10 n) = n := Nat.ofDigitChars_ten_toDigits

theorem value_append_zeros (l : List Char) (k : Nat) :
    value (l ++ List.replicate k '0') = value l * 10 ^ k := by
  rw [value, Nat.ofDigitChars_append, Nat.ofDigitChars_replicate_zero, Nat.mul_comm]
  rfl

theorem value_leftpad (k : Nat) (l : List Char) : value (l.leftpad k '0') = value l := by
  rw [List.leftpad, value, Nat.ofDigitChars_append, Nat.ofDigitChars_replicate_zero, Nat.mul_zero]
  rfl

theorem digits_leftpad {k : Nat} {l : List Char} (h : Digits l) : Digits (l.leftpad k '0') := by
  intro c hc
  rcases List.mem_append.mp hc with hc | hc
  · rw [List.eq_of_mem_replicate hc]
    rfl
  · exact h c hc

theorem length_leftpad_toDigits {k n : Nat} (hk : 0 < k) (hn : n < 10 ^ k) :
    ((Nat.toDigits 10 n).leftpad k '0').length = k := by
  rw [List.length_leftpad]
  exact max_eq_left ((Nat.length_toDigits_le_iff (by decide) hk).mpr hn)

/-! ## Zeros at the end -/

/-- The digits without the zeros at their end. -/
def dropZeros (l : List Char) : List Char := l.rdropWhile (· = '0')

theorem length_dropZeros_le (l : List Char) : (dropZeros l).length ≤ l.length :=
  (List.rdropWhile_prefix _ l).length_le

theorem digits_dropZeros {l : List Char} (h : Digits l) : Digits (dropZeros l) := fun c hc =>
  h c ((List.rdropWhile_prefix _ l).subset hc)

theorem getLast?_dropZeros (l : List Char) : (dropZeros l).getLast? ≠ some '0' := by
  intro h
  obtain ⟨hne, hlast⟩ := List.mem_getLast?_eq_getLast h
  have hnot := List.rdropWhile_last_not (fun c : Char => decide (c = '0')) l hne
  exact hnot (decide_eq_true hlast.symm)

theorem dropZeros_append (l : List Char) :
    dropZeros l ++ List.replicate (l.length - (dropZeros l).length) '0' = l := by
  induction l using List.reverseRecOn with
  | nil => rfl
  | append_singleton l c ih =>
      by_cases hc : c = '0'
      · have hdrop : dropZeros (l ++ [c]) = dropZeros l :=
          List.rdropWhile_concat_pos _ l c (decide_eq_true hc)
        have hle := length_dropZeros_le l
        rw [hdrop, List.length_append, List.length_singleton, Nat.sub_add_comm hle,
          List.replicate_succ', ← List.append_assoc, ih, hc]
      · have hkeep : dropZeros (l ++ [c]) = l ++ [c] :=
          List.rdropWhile_concat_neg _ l c (by simpa using hc)
        rw [hkeep, Nat.sub_self, List.replicate_zero, List.append_nil]

/-- Dropping zeros and filling up again is the identity on the value. -/
theorem value_dropZeros (l : List Char) :
    value (dropZeros l) * 10 ^ (l.length - (dropZeros l).length) = value l := by
  rw [← value_append_zeros, dropZeros_append]

/-! ## Numerals -/

/-- A numeral; without a fraction it has no point either. -/
@[ext] structure Numeral where
  whole : List Char
  frac : List Char
  whole_ne : whole ≠ []
  whole_digits : Digits whole
  frac_digits : Digits frac

namespace Numeral

def text (n : Numeral) : List Char :=
  n.whole ++ if n.frac = [] then [] else '.' :: n.frac

/-- The integer it denotes at `d` places, of which its fraction takes no more. -/
def scaled (d : Nat) (n : Numeral) : Nat :=
  value n.whole * 10 ^ d + value n.frac * 10 ^ (d - n.frac.length)

theorem mem_text {n : Numeral} {c : Char} (h : c ∈ n.text) : c.isDigit = true ∨ c = '.' := by
  rw [text] at h
  rcases List.mem_append.mp h with h | h
  · exact .inl (n.whole_digits c h)
  · split at h
    · cases h
    · rcases List.mem_cons.mp h with h | h
      · exact .inr h
      · exact .inl (n.frac_digits c h)

theorem text_ne_nil (n : Numeral) : n.text ≠ [] := List.append_ne_nil_of_left_ne_nil n.whole_ne _

/-- There is one point at most: what follows one is the fraction. -/
theorem frac_of_text {n : Numeral} {whole frac : List Char} (h : n.text = whole ++ '.' :: frac) :
    frac = n.frac ∧ n.frac ≠ [] := by
  have hwhole := point_notMem n.whole_digits
  rw [text] at h
  split at h
  · refine absurd ?_ hwhole
    rw [← List.append_nil n.whole, h]
    exact List.mem_append_right _ List.mem_cons_self
  · next hne =>
      rcases List.append_eq_append_iff.mp h with ⟨l, -, hl⟩ | ⟨l, hl', hl⟩
      · cases l with
        | nil => exact ⟨(List.cons.inj hl).2.symm, hne⟩
        | cons c l =>
            refine absurd ?_ (point_notMem n.frac_digits)
            rw [(List.cons.inj hl).2]
            exact List.mem_append_right _ List.mem_cons_self
      · cases l with
        | nil => exact ⟨(List.cons.inj hl).2, hne⟩
        | cons c l =>
            refine absurd ?_ hwhole
            rw [hl', ← (List.cons.inj hl).1]
            exact List.mem_append_right _ List.mem_cons_self

end Numeral

/-- The numeral of `n` at `d` places, without superfluous zeros. -/
def ofScaled (d n : Nat) : Numeral where
  whole := Nat.toDigits 10 (n / 10 ^ d)
  frac := dropZeros ((Nat.toDigits 10 (n % 10 ^ d)).leftpad d '0')
  whole_ne := Nat.toDigits_ne_nil
  whole_digits := digits_toDigits _
  frac_digits := digits_dropZeros (digits_leftpad (digits_toDigits _))

section

variable {d : Nat}

theorem length_frac_ofScaled (hd : 0 < d) (n : Nat) : (ofScaled d n).frac.length ≤ d := by
  have hlen := length_leftpad_toDigits hd (Nat.mod_lt n (Nat.pow_pos (by decide : 0 < 10)))
  exact (length_dropZeros_le _).trans hlen.le

theorem getLast?_frac_ofScaled (n : Nat) : (ofScaled d n).frac.getLast? ≠ some '0' :=
  getLast?_dropZeros _

theorem scaled_ofScaled (hd : 0 < d) (n : Nat) : (ofScaled d n).scaled d = n := by
  have hlen := length_leftpad_toDigits hd (Nat.mod_lt n (Nat.pow_pos (by decide : 0 < 10)))
  have hfrac := value_dropZeros ((Nat.toDigits 10 (n % 10 ^ d)).leftpad d '0')
  rw [hlen, value_leftpad, value_toDigits] at hfrac
  rw [Numeral.scaled, ofScaled, value_toDigits, hfrac]
  exact Nat.div_add_mod' n (10 ^ d)

end

end Decimal
