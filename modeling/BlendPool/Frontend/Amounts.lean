/-
# `BlendPool.Frontend.Amounts` — amounts as the dashboard writes and reads them

Token amounts are integers with seven implied places.  `fmtAmt` writes one for
display and into the input fields, `parseAmount7` reads what the user left in
such a field and what is then signed.  Both sides are the library's numerals:
`fmtAmt` writes the one without superfluous zeros, `parseAmount7` accepts every
numeral of at most seven places, between blanks, and returns what it denotes.
-/
import BlendPool.Lib.Decimal

namespace BlendPool.Frontend

open Decimal

def tokenDecimals : Nat := 7

/-- `fmtAmt` for any number of places. -/
def fmtAmtWith (decimals : Nat) (raw : Option Int) : String :=
  match raw with
  | none => "--"
  | some big =>
      let abs := big.natAbs
      let scale := 10 ^ decimals
      let whole := abs / scale
      let frac := abs % scale
      let fracStr := dropZeros ((Nat.toDigits 10 frac).leftpad decimals '0')
      let out :=
        if fracStr = [] then Nat.toDigits 10 whole else Nat.toDigits 10 whole ++ '.' :: fracStr
      String.ofList (if big < 0 then '-' :: out else out)

def fmtAmt (raw : Option Int) : String := fmtAmtWith tokenDecimals raw

/-- What `trim` takes for blank: the white space and the line terminators of the language. -/
def isJsSpace (c : Char) : Bool :=
  c.toNat ∈ [0x9, 0xA, 0xB, 0xC, 0xD, 0x20, 0xA0, 0x1680, 0x2028, 0x2029, 0x202F, 0x205F, 0x3000,
    0xFEFF] ∨ (0x2000 ≤ c.toNat ∧ c.toNat ≤ 0x200A)

def trim (s : List Char) : List Char := (s.dropWhile isJsSpace).rdropWhile isJsSpace

/-- `/^\d+(\.\d{1,7})?$/`. -/
def isAmount (s : List Char) : Bool :=
  !(s.takeWhile Char.isDigit).isEmpty &&
    match s.dropWhile Char.isDigit with
    | [] => true
    | c :: frac => c == '.' && 1 ≤ frac.length && frac.length ≤ 7 && frac.all Char.isDigit

/-- `null` for an empty field, the thrown text for one that is not an amount. -/
def parseAmount7 (input : Option String) : Except String (Option Int) :=
  match input with
  | none => .ok none
  | some input =>
      let s := trim input.toList
      if s = [] then .ok none
      else if isAmount s = false then
        .error ("invalid amount \"" ++ String.ofList s ++ "\" — use up to 7 decimals")
      else
        let parts := s.splitOn '.'
        let whole := parts.getD 0 []
        let frac := parts.getD 1 []
        let fracPadded := (frac ++ List.replicate 7 '0').take 7
        .ok (some (value whole * 10000000 + value fracPadded : Nat))

/-! ## The writer -/

theorem fmtAmt_natCast (n : Nat) : fmtAmt (some n) = String.ofList (ofScaled 7 n).text := by
  have hneg : ¬ (n : Int) < 0 := Int.not_lt.mpr (Int.natCast_nonneg n)
  rw [fmtAmt, fmtAmtWith, if_neg hneg, Int.natAbs_natCast, Numeral.text]
  by_cases hfrac : (ofScaled 7 n).frac = []
  · rw [if_pos hfrac, List.append_nil]
    exact congrArg String.ofList (if_pos hfrac)
  · rw [if_neg hfrac]
    exact congrArg String.ofList (if_neg hfrac)

/-! ## The reader -/

theorem not_isJsSpace_of_mem {n : Numeral} {c : Char} (h : c ∈ n.text) : isJsSpace c = false := by
  have hc : c = '.' ∨ 48 ≤ c.toNat ∧ c.toNat ≤ 57 := by
    rcases Numeral.mem_text h with h | h
    · exact .inr (Char.isDigit_iff_toNat.mp h)
    · exact .inl h
  rcases hc with rfl | ⟨hlo, hhi⟩
  · decide
  · simp only [isJsSpace, List.mem_cons, List.not_mem_nil, or_false, decide_eq_false_iff_not]
    omega

theorem trim_text (n : Numeral) : trim n.text = n.text := by
  have hno : ∀ c ∈ n.text, isJsSpace c = false := fun c hc => not_isJsSpace_of_mem hc
  have hfront : n.text.dropWhile isJsSpace = n.text := by
    refine List.dropWhile_eq_self_iff.mpr ?_
    intro hpos
    rw [hno _ (List.getElem_mem _)]
    exact Bool.false_ne_true
  rw [trim, hfront]
  refine List.rdropWhile_eq_self_iff.mpr ?_
  intro hne
  rw [hno _ (List.getLast_mem hne)]
  exact Bool.false_ne_true

theorem span_text (n : Numeral) :
    n.text.takeWhile Char.isDigit = n.whole ∧
      n.text.dropWhile Char.isDigit = if n.frac = [] then [] else '.' :: n.frac := by
  rw [Numeral.text, List.takeWhile_append_of_pos n.whole_digits,
    List.dropWhile_append_of_pos n.whole_digits]
  split
  · exact ⟨List.append_nil _, rfl⟩
  · exact ⟨List.append_nil _, rfl⟩

theorem isAmount_text (n : Numeral) : isAmount n.text = true ↔ n.frac.length ≤ 7 := by
  obtain ⟨htake, hdrop⟩ := span_text n
  rw [isAmount, htake, hdrop]
  have hwhole := n.whole_ne
  by_cases hfrac : n.frac = []
  · simp [hfrac, hwhole]
  · have hpos : 1 ≤ n.frac.length := List.length_pos_iff.mpr hfrac
    have hall : n.frac.all Char.isDigit = true := List.all_eq_true.mpr n.frac_digits
    simp [hfrac, hwhole, hpos, hall]

theorem exists_numeral {s : List Char} (h : isAmount s = true) :
    ∃ n : Numeral, n.text = s ∧ n.frac.length ≤ 7 := by
  rw [isAmount, Bool.and_eq_true] at h
  obtain ⟨hwhole, hrest⟩ := h
  have hwhole_ne : s.takeWhile Char.isDigit ≠ [] := by simpa using hwhole
  have hdigits : Digits (s.takeWhile Char.isDigit) := fun c hc => List.mem_takeWhile_imp hc
  have hsplit := List.takeWhile_append_dropWhile (p := Char.isDigit) (l := s)
  cases hdrop : s.dropWhile Char.isDigit with
  | nil =>
      rw [hdrop] at hsplit
      exact ⟨⟨_, [], hwhole_ne, hdigits, fun c hc => absurd hc List.not_mem_nil⟩, hsplit,
        Nat.zero_le _⟩
  | cons c frac =>
      rw [hdrop] at hrest hsplit
      simp only [Bool.and_eq_true, beq_iff_eq, decide_eq_true_eq, List.all_eq_true] at hrest
      obtain ⟨⟨⟨rfl, hpos⟩, hlen⟩, hfrac⟩ := hrest
      refine ⟨⟨_, frac, hwhole_ne, hdigits, hfrac⟩, ?_, hlen⟩
      rw [Numeral.text, if_neg (List.length_pos_iff.mp hpos)]
      exact hsplit

theorem splitOn_text (n : Numeral) :
    (n.text.splitOn '.').getD 0 [] = n.whole ∧ (n.text.splitOn '.').getD 1 [] = n.frac := by
  rw [Numeral.text]
  split
  · next hfrac =>
      rw [List.append_nil, List.splitOn_eq_singleton (point_notMem n.whole_digits), hfrac]
      exact ⟨rfl, rfl⟩
  · rw [List.splitOn_append_cons_self_of_not_mem (point_notMem n.whole_digits),
      List.splitOn_eq_singleton (point_notMem n.frac_digits)]
    exact ⟨rfl, rfl⟩

/-- Filling up to seven places multiplies by the power of ten that is missing. -/
theorem value_fracPadded {frac : List Char} (h : frac.length ≤ 7) :
    value ((frac ++ List.replicate 7 '0').take 7) = value frac * 10 ^ (7 - frac.length) := by
  rw [List.take_append, List.take_of_length_le h, List.take_replicate, value_append_zeros,
    min_eq_left (Nat.sub_le _ _)]

/-- What a field holds is accepted exactly when, between blanks, it is a numeral
of at most seven places; the amount is what the numeral denotes. -/
theorem parseAmount7_eq_ok {s : String} {v : Int} :
    parseAmount7 (some s) = .ok (some v) ↔
      ∃ n : Numeral, trim s.toList = n.text ∧ n.frac.length ≤ 7 ∧ v = n.scaled 7 := by
  have hread : ∀ n : Numeral, trim s.toList = n.text → n.frac.length ≤ 7 →
      parseAmount7 (some s) = .ok (some (n.scaled 7 : Nat)) := by
    intro n htrim hlen
    have haccept : ¬ isAmount n.text = false := Bool.not_eq_false _ ▸ (isAmount_text n).mpr hlen
    obtain ⟨hwhole, hfrac⟩ := splitOn_text n
    rw [parseAmount7, htrim]
    dsimp only
    rw [if_neg n.text_ne_nil, if_neg haccept, hwhole, hfrac, value_fracPadded hlen]
    rfl
  constructor
  · intro h
    by_cases hblank : trim s.toList = []
    · rw [parseAmount7, if_pos hblank] at h
      cases h
    · by_cases hrefused : isAmount (trim s.toList) = false
      · rw [parseAmount7, if_neg hblank, if_pos hrefused] at h
        cases h
      · obtain ⟨n, htext, hlen⟩ := exists_numeral (Bool.not_eq_false _ ▸ hrefused)
        have hv := (hread n htext.symm hlen).symm.trans h
        cases hv
        exact ⟨n, htext.symm, hlen, rfl⟩
  · rintro ⟨n, htrim, hlen, rfl⟩
    exact hread n htrim hlen

/-! ## There and back -/

theorem parseAmount7_fmtAmt_natCast (n : Nat) :
    parseAmount7 (some (fmtAmt (some n))) = .ok (some n) := by
  refine parseAmount7_eq_ok.mpr ⟨ofScaled 7 n, ?_, length_frac_ofScaled (by decide) n, ?_⟩
  · rw [fmtAmt_natCast, String.toList_ofList]
    exact trim_text _
  · rw [scaled_ofScaled (by decide)]

theorem fmtAmt_inj {a b : Int} (ha : 0 ≤ a) (h : fmtAmt (some a) = fmtAmt (some b)) : a = b := by
  obtain ⟨n, rfl⟩ := Int.eq_ofNat_of_zero_le ha
  by_cases hneg : b < 0
  · -- a sign is neither a digit nor a point
    rw [fmtAmt_natCast, fmtAmt, fmtAmtWith, if_pos hneg, String.ofList_inj] at h
    have hsign : '-' ∈ (ofScaled 7 n).text := h ▸ List.mem_cons_self
    rcases Numeral.mem_text hsign with hc | hc
    · exact absurd hc (by decide)
    · exact absurd hc (by decide)
  · obtain ⟨m, rfl⟩ := Int.eq_ofNat_of_zero_le (Int.not_lt.mp hneg)
    have hread := parseAmount7_fmtAmt_natCast n
    rw [h, parseAmount7_fmtAmt_natCast m] at hread
    injection hread with hread
    exact (Option.some.inj hread).symm

/-- A point in what `fmtAmt` writes is followed by digits that do not end in a zero. -/
theorem fmtAmt_fraction {n : Nat} {whole frac : List Char}
    (h : (fmtAmt (some n)).toList = whole ++ '.' :: frac) :
    frac ≠ [] ∧ frac.getLast? ≠ some '0' := by
  rw [fmtAmt_natCast, String.toList_ofList] at h
  obtain ⟨rfl, hne⟩ := Numeral.frac_of_text h
  exact ⟨hne, getLast?_frac_ofScaled n⟩

/-- The writer and the reader are inverse on the non-negative amounts, and
writing again what was read leaves no zero at the end of a fraction and no point
without one. -/
theorem amounts_inverse :
    (∀ raw : Int, 0 ≤ raw → parseAmount7 (some (fmtAmt (some raw))) = .ok (some raw)) ∧
    ∀ (s : String) (v : Int), parseAmount7 (some s) = .ok (some v) →
      parseAmount7 (some (fmtAmt (some v))) = .ok (some v) ∧
        ∀ whole frac, (fmtAmt (some v)).toList = whole ++ '.' :: frac →
          frac ≠ [] ∧ frac.getLast? ≠ some '0' := by
  constructor
  · intro raw hraw
    obtain ⟨n, rfl⟩ := Int.eq_ofNat_of_zero_le hraw
    exact parseAmount7_fmtAmt_natCast n
  · intro s v h
    obtain ⟨n, -, -, rfl⟩ := parseAmount7_eq_ok.mp h
    exact ⟨parseAmount7_fmtAmt_natCast _, fun whole frac => fmtAmt_fraction⟩

/-- Half a token, as a user may type it and as it is written back. -/
theorem amounts_inverse_half :
    parseAmount7 (some (fmtAmt (some 5000000))) = .ok (some 5000000) ∧
      fmtAmt (some 5000000) = "0.5" ∧ parseAmount7 (some " 00.500 ") = .ok (some 5000000) :=
  ⟨amounts_inverse.1 5000000 (by decide), by decide, by decide⟩

end BlendPool.Frontend
