/-
# `BlendPool.Lib.SortedVec` — a strictly ascending vector as a finite set

A set of keys kept as a strictly ascending vector and updated in place: a scan
finds the position, and an index operation inserts or removes there.  Both
scans stop early, which is only right because the vector is ascending; that
hypothesis enters exactly once, in `mem_removeAt_removeScan`.
-/
import Mathlib.Order.Basic
import Mathlib.Order.Compare
import Mathlib.Data.Finset.Sort

namespace SortedVec

variable {κ : Type} [LinearOrder κ]

/-- Strictly ascending: sorted, and without duplicates. -/
def Ascending (l : List κ) : Prop := l.Pairwise (· < ·)

/-- Where to insert `k`: before the first larger key, or nowhere when `k` is
met on the way. -/
def insertScan (k : κ) : List κ → Option Nat
  | [] => some 0
  | e :: l =>
      if k < e then some 0
      else if k = e then none
      else (insertScan k l).map (· + 1)

/-- Where `k` is; the scan gives up at the first larger key. -/
def removeScan (k : κ) : List κ → Option Nat
  | [] => none
  | e :: l =>
      if e = k then some 0
      else if k < e then none
      else (removeScan k l).map (· + 1)

/-- Insert `k` at the position the scan found, if it found one. -/
def insertAt (k : κ) (l : List κ) : Option Nat → List κ
  | some i => l.insertIdx i k
  | none => l

/-- Remove the key at the position the scan found, if it found one. -/
def removeAt (l : List κ) : Option Nat → List κ
  | some i => l.eraseIdx i
  | none => l

omit [LinearOrder κ] in
theorem insertAt_cons_succ (k e : κ) (l : List κ) (o : Option Nat) :
    insertAt k (e :: l) (o.map (· + 1)) = e :: insertAt k l o := by
  cases o <;> rfl

omit [LinearOrder κ] in
theorem removeAt_cons_succ (e : κ) (l : List κ) (o : Option Nat) :
    removeAt (e :: l) (o.map (· + 1)) = e :: removeAt l o := by
  cases o <;> rfl

/-! ## Insertion -/

theorem mem_insertAt_insertScan {k x : κ} {l : List κ} :
    x ∈ insertAt k l (insertScan k l) ↔ x = k ∨ x ∈ l := by
  induction l with
  | nil => simp [insertScan, insertAt]
  | cons e l ih =>
      rw [insertScan]
      by_cases hlt : k < e
      · rw [if_pos hlt]
        simp [insertAt]
      · rw [if_neg hlt]
        by_cases heq : k = e
        · rw [if_pos heq]
          subst heq
          simp [insertAt]
        · rw [if_neg heq, insertAt_cons_succ, List.mem_cons, ih, List.mem_cons]
          tauto

theorem ascending_insertAt_insertScan {k : κ} {l : List κ} (h : Ascending l) :
    Ascending (insertAt k l (insertScan k l)) := by
  induction l with
  | nil => simp [insertScan, insertAt, Ascending]
  | cons e l ih =>
      obtain ⟨he, hl⟩ := List.pairwise_cons.mp h
      rw [insertScan]
      by_cases hlt : k < e
      · rw [if_pos hlt]
        refine List.pairwise_cons.mpr ⟨?_, h⟩
        intro x hx
        rcases List.mem_cons.mp hx with rfl | hx
        · exact hlt
        · exact hlt.trans (he x hx)
      · rw [if_neg hlt]
        by_cases heq : k = e
        · rw [if_pos heq]; exact h
        · rw [if_neg heq, insertAt_cons_succ]
          refine List.pairwise_cons.mpr ⟨?_, ih hl⟩
          intro x hx
          rcases mem_insertAt_insertScan.mp hx with rfl | hx
          · exact lt_of_le_of_ne (not_lt.mp hlt) (Ne.symm heq)
          · exact he x hx

/-! ## Removal -/

theorem removeAt_removeScan_sublist {k : κ} {l : List κ} :
    List.Sublist (removeAt l (removeScan k l)) l := by
  cases removeScan k l with
  | none => exact List.Sublist.refl l
  | some i => exact List.eraseIdx_sublist l i

theorem ascending_removeAt_removeScan {k : κ} {l : List κ} (h : Ascending l) :
    Ascending (removeAt l (removeScan k l)) :=
  h.sublist removeAt_removeScan_sublist

theorem mem_removeAt_removeScan {k x : κ} {l : List κ} (h : Ascending l) :
    x ∈ removeAt l (removeScan k l) ↔ x ∈ l ∧ x ≠ k := by
  induction l with
  | nil => simp [removeScan, removeAt]
  | cons e l ih =>
      obtain ⟨he, hl⟩ := List.pairwise_cons.mp h
      rw [removeScan]
      by_cases heq : e = k
      · rw [if_pos heq]
        subst heq
        show x ∈ l ↔ _
        constructor
        · intro hx
          exact ⟨List.mem_cons_of_mem _ hx, (he x hx).ne'⟩
        · rintro ⟨hx, hne⟩
          exact (List.mem_cons.mp hx).resolve_left hne
      · rw [if_neg heq]
        by_cases hlt : k < e
        · -- the early exit: `k` would have come before `e`
          rw [if_pos hlt]
          show x ∈ e :: l ↔ _
          refine ⟨fun hx => ⟨hx, ?_⟩, fun hx => hx.1⟩
          rcases List.mem_cons.mp hx with rfl | hx
          · exact heq
          · exact (hlt.trans (he x hx)).ne'
        · rw [if_neg hlt, removeAt_cons_succ, List.mem_cons, ih hl, List.mem_cons]
          constructor
          · rintro (rfl | ⟨hx, hne⟩)
            · exact ⟨.inl rfl, heq⟩
            · exact ⟨.inr hx, hne⟩
          · rintro ⟨rfl | hx, hne⟩
            · exact .inl rfl
            · exact .inr ⟨hx, hne⟩

/-! ## The vector is the sorted list of the set -/

theorem ascending_eq_sort {l : List κ} (h : Ascending l) {s : Finset κ}
    (hs : ∀ x, x ∈ l ↔ x ∈ s) : l = s.sort (· ≤ ·) := by
  have hnd : l.Nodup := h.imp ne_of_lt
  have hfin : l.toFinset = s := by
    ext x
    rw [List.mem_toFinset, hs]
  rw [← hfin]
  exact ((List.toFinset_sort (· ≤ ·) hnd).mpr (h.imp le_of_lt)).symm

end SortedVec
