import CallStubs.EditDistance
import Mathlib.Tactic

/-! The number read off the table is the least number of edits that lead from one list to the other. -/

namespace CallStubs.EditDistance

variable {α : Type}

inductive OneEdit : List α → List α → Prop
  | insert (as bs : List α) (y : α) : OneEdit (as ++ bs) (as ++ y :: bs)
  | delete (as bs : List α) (x : α) : OneEdit (as ++ x :: bs) (as ++ bs)
  | substitute (as bs : List α) (x y : α) : OneEdit (as ++ x :: bs) (as ++ y :: bs)

inductive Edits : Nat → List α → List α → Prop
  | nil {xs : List α} : Edits 0 xs xs
  | cons {n : Nat} {xs ys zs : List α} : OneEdit xs ys → Edits n ys zs → Edits (n + 1) xs zs

namespace OneEdit

variable {xs ys : List α}

lemma symm (h : OneEdit xs ys) : OneEdit ys xs := by
  cases h with
  | insert as bs y => exact .delete as bs y
  | delete as bs x => exact .insert as bs x
  | substitute as bs x y => exact .substitute as bs y x

lemma reverse (h : OneEdit xs ys) : OneEdit xs.reverse ys.reverse := by
  cases h with
  | insert as bs y => simpa using OneEdit.insert bs.reverse as.reverse y
  | delete as bs x => simpa using OneEdit.delete bs.reverse as.reverse x
  | substitute as bs x y => simpa using OneEdit.substitute bs.reverse as.reverse x y

lemma under (a : α) (h : OneEdit xs ys) : OneEdit (a :: xs) (a :: ys) := by
  cases h with
  | insert as bs y => exact .insert (a :: as) bs y
  | delete as bs x => exact .delete (a :: as) bs x
  | substitute as bs x y => exact .substitute (a :: as) bs x y

end OneEdit

namespace Edits

variable {m n : Nat} {xs ys zs : List α}

lemma trans (h : Edits m xs ys) (h' : Edits n ys zs) : Edits (m + n) xs zs := by
  induction h with
  | nil => rwa [Nat.zero_add]
  | cons he _ ih =>
    rw [Nat.add_right_comm]
    exact .cons he (ih h')

lemma concat (h : Edits n xs ys) (he : OneEdit ys zs) : Edits (n + 1) xs zs :=
  h.trans (.cons he .nil)

lemma symm (h : Edits n xs ys) : Edits n ys xs := by
  induction h with
  | nil => exact .nil
  | cons he _ ih => exact ih.concat he.symm

lemma reverse (h : Edits n xs ys) : Edits n xs.reverse ys.reverse := by
  induction h with
  | nil => exact .nil
  | cons he _ ih => exact .cons he.reverse ih

lemma under (a : α) (h : Edits n xs ys) : Edits n (a :: xs) (a :: ys) := by
  induction h with
  | nil => exact .nil
  | cons he _ ih => exact .cons (he.under a) ih

lemma of_nil (ys : List α) : Edits ys.length [] ys := by
  induction ys with
  | nil => exact .nil
  | cons y ys ih => exact .cons (.insert [] [] y) (ih.under y)

lemma eq_of_zero (h : Edits 0 xs ys) : xs = ys := by
  cases h
  rfl

end Edits

section Levenshtein

variable [DecidableEq α]

lemma levenshtein_nil_left (ys : List α) : levenshtein [] ys = ys.length := by
  rw [levenshtein]

lemma levenshtein_nil_right (xs : List α) : levenshtein xs [] = xs.length := by
  cases xs <;> rw [levenshtein]

lemma levenshtein_cons_cons (x y : α) (xs ys : List α) : levenshtein (x :: xs) (y :: ys) =
    min (min (levenshtein xs (y :: ys) + 1) (levenshtein (x :: xs) ys + 1))
      (levenshtein xs ys + if x = y then 0 else 1) := by
  rw [levenshtein]

lemma edits_levenshtein (xs ys : List α) : Edits (levenshtein xs ys) xs ys := by
  induction xs, ys using levenshtein.induct with
  | case1 ys =>
    rw [levenshtein_nil_left]
    exact .of_nil ys
  | case2 x xs =>
    rw [levenshtein_nil_right]
    exact (Edits.of_nil (x :: xs)).symm
  | case3 x xs y ys ihdelete ihinsert ihkeep =>
    have hdelete := Edits.cons (.delete [] xs x) ihdelete
    have hinsert := ihinsert.concat (.insert [] ys y)
    have hkeep : Edits (levenshtein xs ys + if x = y then 0 else 1) (x :: xs) (y :: ys) := by
      split_ifs with h
      · exact h ▸ ihkeep.under x
      · exact (ihkeep.under x).concat (.substitute [] ys x y)
    rw [levenshtein_cons_cons]
    rcases min_choice (min (levenshtein xs (y :: ys) + 1) (levenshtein (x :: xs) ys + 1))
      (levenshtein xs ys + if x = y then 0 else 1) with h | h
    · rw [h]
      rcases min_choice (levenshtein xs (y :: ys) + 1) (levenshtein (x :: xs) ys + 1) with h | h
      · rwa [h]
      · rwa [h]
    · rwa [h]

lemma levenshtein_cons_left_le (x : α) (xs zs : List α) : levenshtein (x :: xs) zs ≤ levenshtein xs zs + 1 := by
  cases zs with
  | nil => simp [levenshtein_nil_right]
  | cons z zs =>
    rw [levenshtein_cons_cons]
    omega

lemma levenshtein_cons_right_le (xs : List α) (z : α) (zs : List α) :
    levenshtein xs (z :: zs) ≤ levenshtein xs zs + 1 := by
  cases xs with
  | nil => simp [levenshtein_nil_left]
  | cons x xs =>
    rw [levenshtein_cons_cons]
    omega

lemma levenshtein_le_cons_left (x : α) (xs zs : List α) : levenshtein xs zs ≤ levenshtein (x :: xs) zs + 1 := by
  induction zs with
  | nil =>
    simp only [levenshtein_nil_right, List.length_cons]
    omega
  | cons z zs ih =>
    have hz := levenshtein_cons_right_le xs z zs
    rw [levenshtein_cons_cons]
    omega

lemma levenshtein_substitute_le (x y : α) (xs zs : List α) :
    levenshtein (x :: xs) zs ≤ levenshtein (y :: xs) zs + 1 := by
  induction zs with
  | nil => simp [levenshtein_nil_right]
  | cons z zs ih =>
    rw [levenshtein_cons_cons, levenshtein_cons_cons]
    split_ifs <;> omega

lemma levenshtein_under_le {xs ys : List α} (h : ∀ zs, levenshtein xs zs ≤ levenshtein ys zs + 1) (a : α)
    (zs : List α) : levenshtein (a :: xs) zs ≤ levenshtein (a :: ys) zs + 1 := by
  induction zs with
  | nil => simpa [levenshtein_nil_right] using h []
  | cons z zs ih =>
    have hdelete := h (z :: zs)
    have hkeep := h zs
    rw [levenshtein_cons_cons, levenshtein_cons_cons]
    omega

lemma levenshtein_append_le {xs ys : List α} (h : ∀ zs, levenshtein xs zs ≤ levenshtein ys zs + 1)
    (as zs : List α) : levenshtein (as ++ xs) zs ≤ levenshtein (as ++ ys) zs + 1 := by
  induction as generalizing zs with
  | nil => exact h zs
  | cons a as ih => exact levenshtein_under_le ih a zs

lemma OneEdit.levenshtein_le {xs ys : List α} (h : OneEdit xs ys) (zs : List α) :
    levenshtein xs zs ≤ levenshtein ys zs + 1 := by
  cases h with
  | insert as bs y => exact levenshtein_append_le (levenshtein_le_cons_left y bs) as zs
  | delete as bs x => exact levenshtein_append_le (levenshtein_cons_left_le x bs) as zs
  | substitute as bs x y => exact levenshtein_append_le (levenshtein_substitute_le x y bs) as zs

lemma levenshtein_self (xs : List α) : levenshtein xs xs = 0 := by
  induction xs with
  | nil => exact levenshtein_nil_left []
  | cons x xs ih =>
    rw [levenshtein_cons_cons, ih, if_pos rfl]
    exact Nat.min_zero _

lemma Edits.levenshtein_le {n : Nat} {xs ys : List α} (h : Edits n xs ys) : levenshtein xs ys ≤ n := by
  induction h with
  | nil => exact (levenshtein_self _).le
  | cons he _ ih => exact (he.levenshtein_le _).trans (Nat.succ_le_succ ih)

lemma isLeast_levenshtein (xs ys : List α) : IsLeast {n | Edits n xs ys} (levenshtein xs ys) :=
  ⟨edits_levenshtein xs ys, fun _ h => h.levenshtein_le⟩

lemma levenshtein_reverse (xs ys : List α) : levenshtein xs.reverse ys.reverse = levenshtein xs ys := by
  refine le_antisymm (edits_levenshtein xs ys).reverse.levenshtein_le ?_
  simpa using (edits_levenshtein xs.reverse ys.reverse).reverse.levenshtein_le

end Levenshtein

section Table

-- The recursion takes the lists apart at their fronts, the table grows at their ends: what was read of either list
-- stands here in reverse.

variable [DecidableEq α]

/-- The cells behind the one for `as` and `bs` in the row for `as`, both lists read backwards, with `ys` still to
come. -/
def laterCells (as bs : List α) : List α → List Nat
  | [] => []
  | y :: ys => levenshtein as (y :: bs) :: laterCells as (y :: bs) ys

def row (as ys : List α) : List Nat :=
  levenshtein as [] :: laterCells as [] ys

lemma cells_laterCells (x : α) (as bs ys : List α) :
    cells x (levenshtein as bs) (levenshtein (x :: as) bs) ys (laterCells as bs ys) = laterCells (x :: as) bs ys := by
  induction ys generalizing bs with
  | nil => rfl
  | cons y ys ih =>
    rw [laterCells, laterCells, cells, ← levenshtein_cons_cons, ih]

lemma nextRow_row (x : α) (as ys : List α) : nextRow ys (row as ys) x = row (x :: as) ys := by
  have hfirst : levenshtein (x :: as) [] = levenshtein as [] + 1 := by
    rw [levenshtein_nil_right, levenshtein_nil_right, List.length_cons]
  rw [row, nextRow, ← hfirst, cells_laterCells, row]

lemma laterCells_nil (bs ys : List α) : laterCells [] bs ys = List.range' (bs.length + 1) ys.length := by
  induction ys generalizing bs with
  | nil => rfl
  | cons y ys ih =>
    rw [laterCells, levenshtein_nil_left, ih, List.length_cons, List.length_cons, List.range'_succ]

lemma row_nil (ys : List α) : row [] ys = List.range (ys.length + 1) := by
  rw [row, levenshtein_nil_left, laterCells_nil, List.range_eq_range', List.range'_succ]
  rfl

lemma foldl_nextRow (as xs ys : List α) : xs.foldl (nextRow ys) (row as ys) = row (xs.reverse ++ as) ys := by
  induction xs generalizing as with
  | nil => rfl
  | cons x xs ih =>
    rw [List.foldl_cons, nextRow_row, ih, List.reverse_cons, List.append_assoc, List.singleton_append]

lemma getLast?_laterCells (as bs ys : List α) :
    (levenshtein as bs :: laterCells as bs ys).getLast? = some (levenshtein as (ys.reverse ++ bs)) := by
  induction ys generalizing bs with
  | nil => rfl
  | cons y ys ih =>
    rw [laterCells, List.getLast?_cons_cons, ih, List.reverse_cons, List.append_assoc, List.singleton_append]

lemma distance_eq_levenshtein (xs ys : List α) : distance xs ys = levenshtein xs ys := by
  have hrow := foldl_nextRow [] xs ys
  rw [List.append_nil] at hrow
  rw [distance, ← row_nil, hrow, row, getLast?_laterCells, List.append_nil, Option.getD_some, levenshtein_reverse]

/-- The table yields the least number of edits that lead from one list to the other, and what follows from that: the
number is zero for equal lists only, does not depend on the direction, and a way round is never shorter. -/
theorem distance_counts_fewest_edits (xs ys : List α) :
    IsLeast {n | Edits n xs ys} (distance xs ys) ∧ distance xs ys = levenshtein xs ys ∧
      (distance xs ys = 0 ↔ xs = ys) ∧ distance ys xs = distance xs ys ∧
      ∀ zs, distance xs zs ≤ distance xs ys + distance ys zs := by
  simp only [distance_eq_levenshtein, true_and]
  have hxy := edits_levenshtein xs ys
  refine ⟨isLeast_levenshtein xs ys, ⟨fun h => ?_, fun h => ?_⟩, ?_, fun zs => ?_⟩
  · rw [h] at hxy
    exact hxy.eq_of_zero
  · rw [h, levenshtein_self]
  · exact le_antisymm hxy.symm.levenshtein_le (edits_levenshtein ys xs).symm.levenshtein_le
  · exact (hxy.trans (edits_levenshtein ys zs)).levenshtein_le

example : distance "indnet_width".toList "indent_width".toList = 2 := by decide +kernel

end Table

end CallStubs.EditDistance
