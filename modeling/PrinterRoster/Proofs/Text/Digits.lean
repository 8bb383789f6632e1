import PrinterRoster.Text.Numeral
import Mathlib.Algebra.Group.Nat.Defs
import Mathlib.Data.List.Basic

/-! Runs of digits in a text. A run that is taken up to the first other character is a numeral of
its value, and so are the digits that are written for a number, with or without zeros before. -/
namespace PrinterRoster.Text.Decimal

def IsRun (digits : List Char) : Prop := digits ≠ [] ∧ ∀ c ∈ digits, c.isDigit = true

theorem takeWhile_run {digits rest : List Char} (run : IsRun digits)
    (ends : ∀ c ∈ rest.head?, c.isDigit = false) :
    (digits ++ rest).takeWhile Char.isDigit = digits := by
  rw [List.takeWhile_append_of_pos run.2]
  cases rest with
  | nil => simp
  | cons c rest => rw [List.takeWhile_cons_of_neg (by simp [ends c rfl]), List.append_nil]

theorem value?_run {digits : List Char} (run : IsRun digits) :
    value? digits = some (valueFrom 0 digits) := by
  have all : digits.all Char.isDigit = true := List.all_eq_true.2 run.2
  simp [value?, run.1, all]

theorem isRun_digits (n : Nat) : IsRun (digits n) :=
  ⟨digits_ne_nil n, List.all_eq_true.1 (digits_all_isDigit n)⟩

/-- The numeral of a positive number does not start with a zero. -/
theorem head_digits {n : Nat} (positive : 0 < n) : (digits n).head? ≠ some '0' := by
  induction n using digits.induct with
  | case1 n small =>
    have all : ∀ m, m < 10 → 0 < m → [digit m].head? ≠ some '0' := by decide
    rw [digits, if_pos small]
    exact all n small positive
  | case2 n large ih =>
    rw [digits, if_neg large, List.head?_append_of_ne_nil _ (digits_ne_nil _)]
    exact ih (by omega)

private theorem length_digits_le {n width : Nat} (fits : n < 10 ^ (width + 1)) :
    (digits n).length ≤ width + 1 := by
  induction n using digits.induct generalizing width with
  | case1 n small =>
    rw [digits, if_pos small, List.length_singleton]
    omega
  | case2 n large ih =>
    rw [digits, if_neg large, List.length_append, List.length_singleton]
    cases width with
    | zero => omega
    | succ width =>
      have shorter : (digits (n / 10)).length ≤ width + 1 := ih (by omega)
      omega

theorem isRun_padded (width n : Nat) : IsRun (padded width n) := by
  refine ⟨by simp [padded, digits_ne_nil], fun c member => ?_⟩
  rcases List.mem_append.1 member with zero | digit
  · rw [List.eq_of_mem_replicate zero]
    rfl
  · exact (isRun_digits n).2 c digit

private theorem valueFrom_zeros (count : Nat) (text : List Char) :
    valueFrom 0 (List.replicate count '0' ++ text) = valueFrom 0 text := by
  induction count with
  | zero => rfl
  | succ count ih =>
    rw [List.replicate_succ, List.cons_append]
    exact ih

theorem value?_padded (width n : Nat) : value? (padded width n) = some n := by
  rw [value?_run (isRun_padded width n), padded, valueFrom_zeros, valueFrom_digits]

theorem length_padded {width n : Nat} (fits : n < 10 ^ (width + 1)) :
    (padded (width + 1) n).length = width + 1 := by
  have short := length_digits_le fits
  rw [padded, List.length_append, List.length_replicate]
  omega

end PrinterRoster.Text.Decimal
