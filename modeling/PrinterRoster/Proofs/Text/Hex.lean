import Mathlib.Algebra.Group.Nat.Defs
import Mathlib.Data.List.Forall2
import Mathlib.Data.List.Induction
import PrinterRoster.Text.Numeral

/-! Hexadecimal numerals of a fixed length. Each digit may be written in either case, and numerals of
one length stand for different numbers, all those for which they are long enough. -/
namespace PrinterRoster.Text

/-- Whether a letter is written in lower or in upper case. The letter itself is a lower one. -/
def InEitherCase (letter c : Char) : Prop := c = letter ∨ c = letter.toUpper

instance (letter c : Char) : Decidable (InEitherCase letter c) := inferInstanceAs (Decidable (_ ∨ _))

theorem inEitherCase_toLower (c : Char) : InEitherCase c.toLower c := by
  have ascii : ∀ code < 128, InEitherCase (Char.ofNat code).toLower (Char.ofNat code) := by decide
  by_cases upper : c.val ≥ 'A'.val ∧ c.val ≤ 'Z'.val
  · have code : c.toNat < 128 := Nat.lt_of_le_of_lt upper.2 (by decide)
    simpa using ascii c.toNat code
  · have same : c.toLower = c := dif_neg upper
    exact Or.inl same.symm

namespace Hex

theorem value?_eq_some_iff {c : Char} {value : Fin 16} :
    value? c = some value ↔ InEitherCase (digit value) c := by
  constructor
  · intro reads
    have fits := List.find?_some reads
    rw [Bool.or_eq_true, beq_iff_eq, beq_iff_eq] at fits
    exact fits.imp Eq.symm Eq.symm
  · have lower : ∀ value, value? (digit value) = some value := value?_digit
    have upper : ∀ value, value? (digit value).toUpper = some value := by decide
    rintro (rfl | rfl)
    · exact lower value
    · exact upper value

theorem mapM_value?_eq_some_iff {text : List Char} {values : List (Fin 16)} :
    text.mapM value? = some values ↔ List.Forall₂ InEitherCase (values.map digit) text := by
  induction text generalizing values with
  | nil => cases values <;> simp
  | cons c rest ih =>
    rw [List.mapM_cons]
    cases values with
    | nil => cases value? c <;> cases rest.mapM value? <;> simp
    | cons value values =>
      rw [List.map_cons, List.forall₂_cons, ← value?_eq_some_iff, ← ih]
      cases value? c <;> cases rest.mapM value? <;> simp

theorem digit_of_mem {values : List (Fin 16)} {text : List Char}
    (writes : List.Forall₂ InEitherCase (values.map digit) text) :
    ∀ c ∈ text, ∃ value, InEitherCase (digit value) c := by
  rw [List.forall₂_map_left_iff] at writes
  induction writes with
  | nil => simp
  | @cons value c values text first others ih =>
    intro other member
    rcases List.mem_cons.1 member with rfl | later
    · exact ⟨value, first⟩
    · exact ih other later

/-- No digit is a hyphen. -/
theorem ne_hyphen_of_digit {value : Fin 16} {c : Char} (writes : InEitherCase (digit value) c) :
    (c == '-') = false := by
  have apart : ∀ value, digit value ≠ '-' ∧ (digit value).toUpper ≠ '-' := by decide
  rcases writes with rfl | rfl
  · exact beq_false_of_ne (apart value).1
  · exact beq_false_of_ne (apart value).2

theorem number_concat (values : List (Fin 16)) (value : Fin 16) :
    number (values ++ [value]) = 16 * number values + value.val := by
  simp [number]

theorem number_lt (values : List (Fin 16)) : number values < 16 ^ values.length := by
  induction values using List.reverseRecOn with
  | nil => exact Nat.one_pos
  | append_singleton values value ih =>
    rw [number_concat, List.length_append, List.length_singleton, Nat.pow_succ]
    omega

theorem number_injective {values others : List (Fin 16)} (size : values.length = others.length)
    (same : number values = number others) : values = others := by
  induction values using List.reverseRecOn generalizing others with
  | nil => exact (List.length_eq_zero_iff.1 size.symm).symm
  | append_singleton values value ih =>
    rcases List.eq_nil_or_concat others with rfl | ⟨others, other, rfl⟩
    · simp at size
    · rw [List.concat_eq_append] at size same ⊢
      rw [number_concat, number_concat] at same
      have front : values = others := ih (by simpa using size) (by omega)
      have last : value = other := Fin.ext (by omega)
      rw [front, last]

/-- The numeral of so many digits of a number, if they are enough for it. -/
theorem exists_number (count : Nat) {n : Nat} (fits : n < 16 ^ count) :
    ∃ values : List (Fin 16), values.length = count ∧ number values = n := by
  induction count generalizing n with
  | zero => exact ⟨[], rfl, by rw [Nat.pow_zero, Nat.lt_one_iff] at fits; exact fits.symm⟩
  | succ count ih =>
    obtain ⟨values, size, front⟩ := ih (n := n / 16) (by rw [Nat.pow_succ] at fits; omega)
    refine ⟨values ++ [last n], by simp [size], ?_⟩
    rw [number_concat, front]
    exact Nat.div_add_mod n 16

end Hex

end PrinterRoster.Text
