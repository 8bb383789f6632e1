/-! Numerals in decimal and in hexadecimal. A decimal numeral is written without
leading zeros, and reading it gives back what was written. Hexadecimal digits are
read in either case and written in the lower one. -/
namespace PrinterRoster.Text.Decimal

def digit (n : Nat) : Char := Char.ofNat (48 + n % 10)

def digits (n : Nat) : List Char :=
  if n < 10 then [digit n] else digits (n / 10) ++ [digit n]
termination_by n

def digitValue (c : Char) : Nat := c.toNat - 48

def valueFrom (start : Nat) (text : List Char) : Nat :=
  text.foldl (fun value c => 10 * value + digitValue c) start

def value? (text : List Char) : Option Nat :=
  if text.isEmpty || !text.all Char.isDigit then none else some (valueFrom 0 text)

def padded (width n : Nat) : List Char :=
  List.replicate (width - (digits n).length) '0' ++ digits n

def text (n : Nat) : String := String.ofList (digits n)

theorem digit_isDigit (n : Nat) : (digit n).isDigit = true := by
  have : ∀ m, m < 10 → (Char.ofNat (48 + m)).isDigit = true := by decide
  exact this _ (Nat.mod_lt _ (by decide))

theorem digitValue_digit (n : Nat) : digitValue (digit n) = n % 10 := by
  have : ∀ m, m < 10 → digitValue (Char.ofNat (48 + m)) = m := by decide
  exact this _ (Nat.mod_lt _ (by decide))

theorem digits_ne_nil (n : Nat) : digits n ≠ [] := by
  rw [digits]; split <;> simp

theorem digits_all_isDigit (n : Nat) : (digits n).all Char.isDigit = true := by
  induction n using digits.induct with
  | case1 n small => rw [digits, if_pos small]; simp [digit_isDigit]
  | case2 n large ih => rw [digits, if_neg large]; simp_all [digit_isDigit]

theorem valueFrom_digits (n : Nat) : valueFrom 0 (digits n) = n := by
  induction n using digits.induct with
  | case1 n small =>
    rw [digits, if_pos small]
    simp [valueFrom, digitValue_digit]; omega
  | case2 n large ih =>
    rw [digits, if_neg large]
    simp only [valueFrom, List.foldl_append, List.foldl_cons, List.foldl_nil, digitValue_digit] at ih ⊢
    rw [ih]; omega

theorem value?_digits (n : Nat) : value? (digits n) = some n := by
  simp [value?, digits_ne_nil, digits_all_isDigit, valueFrom_digits]

end PrinterRoster.Text.Decimal

namespace PrinterRoster.Text.Hex

def digit (value : Fin 16) : Char := Nat.digitChar value

def value? (c : Char) : Option (Fin 16) :=
  (List.finRange 16).find? fun value => digit value == c || (digit value).toUpper == c

def number (values : List (Fin 16)) : Nat :=
  values.foldl (fun total value => 16 * total + value.val) (0 : Nat)

def last (n : Nat) : Fin 16 := ⟨n % 16, Nat.mod_lt n (by decide)⟩

def digits (n : Nat) : List Char :=
  if n < 16 then [digit (last n)] else digits (n / 16) ++ [digit (last n)]
termination_by n

theorem value?_digit (value : Fin 16) : value? (digit value) = some value := by
  revert value; decide

end PrinterRoster.Text.Hex
