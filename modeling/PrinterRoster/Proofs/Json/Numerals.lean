import PrinterRoster.Json.Reader
import PrinterRoster.Proofs.Text.Digits

/-! The numerals of JSON: digits without a superfluous zero, with or without a sign before them
and a fraction and an exponent behind. Reading a number takes a numeral, and takes all of it if
nothing follows that could belong to it. -/
namespace PrinterRoster.Json
open Text
open Decimal (IsRun value?_run)

inductive IsFraction : List Char → Prop
  | absent : IsFraction []
  | digits {digits : List Char} (run : IsRun digits) : IsFraction ('.' :: digits)

inductive IsExponent : List Char → Prop
  | absent : IsExponent []
  | digits {letter : Char} {sign digits : List Char} (marks : letter = 'e' ∨ letter = 'E')
      (signed : sign = [] ∨ sign = ['+'] ∨ sign = ['-']) (run : IsRun digits) :
      IsExponent (letter :: (sign ++ digits))

inductive Numeral : List Char → Option Nat → Prop
  | parts {sign digits fraction exponent : List Char} (signed : sign = [] ∨ sign = ['-'])
      (run : IsRun digits) (lean : digits.length ≤ 1 ∨ digits.head? ≠ some '0')
      (isFraction : IsFraction fraction) (isExponent : IsExponent exponent) :
      Numeral (sign ++ digits ++ fraction ++ exponent)
        (if sign = [] ∧ fraction = [] ∧ exponent = [] then some (Decimal.valueFrom 0 digits)
          else none)

def Apart (rest : List Char) : Prop :=
  ∀ c ∈ rest.head?, c.isDigit = false ∧ c ≠ '.' ∧ c ≠ 'e' ∧ c ≠ 'E'

private theorem append_drop_digitsOf (text : List Char) :
    digitsOf text ++ text.drop (digitsOf text).length = text := by
  have behind : text.drop (digitsOf text).length = text.dropWhile Char.isDigit := by
    calc text.drop (digitsOf text).length
        = (digitsOf text ++ text.dropWhile Char.isDigit).drop (digitsOf text).length := by
          rw [digitsOf, List.takeWhile_append_dropWhile]
      _ = text.dropWhile Char.isDigit := List.drop_left
  rw [behind, digitsOf, List.takeWhile_append_dropWhile]

private theorem isRun_digitsOf {text : List Char} (any : ¬ (digitsOf text).isEmpty = true) :
    IsRun (digitsOf text) := by
  refine ⟨fun none => any (by rw [none]; rfl), ?_⟩
  have all : (text.takeWhile Char.isDigit).all Char.isDigit = true := List.all_takeWhile
  exact List.all_eq_true.1 all

/-- A run of digits ends where no digit follows. -/
theorem digitsOf_run {digits rest : List Char} (run : IsRun digits)
    (ends : ∀ c ∈ rest.head?, c.isDigit = false) :
    digitsOf (digits ++ rest) = digits ∧ ¬ (digitsOf (digits ++ rest)).isEmpty = true ∧
      (digits ++ rest).drop (digitsOf (digits ++ rest)).length = rest := by
  have same : digitsOf (digits ++ rest) = digits := Decimal.takeWhile_run run ends
  rw [same, List.drop_left, List.isEmpty_iff]
  exact ⟨rfl, run.1, rfl⟩

private theorem not_isDigit_of_mark {c : Char} (marks : c = 'e' ∨ c = 'E') : c.isDigit = false := by
  rcases marks with rfl | rfl <;> rfl

theorem afterExponent?_append {exponent rest : List Char} (isExponent : IsExponent exponent)
    (apart : Apart rest) : afterExponent? (exponent ++ rest) = some rest := by
  cases isExponent with
  | absent =>
    cases rest with
    | nil => rfl
    | cons c rest =>
      obtain ⟨_, _, small, large⟩ := apart c rfl
      simp [afterExponent?, small, large]
  | @digits letter sign digits marks signed run =>
    obtain ⟨_, any, behind⟩ := digitsOf_run run fun c head => (apart c head).1
    have marked : (decide (letter = 'e') || decide (letter = 'E')) = true := by simpa using marks
    rcases signed with rfl | rfl | rfl
    · obtain ⟨first, others, rfl⟩ := List.exists_cons_of_ne_nil run.1
      have digit := run.2 first List.mem_cons_self
      have plus : first ≠ '+' := fun same => by simp [same] at digit
      have minus : first ≠ '-' := fun same => by simp [same] at digit
      simp only [List.nil_append, List.cons_append] at any behind ⊢
      simp [afterExponent?, marked, plus, minus, any, behind]
    · simp [afterExponent?, marked, any, behind]
    · simp [afterExponent?, marked, any, behind]

theorem afterFraction?_append {fraction rest : List Char} (isFraction : IsFraction fraction)
    (ends : ∀ c ∈ rest.head?, c.isDigit = false ∧ c ≠ '.') :
    afterFraction? (fraction ++ rest) = some rest := by
  cases isFraction with
  | absent =>
    cases rest with
    | nil => rfl
    | cons c rest =>
      obtain ⟨_, point⟩ := ends c rfl
      simp [afterFraction?, point]
  | @digits digits run =>
    obtain ⟨_, any, behind⟩ := digitsOf_run run fun c head => (ends c head).1
    rw [List.cons_append, afterFraction?, if_neg any, behind]

private theorem isExponent_of_afterExponent? {text rest : List Char}
    (read : afterExponent? text = some rest) :
    ∃ exponent, text = exponent ++ rest ∧ IsExponent exponent := by
  unfold afterExponent? at read
  split at read
  · rename_i letter behind
    split at read
    · rename_i marked
      have marks : letter = 'e' ∨ letter = 'E' := by simpa using marked
      dsimp only at read
      -- The sign is taken first, if there is one.
      obtain ⟨sign, signed, digits, same, read⟩ : ∃ sign, (sign = [] ∨ sign = ['+'] ∨ sign = ['-']) ∧
          ∃ digits, behind = sign ++ digits ∧
            (if (digitsOf digits).isEmpty then none
              else some (digits.drop (digitsOf digits).length)) = some rest := by
        split at read
        · exact ⟨['+'], by simp, _, rfl, read⟩
        · exact ⟨['-'], by simp, _, rfl, read⟩
        · exact ⟨[], by simp, _, rfl, read⟩
      split at read
      · cases read
      · rename_i any
        obtain rfl := Option.some.inj read
        refine ⟨letter :: (sign ++ digitsOf digits), ?_, .digits marks signed (isRun_digitsOf any)⟩
        rw [same, List.cons_append, List.append_assoc, append_drop_digitsOf]
    · exact ⟨[], Option.some.inj read, .absent⟩
  · exact ⟨[], Option.some.inj read, .absent⟩

private theorem isFraction_of_afterFraction? {text rest : List Char}
    (read : afterFraction? text = some rest) :
    ∃ fraction, text = fraction ++ rest ∧ IsFraction fraction := by
  unfold afterFraction? at read
  split at read
  · rename_i behind
    split at read
    · cases read
    · rename_i any
      obtain rfl := Option.some.inj read
      exact ⟨'.' :: digitsOf behind, by rw [List.cons_append, append_drop_digitsOf],
        .digits (isRun_digitsOf any)⟩
  · exact ⟨[], (Option.some.inj read), .absent⟩

theorem lean_iff {digits : List Char} (run : IsRun digits) :
    (digits.isEmpty || decide (digits.length > 1) && digits.head? == some '0') = false ↔
      digits.length ≤ 1 ∨ digits.head? ≠ some '0' := by
  have any : digits.isEmpty = false := by simpa using run.1
  simp [any, imp_iff_not_or]

/-- Nothing stands between the digits and the rest exactly if the rest is as long as it all. -/
theorem same_length_iff (fraction exponent rest : List Char) :
    (rest.length == (fraction ++ (exponent ++ rest)).length) = true ↔
      fraction = [] ∧ exponent = [] := by
  rw [beq_iff_eq, List.length_append, List.length_append, ← List.length_eq_zero_iff,
    ← List.length_eq_zero_iff]
  omega

theorem readNumber?_append {numeral rest : List Char} {value : Option Nat}
    (isNumeral : Numeral numeral value) (apart : Apart rest) :
    readNumber? (numeral ++ rest) = some (.number value, rest) := by
  cases isNumeral with
  | @parts sign digits fraction exponent signed run lean isFraction isExponent =>
    have afterFraction : ∀ c ∈ (exponent ++ rest).head?, c.isDigit = false ∧ c ≠ '.' := by
      intro c head
      cases isExponent with
      | absent => exact ⟨(apart c head).1, (apart c head).2.1⟩
      | digits marks _ _ =>
        obtain rfl := Option.some.inj head
        exact ⟨not_isDigit_of_mark marks, by rcases marks with rfl | rfl <;> decide⟩
    have afterDigits : ∀ c ∈ (fraction ++ (exponent ++ rest)).head?, c.isDigit = false := by
      intro c head
      cases isFraction with
      | absent => exact (afterFraction c head).1
      | digits _ =>
        obtain rfl := Option.some.inj head
        rfl
    obtain ⟨same, any, behind⟩ := digitsOf_run run afterDigits
    have tail : (afterFraction? (fraction ++ (exponent ++ rest))).bind afterExponent? = some rest := by
      rw [afterFraction?_append isFraction afterFraction, Option.bind_some,
        afterExponent?_append isExponent apart]
    have length := same_length_iff fraction exponent rest
    rw [List.append_assoc, List.append_assoc, List.append_assoc]
    rcases signed with rfl | rfl
    · have unsigned : ((digits ++ (fraction ++ (exponent ++ rest))).head? == some '-') = false := by
        obtain ⟨first, others, rfl⟩ := List.exists_cons_of_ne_nil run.1
        have digit := run.2 first List.mem_cons_self
        rw [List.cons_append, List.head?_cons, beq_eq_false_iff_ne]
        intro same
        rw [Option.some.inj same] at digit
        cases digit
      rw [List.nil_append, readNumber?]
      simp only [unsigned, Bool.false_eq_true, if_false, same, (lean_iff run).2 lean, List.drop_left,
        tail, value?_run run, Bool.not_false, Bool.true_and, length, true_and]
    · rw [List.singleton_append, readNumber?]
      simp [same, (lean_iff run).2 lean, tail]

theorem numeral_of_readNumber? {text rest : List Char} {value : Json}
    (read : readNumber? text = some (value, rest)) :
    ∃ numeral read, text = numeral ++ rest ∧ value = .number read ∧ Numeral numeral read := by
  unfold readNumber? at read
  dsimp only at read
  -- The sign is taken first, if there is one.
  obtain ⟨sign, signed, start, same, negative, startsAt⟩ : ∃ sign, (sign = [] ∨ sign = ['-']) ∧
      ∃ start, text = sign ++ start ∧ (text.head? == some '-') = decide (sign = ['-']) ∧
        (if (text.head? == some '-') = true then text.drop 1 else text) = start := by
    cases minus : text.head? == some '-' with
    | true =>
      obtain ⟨start, rfl⟩ := List.head?_eq_some_iff.1 (beq_iff_eq.1 minus)
      exact ⟨['-'], Or.inr rfl, start, rfl, rfl, rfl⟩
    | false => exact ⟨[], Or.inl rfl, text, rfl, rfl, rfl⟩
  rw [startsAt, negative] at read
  split at read
  · cases read
  · rename_i wellFormed
    split at read
    · cases read
    · rename_i left tail
      obtain ⟨behind, afterFraction, afterExponent⟩ := Option.bind_eq_some_iff.1 tail
      obtain ⟨fraction, cut, isFraction⟩ := isFraction_of_afterFraction? afterFraction
      obtain ⟨exponent, rfl, isExponent⟩ := isExponent_of_afterExponent? afterExponent
      have any : ¬ (digitsOf start).isEmpty = true := by
        intro none
        simp [none] at wellFormed
      have run := isRun_digitsOf any
      have lean := (lean_iff run).1 (Bool.eq_false_iff.2 wellFormed)
      rw [cut] at read
      obtain ⟨rfl, rfl⟩ := Prod.mk.inj (Option.some.inj read)
      refine ⟨sign ++ digitsOf start ++ fraction ++ exponent, _, ?_, rfl, ?_⟩
      · rw [same, List.append_assoc, List.append_assoc, List.append_assoc, ← cut,
          append_drop_digitsOf]
      · have unsigned : sign = [] ↔ ¬ sign = ['-'] := by rcases signed with rfl | rfl <;> simp
        have parts := Numeral.parts signed run lean isFraction isExponent
        simpa only [unsigned, value?_run run, Bool.and_eq_true, same_length_iff,
          Bool.not_eq_true', decide_eq_false_iff_not] using parts

end PrinterRoster.Json
