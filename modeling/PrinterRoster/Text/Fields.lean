/-! Trimming a text, and cutting it at separators. A character is blank exactly when
it has the Unicode property White_Space; trimming removes blanks from the ends of a
text and nothing from its middle. A text with `n` separators has `n + 1` fields, some
of them possibly empty. -/
namespace PrinterRoster.Text

def blankRanges : List (Nat × Nat) :=
  [(0x09, 0x0D), (0x20, 0x20), (0x85, 0x85), (0xA0, 0xA0), (0x1680, 0x1680),
    (0x2000, 0x200A), (0x2028, 0x2029), (0x202F, 0x202F), (0x205F, 0x205F), (0x3000, 0x3000)]

def isBlank (c : Char) : Bool :=
  blankRanges.any fun range => range.1 ≤ c.toNat && c.toNat ≤ range.2

def trimLeft (text : List Char) : List Char := text.dropWhile isBlank

def trimRight (text : List Char) : List Char := (text.reverse.dropWhile isBlank).reverse

def trim (text : List Char) : List Char := trimRight (trimLeft text)

def trimmed (text : String) : String := String.ofList (trim text.toList)

theorem trimLeft_of_head {c : Char} {rest : List Char} (h : isBlank c = false) :
    trimLeft (c :: rest) = c :: rest := by
  simp [trimLeft, List.dropWhile, h]

theorem trim_of_all_blank {text : List Char} (h : ∀ c ∈ text, isBlank c = true) :
    trim text = [] := by
  have left : trimLeft text = [] := by
    induction text with
    | nil => rfl
    | cons c rest ih =>
      simp only [trimLeft, List.dropWhile, h c (by simp)]
      exact ih fun d hd => h d (by simp [hd])
  simp [trim, left, trimRight]

def fields (isSeparator : Char → Bool) : List Char → List (List Char)
  | [] => [[]]
  | c :: rest =>
    if isSeparator c then [] :: fields isSeparator rest
    else
      match fields isSeparator rest with
      | [] => [[c]]
      | first :: others => (c :: first) :: others

theorem fields_ne_nil (isSeparator : Char → Bool) (text : List Char) :
    fields isSeparator text ≠ [] := by
  cases text with
  | nil => simp [fields]
  | cons c rest =>
    simp only [fields]
    split
    · simp
    · split <;> simp

/-- A text without separators is its own only field. -/
theorem fields_of_none {isSeparator : Char → Bool} {text : List Char}
    (h : ∀ c ∈ text, isSeparator c = false) : fields isSeparator text = [text] := by
  induction text with
  | nil => rfl
  | cons c rest ih =>
    simp [fields, h c (by simp), ih fun d hd => h d (by simp [hd])]

/-- The fields before the first separator of a text and the fields after it. -/
theorem fields_append_cons {isSeparator : Char → Bool} {field rest : List Char} {c : Char}
    (inside : ∀ d ∈ field, isSeparator d = false) (cut : isSeparator c = true) :
    fields isSeparator (field ++ c :: rest) = field :: fields isSeparator rest := by
  induction field with
  | nil => simp [fields, cut]
  | cons d field ih =>
    simp [fields, inside d (by simp), ih fun e he => inside e (by simp [he])]

def joined (separator : List Char) : List (List Char) → List Char
  | [] => []
  | [text] => text
  | text :: next :: others => text ++ separator ++ joined separator (next :: others)

/-- Cutting a text loses nothing of it. -/
theorem joined_fields (separator : Char) (text : List Char) :
    joined [separator] (fields (· == separator) text) = text := by
  induction text with
  | nil => rfl
  | cons c rest ih =>
    rw [fields]
    cases cut : fields (· == separator) rest with
    | nil => exact absurd cut (fields_ne_nil _ _)
    | cons first others =>
      rw [cut] at ih
      split
      · rename_i same
        rw [joined, ih, beq_iff_eq.1 same]
        rfl
      · rw [← ih]
        cases others <;> rfl

def afterLast? (mark : List Char) : List Char → Option (List Char)
  | [] => none
  | c :: rest => (afterLast? mark rest).or (mark.isPrefixOf? (c :: rest))

end PrinterRoster.Text
