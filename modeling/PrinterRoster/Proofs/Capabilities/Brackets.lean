import PrinterRoster.Proofs.Capabilities.Words

/-! The text of an array of items, and the words it is cut into. The brackets stay on the
first and the last word. -/
namespace PrinterRoster.Capabilities
open Text Ipp

/-- An item of a list attribute: a keyword or a media type, without separators, brackets
and blanks at its ends. -/
structure Plain (item : String) : Prop where
  nonempty : item ≠ ""
  unmarked : ∀ c ∈ item.toList, c ∉ [',', ';', '[', ']']
  starts : ∀ c ∈ item.toList.head?, isBlank c = false
  ends : ∀ c ∈ item.toList.getLast?, isBlank c = false

instance (item : String) : Decidable (Plain item) :=
  decidable_of_iff
    (item ≠ "" ∧ (item.toList.all fun c => !([',', ';', '[', ']'].contains c)) = true ∧
      (item.toList.head?.all fun c => !isBlank c) = true ∧
      (item.toList.getLast?.all fun c => !isBlank c) = true)
    ⟨fun ⟨nonempty, unmarked, starts, ends⟩ =>
        ⟨nonempty, by simpa using unmarked, by simpa [Option.all_eq_true] using starts,
          by simpa [Option.all_eq_true] using ends⟩,
      fun plain =>
        ⟨plain.nonempty, by simpa using plain.unmarked,
          by simpa [Option.all_eq_true] using plain.starts,
          by simpa [Option.all_eq_true] using plain.ends⟩⟩

def bracketed : List String → List String
  | [] => ["[]"]
  | [only] => ["[" ++ only ++ "]"]
  | first :: next :: others =>
    ("[" ++ first) :: ((next :: others).dropLast ++ [(next :: others).getLastD "" ++ "]"])

/-- A value that stands for some items: an array of them, or a single one by itself. -/
inductive Lists : Value → List String → Prop
  | array (items : List String) : Lists (.array (items.map .text)) items
  | single (item : String) : Lists (.text item) [item]

def isArray : Value → Bool
  | .array _ => true
  | _ => false

def spelled (value : Value) (items : List String) : List String :=
  if isArray value then bracketed items else items

private theorem items_cases (items : List String) :
    items = [] ∨ (∃ only, items = [only]) ∨
      ∃ first middle last, items = first :: (middle ++ [last]) := by
  cases items with
  | nil => exact Or.inl rfl
  | cons first others =>
    rcases List.eq_nil_or_concat others with rfl | ⟨middle, last, rfl⟩
    · exact Or.inr (Or.inl ⟨first, rfl⟩)
    · exact Or.inr (Or.inr ⟨first, middle, last, by rw [List.concat_eq_append]⟩)

private theorem bracketed_of_many (first last : String) (middle : List String) :
    bracketed (first :: (middle ++ [last])) = ("[" ++ first) :: (middle ++ [last ++ "]"]) := by
  cases middle with
  | nil => rfl
  | cons next others =>
    have whole : next :: (others ++ [last]) = (next :: others) ++ [last] := rfl
    rw [List.cons_append, bracketed, whole, List.dropLast_concat, List.getLastD_concat]

theorem joined_concat (separator tail last : List Char) (texts : List (List Char)) :
    joined separator (texts ++ [last]) ++ tail = joined separator (texts ++ [last ++ tail]) := by
  induction texts with
  | nil => rfl
  | cons text others ih =>
    cases others with
    | nil => simp [joined]
    | cons next rest =>
      rw [List.cons_append, List.cons_append, joined, List.append_assoc, ← List.cons_append, ih]
      rfl

theorem toText_array (items : List String) :
    Value.toText (.array (items.map .text)) = row (bracketed items) := by
  have texts : (items.map Value.text).map Value.chars = items.map String.toList := by
    rw [List.map_map]
    rfl
  rw [Value.toText, row, Value.chars, Value.itemsChars_eq_map, texts]
  congr 1
  obtain rfl | ⟨only, rfl⟩ | ⟨first, middle, last, rfl⟩ := items_cases items
  · rfl
  · simp [bracketed, joined]
  · rw [bracketed_of_many]
    have opened : ∀ rest, '[' :: joined [',', ' '] (first.toList :: (rest ++ [last.toList])) =
        joined [',', ' '] (("[" ++ first).toList :: (rest ++ [last.toList])) := by
      intro rest
      cases rest <;> simp [joined]
    have closing : (last ++ "]").toList = last.toList ++ [']'] := String.toList_append
    rw [List.map_cons, List.map_append, List.map_singleton, opened, ← List.cons_append,
      joined_concat, List.map_cons, List.map_append, List.map_singleton, closing]
    rfl

section Separator
variable {isSeparator : Char → Bool}

private theorem uncut_of_marks (marks : ∀ c, isSeparator c = true → c = ',' ∨ c = ';') {c : Char}
    (comma : c ≠ ',') (semicolon : c ≠ ';') : isSeparator c = false := by
  rw [← Bool.not_eq_true]
  intro separates
  exact (marks c separates).elim comma semicolon

private theorem Plain.word (marks : ∀ c, isSeparator c = true → c = ',' ∨ c = ';') {item : String}
    (plain : Plain item) : Word isSeparator item where
  nonempty := plain.nonempty
  uncut := by
    intro c member
    have unmarked := plain.unmarked c member
    refine uncut_of_marks marks ?_ ?_
    · rintro rfl
      exact unmarked (by simp)
    · rintro rfl
      exact unmarked (by simp)
  starts := plain.starts
  ends := plain.ends

private theorem Word.opened (outside : isSeparator '[' = false) {text : String}
    (word : Word isSeparator text) : Word isSeparator ("[" ++ text) := by
  have whole : ("[" ++ text).toList = '[' :: text.toList := String.toList_append
  refine ⟨by simp, ?_, ?_, ?_⟩
  · rw [whole]
    exact List.forall_mem_cons.2 ⟨outside, word.uncut⟩
  · rw [whole]
    intro c starting
    cases starting
    decide
  · rw [whole, List.getLast?_cons_of_ne_nil (mt String.toList_eq_nil_iff.1 word.nonempty)]
    exact word.ends

private theorem Word.closed (outside : isSeparator ']' = false) {text : String}
    (word : Word isSeparator text) : Word isSeparator (text ++ "]") := by
  have whole : (text ++ "]").toList = text.toList ++ [']'] := String.toList_append
  refine ⟨by simp, ?_, ?_, ?_⟩
  · rw [whole]
    intro c member
    rcases List.mem_append.1 member with inside | bracket
    · exact word.uncut c inside
    · rw [List.mem_singleton.1 bracket]
      exact outside
  · rw [whole]
    intro c starting
    cases chars : text.toList with
    | nil => exact absurd (String.toList_eq_nil_iff.1 chars) word.nonempty
    | cons d rest =>
      rw [chars] at starting
      cases starting
      exact word.starts c (by rw [chars]; rfl)
  · rw [whole, List.getLast?_concat]
    intro c ending
    cases ending
    decide

theorem words_of_lists (cut : isSeparator ',' = true)
    (marks : ∀ c, isSeparator c = true → c = ',' ∨ c = ';') {value : Value} {items : List String}
    (lists : Lists value items) (plain : ∀ item ∈ items, Plain item) :
    words isSeparator value.toText = spelled value items := by
  have gap : isSeparator ' ' = false := uncut_of_marks marks (by decide) (by decide)
  have opening : isSeparator '[' = false := uncut_of_marks marks (by decide) (by decide)
  have closing : isSeparator ']' = false := uncut_of_marks marks (by decide) (by decide)
  have word : ∀ item ∈ items, Word isSeparator item := fun item member =>
    (plain item member).word marks
  cases lists with
  | single item =>
    have alone : Value.toText (.text item) = row [item] := rfl
    have same : spelled (.text item) [item] = [item] := rfl
    rw [alone, same]
    exact words_row cut gap word
  | array items =>
    have same : spelled (.array (items.map .text)) items = bracketed items := rfl
    rw [toText_array, same]
    apply words_row cut gap
    obtain rfl | ⟨only, rfl⟩ | ⟨first, middle, last, rfl⟩ := items_cases items
    · intro text member
      cases List.mem_singleton.1 member
      refine ⟨by simp, ?_, ?_, ?_⟩
      · intro c inside
        obtain rfl | rfl : c = '[' ∨ c = ']' := by simpa using inside
        · exact opening
        · exact closing
      · intro c starting
        cases starting
        decide
      · intro c ending
        cases ending
        decide
    · intro text member
      cases List.mem_singleton.1 member
      exact ((word only (by simp)).opened opening).closed closing
    · rw [bracketed_of_many]
      intro text member
      rcases List.mem_cons.1 member with rfl | member
      · exact (word first (by simp)).opened opening
      · rcases List.mem_append.1 member with inner | outer
        · exact word text (by simp [inner])
        · cases List.mem_singleton.1 outer
          exact (word last (by simp)).closed closing

end Separator

theorem isTwoSided_opened (text : String) : isTwoSided ("[" ++ text) = false := by
  rw [isTwoSided, String.toList_append]
  rfl

private theorem isTwoSided_closed (text : String) : isTwoSided (text ++ "]") = isTwoSided text := by
  rw [isTwoSided, isTwoSided, String.toList_append, Bool.eq_iff_iff, List.isPrefixOf_iff_prefix,
    List.isPrefixOf_iff_prefix]
  refine List.prefix_concat_iff.trans (or_iff_right ?_)
  intro whole
  have closing : ']' ∈ "two-sided".toList := by
    rw [whole]
    exact List.mem_append_right _ (List.mem_singleton_self _)
  exact absurd closing (by decide)

private theorem endsInError_closed (text : String) : endsInError (text ++ "]") = false := by
  rw [endsInError, String.toList_append, List.isSuffixOf, List.reverse_append]
  rfl

theorem endsInError_opened (text : String) : endsInError ("[" ++ text) = endsInError text := by
  rw [endsInError, endsInError, String.toList_append, Bool.eq_iff_iff, List.isSuffixOf_iff_suffix,
    List.isSuffixOf_iff_suffix]
  refine List.suffix_cons_iff.trans (or_iff_right ?_)
  intro whole
  cases congrArg List.head? whole

theorem any_isTwoSided_bracketed (items : List String) :
    (bracketed items).any isTwoSided = items.tail.any isTwoSided := by
  obtain rfl | ⟨only, rfl⟩ | ⟨first, middle, last, rfl⟩ := items_cases items
  · decide
  · have hidden := isTwoSided_opened (only ++ "]")
    rw [← String.append_assoc] at hidden
    simp [bracketed, hidden]
  · rw [bracketed_of_many, List.any_cons, isTwoSided_opened, Bool.false_or, List.tail_cons,
      List.any_append, List.any_append, List.any_cons, List.any_cons, isTwoSided_closed]

theorem any_endsInError_bracketed (items : List String) :
    (bracketed items).any endsInError = items.dropLast.any endsInError := by
  obtain rfl | ⟨only, rfl⟩ | ⟨first, middle, last, rfl⟩ := items_cases items
  · decide
  · simp [bracketed, endsInError_closed]
  · rw [bracketed_of_many, List.any_cons, endsInError_opened, List.any_append, List.any_cons,
      endsInError_closed, ← List.cons_append, List.dropLast_concat, List.any_cons]
    simp

/-- Only what is neither first nor last in an array is read as it is. -/
theorem mem_bracketed_iff {items : List String} {word : String} (opens : '[' ∉ word.toList)
    (closes : ']' ∉ word.toList) : word ∈ bracketed items ↔ word ∈ items.tail.dropLast := by
  have notOpened : ∀ text, word ≠ "[" ++ text := by
    rintro text rfl
    exact opens (by simp)
  have notClosed : ∀ text, word ≠ text ++ "]" := by
    rintro text rfl
    exact closes (by simp)
  obtain rfl | ⟨only, rfl⟩ | ⟨first, middle, last, rfl⟩ := items_cases items
  · have filled : word ≠ "[]" := notOpened "]"
    simp [bracketed, filled]
  · simp [bracketed, notClosed]
  · rw [bracketed_of_many, List.mem_cons, List.mem_append, List.mem_singleton, List.tail_cons,
      List.dropLast_concat]
    simp [notOpened, notClosed]

theorem exists_opened (items : List String) :
    ∃ word ∈ bracketed items, '[' ∈ word.toList := by
  obtain rfl | ⟨only, rfl⟩ | ⟨first, middle, last, rfl⟩ := items_cases items
  · exact ⟨_, List.mem_singleton_self _, by decide⟩
  · exact ⟨_, List.mem_singleton_self _, by simp⟩
  · rw [bracketed_of_many]
    exact ⟨_, List.mem_cons_self, by simp⟩

end PrinterRoster.Capabilities
