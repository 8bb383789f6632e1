import Mathlib.Data.List.Basic
import Mathlib.Data.List.TakeWhile
import PrinterRoster.Proofs.Capabilities.Words

/-! What trimming leaves of a text. -/
namespace PrinterRoster.Text

structure Trims (text core : List Char) : Prop where
  around : ∃ before after, text = before ++ core ++ after ∧ ∀ c ∈ before ++ after, isBlank c = true
  starts : ∀ c ∈ core.head?, isBlank c = false
  ends : ∀ c ∈ core.getLast?, isBlank c = false

private theorem not_isBlank_of_head?_trimLeft (text : List Char) :
    ∀ c ∈ (trimLeft text).head?, isBlank c = false := by
  intro c member
  have first := List.head?_dropWhile_not isBlank text
  rw [← trimLeft, member] at first
  exact first

theorem trims_trim (text : List Char) : Trims text (trim text) := by
  have left : text.takeWhile isBlank ++ trimLeft text = text := List.takeWhile_append_dropWhile
  have right : trim text ++ ((trimLeft text).reverse.takeWhile isBlank).reverse = trimLeft text := by
    rw [trim, trimRight, ← List.reverse_append, List.takeWhile_append_dropWhile, List.reverse_reverse]
  refine ⟨⟨text.takeWhile isBlank, ((trimLeft text).reverse.takeWhile isBlank).reverse, ?_, ?_⟩,
    ?_, ?_⟩
  · rw [List.append_assoc, right, left]
  · intro c member
    rcases List.mem_append.1 member with before | after
    · exact List.mem_takeWhile_imp before
    · exact List.mem_takeWhile_imp (List.mem_reverse.1 after)
  · intro c member
    apply not_isBlank_of_head?_trimLeft text
    rw [← right, List.head?_append, member]
    rfl
  · intro c member
    rw [trim, trimRight, List.getLast?_reverse] at member
    exact not_isBlank_of_head?_trimLeft _ c member

theorem Trims.trim_eq {text core : List Char} (trims : Trims text core) : trim text = core := by
  obtain ⟨⟨before, after, rfl, blank⟩, starts, ends⟩ := trims
  have front : ∀ c ∈ before, isBlank c = true := fun c member => blank c (List.mem_append_left _ member)
  have back : ∀ c ∈ after.reverse, isBlank c = true :=
    fun c member => blank c (List.mem_append_right _ (List.mem_reverse.1 member))
  by_cases empty : core = []
  · subst empty
    apply trim_of_all_blank
    simpa using blank
  · have left : trimLeft (before ++ core ++ after) = core ++ after := by
      rw [trimLeft, List.append_assoc, List.dropWhile_append_of_pos front]
      apply trimLeft_of_edge
      rwa [List.head?_append_of_ne_nil _ empty]
    have right : trimLeft core.reverse = core.reverse := by
      apply trimLeft_of_edge
      rwa [List.head?_reverse]
    rw [trim, left, trimRight, List.reverse_append, List.dropWhile_append_of_pos back]
    exact (congrArg List.reverse right).trans core.reverse_reverse

theorem trim_eq_nil_iff {text : List Char} : trim text = [] ↔ ∀ c ∈ text, isBlank c = true := by
  constructor
  · intro empty
    obtain ⟨before, after, whole, blank⟩ := (trims_trim text).around
    intro c member
    apply blank c
    rw [whole, empty, List.append_nil] at member
    exact member
  · exact trim_of_all_blank

end PrinterRoster.Text
