import PrinterRoster.Capabilities

/-! Reading back a row of words. A text in which words are put in a row with commas is
cut into these words again, if none of them is empty, holds a separator or has a blank
at its ends. -/
namespace PrinterRoster
namespace Text

theorem trimLeft_of_edge {text : List Char} (starts : ∀ c ∈ text.head?, isBlank c = false) :
    trimLeft text = text := by
  cases text with
  | nil => rfl
  | cons c rest => exact trimLeft_of_head (starts c rfl)

private theorem trim_of_edges {text : List Char} (starts : ∀ c ∈ text.head?, isBlank c = false)
    (ends : ∀ c ∈ text.getLast?, isBlank c = false) : trim text = text := by
  rw [trim, trimLeft_of_edge starts]
  have back : trimLeft text.reverse = text.reverse := by
    apply trimLeft_of_edge
    rw [List.head?_reverse]
    exact ends
  exact (congrArg List.reverse back).trans text.reverse_reverse

private theorem trim_cons_of_blank {c : Char} (blank : isBlank c = true) (rest : List Char) :
    trim (c :: rest) = trim rest := by
  rw [trim, trimLeft, List.dropWhile_cons_of_pos blank]
  rfl

/-- The first field keeps what stands before the row, and each other begins with the
blank after its comma. -/
theorem fields_joined {isSeparator : Char → Bool} (cut : isSeparator ',' = true)
    (gap : isSeparator ' ' = false) {front text : List Char} {others : List (List Char)}
    (opens : ∀ c ∈ front, isSeparator c = false)
    (uncut : ∀ field ∈ text :: others, ∀ c ∈ field, isSeparator c = false) :
    fields isSeparator (front ++ joined [',', ' '] (text :: others)) =
      (front ++ text) :: others.map (' ' :: ·) := by
  have first : ∀ c ∈ front ++ text, isSeparator c = false := by
    intro c member
    rcases List.mem_append.1 member with before | inside
    · exact opens c before
    · exact uncut text List.mem_cons_self c inside
  -- The front is general: behind each comma it is the blank.
  induction others generalizing front text with
  | nil => exact fields_of_none first
  | cons next rest ih =>
    have rearranged : front ++ joined [',', ' '] (text :: next :: rest) =
        (front ++ text) ++ ',' :: ([' '] ++ joined [',', ' '] (next :: rest)) := by
      simp [joined]
    have blank : ∀ c ∈ [' '], isSeparator c = false := by
      intro c member
      rw [List.mem_singleton.1 member]
      exact gap
    have later : ∀ field ∈ next :: rest, ∀ c ∈ field, isSeparator c = false :=
      fun field member => uncut field (List.mem_cons_of_mem text member)
    have firstLater : ∀ c ∈ [' '] ++ next, isSeparator c = false := by
      intro c member
      rcases List.mem_append.1 member with before | inside
      · exact blank c before
      · exact later next List.mem_cons_self c inside
    rw [rearranged, fields_append_cons first cut, ih blank later firstLater]
    rfl

end Text

namespace Capabilities
open Text

structure Word (isSeparator : Char → Bool) (text : String) : Prop where
  nonempty : text ≠ ""
  uncut : ∀ c ∈ text.toList, isSeparator c = false
  starts : ∀ c ∈ text.toList.head?, isBlank c = false
  ends : ∀ c ∈ text.toList.getLast?, isBlank c = false

def row (texts : List String) : String := String.ofList (joined [',', ' '] (texts.map String.toList))

private theorem Word.ofList_trim {isSeparator : Char → Bool} {text : String}
    (word : Word isSeparator text) : String.ofList (trim text.toList) = text := by
  rw [trim_of_edges word.starts word.ends, String.ofList_toList]

theorem words_row {isSeparator : Char → Bool} (cut : isSeparator ',' = true)
    (gap : isSeparator ' ' = false) {texts : List String}
    (all : ∀ text ∈ texts, Word isSeparator text) : words isSeparator (row texts) = texts := by
  have kept : texts.filter (· ≠ "") = texts := by
    apply List.filter_eq_self.2
    intro text member
    exact decide_eq_true (all text member).nonempty
  cases texts with
  | nil => rfl
  | cons text others =>
    have uncut : ∀ field ∈ text.toList :: others.map String.toList, ∀ c ∈ field,
        isSeparator c = false := by
      intro field member
      rw [← List.map_cons] at member
      obtain ⟨source, held, rfl⟩ := List.mem_map.1 member
      exact (all source held).uncut
    have cutUp : fields isSeparator (row (text :: others)).toList =
        text.toList :: (others.map String.toList).map (' ' :: ·) := by
      rw [row, String.toList_ofList]
      exact fields_joined cut gap (fun c member => absurd member List.not_mem_nil) uncut
    have blank : isBlank ' ' = true := by decide
    have trims : ∀ other ∈ others,
        String.ofList (trim (' ' :: other.toList)) = other := by
      intro other member
      rw [trim_cons_of_blank blank]
      exact (all other (List.mem_cons_of_mem text member)).ofList_trim
    have trimmed : (text.toList :: (others.map String.toList).map (' ' :: ·)).map
        (fun field => String.ofList (trim field)) = text :: others := by
      rw [List.map_cons, (all text List.mem_cons_self).ofList_trim, List.map_map, List.map_map]
      congr 1
      exact (List.map_congr_left trims).trans (List.map_id' others)
    rw [words, cutUp, trimmed, kept]

end Capabilities

end PrinterRoster
