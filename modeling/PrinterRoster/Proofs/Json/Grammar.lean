import PrinterRoster.Proofs.Json.Numerals
import PrinterRoster.Proofs.Json.Strings

/-! The grammar of JSON. A value with gaps around it is an element, and elements, or keys with
elements, stand between the brackets of an array or object. Reading a text succeeds exactly if
the text is an element, and gives the value of that. -/
namespace PrinterRoster.Json

def IsGap (gap : List Char) : Prop := ∀ c ∈ gap, isSpace c = true

/-- What a part of a text stands for. -/
inductive Phrase
  | value (value : Json)
  | element (value : Json)
  | elements (values : List Json)
  | member (key : Option String) (value : Json)
  | members (members : List (Option String × Json))

inductive Denotes : List Char → Phrase → Prop
  | null : Denotes ['n', 'u', 'l', 'l'] (.value .null)
  | yes : Denotes ['t', 'r', 'u', 'e'] (.value (.bool true))
  | no : Denotes ['f', 'a', 'l', 's', 'e'] (.value (.bool false))
  | number {numeral : List Char} {value : Option Nat} (isNumeral : Numeral numeral value) :
      Denotes numeral (.value (.number value))
  | string {spelled : List Char} {text : Option String} (inside : Inside spelled text) :
      Denotes ('"' :: (spelled ++ ['"'])) (.value (.string text))
  | emptyArray {gap : List Char} (isGap : IsGap gap) :
      Denotes ('[' :: (gap ++ [']'])) (.value (.array []))
  | array {inner : List Char} {values : List Json} (items : Denotes inner (.elements values)) :
      Denotes ('[' :: (inner ++ [']'])) (.value (.array values))
  | emptyObject {gap : List Char} (isGap : IsGap gap) :
      Denotes ('\x7b' :: (gap ++ ['\x7d'])) (.value (.object []))
  | object {inner : List Char} {all : List (Option String × Json)}
      (items : Denotes inner (.members all)) :
      Denotes ('\x7b' :: (inner ++ ['\x7d'])) (.value (.object all))
  | element {before text after : List Char} {value : Json} (gapBefore : IsGap before)
      (inside : Denotes text (.value value)) (gapAfter : IsGap after) :
      Denotes (before ++ text ++ after) (.element value)
  | lastElement {text : List Char} {value : Json} (last : Denotes text (.element value)) :
      Denotes text (.elements [value])
  | moreElements {text others : List Char} {value : Json} {values : List Json}
      (first : Denotes text (.element value)) (rest : Denotes others (.elements values)) :
      Denotes (text ++ ',' :: others) (.elements (value :: values))
  | member {before spelled after text : List Char} {key : Option String} {value : Json}
      (gapBefore : IsGap before) (inside : Inside spelled key) (gapAfter : IsGap after)
      (item : Denotes text (.element value)) :
      Denotes (before ++ '"' :: (spelled ++ '"' :: (after ++ ':' :: text))) (.member key value)
  | lastMember {text : List Char} {key : Option String} {value : Json}
      (last : Denotes text (.member key value)) : Denotes text (.members [(key, value)])
  | moreMembers {text others : List Char} {key : Option String} {value : Json}
      {all : List (Option String × Json)} (first : Denotes text (.member key value))
      (rest : Denotes others (.members all)) :
      Denotes (text ++ ',' :: others) (.members ((key, value) :: all))

private theorem isSpace_cases {c : Char} (space : isSpace c = true) :
    c = ' ' ∨ c = '\n' ∨ c = '\r' ∨ c = '\t' := by
  simp only [isSpace, Bool.or_eq_true, beq_iff_eq] at space
  tauto

theorem skipSpace_append {gap : List Char} (isGap : IsGap gap) (rest : List Char) :
    skipSpace (gap ++ rest) = skipSpace rest :=
  List.dropWhile_append_of_pos isGap

theorem skipSpace_cons {c : Char} (visible : isSpace c = false) (rest : List Char) :
    skipSpace (c :: rest) = c :: rest :=
  List.dropWhile_cons_of_neg (by simp [visible])

private theorem exists_gap (text : List Char) :
    ∃ gap, text = gap ++ skipSpace text ∧ IsGap gap := by
  refine ⟨text.takeWhile isSpace, List.takeWhile_append_dropWhile.symm, ?_⟩
  have all : (text.takeWhile isSpace).all isSpace = true := List.all_takeWhile
  exact List.all_eq_true.1 all

def Closes (rest : List Char) : Prop := ∀ c ∈ rest.head?, c = ',' ∨ c = ']' ∨ c = '\x7d'

private theorem skipSpace_of_closes {rest : List Char} (closes : Closes rest) :
    skipSpace rest = rest := by
  cases rest with
  | nil => rfl
  | cons c rest =>
    refine skipSpace_cons ?_ rest
    rcases closes c rfl with rfl | rfl | rfl <;> rfl

private theorem apart_of_closes {gap rest : List Char} (isGap : IsGap gap) (closes : Closes rest) :
    Apart (gap ++ rest) := by
  intro c head
  cases gap with
  | nil => rcases closes c head with rfl | rfl | rfl <;> decide
  | cons first gap =>
    obtain rfl := Option.some.inj head
    rcases isSpace_cases (isGap first List.mem_cons_self) with rfl | rfl | rfl | rfl <;> decide

private theorem readValue?_gap {gap : List Char} (isGap : IsGap gap) (fuel : Nat)
    (text : List Char) : readValue? fuel (gap ++ text) = readValue? fuel text := by
  cases fuel with
  | zero => rw [readValue?, readValue?]
  | succ fuel => rw [readValue?, readValue?, skipSpace_append isGap]

private theorem readValue?_numeral {numeral : List Char} {value : Option Nat}
    (isNumeral : Numeral numeral value) (fuel : Nat) (rest : List Char) :
    readValue? (fuel + 1) (numeral ++ rest) = readNumber? (numeral ++ rest) := by
  obtain ⟨first, others, rfl, starts⟩ : ∃ first others, numeral = first :: others ∧
      (first = '-' ∨ first.isDigit = true) := by
    cases isNumeral with
    | parts signed run _ _ _ =>
      obtain ⟨digit, others, rfl⟩ := List.exists_cons_of_ne_nil run.1
      rcases signed with rfl | rfl
      · exact ⟨digit, _, rfl, Or.inr (run.2 digit List.mem_cons_self)⟩
      · exact ⟨'-', _, rfl, Or.inl rfl⟩
  have visible : isSpace first = false := by
    cases space : isSpace first with
    | false => rfl
    | true =>
      rcases isSpace_cases space with rfl | rfl | rfl | rfl <;> exact absurd starts (by decide)
  have startsSo {c : Char} {text : List Char} (same : first :: (others ++ rest) = c :: text) :
      c = '-' ∨ c.isDigit = true := (List.cons.inj same).1 ▸ starts
  rw [readValue?, List.cons_append, skipSpace_cons visible]
  split
  case h_7 => rfl
  all_goals
    rename_i same
    exact absurd (startsSo same) (by decide)

private theorem not_closed_of_readValue? {fuel : Nat} {text : List Char} {found : Json × List Char}
    (read : readValue? fuel text = some found) (rest : List Char) : skipSpace text ≠ ']' :: rest := by
  intro same
  cases fuel with
  | zero => rw [readValue?] at read; cases read
  | succ fuel => rw [readValue?, same] at read; cases read

private theorem not_closed_of_readItems? {fuel : Nat} {text : List Char}
    {found : List Json × List Char}
    (read : readItems? fuel text = some found) (rest : List Char) : skipSpace text ≠ ']' :: rest := by
  cases fuel with
  | zero => rw [readItems?] at read; cases read
  | succ fuel =>
    rw [readItems?] at read
    obtain ⟨item, first, _⟩ := Option.bind_eq_some_iff.1 read
    exact not_closed_of_readValue? first rest

private theorem not_closed_of_readMembers? {fuel : Nat} {text : List Char}
    {found : List (Option String × Json) × List Char}
    (read : readMembers? fuel text = some found) (rest : List Char) :
    skipSpace text ≠ '\x7d' :: rest := by
  intro same
  cases fuel with
  | zero => rw [readMembers?] at read; cases read
  | succ fuel => rw [readMembers?, same] at read; cases read

private theorem readValue?_items {fuel : Nat} {text rest : List Char} {values : List Json}
    (read : readItems? fuel text = some (values, rest)) :
    readValue? (fuel + 1) ('[' :: text) = some (.array values, rest) := by
  simp only [readValue?, skipSpace_cons (c := '[') (by decide)]
  split
  · rename_i closed
    exact absurd closed (not_closed_of_readItems? read _)
  · rw [read, Option.map_some]

private theorem readValue?_members {fuel : Nat} {text rest : List Char}
    {all : List (Option String × Json)} (read : readMembers? fuel text = some (all, rest)) :
    readValue? (fuel + 1) ('\x7b' :: text) = some (.object all, rest) := by
  simp only [readValue?, skipSpace_cons (c := '\x7b') (by decide)]
  split
  · rename_i closed
    exact absurd closed (not_closed_of_readMembers? read _)
  · rw [read, Option.map_some]

def Reads (text : List Char) : Phrase → Prop
  | .value value => ∀ rest fuel, Apart rest → 2 * text.length + 1 ≤ fuel →
      readValue? fuel (text ++ rest) = some (value, rest)
  | .element value => ∀ rest fuel, Closes rest → 2 * text.length + 1 ≤ fuel →
      ∃ left, readValue? fuel (text ++ rest) = some (value, left) ∧ skipSpace left = rest
  | .elements values => ∀ rest fuel, 2 * text.length + 2 ≤ fuel →
      readItems? fuel (text ++ ']' :: rest) = some (values, rest)
  | .member key value => ∀ rest fuel, Closes rest → 2 * text.length + 1 ≤ fuel →
      ∃ quoted unquoted item left, skipSpace (text ++ rest) = '"' :: quoted ∧
        readString? quoted = some (key, unquoted) ∧ skipSpace unquoted = ':' :: item ∧
          readValue? fuel item = some (value, left) ∧ skipSpace left = rest
  | .members all => ∀ rest fuel, 2 * text.length + 2 ≤ fuel →
      readMembers? fuel (text ++ '\x7d' :: rest) = some (all, rest)

private theorem reads_of_denotes {text : List Char} {phrase : Phrase}
    (denotes : Denotes text phrase) : Reads text phrase := by
  induction denotes with
  | null | yes | no =>
    intro rest fuel _ enough
    obtain ⟨fuel, rfl⟩ := Nat.exists_eq_add_one_of_ne_zero (n := fuel) (by omega)
    rw [readValue?]
    rfl
  | number isNumeral =>
    intro rest fuel apart enough
    obtain ⟨fuel, rfl⟩ := Nat.exists_eq_add_one_of_ne_zero (n := fuel) (by omega)
    rw [readValue?_numeral isNumeral, readNumber?_append isNumeral apart]
  | @string spelled text inside =>
    intro rest fuel _ enough
    obtain ⟨fuel, rfl⟩ := Nat.exists_eq_add_one_of_ne_zero (n := fuel) (by omega)
    have read : readString? (spelled ++ '"' :: rest) = some (text, rest) :=
      readString?_eq_some_iff.2 ⟨spelled, rfl, inside⟩
    rw [readValue?, List.cons_append, List.append_assoc, List.singleton_append,
      skipSpace_cons (by decide)]
    simp only [read, Option.map_some]
  | @emptyArray gap isGap =>
    intro rest fuel _ enough
    obtain ⟨fuel, rfl⟩ := Nat.exists_eq_add_one_of_ne_zero (n := fuel) (by omega)
    rw [readValue?, List.cons_append, List.append_assoc, List.singleton_append,
      skipSpace_cons (by decide)]
    simp only [skipSpace_append isGap, skipSpace_cons (c := ']') (by decide)]
  | array items ih =>
    intro rest fuel _ enough
    obtain ⟨fuel, rfl⟩ := Nat.exists_eq_add_one_of_ne_zero (n := fuel) (by omega)
    have read := ih rest fuel (by simp only [List.length_cons, List.length_append] at enough; omega)
    rw [List.cons_append, List.append_assoc, List.singleton_append]
    exact readValue?_items read
  | @emptyObject gap isGap =>
    intro rest fuel _ enough
    obtain ⟨fuel, rfl⟩ := Nat.exists_eq_add_one_of_ne_zero (n := fuel) (by omega)
    rw [readValue?, List.cons_append, List.append_assoc, List.singleton_append,
      skipSpace_cons (by decide)]
    simp only [skipSpace_append isGap, skipSpace_cons (c := '\x7d') (by decide)]
  | object items ih =>
    intro rest fuel _ enough
    obtain ⟨fuel, rfl⟩ := Nat.exists_eq_add_one_of_ne_zero (n := fuel) (by omega)
    have read := ih rest fuel (by simp only [List.length_cons, List.length_append] at enough; omega)
    rw [List.cons_append, List.append_assoc, List.singleton_append]
    exact readValue?_members read
  | @element before text after value gapBefore inside gapAfter ih =>
    intro rest fuel closes enough
    simp only [List.length_append] at enough
    refine ⟨after ++ rest, ?_, ?_⟩
    · rw [List.append_assoc, List.append_assoc, readValue?_gap gapBefore]
      exact ih (after ++ rest) fuel (apart_of_closes gapAfter closes) (by omega)
    · rw [skipSpace_append gapAfter, skipSpace_of_closes closes]
  | lastElement last ih =>
    intro rest fuel enough
    obtain ⟨fuel, rfl⟩ := Nat.exists_eq_add_one_of_ne_zero (n := fuel) (by omega)
    obtain ⟨left, read, closed⟩ := ih (']' :: rest) fuel (by simp [Closes]) (by omega)
    rw [readItems?, read]
    simp [closed]
  | moreElements first others ihFirst ihOthers =>
    intro rest fuel enough
    obtain ⟨fuel, rfl⟩ := Nat.exists_eq_add_one_of_ne_zero (n := fuel) (by omega)
    simp only [List.length_cons, List.length_append] at enough
    rw [List.append_assoc, List.cons_append]
    obtain ⟨left, read, closed⟩ :=
      ihFirst (',' :: (_ ++ ']' :: rest)) fuel (by simp [Closes]) (by omega)
    have readOthers := ihOthers rest fuel (by omega)
    rw [readItems?, read]
    simp [closed, readOthers]
  | @member before spelled after text key value gapBefore inside gapAfter item ih =>
    intro rest fuel closes enough
    simp only [List.length_cons, List.length_append] at enough
    obtain ⟨left, read, closed⟩ := ih rest fuel closes (by omega)
    refine ⟨spelled ++ '"' :: (after ++ ':' :: (text ++ rest)), after ++ ':' :: (text ++ rest),
      text ++ rest, left, ?_, ?_, ?_, read, closed⟩
    · simp only [List.append_assoc, List.cons_append, skipSpace_append gapBefore]
      rw [skipSpace_cons (by decide)]
    · exact readString?_eq_some_iff.2 ⟨spelled, rfl, inside⟩
    · rw [skipSpace_append gapAfter, skipSpace_cons (by decide)]
  | lastMember last ih =>
    intro rest fuel enough
    obtain ⟨fuel, rfl⟩ := Nat.exists_eq_add_one_of_ne_zero (n := fuel) (by omega)
    obtain ⟨quoted, unquoted, item, left, opened, readKey, colon, read, closed⟩ :=
      ih ('\x7d' :: rest) fuel (by simp [Closes]) (by omega)
    rw [readMembers?, opened]
    simp [readKey, colon, read, closed]
  | moreMembers first others ihFirst ihOthers =>
    intro rest fuel enough
    obtain ⟨fuel, rfl⟩ := Nat.exists_eq_add_one_of_ne_zero (n := fuel) (by omega)
    simp only [List.length_cons, List.length_append] at enough
    rw [List.append_assoc, List.cons_append]
    obtain ⟨quoted, unquoted, item, left, opened, readKey, colon, read, closed⟩ :=
      ihFirst (',' :: (_ ++ '\x7d' :: rest)) fuel (by simp [Closes]) (by omega)
    have readOthers := ihOthers rest fuel (by omega)
    rw [readMembers?, opened]
    simp [readKey, colon, read, closed, readOthers]

/-- What is read with some fuel is what the text before the rest denotes. -/
structure Faithful (fuel : Nat) : Prop where
  value : ∀ {text rest : List Char} {value : Json}, readValue? fuel text = some (value, rest) →
    ∃ before inner, text = before ++ (inner ++ rest) ∧ IsGap before ∧ Denotes inner (.value value)
  elements : ∀ {text rest : List Char} {values : List Json},
    readItems? fuel text = some (values, rest) →
      ∃ inner, text = inner ++ ']' :: rest ∧ Denotes inner (.elements values)
  members : ∀ {text rest : List Char} {all : List (Option String × Json)},
    readMembers? fuel text = some (all, rest) →
      ∃ inner, text = inner ++ '\x7d' :: rest ∧ Denotes inner (.members all)

section Faithful
variable {fuel : Nat} (faithful : Faithful fuel)
include faithful

private theorem value_of_read {text rest : List Char} {value : Json}
    (read : readValue? (fuel + 1) text = some (value, rest)) :
    ∃ before inner, text = before ++ (inner ++ rest) ∧ IsGap before ∧
      Denotes inner (.value value) := by
  obtain ⟨before, same, isGap⟩ := exists_gap text
  suffices ∃ inner, skipSpace text = inner ++ rest ∧ Denotes inner (.value value) by
    obtain ⟨inner, visible, denotes⟩ := this
    exact ⟨before, inner, visible ▸ same, isGap, denotes⟩
  rw [readValue?] at read
  split at read
  · rename_i start
    cases read
    exact ⟨_, start, .null⟩
  · rename_i start
    cases read
    exact ⟨_, start, .yes⟩
  · rename_i start
    cases read
    exact ⟨_, start, .no⟩
  · rename_i quoted start
    obtain ⟨⟨found, left⟩, readIn, same⟩ := Option.map_eq_some_iff.1 read
    cases same
    obtain ⟨spelled, rfl, inside⟩ := readString?_eq_some_iff.1 readIn
    exact ⟨_, by simpa using start, .string inside⟩
  · rename_i opened start
    split at read
    · rename_i closed
      cases read
      obtain ⟨gap, same, inside⟩ := exists_gap opened
      rw [closed] at same
      exact ⟨_, by simpa [same] using start, .emptyArray inside⟩
    · obtain ⟨⟨found, left⟩, readIn, same⟩ := Option.map_eq_some_iff.1 read
      cases same
      obtain ⟨inner, rfl, denotes⟩ := faithful.elements readIn
      exact ⟨_, by simpa using start, .array denotes⟩
  · rename_i opened start
    split at read
    · rename_i closed
      cases read
      obtain ⟨gap, same, inside⟩ := exists_gap opened
      rw [closed] at same
      exact ⟨_, by simpa [same] using start, .emptyObject inside⟩
    · obtain ⟨⟨found, left⟩, readIn, same⟩ := Option.map_eq_some_iff.1 read
      cases same
      obtain ⟨inner, rfl, denotes⟩ := faithful.members readIn
      exact ⟨_, by simpa using start, .object denotes⟩
  · obtain ⟨numeral, found, same, rfl, isNumeral⟩ := numeral_of_readNumber? read
    exact ⟨numeral, same, .number isNumeral⟩

/-- A value that was read is an element with the gap behind it. -/
theorem element_of_read {text left : List Char} {value : Json}
    (read : readValue? fuel text = some (value, left)) :
    ∃ inner, text = inner ++ skipSpace left ∧ Denotes inner (.element value) := by
  obtain ⟨before, inner, same, gapBefore, denotes⟩ := faithful.value read
  obtain ⟨after, behind, gapAfter⟩ := exists_gap left
  refine ⟨before ++ inner ++ after, ?_, .element gapBefore denotes gapAfter⟩
  rw [same, List.append_assoc, List.append_assoc, ← behind]

private theorem elements_of_read {text rest : List Char} {values : List Json}
    (read : readItems? (fuel + 1) text = some (values, rest)) :
    ∃ inner, text = inner ++ ']' :: rest ∧ Denotes inner (.elements values) := by
  rw [readItems?] at read
  obtain ⟨⟨value, left⟩, first, read⟩ := Option.bind_eq_some_iff.1 read
  obtain ⟨inner, same, denotes⟩ := element_of_read faithful first
  dsimp only at read
  split at read
  · rename_i behind separated
    obtain ⟨⟨others, leftOver⟩, readOthers, finished⟩ := Option.bind_eq_some_iff.1 read
    cases finished
    obtain ⟨innerOthers, rfl, denotesOthers⟩ := faithful.elements readOthers
    rw [separated] at same
    exact ⟨_, by simpa using same, .moreElements denotes denotesOthers⟩
  · rename_i behind closed
    cases read
    rw [closed] at same
    exact ⟨_, same, .lastElement denotes⟩
  · cases read

private theorem members_of_read {text rest : List Char} {all : List (Option String × Json)}
    (read : readMembers? (fuel + 1) text = some (all, rest)) :
    ∃ inner, text = inner ++ '\x7d' :: rest ∧ Denotes inner (.members all) := by
  rw [readMembers?] at read
  split at read
  · rename_i quoted opened
    obtain ⟨⟨key, unquoted⟩, readKey, readItem⟩ := Option.bind_eq_some_iff.1 read
    dsimp only at readItem
    split at readItem
    · rename_i item colon
      obtain ⟨⟨value, left⟩, first, readOn⟩ := Option.bind_eq_some_iff.1 readItem
      dsimp only at readOn
      obtain ⟨before, start, gapBefore⟩ := exists_gap text
      obtain ⟨spelled, quote, inside⟩ := readString?_eq_some_iff.1 readKey
      obtain ⟨after, behind, gapAfter⟩ := exists_gap unquoted
      obtain ⟨inner, same, denotes⟩ := element_of_read faithful first
      have member := Denotes.member gapBefore inside gapAfter denotes
      have whole : text = (before ++ '"' :: (spelled ++ '"' :: (after ++ ':' :: inner))) ++
          skipSpace left := by
        rw [start, opened, quote, behind, colon, same]
        simp
      split at readOn
      · rename_i separated
        obtain ⟨⟨others, leftOver⟩, readOthers, finished⟩ := Option.bind_eq_some_iff.1 readOn
        cases finished
        obtain ⟨innerOthers, rfl, denotesOthers⟩ := faithful.members readOthers
        rw [separated] at whole
        exact ⟨_, by simpa using whole, .moreMembers member denotesOthers⟩
      · rename_i closed
        cases readOn
        rw [closed] at whole
        exact ⟨_, whole, .lastMember member⟩
      · cases readOn
    · cases readItem
  · cases read

end Faithful

theorem faithful (fuel : Nat) : Faithful fuel := by
  induction fuel with
  | zero =>
    refine ⟨?_, ?_, ?_⟩
    · intro text rest value read
      rw [readValue?] at read
      cases read
    · intro text rest value read
      rw [readItems?] at read
      cases read
    · intro text rest value read
      rw [readMembers?] at read
      cases read
  | succ fuel ih => exact ⟨value_of_read ih, elements_of_read ih, members_of_read ih⟩

/-- Reading a text gives the value that the whole text stands for as an element, and none if it
is no element. -/
theorem parse?_eq_some_iff {text : String} {value : Json} :
    parse? text = some value ↔ Denotes text.toList (.element value) := by
  constructor
  · intro read
    unfold parse? at read
    split at read
    · rename_i found left readIn
      split at read
      · rename_i whole
        cases read
        obtain ⟨inner, same, denotes⟩ := element_of_read (faithful _) readIn
        rw [List.isEmpty_iff.1 whole, List.append_nil] at same
        exact same ▸ denotes
      · cases read
    · cases read
  · intro denotes
    have enough : 2 * text.toList.length + 1 ≤ 2 * text.length + 2 := by
      rw [String.length_toList]
      omega
    obtain ⟨left, read, behind⟩ := reads_of_denotes denotes [] _ (by simp [Closes]) enough
    rw [List.append_nil] at read
    simp [parse?, read, behind]

end PrinterRoster.Json
