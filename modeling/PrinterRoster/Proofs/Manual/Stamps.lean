import PrinterRoster.Proofs.Text.Digits
import PrinterRoster.Stamp

/-! A stamp is read as it was written: every part of it is written with as many digits as are read
for it, and universal time is what it is brought to. -/
namespace PrinterRoster.Stamp
open Text Decimal

private theorem not_isBlank_of_isDigit {c : Char} (digit : c.isDigit = true) :
    isBlank c = false := by
  have bounds : 48 ≤ c.toNat ∧ c.toNat ≤ 57 := by
    simpa [Char.isDigit, UInt32.le_iff_toNat_le] using digit
  simp only [isBlank, blankRanges, List.any_cons, List.any_nil, Bool.or_false,
    Bool.or_eq_false_iff, Bool.and_eq_false_iff, decide_eq_false_iff_not]
  omega

theorem trimLeft_run {digits rest : List Char} (run : IsRun digits) :
    trimLeft (digits ++ rest) = digits ++ rest := by
  obtain ⟨first, others, rfl⟩ := List.exists_cons_of_ne_nil run.1
  exact trimLeft_of_head (not_isBlank_of_isDigit (run.2 first List.mem_cons_self))

theorem readDigits?_run {limit : Nat} {digits rest : List Char} (run : IsRun digits)
    (fits : digits.length ≤ limit)
    (ends : digits.length = limit ∨ ∀ c ∈ rest.head?, c.isDigit = false) :
    readDigits? limit (digits ++ rest) = (value? digits).map fun value => (value, rest) := by
  have taken : ((digits ++ rest).take limit).takeWhile Char.isDigit = digits := by
    rw [List.take_append, List.take_of_length_le fits]
    refine takeWhile_run run fun c head => ?_
    rcases ends with full | apart
    · rw [full, Nat.sub_self] at head
      cases head
    · rw [List.head?_take] at head
      split at head
      · cases head
      · exact apart c head
  rw [readDigits?, taken, List.drop_left]

private theorem readDigits?_padded (width : Nat) {n : Nat} (fits : n < 10 ^ (width + 1))
    (rest : List Char) : readDigits? (width + 1) (padded (width + 1) n ++ rest) = some (n, rest) := by
  have length := length_padded fits
  rw [readDigits?_run (isRun_padded ..) (Nat.le_of_eq length) (Or.inl length), value?_padded,
    Option.map_some]

private theorem readPair?_padded {n : Nat} (fits : n < 100) (rest : List Char) :
    readPair? (padded 2 n ++ rest) = some (n, rest) := by
  rw [readPair?, trimLeft_run (isRun_padded _ _)]
  exact readDigits?_padded 1 fits rest

theorem afterMark?_cons {mark : Char} (visible : isBlank mark = false) (rest : List Char) :
    afterMark? mark (mark :: rest) = some rest := by
  rw [afterMark?, trimLeft_of_head visible]
  exact if_pos rfl

private theorem readYear?_yearText (year : Int) (rest : List Char) :
    readYear? (yearText year ++ '-' :: rest) = some (year, '-' :: rest) := by
  have ends : ∀ c ∈ ('-' :: rest).head?, c.isDigit = false := by
    intro c head
    obtain rfl := Option.some.inj head
    rfl
  rw [yearText]
  split
  · rename_i short
    have read := readDigits?_padded 3 (n := year.toNat) (by omega) ('-' :: rest)
    have value : ((year.toNat : Nat) : Int) = year := by omega
    obtain ⟨first, others, start⟩ := List.exists_cons_of_ne_nil (isRun_padded 4 year.toNat).1
    have digit := (isRun_padded 4 year.toNat).2 first (by rw [start]; exact List.mem_cons_self)
    rw [readYear?, trimLeft_run (isRun_padded ..)]
    rw [start, List.cons_append] at read ⊢
    split
    · rename_i same
      rw [(List.cons.inj same).1] at digit
      cases digit
    · rename_i same
      rw [(List.cons.inj same).1] at digit
      cases digit
    · simp only [read, Option.map_some, value]
  · rename_i long
    have read := readDigits?_run (isRun_padded 4 year.natAbs)
      (show _ ≤ (padded 4 year.natAbs ++ '-' :: rest).length by simp) (Or.inr ends)
    rw [value?_padded, Option.map_some] at read
    split
    · have value : -((year.natAbs : Nat) : Int) = year := by omega
      rw [List.cons_append, readYear?, trimLeft_of_head (by decide)]
      simp only [read, Option.map_some, value]
    · have value : ((year.natAbs : Nat) : Int) = year := by omega
      rw [List.cons_append, readYear?, trimLeft_of_head (by decide)]
      simp only [read, Option.map_some, value]

private theorem readFraction?_padded (width : Nat) {n : Nat} (short : width + 1 ≤ 9)
    (fits : n < 10 ^ (width + 1)) : readFraction? ('.' :: padded (width + 1) n ++ ['Z']) =
      some (n * 10 ^ (9 - (width + 1)), ['Z']) := by
  have run := isRun_padded (width + 1) n
  have length := length_padded fits
  have ends : ∀ c ∈ ['Z'].head?, c.isDigit = false := by
    intro c head
    obtain rfl := Option.some.inj head
    rfl
  have taken : (padded (width + 1) n ++ ['Z']).takeWhile Char.isDigit = padded (width + 1) n :=
    takeWhile_run run ends
  have left : (padded (width + 1) n ++ ['Z']).dropWhile Char.isDigit = ['Z'] := by
    rw [List.dropWhile_append_of_pos run.2]
    rfl
  rw [List.cons_append, readFraction?, taken, left, List.take_of_length_le (by omega), value?_padded,
    length, Option.map_some]
  rfl

private theorem readFraction?_fractionText {nanos : Nat} (fits : nanos < 1000000000) :
    readFraction? (fractionText nanos ++ ['Z']) = some (nanos, ['Z']) := by
  rw [fractionText]
  split
  · rename_i none
    rw [none]
    rfl
  split
  · rename_i millis
    rw [readFraction?_padded 2 (by decide) (by omega)]
    congr 2
    omega
  split
  · rename_i micros
    rw [readFraction?_padded 5 (by decide) (by omega)]
    congr 2
    omega
  · rw [readFraction?_padded 8 (by decide) (by omega)]
    congr 2
    omega

private theorem ofNumbers?_eq (stamp : Stamp) :
    ofNumbers? stamp.year stamp.month stamp.day stamp.hour stamp.minute stamp.second stamp.nanos =
      some stamp := by
  rw [ofNumbers?, dif_pos stamp.isDay, dif_pos stamp.isTime]

private theorem aheadBy?_zero (stamp : Stamp) : stamp.aheadBy? 0 = some stamp := by
  have clock := stamp.isTime
  simp only [isTimeOfDay, Bool.and_eq_true, decide_eq_true_eq] at clock
  have sameDay : ((stamp.hour * 60 + stamp.minute : Int) - 0) / 1440 = 0 := by omega
  have sameTime : (((stamp.hour * 60 + stamp.minute : Int) - 0) % 1440).toNat =
      stamp.hour * 60 + stamp.minute := by omega
  have hour : (stamp.hour * 60 + stamp.minute) / 60 = stamp.hour := by omega
  have minute : (stamp.hour * 60 + stamp.minute) % 60 = stamp.minute := by omega
  rw [aheadBy?, sameDay, sameTime]
  dsimp only [shiftedDay]
  rw [hour, minute]
  exact ofNumbers?_eq stamp

theorem ofChars?_chars (stamp : Stamp) : ofChars? stamp.chars = some stamp := by
  have day := stamp.isDay
  have clock := stamp.isTime
  simp only [isCalendarDay, Bool.and_eq_true, decide_eq_true_eq] at day
  simp only [isTimeOfDay, Bool.and_eq_true, decide_eq_true_eq] at clock
  have monthFits : stamp.month < 100 := by omega
  have dayFits : stamp.day < 100 := by
    have most : daysInMonth stamp.year stamp.month ≤ 31 := by
      unfold daysInMonth
      split_ifs <;> decide
    omega
  have hourFits : stamp.hour < 100 := by omega
  have minuteFits : stamp.minute < 100 := by omega
  have secondFits : stamp.second < 100 := by omega
  simp only [chars, List.append_assoc, List.cons_append]
  have hyphen (rest : List Char) : afterMark? '-' ('-' :: rest) = some rest :=
    afterMark?_cons (by decide) rest
  have colon (rest : List Char) : afterMark? ':' (':' :: rest) = some rest :=
    afterMark?_cons (by decide) rest
  have letter (rest : List Char) : afterSeparator? ('T' :: rest) = some rest := rfl
  have zone : readZone? (trimLeft ['Z']) = some (0, []) := by decide
  unfold ofChars?
  refine Option.bind_eq_some_iff.2 ⟨_, readYear?_yearText _ _, ?_⟩
  refine Option.bind_eq_some_iff.2 ⟨_, hyphen _, ?_⟩
  refine Option.bind_eq_some_iff.2 ⟨_, readPair?_padded monthFits _, ?_⟩
  refine Option.bind_eq_some_iff.2 ⟨_, hyphen _, ?_⟩
  refine Option.bind_eq_some_iff.2 ⟨_, readPair?_padded dayFits _, ?_⟩
  refine Option.bind_eq_some_iff.2 ⟨_, letter _, ?_⟩
  refine Option.bind_eq_some_iff.2 ⟨_, readPair?_padded hourFits _, ?_⟩
  refine Option.bind_eq_some_iff.2 ⟨_, colon _, ?_⟩
  refine Option.bind_eq_some_iff.2 ⟨_, readPair?_padded minuteFits _, ?_⟩
  refine Option.bind_eq_some_iff.2 ⟨_, colon _, ?_⟩
  refine Option.bind_eq_some_iff.2 ⟨_, readPair?_padded secondFits _, ?_⟩
  refine Option.bind_eq_some_iff.2 ⟨_, readFraction?_fractionText clock.2, ?_⟩
  refine Option.bind_eq_some_iff.2 ⟨_, zone, ?_⟩
  refine Option.bind_eq_some_iff.2 ⟨_, ofNumbers?_eq stamp, ?_⟩
  exact aheadBy?_zero stamp

theorem parse?_text (stamp : Stamp) : parse? stamp.text = some stamp := by
  rw [parse?, text, String.toList_ofList, ofChars?_chars]

end PrinterRoster.Stamp
