import PrinterRoster.Json.Reader
import PrinterRoster.Json.Writer
import Mathlib.Data.List.Basic

/-! How texts are spelled in JSON strings. Most characters stand for themselves; the others,
and any that a writer chooses, are given by an escape of one letter, by the four hexadecimal
digits of a UTF-16 unit, or by those of a high and a low half. Reading accepts the spellings
of texts, and what is written for a text is one of them. -/
namespace PrinterRoster.Json
open Text

def shortEscapes : List (Char × Char) :=
  [('"', '"'), ('\\', '\\'), ('/', '/'), ('b', '\x08'), ('f', '\x0c'), ('n', '\n'), ('r', '\r'),
    ('t', '\t')]

def IsQuad (quad : List Char) (value : Nat) : Prop :=
  ∃ a b c d, quad.map Hex.value? = [some a, some b, some c, some d] ∧
    value = 4096 * a.val + 256 * b.val + 16 * c.val + d.val

/-- What may stand between quotation marks for a text. -/
inductive Spells : List Char → List Char → Prop
  | nil : Spells [] []
  | plain {c : Char} {spelled text : List Char} (quote : c ≠ '"') (backslash : c ≠ '\\')
      (control : 32 ≤ c.toNat) (others : Spells spelled text) : Spells (c :: spelled) (c :: text)
  | short {letter c : Char} {spelled text : List Char} (escape : (letter, c) ∈ shortEscapes)
      (others : Spells spelled text) : Spells ('\\' :: letter :: spelled) (c :: text)
  | unit {quad spelled text : List Char} {value : Nat} (digits : IsQuad quad value)
      (whole : value < 0xD800 ∨ 0xE000 ≤ value) (others : Spells spelled text) :
      Spells ('\\' :: 'u' :: (quad ++ spelled)) (Char.ofNat value :: text)
  | pair {first second spelled text : List Char} {high low : Nat} (digits : IsQuad first high)
      (isHigh : 0xD800 ≤ high ∧ high < 0xDC00) (others : IsQuad second low)
      (isLow : 0xDC00 ≤ low ∧ low < 0xE000) (rest : Spells spelled text) :
      Spells ('\\' :: 'u' :: (first ++ '\\' :: 'u' :: (second ++ spelled)))
        (Char.ofNat (0x10000 + (high - 0xD800) * 0x400 + (low - 0xDC00)) :: text)

/-- What may stand between quotation marks for some characters and units. -/
inductive Written : List Char → List Piece → Prop
  | nil : Written [] []
  | plain {c : Char} {spelled : List Char} {pieces : List Piece} (quote : c ≠ '"')
      (backslash : c ≠ '\\') (control : 32 ≤ c.toNat) (others : Written spelled pieces) :
      Written (c :: spelled) (.char c :: pieces)
  | short {letter c : Char} {spelled : List Char} {pieces : List Piece}
      (escape : (letter, c) ∈ shortEscapes) (others : Written spelled pieces) :
      Written ('\\' :: letter :: spelled) (.char c :: pieces)
  | unit {quad spelled : List Char} {pieces : List Piece} {value : Nat}
      (digits : IsQuad quad value) (others : Written spelled pieces) :
      Written ('\\' :: 'u' :: (quad ++ spelled)) (.unit value :: pieces)

theorem shortEscape?_eq_some_iff {letter c : Char} :
    shortEscape? letter = some c ↔ (letter, c) ∈ shortEscapes := by
  unfold shortEscape?
  split <;> simp_all [shortEscapes, eq_comm]

theorem mapM_eq_some_iff {α β : Type} {read : α → Option β} {items : List α} {values : List β} :
    items.mapM read = some values ↔ items.map read = values.map some := by
  induction items generalizing values with
  | nil => cases values <;> simp
  | cons item others ih =>
    rw [List.mapM_cons]
    cases values with
    | nil => cases read item <;> cases others.mapM read <;> simp
    | cons value values =>
      rw [List.map_cons, List.map_cons, List.cons.injEq, ← ih]
      cases read item <;> cases others.mapM read <;> simp

private theorem eq_of_length_four {α : Type} {items : List α} (four : items.length = 4) :
    ∃ a b c d, items = [a, b, c, d] := by
  obtain ⟨a, others, rfl⟩ := List.exists_of_length_succ items four
  obtain ⟨b, c, d, rfl⟩ := List.length_eq_three.1 (Nat.succ.inj four)
  exact ⟨a, b, c, d, rfl⟩

theorem isQuad_iff {quad : List Char} {value : Nat} :
    IsQuad quad value ↔ ∃ a b c d values, quad = [a, b, c, d] ∧
      [a, b, c, d].mapM Hex.value? = some values ∧ Hex.number values = value := by
  have number (a b c d : Fin 16) :
      Hex.number [a, b, c, d] = 4096 * a.val + 256 * b.val + 16 * c.val + d.val := by
    simp only [Hex.number, List.foldl_cons, List.foldl_nil]
    omega
  constructor
  · rintro ⟨va, vb, vc, vd, hex, rfl⟩
    have four : quad.length = 4 := by simpa using congrArg List.length hex
    obtain ⟨a, b, c, d, rfl⟩ := eq_of_length_four four
    exact ⟨a, b, c, d, [va, vb, vc, vd], rfl, mapM_eq_some_iff.2 hex, number ..⟩
  · rintro ⟨a, b, c, d, values, rfl, hex, rfl⟩
    have mapped := mapM_eq_some_iff.1 hex
    have four : values.length = 4 := by simpa using (congrArg List.length mapped).symm
    obtain ⟨va, vb, vc, vd, rfl⟩ := eq_of_length_four four
    exact ⟨va, vb, vc, vd, mapped, number ..⟩

private theorem readPieces?_written {spelled : List Char} {pieces : List Piece}
    (written : Written spelled pieces) (rest : List Char) :
    readPieces? (spelled ++ '"' :: rest) = some (pieces, rest) := by
  induction written with
  | nil => rfl
  | @plain c spelled pieces quote backslash control others ih =>
    have readable : (decide (c = '\\') || decide (c.toNat < 32)) = false := by
      simp [backslash, control]
    rw [List.cons_append, readPieces?, ih, readable]
    · rfl
    · exact quote
    · intro _ _ _ _ _ same
      exact absurd same backslash
    · intro _ _ same
      exact absurd same backslash
  | @short letter c spelled pieces escape others ih =>
    have known : letter ≠ 'u' := by
      rintro rfl
      simp [shortEscapes] at escape
    rw [List.cons_append, List.cons_append, readPieces?, shortEscape?_eq_some_iff.2 escape, ih]
    · rfl
    · intro _ _ _ _ _ same
      exact absurd same known
  | @unit quad spelled pieces value digits others ih =>
    obtain ⟨a, b, c, d, values, rfl, hex, rfl⟩ := isQuad_iff.1 digits
    simp only [List.cons_append, List.nil_append, readPieces?, hex, ih]
    rfl

private theorem written_of_readPieces? {text rest : List Char} {pieces : List Piece}
    (read : readPieces? text = some (pieces, rest)) :
    ∃ spelled, text = spelled ++ '"' :: rest ∧ Written spelled pieces := by
  fun_induction readPieces? text generalizing pieces rest with
  | case1 => cases read
  | case2 others =>
    cases read
    exact ⟨[], rfl, .nil⟩
  | case3 a b c d others ih =>
    obtain ⟨values, hex, read⟩ := Option.bind_eq_some_iff.1 read
    obtain ⟨⟨found, left⟩, inner, read⟩ := Option.bind_eq_some_iff.1 read
    cases read
    obtain ⟨spelled, rfl, written⟩ := ih inner
    have digits : IsQuad [a, b, c, d] (Hex.number values) :=
      isQuad_iff.2 ⟨a, b, c, d, values, rfl, hex, rfl⟩
    exact ⟨_, rfl, .unit digits written⟩
  | case4 letter others _ ih =>
    obtain ⟨c, escape, read⟩ := Option.bind_eq_some_iff.1 read
    obtain ⟨⟨found, left⟩, inner, read⟩ := Option.bind_eq_some_iff.1 read
    cases read
    obtain ⟨spelled, rfl, written⟩ := ih inner
    exact ⟨_, rfl, .short (shortEscape?_eq_some_iff.1 escape) written⟩
  | case5 => cases read
  | case6 c others quote _ _ readable ih =>
    obtain ⟨⟨found, left⟩, inner, read⟩ := Option.bind_eq_some_iff.1 read
    cases read
    obtain ⟨spelled, rfl, written⟩ := ih inner
    rw [Bool.or_eq_true, decide_eq_true_eq, decide_eq_true_eq, not_or, Nat.not_lt] at readable
    exact ⟨_, rfl, .plain quote readable.1 readable.2 written⟩

theorem not_half_iff {value : Nat} :
    (isHighHalf value || isLowHalf value) = false ↔ value < 0xD800 ∨ 0xE000 ≤ value := by
  simp only [isHighHalf, isLowHalf, Bool.or_eq_false_iff, Bool.and_eq_false_iff,
    decide_eq_false_iff_not]
  omega

private theorem textOf?_whole {value : Nat} (whole : value < 0xD800 ∨ 0xE000 ≤ value)
    (others : List Piece) :
    textOf? (.unit value :: others) = (textOf? others).map (Char.ofNat value :: ·) := by
  obtain ⟨high, low⟩ := Bool.or_eq_false_iff.1 (not_half_iff.2 whole)
  cases others with
  | nil => simp [textOf?, high, low]
  | cons piece others => cases piece <;> simp [textOf?, high, low]

private theorem spells_of_written {spelled : List Char} {pieces : List Piece}
    (written : Written spelled pieces) {text : List Char} (denotes : textOf? pieces = some text) :
    Spells spelled text := by
  fun_induction textOf? pieces generalizing spelled text with
  | case1 =>
    cases denotes
    cases written
    exact .nil
  | case2 c others ih =>
    obtain ⟨inner, denoted, rfl⟩ := Option.map_eq_some_iff.1 denotes
    cases written with
    | plain quote backslash control rest => exact .plain quote backslash control (ih rest denoted)
    | short escape rest => exact .short escape (ih rest denoted)
  | case3 high low others isHigh isLow ih =>
    obtain ⟨inner, denoted, rfl⟩ := Option.map_eq_some_iff.1 denotes
    simp only [isHighHalf, isLowHalf, Bool.and_eq_true, decide_eq_true_eq] at isHigh isLow
    cases written with
    | unit first rest =>
      cases rest with
      | unit second rest => exact .pair first isHigh second isLow (ih rest denoted)
  | case4 => cases denotes
  | case5 => cases denotes
  | case6 high low others notHigh notLow ih =>
    obtain ⟨inner, denoted, rfl⟩ := Option.map_eq_some_iff.1 denotes
    have whole := not_half_iff.1
      (Bool.or_eq_false_iff.2 ⟨by simpa using notHigh, by simpa using notLow⟩)
    cases written with
    | unit digits rest => exact .unit digits whole (ih rest denoted)
  | case7 => cases denotes
  | case8 value others _ notHalf ih =>
    obtain ⟨inner, denoted, rfl⟩ := Option.map_eq_some_iff.1 denotes
    have whole := not_half_iff.1 (by simpa using notHalf)
    cases written with
    | unit digits rest => exact .unit digits whole (ih rest denoted)

private theorem written_of_spells {spelled text : List Char} (spells : Spells spelled text) :
    ∃ pieces, Written spelled pieces ∧ textOf? pieces = some text := by
  induction spells with
  | nil => exact ⟨[], .nil, rfl⟩
  | plain quote backslash control others ih =>
    obtain ⟨pieces, written, denotes⟩ := ih
    exact ⟨_, .plain quote backslash control written, by rw [textOf?, denotes]; rfl⟩
  | short escape others ih =>
    obtain ⟨pieces, written, denotes⟩ := ih
    exact ⟨_, .short escape written, by rw [textOf?, denotes]; rfl⟩
  | unit digits whole others ih =>
    obtain ⟨pieces, written, denotes⟩ := ih
    exact ⟨_, .unit digits written, by rw [textOf?_whole whole, denotes]; rfl⟩
  | @pair first second spelled text high low digits isHigh others isLow rest ih =>
    obtain ⟨pieces, written, denotes⟩ := ih
    have opens : isHighHalf high = true := by simpa [isHighHalf] using isHigh
    have closes : isLowHalf low = true := by simpa [isLowHalf] using isLow
    refine ⟨_, .unit digits (.unit others written), ?_⟩
    rw [textOf?, if_pos opens, if_pos closes, denotes]
    rfl

inductive Inside : List Char → Option String → Prop
  | text {spelled : List Char} {text : String} (spells : Spells spelled text.toList) :
      Inside spelled (some text)
  | halves {spelled : List Char} {pieces : List Piece} (written : Written spelled pieces)
      (broken : ∀ text, ¬ Spells spelled text) : Inside spelled none

/-- A string is read up to the quotation mark that ends it. -/
theorem readString?_eq_some_iff {text rest : List Char} {value : Option String} :
    readString? text = some (value, rest) ↔
      ∃ spelled, text = spelled ++ '"' :: rest ∧ Inside spelled value := by
  constructor
  · intro read
    obtain ⟨⟨pieces, left⟩, found, same⟩ := Option.map_eq_some_iff.1 read
    obtain ⟨denotes, rfl⟩ := Prod.mk.inj same
    obtain ⟨spelled, rfl, written⟩ := written_of_readPieces? found
    refine ⟨spelled, rfl, ?_⟩
    cases denoted : textOf? pieces with
    | none =>
      rw [denoted] at denotes
      obtain rfl := denotes
      refine .halves written fun text spells => ?_
      obtain ⟨others, rewritten, denotes⟩ := written_of_spells spells
      have unique := (readPieces?_written rewritten []).symm.trans (readPieces?_written written [])
      obtain rfl := (Prod.mk.inj (Option.some.inj unique)).1
      rw [denoted] at denotes
      cases denotes
    | some text =>
      rw [denoted] at denotes
      obtain rfl := denotes
      exact .text (by rw [String.toList_ofList]; exact spells_of_written written denoted)
  · rintro ⟨spelled, rfl, inside⟩
    cases inside with
    | text spells =>
      obtain ⟨pieces, written, denotes⟩ := written_of_spells spells
      simp only [readString?, readPieces?_written written, Option.map_some, denotes,
        String.ofList_toList]
    | @halves pieces written broken =>
      have none : textOf? pieces = none := by
        cases denotes : textOf? pieces with
        | none => rfl
        | some text => exact absurd (spells_of_written written denotes) (broken text)
      simp only [readString?, readPieces?_written written, Option.map_some, none, Option.map_none]

private theorem isQuad_hexQuad {n : Nat} (small : n < 0x10000) : IsQuad (hexQuad n) n := by
  refine ⟨Hex.last (n / 4096), Hex.last (n / 256), Hex.last (n / 16), Hex.last n, ?_, ?_⟩
  · simp only [hexQuad, List.map_cons, List.map_nil, Hex.value?_digit]
  · simp only [Hex.last]
    omega

private theorem escaped_cases (c : Char) :
    (∃ letter, (letter, c) ∈ shortEscapes ∧ escaped c = ['\\', letter]) ∨
      (c.toNat < 32 ∧ escaped c = '\\' :: 'u' :: hexQuad c.toNat) ∨
        (c ≠ '"' ∧ c ≠ '\\' ∧ 32 ≤ c.toNat ∧ escaped c = [c]) := by
  by_cases short : c ∈ ['"', '\\', '\x08', '\x0c', '\n', '\r', '\t']
  · left
    simp only [List.mem_cons, List.not_mem_nil, or_false] at short
    rcases short with rfl | rfl | rfl | rfl | rfl | rfl | rfl <;>
      exact ⟨_, by simp [shortEscapes], rfl⟩
  · right
    simp only [List.mem_cons, List.not_mem_nil, or_false, not_or] at short
    by_cases control : c.toNat < 32
    · exact Or.inl ⟨control, by simp [escaped, short, control]⟩
    · exact Or.inr ⟨short.1, short.2.1, Nat.not_lt.1 control, by simp [escaped, short, control]⟩

/-- What is written for a text is a spelling of it. -/
theorem spells_escaped (text : List Char) : Spells (text.flatMap escaped) text := by
  induction text with
  | nil => exact .nil
  | cons c others ih =>
    rw [List.flatMap_cons]
    rcases escaped_cases c with ⟨letter, escape, short⟩ | ⟨control, unit⟩ |
      ⟨quote, backslash, printable, plain⟩
    · rw [short]
      exact .short escape ih
    · rw [unit]
      have spelled := Spells.unit (isQuad_hexQuad (n := c.toNat) (by omega)) (by omega) ih
      rwa [Char.ofNat_toNat] at spelled
    · rw [plain]
      exact .plain quote backslash printable ih

end PrinterRoster.Json
