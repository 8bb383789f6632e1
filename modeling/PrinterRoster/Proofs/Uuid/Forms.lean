import Mathlib.Data.BitVec
import PrinterRoster.Proofs.Text.Hex
import PrinterRoster.Proofs.Text.Trim
import PrinterRoster.Uuid

/-! Which texts report an identifier, and which one. Around it there may be blanks and before it a
scheme; it may be written in four shapes, which have different lengths, so that no text has two of
them. Whatever the shape, the canonical form is that of the same 128 bits. -/
namespace PrinterRoster

namespace Uuid
open Text

def bits (uuid : Uuid) : BitVec 128 := BitVec.ofNat 128 (Hex.number uuid.digits)

def Hyphenated (writes : Char → Char → Prop) (uuid : Uuid) (text : List Char) : Prop :=
  ∃ a b c d e : List Char,
    text = a ++ '-' :: (b ++ '-' :: (c ++ '-' :: (d ++ '-' :: e))) ∧
      [a, b, c, d, e].map List.length = [8, 4, 4, 4, 12] ∧
        List.Forall₂ writes (uuid.digits.map Hex.digit) (a ++ b ++ c ++ d ++ e)

/-- The four shapes of an identifier. How the letters of the scheme may be written is left open. -/
inductive Shape (writes : Char → Char → Prop) (uuid : Uuid) : List Char → Prop
  | simple {text : List Char}
      (digits : List.Forall₂ InEitherCase (uuid.digits.map Hex.digit) text) : Shape writes uuid text
  | hyphenated {text : List Char} (inside : Hyphenated InEitherCase uuid text) :
      Shape writes uuid text
  | braced {text : List Char} (inside : Hyphenated InEitherCase uuid text) :
      Shape writes uuid ('\x7b' :: (text ++ ['\x7d']))
  | urn {front text : List Char} (letters : List.Forall₂ writes "urn:uuid:".toList front)
      (inside : Hyphenated InEitherCase uuid text) : Shape writes uuid (front ++ text)

/-- What is left of a text without one leading scheme, if it has one. -/
def Bare (text bare : List Char) : Prop :=
  text = "urn:uuid:".toList ++ bare ∨ text = "URN:UUID:".toList ++ bare ∨
    bare = text ∧ ¬ "urn:uuid:".toList <+: text ∧ ¬ "URN:UUID:".toList <+: text

/-- A text reports the identifier of these bits. -/
def Reports (writes : Char → Char → Prop) (raw : String) (bits : BitVec 128) : Prop :=
  ∃ uuid core bare, uuid.bits = bits ∧ Trims raw.toList core ∧ Bare core bare ∧
    Shape writes uuid bare

def Canonical (bits : BitVec 128) (text : String) : Prop :=
  ∃ uuid hyphenated, uuid.bits = bits ∧ Hyphenated Eq uuid hyphenated ∧
    text = "urn:uuid:" ++ String.ofList hyphenated

private theorem toNat_bits (uuid : Uuid) : uuid.bits.toNat = Hex.number uuid.digits := by
  have fits := Hex.number_lt uuid.digits
  rw [uuid.size] at fits
  exact Nat.mod_eq_of_lt fits

theorem bits_injective {uuid other : Uuid} (same : uuid.bits = other.bits) : uuid = other := by
  have numbers := congrArg BitVec.toNat same
  rw [toNat_bits, toNat_bits] at numbers
  have digits := Hex.number_injective (uuid.size.trans other.size.symm) numbers
  cases uuid
  cases other
  cases digits
  rfl

private theorem exists_bits (bits : BitVec 128) : ∃ uuid : Uuid, uuid.bits = bits := by
  obtain ⟨digits, size, number⟩ := Hex.exists_number 32 (n := bits.toNat) bits.isLt
  refine ⟨⟨digits, size⟩, BitVec.eq_of_toNat_eq ?_⟩
  rw [toNat_bits]
  exact number

theorem readSimple?_eq_some_iff {text : List Char} {uuid : Uuid} :
    readSimple? text = some uuid ↔
      List.Forall₂ InEitherCase (uuid.digits.map Hex.digit) text := by
  rw [← Hex.mapM_value?_eq_some_iff, readSimple?]
  constructor
  · intro reads
    split at reads
    · rename_i digits read
      split at reads
      · cases reads
        exact read
      · cases reads
    · cases reads
  · intro read
    simp only [read, uuid.size, dif_pos]

private theorem exists_groups {groups : List (List Char)}
    (sizes : groups.map List.length = groupSizes) : ∃ a b c d e, groups = [a, b, c, d, e] := by
  rcases groups with _ | ⟨a, _ | ⟨b, _ | ⟨c, _ | ⟨d, _ | ⟨e, _ | ⟨f, others⟩⟩⟩⟩⟩⟩ <;>
    simp [groupSizes] at sizes
  exact ⟨a, b, c, d, e, rfl⟩

theorem readHyphenated?_eq_some_iff {text : List Char} {uuid : Uuid} :
    readHyphenated? text = some uuid ↔ Hyphenated InEitherCase uuid text := by
  unfold readHyphenated?
  constructor
  · intro reads
    dsimp only at reads
    split at reads
    · rename_i sizes
      have whole := joined_fields '-' text
      generalize fields (· == '-') text = groups at reads sizes whole
      obtain ⟨a, b, c, d, e, rfl⟩ := exists_groups sizes
      refine ⟨a, b, c, d, e, ?_, sizes, ?_⟩
      · rw [← whole]
        simp [joined]
      · have read := readSimple?_eq_some_iff.1 reads
        simpa using read
    · cases reads
  · rintro ⟨a, b, c, d, e, rfl, sizes, written⟩
    have plain : ∀ group ∈ [a, b, c, d, e], ∀ x ∈ group, (x == '-') = false := by
      intro group member x inside
      have whole : x ∈ a ++ b ++ c ++ d ++ e := by
        simp only [List.mem_cons, List.not_mem_nil, or_false] at member
        rcases member with rfl | rfl | rfl | rfl | rfl <;> simp [inside]
      obtain ⟨value, writes⟩ := Hex.digit_of_mem written x whole
      exact Hex.ne_hyphen_of_digit writes
    have groups : fields (· == '-') (a ++ '-' :: (b ++ '-' :: (c ++ '-' :: (d ++ '-' :: e)))) =
        [a, b, c, d, e] := by
      rw [fields_append_cons (plain a (by simp)) rfl, fields_append_cons (plain b (by simp)) rfl,
        fields_append_cons (plain c (by simp)) rfl, fields_append_cons (plain d (by simp)) rfl,
        fields_of_none (plain e (by simp))]
    rw [groups]
    dsimp only
    rw [if_pos (show _ = groupSizes from sizes), readSimple?_eq_some_iff]
    simpa using written

theorem readBraced?_eq_some_iff {text : List Char} {uuid : Uuid} :
    readBraced? text = some uuid ↔
      ∃ inside, text = '\x7b' :: (inside ++ ['\x7d']) ∧ Hyphenated InEitherCase uuid inside := by
  unfold readBraced?
  constructor
  · intro reads
    split at reads
    · rename_i rest opens
      obtain ⟨inside, closes, read⟩ := Option.bind_eq_some_iff.1 reads
      rw [List.isPrefixOf?_eq_some_iff_append_eq] at opens
      rw [List.isSuffixOf?_eq_some_iff_append_eq] at closes
      refine ⟨inside, ?_, readHyphenated?_eq_some_iff.1 read⟩
      rw [← opens, ← closes]
      rfl
    · cases reads
  · rintro ⟨inside, rfl, hyphenated⟩
    have opens :
        ['\x7b'].isPrefixOf? ('\x7b' :: (inside ++ ['\x7d'])) = some (inside ++ ['\x7d']) :=
      List.isPrefixOf?_eq_some_iff_append_eq.2 rfl
    have closes : ['\x7d'].isSuffixOf? (inside ++ ['\x7d']) = some inside :=
      List.isSuffixOf?_eq_some_iff_append_eq.2 rfl
    rw [opens]
    dsimp only
    rw [closes, Option.bind_some, readHyphenated?_eq_some_iff]
    exact hyphenated

theorem toLower_eq_iff {letter : Char} (listed : letter ∈ scheme) {c : Char} :
    c.toLower = letter ↔ InEitherCase letter c := by
  have lower : scheme.all (fun letter =>
      letter.toLower = letter ∧ letter.toUpper.toLower = letter) = true := by decide
  obtain ⟨kept, back⟩ := of_decide_eq_true (List.all_eq_true.1 lower letter listed)
  constructor
  · rintro rfl
    exact inEitherCase_toLower c
  · rintro (rfl | rfl)
    · exact kept
    · exact back

theorem map_toLower_eq_iff {letters text : List Char} (listed : letters ⊆ scheme) :
    text.map Char.toLower = letters ↔ List.Forall₂ InEitherCase letters text := by
  induction letters generalizing text with
  | nil => cases text <;> simp
  | cons letter letters ih =>
    cases text with
    | nil => simp
    | cons c rest =>
      obtain ⟨first, others⟩ := List.cons_subset.1 listed
      rw [List.map_cons, List.cons.injEq, List.forall₂_cons, toLower_eq_iff first, ih others]

theorem readUrn?_eq_some_iff {text : List Char} {uuid : Uuid} :
    readUrn? text = some uuid ↔
      ∃ front inside, text = front ++ inside ∧ List.Forall₂ InEitherCase scheme front ∧
        Hyphenated InEitherCase uuid inside := by
  have letters {front : List Char} :
      front.map Char.toLower = scheme ↔ List.Forall₂ InEitherCase scheme front :=
    map_toLower_eq_iff (List.Subset.refl scheme)
  unfold readUrn?
  constructor
  · intro reads
    split at reads
    · rename_i front
      exact ⟨_, _, (List.take_append_drop ..).symm, letters.1 front,
        readHyphenated?_eq_some_iff.1 reads⟩
    · cases reads
  · rintro ⟨front, inside, rfl, writes, hyphenated⟩
    have size : front.length = scheme.length := writes.length_eq.symm
    rw [← size, List.take_left, List.drop_left, if_pos (letters.2 writes),
      readHyphenated?_eq_some_iff]
    exact hyphenated

section Lengths
variable {uuid : Uuid} {text : List Char}

private theorem length_of_readSimple? (reads : readSimple? text = some uuid) :
    text.length = 32 := by
  rw [← (readSimple?_eq_some_iff.1 reads).length_eq, List.length_map, uuid.size]

private theorem Hyphenated.length_eq {writes : Char → Char → Prop}
    (hyphenated : Hyphenated writes uuid text) : text.length = 36 := by
  obtain ⟨a, b, c, d, e, rfl, sizes, _⟩ := hyphenated
  simp only [List.map_cons, List.map_nil, List.cons.injEq, and_true] at sizes
  simp only [List.length_append, List.length_cons]
  omega

private theorem length_of_readHyphenated? (reads : readHyphenated? text = some uuid) :
    text.length = 36 :=
  (readHyphenated?_eq_some_iff.1 reads).length_eq

private theorem length_of_readBraced? (reads : readBraced? text = some uuid) :
    text.length = 38 := by
  obtain ⟨inside, rfl, hyphenated⟩ := readBraced?_eq_some_iff.1 reads
  simp [hyphenated.length_eq]

private theorem length_of_readUrn? (reads : readUrn? text = some uuid) : text.length = 45 := by
  obtain ⟨front, inside, rfl, letters, hyphenated⟩ := readUrn?_eq_some_iff.1 reads
  rw [List.length_append, hyphenated.length_eq, ← letters.length_eq]
  rfl

private theorem unread_of_length {read : List Char → Option Uuid} {size : Nat}
    (sizes : ∀ {uuid}, read text = some uuid → text.length = size) (other : text.length ≠ size) :
    read text = none := by
  rw [Option.eq_none_iff_forall_ne_some]
  exact fun uuid reads => other (sizes reads)

end Lengths

theorem parse?_eq_some_iff_shape {text : List Char} {uuid : Uuid} :
    parse? text = some uuid ↔ Shape InEitherCase uuid text := by
  rw [parse?]
  constructor
  · intro reads
    rcases Option.or_eq_some_iff.1 reads with simple | ⟨-, reads⟩
    · exact .simple (readSimple?_eq_some_iff.1 simple)
    rcases Option.or_eq_some_iff.1 reads with hyphenated | ⟨-, reads⟩
    · exact .hyphenated (readHyphenated?_eq_some_iff.1 hyphenated)
    rcases Option.or_eq_some_iff.1 reads with braced | ⟨-, urn⟩
    · obtain ⟨inside, rfl, hyphenated⟩ := readBraced?_eq_some_iff.1 braced
      exact .braced hyphenated
    · obtain ⟨front, inside, rfl, letters, hyphenated⟩ := readUrn?_eq_some_iff.1 urn
      exact .urn letters hyphenated
  · intro shape
    cases shape with
    | simple digits =>
      rw [readSimple?_eq_some_iff.2 digits, Option.some_or]
    | hyphenated inside =>
      have size := inside.length_eq
      rw [unread_of_length length_of_readSimple? (by omega), Option.none_or,
        readHyphenated?_eq_some_iff.2 inside, Option.some_or]
    | braced inside =>
      have read := readBraced?_eq_some_iff.2 ⟨_, rfl, inside⟩
      have size := length_of_readBraced? read
      rw [unread_of_length length_of_readSimple? (by omega), Option.none_or,
        unread_of_length length_of_readHyphenated? (by omega), Option.none_or, read, Option.some_or]
    | urn letters inside =>
      have read := readUrn?_eq_some_iff.2 ⟨_, _, rfl, letters, inside⟩
      have size := length_of_readUrn? read
      rw [unread_of_length length_of_readSimple? (by omega), Option.none_or,
        unread_of_length length_of_readHyphenated? (by omega), Option.none_or,
        unread_of_length length_of_readBraced? (by omega), Option.none_or, read]

theorem bare_iff {text bare : List Char} : Bare text bare ↔ withoutScheme text = bare := by
  have lower : "urn:uuid:".toList = scheme := rfl
  have upper : "URN:UUID:".toList = scheme.map Char.toUpper := by decide
  have apart (rest other : List Char) : scheme ++ rest ≠ scheme.map Char.toUpper ++ other := by
    intro same
    have first : some 'u' = some 'U' := congrArg List.head? same
    exact absurd first (by decide)
  have starts {front : List Char} :
      front <+: text ↔ ∃ rest, front.isPrefixOf? text = some rest := by
    simp only [List.isPrefixOf?_eq_some_iff_append_eq]
    rfl
  rw [Bare, lower, upper, withoutScheme, starts, starts]
  cases found : scheme.isPrefixOf? text with
  | some rest =>
    obtain rfl := List.isPrefixOf?_eq_some_iff_append_eq.1 found
    simp [apart rest bare]
  | none =>
    have without (rest : List Char) : text ≠ scheme ++ rest := by
      rintro rfl
      rw [List.isPrefixOf?_eq_some_iff_append_eq.2 rfl] at found
      cases found
    cases foundUpper : (scheme.map Char.toUpper).isPrefixOf? text with
    | some rest =>
      obtain rfl := List.isPrefixOf?_eq_some_iff_append_eq.1 foundUpper
      simp [without]
    | none =>
      have withoutUpper (rest : List Char) : text ≠ scheme.map Char.toUpper ++ rest := by
        rintro rfl
        rw [List.isPrefixOf?_eq_some_iff_append_eq.2 rfl] at foundUpper
        cases foundUpper
      simp [without, withoutUpper, eq_comm]

theorem ofReport?_eq_some_iff {raw : String} {uuid : Uuid} :
    ofReport? raw = some uuid ↔
      ∃ core bare, Trims raw.toList core ∧ Bare core bare ∧ Shape InEitherCase uuid bare := by
  rw [ofReport?, parse?_eq_some_iff_shape]
  constructor
  · intro shape
    exact ⟨_, _, trims_trim raw.toList, bare_iff.2 rfl, shape⟩
  · rintro ⟨core, bare, trims, rest, shape⟩
    rw [trims.trim_eq, bare_iff.1 rest]
    exact shape

private theorem flatten_grouped (sizes : List Nat) (digits : List (Fin 16)) :
    (grouped sizes digits).flatten = (digits.take sizes.sum).map Hex.digit := by
  induction sizes generalizing digits with
  | nil => rfl
  | cons size sizes ih =>
    rw [grouped, List.flatten_cons, ih, List.sum_cons, List.take_add, List.map_append]

private theorem lengths_grouped {sizes : List Nat} {digits : List (Fin 16)}
    (enough : sizes.sum ≤ digits.length) : (grouped sizes digits).map List.length = sizes := by
  induction sizes generalizing digits with
  | nil => rfl
  | cons size sizes ih =>
    rw [List.sum_cons] at enough
    have first : size ≤ digits.length := by omega
    have others : sizes.sum ≤ (digits.drop size).length := by rw [List.length_drop]; omega
    simp [grouped, ih others, first]

private theorem grouped_lengths {groups : List (List Char)} {digits : List (Fin 16)}
    (whole : groups.flatten = digits.map Hex.digit) :
    grouped (groups.map List.length) digits = groups := by
  induction groups generalizing digits with
  | nil => rfl
  | cons group groups ih =>
    have first : (digits.take group.length).map Hex.digit = group := by
      rw [List.map_take, ← whole, List.flatten_cons, List.take_left]
    have others : groups.flatten = (digits.drop group.length).map Hex.digit := by
      rw [List.map_drop, ← whole, List.flatten_cons, List.drop_left]
    rw [List.map_cons, grouped, first, ih others]

theorem hyphenated_iff {uuid : Uuid} {text : List Char} :
    Hyphenated Eq uuid text ↔ text = uuid.hyphenated := by
  constructor
  · rintro ⟨a, b, c, d, e, rfl, sizes, writes⟩
    rw [List.forall₂_eq_eq_eq] at writes
    have groups : grouped groupSizes uuid.digits = [a, b, c, d, e] := by
      rw [groupSizes, ← sizes]
      apply grouped_lengths
      simpa using writes.symm
    rw [hyphenated, groups]
    simp [joined]
  · rintro rfl
    have enough : groupSizes.sum = uuid.digits.length := uuid.size.symm
    have whole := flatten_grouped groupSizes uuid.digits
    have sizes := lengths_grouped enough.le
    rw [enough, List.take_length] at whole
    rw [hyphenated]
    generalize grouped groupSizes uuid.digits = groups at whole sizes ⊢
    obtain ⟨a, b, c, d, e, rfl⟩ := exists_groups sizes
    refine ⟨a, b, c, d, e, by simp [joined], sizes, ?_⟩
    rw [List.forall₂_eq_eq_eq, ← whole]
    simp

private theorem not_isBlank_of_digit {value : Fin 16} {c : Char}
    (writes : InEitherCase (Hex.digit value) c) : isBlank c = false := by
  have apart : ∀ value, isBlank (Hex.digit value) = false ∧
      isBlank (Hex.digit value).toUpper = false := by
    decide
  rcases writes with rfl | rfl
  · exact (apart value).1
  · exact (apart value).2

private theorem Hyphenated.inEitherCase {uuid : Uuid} {text : List Char}
    (exact : Hyphenated Eq uuid text) : Hyphenated InEitherCase uuid text := by
  obtain ⟨a, b, c, d, e, whole, sizes, writes⟩ := exact
  exact ⟨a, b, c, d, e, whole, sizes, writes.imp fun _ _ same => .inl same.symm⟩

private theorem Hyphenated.ends {uuid : Uuid} {text : List Char}
    (hyphenated : Hyphenated InEitherCase uuid text) : ∀ c ∈ text.getLast?, isBlank c = false := by
  obtain ⟨a, b, c, d, e, rfl, sizes, writes⟩ := hyphenated
  rcases List.eq_nil_or_concat e with rfl | ⟨front, last, rfl⟩
  · simp at sizes
  intro c member
  obtain rfl : last = c := by simpa [List.getLast?_cons] using member
  have inside : last ∈ a ++ b ++ c ++ d ++ front.concat last := by simp
  obtain ⟨value, digit⟩ := Hex.digit_of_mem writes last inside
  exact not_isBlank_of_digit digit

theorem ofReport?_urn (uuid : Uuid) : ofReport? uuid.urn = some uuid := by
  have inside := (hyphenated_iff.2 rfl : Hyphenated Eq uuid uuid.hyphenated).inEitherCase
  rw [ofReport?_eq_some_iff, urn, String.toList_ofList]
  refine ⟨scheme ++ uuid.hyphenated, uuid.hyphenated, ⟨⟨[], [], ?_⟩, ?_, ?_⟩, .inl rfl,
    .hyphenated inside⟩
  · simp
  · intro c member
    obtain rfl : 'u' = c := Option.some.inj member
    decide
  · intro c member
    rw [List.getLast?_append] at member
    rcases Option.or_eq_some_iff.1 member with last | ⟨-, last⟩
    · exact inside.ends c last
    · obtain rfl : ':' = c := Option.some.inj last
      decide

theorem urn_injective {uuid other : Uuid} (same : uuid.urn = other.urn) : uuid = other := by
  have reads := ofReport?_urn uuid
  rw [same, ofReport?_urn] at reads
  exact (Option.some.inj reads).symm

theorem reports_iff {raw : String} {bits : BitVec 128} :
    Reports InEitherCase raw bits ↔
      ∃ uuid : Uuid, uuid.bits = bits ∧ ofReport? raw = some uuid := by
  simp only [Reports, ofReport?_eq_some_iff, exists_and_left]

theorem canonical_iff {bits : BitVec 128} {text : String} :
    Canonical bits text ↔ ∃ uuid : Uuid, uuid.bits = bits ∧ text = uuid.urn := by
  have whole (uuid : Uuid) : uuid.urn = "urn:uuid:" ++ String.ofList uuid.hyphenated := by
    rw [urn, String.ofList_append]
    rfl
  simp only [Canonical, hyphenated_iff, whole]
  simp

theorem normalize_eq_some_iff {raw text : String} :
    normalize raw = some text ↔ ∃ uuid, ofReport? raw = some uuid ∧ uuid.urn = text :=
  Option.map_eq_some_iff

theorem normalize_urn (uuid : Uuid) : normalize uuid.urn = some uuid.urn :=
  normalize_eq_some_iff.2 ⟨uuid, ofReport?_urn uuid, rfl⟩

theorem normalize_of_reports {raw : String} {bits : BitVec 128}
    (reports : Reports InEitherCase raw bits) :
    ∃ text, Canonical bits text ∧ normalize raw = some text := by
  obtain ⟨uuid, rfl, reads⟩ := reports_iff.1 reports
  exact ⟨uuid.urn, canonical_iff.2 ⟨uuid, rfl, rfl⟩, normalize_eq_some_iff.2 ⟨uuid, reads, rfl⟩⟩

theorem normalize_eq_none_iff {raw : String} :
    normalize raw = none ↔ ¬ ∃ bits, Reports InEitherCase raw bits := by
  rw [normalize, Option.map_eq_none_iff, Option.eq_none_iff_forall_ne_some]
  simp only [reports_iff]
  constructor
  · rintro unread ⟨bits, uuid, -, reads⟩
    exact unread uuid reads
  · intro unreported uuid reads
    exact unreported ⟨uuid.bits, uuid, rfl, reads⟩

/-- An identifier is accepted in any of its shapes and becomes the one canonical text of its bits. -/
theorem normalizes_reported_bits :
    (∀ raw text, normalize raw = some text ↔
      ∃ bits, Reports InEitherCase raw bits ∧ Canonical bits text) ∧
    (∀ raw, (normalize raw).isSome ↔ ∃ bits, Reports InEitherCase raw bits) ∧
    (∀ raw text, normalize raw = some text → normalize text = some text) ∧
    (∀ bits, ∃ text, Canonical bits text ∧ normalize text = some text) ∧
    ∀ raw other bits otherBits,
      Reports InEitherCase raw bits → Reports InEitherCase other otherBits →
        (normalize raw = normalize other ↔ bits = otherBits) := by
  refine ⟨?_, ?_, ?_, ?_, ?_⟩
  · intro raw text
    rw [normalize_eq_some_iff]
    constructor
    · rintro ⟨uuid, reads, rfl⟩
      exact ⟨uuid.bits, reports_iff.2 ⟨uuid, rfl, reads⟩, canonical_iff.2 ⟨uuid, rfl, rfl⟩⟩
    · rintro ⟨bits, reports, canonical⟩
      obtain ⟨uuid, rfl, reads⟩ := reports_iff.1 reports
      obtain ⟨other, same, rfl⟩ := canonical_iff.1 canonical
      exact ⟨uuid, reads, by rw [bits_injective same]⟩
  · intro raw
    rw [Option.isSome_iff_ne_none, Ne, normalize_eq_none_iff, not_not]
  · intro raw text accepts
    obtain ⟨uuid, -, rfl⟩ := normalize_eq_some_iff.1 accepts
    exact normalize_urn uuid
  · intro bits
    obtain ⟨uuid, rfl⟩ := exists_bits bits
    exact ⟨uuid.urn, canonical_iff.2 ⟨uuid, rfl, rfl⟩, normalize_urn uuid⟩
  · intro raw other bits otherBits reports otherReports
    obtain ⟨uuid, rfl, reads⟩ := reports_iff.1 reports
    obtain ⟨otherUuid, rfl, otherReads⟩ := reports_iff.1 otherReports
    rw [normalize, normalize, reads, otherReads, Option.map_some, Option.map_some, Option.some_inj]
    constructor
    · intro same
      rw [urn_injective same]
    · intro same
      rw [bits_injective same]

theorem normalizes_reported_bits_of_two_shapes :
    ∃ bits, Reports InEitherCase " URN:UUID:\x7b4509A320-00A0-008F-00B6-002507510ECA\x7d " bits ∧
      Reports InEitherCase "4509a32000a0008f00b6002507510eca" bits := by
  obtain ⟨-, accepts, -, -, agrees⟩ := normalizes_reported_bits
  obtain ⟨bits, reports⟩ :=
    (accepts " URN:UUID:\x7b4509A320-00A0-008F-00B6-002507510ECA\x7d ").1 (by decide +kernel)
  obtain ⟨otherBits, otherReports⟩ :=
    (accepts "4509a32000a0008f00b6002507510eca").1 (by decide +kernel)
  obtain rfl := (agrees _ _ bits otherBits reports otherReports).1 (by decide +kernel)
  exact ⟨bits, reports, otherReports⟩

/-- Where it is part of the identifier's shape, the scheme is read in any mixture of cases. -/
theorem mixed_scheme_is_read :
    (normalize "Urn:Uuid:4509a320-00a0-008f-00b6-002507510eca").isSome ∧
      ¬ ∃ bits, Reports Eq "Urn:Uuid:4509a320-00a0-008f-00b6-002507510eca" bits := by
  refine ⟨by decide +kernel, ?_⟩
  rintro ⟨bits, uuid, core, bare, -, trims, rest, shape⟩
  have whole : bare = "Urn:Uuid:4509a320-00a0-008f-00b6-002507510eca".toList := by
    rw [← bare_iff.1 rest, ← trims.trim_eq]
    decide +kernel
  have size : bare.length = 45 := by rw [whole]; rfl
  cases shape with
  | simple digits =>
    have short := digits.length_eq
    rw [List.length_map, uuid.size] at short
    omega
  | hyphenated inside =>
    have short := inside.length_eq
    omega
  | braced inside => simp [inside.length_eq] at size
  | urn letters inside =>
    rw [List.forall₂_eq_eq_eq] at letters
    obtain rfl := letters
    have first : some 'u' = some 'U' := congrArg List.head? whole
    exact absurd first (by decide)

end Uuid

end PrinterRoster
