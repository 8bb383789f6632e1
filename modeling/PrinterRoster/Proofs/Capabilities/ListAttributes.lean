import PrinterRoster.Proofs.Capabilities.Brackets

/-! List attributes as they are read from an answer. The text of an array stands in
brackets, and the words of that text keep them: the first word begins with the opening
bracket and the last ends with the closing one. So what an answer lists in an array is
read right only as far as the first or the last item does not decide it. -/
namespace PrinterRoster.Capabilities
open Text Ipp

section Value
variable {value : Value} {items : List String} (lists : Lists value items)
  (plain : ∀ item ∈ items, Plain item)
include lists plain

theorem mem_wordSet_iff (word : String) :
    word ∈ wordSet (some value.toText) ↔ word ∈ spelled value items := by
  have marks : ∀ c : Char, (c == ',' || c == ';') = true → c = ',' ∨ c = ';' := by
    intro c separates
    simpa using separates
  rw [wordSet, words_of_lists rfl marks lists plain, List.mem_eraseDups]

theorem reasons_eq :
    reasons (some value.toText) = (spelled value items).filter (· ≠ "none") := by
  have marks : ∀ c : Char, (c == ',') = true → c = ',' ∨ c = ';' := by
    intro c separates
    exact Or.inl (eq_of_beq separates)
  rw [reasons, words_of_lists rfl marks lists plain]

omit lists in
theorem spelled_eq_iff :
    (∀ word, word ∈ spelled value items ↔ word ∈ items) ↔ isArray value = false := by
  cases kind : isArray value with
  | false => simp [spelled, kind]
  | true =>
    have inBrackets : spelled value items = bracketed items := if_pos kind
    rw [inBrackets]
    refine iff_of_false ?_ (Ne.symm Bool.false_ne_true)
    intro same
    obtain ⟨word, member, opening⟩ := exists_opened items
    exact (plain word ((same word).1 member)).unmarked '[' opening (by simp)

theorem reasons_eq_iff :
    reasons (some value.toText) = items.filter (· ≠ "none") ↔ isArray value = false := by
  rw [reasons_eq lists plain]
  cases kind : isArray value with
  | false => simp [spelled, kind]
  | true =>
    have inBrackets : spelled value items = bracketed items := if_pos kind
    rw [inBrackets]
    refine iff_of_false ?_ (Ne.symm Bool.false_ne_true)
    intro same
    obtain ⟨word, member, opening⟩ := exists_opened items
    have notNone : word ≠ "none" := by
      rintro rfl
      exact absurd opening (by decide)
    have kept : word ∈ (bracketed items).filter (· ≠ "none") :=
      List.mem_filter.2 ⟨member, decide_eq_true notNone⟩
    rw [same] at kept
    exact (plain word (List.mem_filter.1 kept).1).unmarked '[' opening (by simp)

end Value

/-- If a narrower reading agrees with a wider one, then either the narrower holds or the
wider does not. -/
theorem agrees_iff {narrow wide : Prop} (narrows : narrow → wide) :
    (narrow ↔ wide) ↔ narrow ∨ ¬ wide := by
  constructor
  · intro same
    by_cases holds : narrow
    · exact Or.inl holds
    · exact Or.inr (mt same.2 holds)
  · rintro (holds | fails)
    · exact iff_of_true holds (narrows holds)
    · exact iff_of_false (mt narrows fails) fails

private theorem mem_of_mem_interior {items : List String} {word : String}
    (interior : word ∈ items.tail.dropLast) : word ∈ items :=
  List.mem_of_mem_tail (List.dropLast_subset _ interior)

/-- An array tells whether a printable format is supported as far as its first and last
item do not decide that. -/
theorem printable_iff (value : Value) (items : List String) :
    ((spelled value items = [] ∨ ∃ format ∈ printableFormats, format ∈ spelled value items) ↔
        (items = [] ∨ ∃ format ∈ printableFormats, format ∈ items)) ↔
      isArray value = false ∨ (∃ format ∈ printableFormats, format ∈ items.tail.dropLast) ∨
        (items ≠ [] ∧ ∀ format ∈ printableFormats, format ∉ items) := by
  cases kind : isArray value with
  | false => simp [spelled, kind]
  | true =>
    have inBrackets : spelled value items = bracketed items := if_pos kind
    have filled : bracketed items ≠ [] := by
      obtain ⟨word, member, _⟩ := exists_opened items
      exact List.ne_nil_of_mem member
    have unmarked : ∀ format ∈ printableFormats, '[' ∉ format.toList ∧ ']' ∉ format.toList := by
      decide
    have read : (spelled value items = [] ∨
        ∃ format ∈ printableFormats, format ∈ spelled value items) ↔
          ∃ format ∈ printableFormats, format ∈ items.tail.dropLast := by
      rw [inBrackets, or_iff_right filled]
      refine exists_congr fun format => and_congr_right fun member => ?_
      exact mem_bracketed_iff (unmarked format member).1 (unmarked format member).2
    have narrows : (∃ format ∈ printableFormats, format ∈ items.tail.dropLast) →
        items = [] ∨ ∃ format ∈ printableFormats, format ∈ items :=
      fun ⟨format, member, inside⟩ => Or.inr ⟨format, member, mem_of_mem_interior inside⟩
    rw [read, agrees_iff narrows]
    simp

theorem twoSided_iff (value : Value) (items : List String) :
    ((∃ side ∈ spelled value items, isTwoSided side = true) ↔
        ∃ side ∈ items, isTwoSided side = true) ↔
      isArray value = false ∨ (∃ side ∈ items.tail, isTwoSided side = true) ∨
        ∀ side ∈ items, isTwoSided side = false := by
  cases kind : isArray value with
  | false => simp [spelled, kind]
  | true =>
    have inBrackets : spelled value items = bracketed items := if_pos kind
    have read : (∃ side ∈ spelled value items, isTwoSided side = true) ↔
        ∃ side ∈ items.tail, isTwoSided side = true := by
      rw [inBrackets, ← List.any_eq_true, any_isTwoSided_bracketed, List.any_eq_true]
    have narrows : (∃ side ∈ items.tail, isTwoSided side = true) →
        ∃ side ∈ items, isTwoSided side = true :=
      fun ⟨side, member, twoSided⟩ => ⟨side, List.mem_of_mem_tail member, twoSided⟩
    rw [read, agrees_iff narrows]
    simp

theorem error_iff (value : Value) (items : List String) :
    ((∃ reason ∈ spelled value items, endsInError reason = true) ↔
        ∃ reason ∈ items, endsInError reason = true) ↔
      isArray value = false ∨ (∃ reason ∈ items.dropLast, endsInError reason = true) ∨
        ∀ reason ∈ items, endsInError reason = false := by
  cases kind : isArray value with
  | false => simp [spelled, kind]
  | true =>
    have inBrackets : spelled value items = bracketed items := if_pos kind
    have read : (∃ reason ∈ spelled value items, endsInError reason = true) ↔
        ∃ reason ∈ items.dropLast, endsInError reason = true := by
      rw [inBrackets, ← List.any_eq_true, any_endsInError_bracketed, List.any_eq_true]
    have narrows : (∃ reason ∈ items.dropLast, endsInError reason = true) →
        ∃ reason ∈ items, endsInError reason = true :=
      fun ⟨reason, member, error⟩ => ⟨reason, List.dropLast_subset _ member, error⟩
    rw [read, agrees_iff narrows]
    simp

theorem isSupported_iff (attributes : Attributes) :
    (ofAttributes attributes).isSupported = true ↔
      (ofAttributes attributes).formats = [] ∨
        ∃ format ∈ printableFormats, format ∈ (ofAttributes attributes).formats := by
  have unfolded : (ofAttributes attributes).isSupported =
      ((ofAttributes attributes).formats.isEmpty ||
        printableFormats.any (ofAttributes attributes).formats.contains) := rfl
  rw [unfolded, Bool.or_eq_true, List.isEmpty_iff, List.any_eq_true]
  simp only [List.contains_iff_mem]

theorem isError_iff (read : Capabilities) :
    read.isError = true ↔
      read.state = .stopped ∨ ∃ reason ∈ read.stateReasons, endsInError reason = true := by
  rw [isError, Bool.or_eq_true, decide_eq_true_eq, List.any_eq_true]

def effective? (groups : List AttributeGroup) (name : String) : Option Value :=
  ((groups.flatMap (·.attributes)).reverse.find? fun named => named.1 = name).map Prod.snd

theorem get?_flatten (groups : List AttributeGroup) (name : String) :
    (flatten groups).get? name = (effective? groups name).map Value.toText := by
  rw [flatten, Table.get?_ofList, ← List.map_reverse, List.find?_map, effective?, Option.map_map,
    Option.map_map]
  rfl

/-- An answer lists plain items under a name. -/
structure Carries (groups : List AttributeGroup) (name : String) (value : Value)
    (items : List String) : Prop where
  held : effective? groups name = some value
  lists : Lists value items
  plain : ∀ item ∈ items, Plain item

section Carries
variable {groups : List AttributeGroup} {value : Value} {items : List String}

private theorem Carries.text {name : String} (carries : Carries groups name value items) :
    (flatten groups).get? name = some value.toText := by
  rw [get?_flatten, carries.held]
  rfl

theorem mem_formats_iff (carries : Carries groups "document-format-supported" value items)
    (word : String) :
    word ∈ (ofAttributes (flatten groups)).formats ↔ word ∈ spelled value items := by
  rw [← mem_wordSet_iff carries.lists carries.plain word, ← carries.text]
  rfl

theorem formats_right_iff (carries : Carries groups "document-format-supported" value items) :
    (∀ word, word ∈ (ofAttributes (flatten groups)).formats ↔ word ∈ items) ↔
      isArray value = false := by
  simp only [mem_formats_iff carries]
  exact spelled_eq_iff carries.plain

theorem supported_right_iff (carries : Carries groups "document-format-supported" value items) :
    ((ofAttributes (flatten groups)).isSupported = true ↔
        items = [] ∨ ∃ format ∈ printableFormats, format ∈ items) ↔
      isArray value = false ∨ (∃ format ∈ printableFormats, format ∈ items.tail.dropLast) ∨
        (items ≠ [] ∧ ∀ format ∈ printableFormats, format ∉ items) := by
  rw [← printable_iff, isSupported_iff]
  simp only [List.eq_nil_iff_forall_not_mem, mem_formats_iff carries]

theorem duplex_right_iff (carries : Carries groups "sides-supported" value items) :
    ((ofAttributes (flatten groups)).duplex = true ↔ ∃ side ∈ items, isTwoSided side = true) ↔
      isArray value = false ∨ (∃ side ∈ items.tail, isTwoSided side = true) ∨
        ∀ side ∈ items, isTwoSided side = false := by
  have unfolded : (ofAttributes (flatten groups)).duplex =
      (wordSet ((flatten groups).get? "sides-supported")).any isTwoSided := rfl
  rw [← twoSided_iff, unfolded, carries.text, List.any_eq_true]
  simp only [mem_wordSet_iff carries.lists carries.plain]

theorem stateReasons_eq (carries : Carries groups "printer-state-reasons" value items) :
    (ofAttributes (flatten groups)).stateReasons = reasons (some value.toText) :=
  congrArg reasons carries.text

theorem reasons_right_iff (carries : Carries groups "printer-state-reasons" value items) :
    (ofAttributes (flatten groups)).stateReasons = items.filter (· ≠ "none") ↔
      isArray value = false := by
  rw [stateReasons_eq carries]
  exact reasons_eq_iff carries.lists carries.plain

theorem error_right_iff (carries : Carries groups "printer-state-reasons" value items) :
    ((ofAttributes (flatten groups)).isError = true ↔
        (ofAttributes (flatten groups)).state = .stopped ∨
          ∃ reason ∈ items, endsInError reason = true) ↔
      (ofAttributes (flatten groups)).state = .stopped ∨ isArray value = false ∨
        (∃ reason ∈ items.dropLast, endsInError reason = true) ∨
        ∀ reason ∈ items, endsInError reason = false := by
  have unfiltered : (∃ reason ∈ (ofAttributes (flatten groups)).stateReasons,
      endsInError reason = true) ↔ ∃ reason ∈ spelled value items, endsInError reason = true := by
    rw [stateReasons_eq carries, reasons_eq carries.lists carries.plain]
    refine exists_congr fun reason => and_congr_left fun error => ?_
    rw [List.mem_filter, and_iff_left]
    rw [decide_eq_true_eq]
    rintro rfl
    exact absurd error (by decide)
  rw [← error_iff, isError_iff, unfiltered]
  by_cases stopped : (ofAttributes (flatten groups)).state = .stopped
  · simp [stopped]
  · simp [stopped]

end Carries

structure ReadsItems (read : Capabilities) (formats sides reasons : List String) : Prop where
  sameFormats : ∀ word, word ∈ read.formats ↔ word ∈ formats
  supported : read.isSupported = true ↔
    formats = [] ∨ ∃ format ∈ printableFormats, format ∈ formats
  duplex : read.duplex = true ↔ ∃ side ∈ sides, isTwoSided side = true
  sameReasons : read.stateReasons = reasons.filter (· ≠ "none")
  error : read.isError = true ↔
    read.state = .stopped ∨ ∃ reason ∈ reasons, endsInError reason = true

/-- How far the list attributes of an answer are read item by item. Formats and reasons
are so read only if they are no arrays. What is concluded from an array is right as far
as its first or its last item, whichever loses its edge to a bracket, decides nothing. -/
theorem readsItems_iff (groups : List AttributeGroup) {formats sides reasons : Value}
    {formatItems sideItems reasonItems : List String}
    (carriesFormats : Carries groups "document-format-supported" formats formatItems)
    (carriesSides : Carries groups "sides-supported" sides sideItems)
    (carriesReasons : Carries groups "printer-state-reasons" reasons reasonItems) :
    let read := ofAttributes (flatten groups)
    (ReadsItems read formatItems sideItems reasonItems ↔
      isArray formats = false ∧ isArray reasons = false ∧
        (isArray sides = false ∨ (∃ side ∈ sideItems.tail, isTwoSided side = true) ∨
          ∀ side ∈ sideItems, isTwoSided side = false)) ∧
    ((∀ word, word ∈ read.formats ↔ word ∈ formatItems) ↔ isArray formats = false) ∧
    ((read.isSupported = true ↔
        formatItems = [] ∨ ∃ format ∈ printableFormats, format ∈ formatItems) ↔
      isArray formats = false ∨
        (∃ format ∈ printableFormats, format ∈ formatItems.tail.dropLast) ∨
        (formatItems ≠ [] ∧ ∀ format ∈ printableFormats, format ∉ formatItems)) ∧
    ((read.duplex = true ↔ ∃ side ∈ sideItems, isTwoSided side = true) ↔
      isArray sides = false ∨ (∃ side ∈ sideItems.tail, isTwoSided side = true) ∨
        ∀ side ∈ sideItems, isTwoSided side = false) ∧
    (read.stateReasons = reasonItems.filter (· ≠ "none") ↔ isArray reasons = false) ∧
    ((read.isError = true ↔
        read.state = .stopped ∨ ∃ reason ∈ reasonItems, endsInError reason = true) ↔
      read.state = .stopped ∨ isArray reasons = false ∨
        (∃ reason ∈ reasonItems.dropLast, endsInError reason = true) ∨
        ∀ reason ∈ reasonItems, endsInError reason = false) := by
  intro read
  have formatsRight := formats_right_iff carriesFormats
  have supportedRight := supported_right_iff carriesFormats
  have duplexRight := duplex_right_iff carriesSides
  have reasonsRight := reasons_right_iff carriesReasons
  have errorRight := error_right_iff carriesReasons
  refine ⟨?_, formatsRight, supportedRight, duplexRight, reasonsRight, errorRight⟩
  constructor
  · intro reads
    exact ⟨formatsRight.1 reads.sameFormats, reasonsRight.1 reads.sameReasons,
      duplexRight.1 reads.duplex⟩
  · rintro ⟨formatsAlone, reasonsAlone, sidesDecide⟩
    exact ⟨formatsRight.2 formatsAlone, supportedRight.2 (Or.inl formatsAlone),
      duplexRight.2 sidesDecide, reasonsRight.2 reasonsAlone,
      errorRight.2 (Or.inr (Or.inl reasonsAlone))⟩

def edgeAnswer : List AttributeGroup :=
  [⟨.printer,
    [("document-format-supported", .array [.text "image/tiff", .text "application/pdf"]),
      ("sides-supported", .array [.text "two-sided-long-edge"]),
      ("printer-state-reasons", .array [.text "media-jam-error"])]⟩]

private theorem edgeAnswer_formats :
    Carries edgeAnswer "document-format-supported"
      (.array [.text "image/tiff", .text "application/pdf"]) ["image/tiff", "application/pdf"] where
  held := rfl
  lists := .array ["image/tiff", "application/pdf"]
  plain := by decide +kernel

private theorem edgeAnswer_sides :
    Carries edgeAnswer "sides-supported" (.array [.text "two-sided-long-edge"])
      ["two-sided-long-edge"] where
  held := rfl
  lists := .array ["two-sided-long-edge"]
  plain := by decide +kernel

private theorem edgeAnswer_reasons :
    Carries edgeAnswer "printer-state-reasons" (.array [.text "media-jam-error"])
      ["media-jam-error"] where
  held := rfl
  lists := .array ["media-jam-error"]
  plain := by decide +kernel

theorem readsItems_iff_at_edges :
    Carries edgeAnswer "document-format-supported"
        (.array [.text "image/tiff", .text "application/pdf"]) ["image/tiff", "application/pdf"] ∧
      Carries edgeAnswer "sides-supported" (.array [.text "two-sided-long-edge"])
        ["two-sided-long-edge"] ∧
      Carries edgeAnswer "printer-state-reasons" (.array [.text "media-jam-error"])
        ["media-jam-error"] ∧
      ¬ ReadsItems (ofAttributes (flatten edgeAnswer)) ["image/tiff", "application/pdf"]
        ["two-sided-long-edge"] ["media-jam-error"] := by
  refine ⟨edgeAnswer_formats, edgeAnswer_sides, edgeAnswer_reasons, ?_⟩
  intro reads
  have limits := readsItems_iff edgeAnswer edgeAnswer_formats edgeAnswer_sides edgeAnswer_reasons
  cases (limits.1.1 reads).1

/-- A printer that takes a printable format passes for unsupported, one that prints on
two sides for one that does not, and a broken one for healthy. -/
theorem edges_are_misread :
    ¬ ReadsItems (ofAttributes (flatten edgeAnswer)) ["image/tiff", "application/pdf"]
        ["two-sided-long-edge"] ["media-jam-error"] ∧
      (ofAttributes (flatten edgeAnswer)).isSupported = false ∧
      (ofAttributes (flatten edgeAnswer)).duplex = false ∧
      (ofAttributes (flatten edgeAnswer)).isError = false := by
  have unsupported : (ofAttributes (flatten edgeAnswer)).isSupported = false := by decide +kernel
  refine ⟨?_, unsupported, by decide +kernel, by decide +kernel⟩
  intro reads
  have printable : "application/pdf" ∈ printableFormats := by decide
  have supported := reads.supported.2 (Or.inr ⟨_, printable, by simp⟩)
  cases unsupported.symm.trans supported

end PrinterRoster.Capabilities
