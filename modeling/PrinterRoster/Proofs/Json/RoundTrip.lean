import PrinterRoster.Proofs.Json.Grammar

/-! What is written for a JSON value stands for that value, whatever white space the layout puts
between its parts. So reading gives back what was written. -/
namespace PrinterRoster.Json
open Text

/-- The values that can be written: numbers and texts in them are given, and so are keys. -/
inductive Writable : Json → Prop
  | null : Writable .null
  | bool (value : Bool) : Writable (.bool value)
  | nat (value : Nat) : Writable (.nat value)
  | text (value : String) : Writable (.text value)
  | array {items : List Json} (each : ∀ item ∈ items, Writable item) : Writable (.array items)
  | record {members : List (String × Json)} (each : ∀ member ∈ members, Writable member.2) :
      Writable (.record members)

structure Layout.Blank (layout : Layout) : Prop where
  lineBreak : ∀ depth, IsGap (layout.lineBreak depth)
  afterColon : IsGap layout.afterColon

theorem isGap_nil : IsGap [] := fun _ member => absurd member List.not_mem_nil

theorem blank_oneLine : oneLine.Blank := ⟨fun _ => isGap_nil, isGap_nil⟩

theorem blank_indented : indented.Blank where
  lineBreak := by
    intro depth c member
    rcases List.mem_cons.1 member with rfl | space
    · rfl
    · rw [List.eq_of_mem_replicate space]
      rfl
  afterColon := by
    intro c member
    rw [List.mem_singleton.1 member]
    rfl

private theorem numeral_digits (n : Nat) : Numeral (Decimal.digits n) (some n) := by
  have lean : (Decimal.digits n).length ≤ 1 ∨ (Decimal.digits n).head? ≠ some '0' := by
    rcases Nat.eq_zero_or_pos n with rfl | positive
    · left
      rw [Decimal.digits, if_pos (by decide)]
      exact Nat.le_refl 1
    · exact Or.inr (Decimal.head_digits positive)
  have parts := Numeral.parts (Or.inl rfl) (Decimal.isRun_digits n) lean .absent .absent
  simpa [Decimal.valueFrom_digits] using parts

private theorem denotes_quoted (text : String) : Denotes (quoted text) (.value (.text text)) :=
  .string (.text (spells_escaped text.toList))

private theorem renderItems_eq (layout : Layout) (depth : Nat) (items : List Json) :
    renderItems layout depth items = items.map (render layout depth) := by
  induction items with
  | nil => rw [renderItems, List.map_nil]
  | cons item others ih => rw [renderItems, ih, List.map_cons]

def renderMember (layout : Layout) (depth : Nat) (member : Option String × Json) : List Char :=
  quoted (member.1.getD "") ++ ':' :: layout.afterColon ++ render layout depth member.2

private theorem renderMembers_eq (layout : Layout) (depth : Nat)
    (members : List (Option String × Json)) :
    renderMembers layout depth members = members.map (renderMember layout depth) := by
  induction members with
  | nil => rw [renderMembers, List.map_nil]
  | cons member others ih => rw [renderMembers, ih, List.map_cons, renderMember]

/-- Items with a gap before each and a gap behind the last, as a phrase of one kind makes them
up from a phrase of another. -/
theorem joined_denotes {α : Type} (one : List Char → α → Prop) (many : List Char → List α → Prop)
    (last : ∀ {text item}, one text item → many text [item])
    (more : ∀ {text others item items}, one text item → many others items →
      many (text ++ ',' :: others) (item :: items))
    {gap behind : List Char} (isBehind : IsGap behind) {write : α → List Char} {items : List α}
    (any : items ≠ [])
    (each : ∀ item ∈ items, ∀ after, IsGap after → one (gap ++ write item ++ after) item) :
    many (gap ++ joined (',' :: gap) (items.map write) ++ behind) items := by
  induction items with
  | nil => exact absurd rfl any
  | cons item others ih =>
    cases others with
    | nil => exact last (each item List.mem_cons_self behind isBehind)
    | cons next others =>
      have rest := ih (by simp) fun other member => each other (List.mem_cons_of_mem item member)
      have first := each item List.mem_cons_self [] isGap_nil
      have both := more first rest
      simpa [joined] using both

section Render
variable {layout : Layout} (blank : layout.Blank)
include blank

private theorem denotes_bracketed {α : Type} (one : List Char → α → Prop)
    (many : List Char → List α → Prop) (wrap : List α → Json) {opening closing : Char}
    (none : Denotes [opening, closing] (.value (wrap [])))
    (some : ∀ {inner items}, many inner items →
      Denotes (opening :: (inner ++ [closing])) (.value (wrap items)))
    (last : ∀ {text item}, one text item → many text [item])
    (more : ∀ {text others item items}, one text item → many others items →
      many (text ++ ',' :: others) (item :: items))
    {depth : Nat} {write : α → List Char} {items : List α}
    (each : ∀ item ∈ items, ∀ before after, IsGap before → IsGap after →
      one (before ++ write item ++ after) item) :
    Denotes (bracketed layout depth opening closing (items.map write)) (.value (wrap items)) := by
  rw [bracketed]
  cases items with
  | nil => exact none
  | cons item others =>
    let gap := layout.lineBreak (depth + 1)
    have inside : many (gap ++ joined (',' :: gap) ((item :: others).map write) ++
        layout.lineBreak depth) (item :: others) :=
      joined_denotes one many last more (blank.lineBreak depth) (List.cons_ne_nil item others)
        fun other member after isAfter => each other member gap after (blank.lineBreak _) isAfter
    simpa [gap] using some inside

theorem denotes_render {value : Json} (writable : Writable value) (depth : Nat) :
    Denotes (render layout depth value) (.value value) := by
  induction writable generalizing depth with
  | null =>
    have written : render layout depth .null = ['n', 'u', 'l', 'l'] := by simp [render, atom]
    exact written ▸ .null
  | bool value =>
    cases value with
    | false =>
      have written : render layout depth (.bool false) = ['f', 'a', 'l', 's', 'e'] := by
        simp [render, atom]
      exact written ▸ .no
    | true =>
      have written : render layout depth (.bool true) = ['t', 'r', 'u', 'e'] := by
        simp [render, atom]
      exact written ▸ .yes
  | nat value =>
    have written : render layout depth (.nat value) = Decimal.digits value := by
      simp [render, nat, atom]
    exact written ▸ .number (numeral_digits value)
  | text value =>
    have written : render layout depth (.text value) = quoted value := by simp [render, text, atom]
    exact written ▸ denotes_quoted value
  | @array items each ih =>
    rw [render, renderItems_eq]
    refine denotes_bracketed blank (fun text item => Denotes text (.element item))
      (fun text items => Denotes text (.elements items)) .array (.emptyArray isGap_nil) .array
      .lastElement .moreElements ?_
    intro item member before after gapBefore gapAfter
    exact .element gapBefore (ih item member (depth + 1)) gapAfter
  | @record members each ih =>
    rw [record, render, renderMembers_eq]
    refine denotes_bracketed blank (fun text member => Denotes text (.member member.1 member.2))
      (fun text members => Denotes text (.members members)) .object (.emptyObject isGap_nil) .object
      .lastMember .moreMembers ?_
    intro _ listed before after gapBefore gapAfter
    obtain ⟨member, written, rfl⟩ := List.mem_map.1 listed
    have item := Denotes.element blank.afterColon (ih member written (depth + 1)) gapAfter
    have key := Inside.text (spells_escaped member.1.toList)
    have whole := Denotes.member gapBefore key isGap_nil item
    simpa [renderMember, quoted] using whole

end Render

theorem parse?_render {layout : Layout} (blank : layout.Blank) {value : Json}
    (writable : Writable value) : parse? (String.ofList (render layout 0 value)) = some value := by
  have element := Denotes.element isGap_nil (denotes_render blank writable 0) isGap_nil
  rw [List.nil_append, List.append_nil] at element
  rw [parse?_eq_some_iff, String.toList_ofList]
  exact element

end PrinterRoster.Json
