import Mathlib.Data.List.TakeWhile
import PrinterRoster.Address
import PrinterRoster.Proofs.Text.Digits

/-! The characters of an address in text. An IPv4 address is digits with dots between them. An IPv6
address has colons too, at least one and never more than seven. -/
namespace PrinterRoster

namespace Text
section Joined
variable {parts : List (List Char)}

theorem joined_cons (separator part : List Char) (others : List (List Char)) :
    joined separator (part :: others) =
      if others = [] then part else part ++ separator ++ joined separator others := by
  cases others <;> rfl

private theorem forall_mem_joined {good : Char → Prop} {separator : List Char}
    (between : ∀ c ∈ separator, good c) (each : ∀ part ∈ parts, ∀ c ∈ part, good c) :
    ∀ c ∈ joined separator parts, good c := by
  induction parts with
  | nil => exact fun c member => absurd member List.not_mem_nil
  | cons part others ih =>
    obtain ⟨first, rest⟩ := List.forall_mem_cons.1 each
    rw [joined_cons]
    split
    · exact first
    · intro c member
      rcases List.mem_append.1 member with front | later
      · exact (List.mem_append.1 front).elim (first c) (between c)
      · exact ih rest c later

/-- Parts without the separator have one separator fewer between them than there are parts. -/
theorem count_joined {separator : Char} (apart : ∀ part ∈ parts, separator ∉ part) :
    (joined [separator] parts).count separator = parts.length - 1 := by
  induction parts with
  | nil => rfl
  | cons part others ih =>
    obtain ⟨first, rest⟩ := List.forall_mem_cons.1 apart
    have none : part.count separator = 0 := List.count_eq_zero.2 first
    rw [joined_cons]
    split
    · rename_i last
      rw [none, last]
      rfl
    · rename_i more
      have positive : 0 < others.length := List.length_pos_iff.2 more
      rw [List.count_append, List.count_append, none, ih rest, List.count_singleton_self,
        List.length_cons]
      omega

end Joined

private theorem Hex.forall_mem_digits (good : Char → Prop) (each : ∀ value, good (digit value))
    (n : Nat) : ∀ c ∈ digits n, good c := by
  induction n using digits.induct with
  | case1 n small =>
    rw [digits, if_pos small]
    exact List.forall_mem_singleton.2 (each _)
  | case2 n large ih =>
    rw [digits, if_neg large]
    exact List.forall_mem_append.2 ⟨ih, List.forall_mem_singleton.2 (each _)⟩

end Text

namespace Address
open Text

theorem mem_quadText (first second third fourth : Octet) :
    ∀ c ∈ quadText first second third fourth, c = '.' ∨ c.isDigit = true := by
  apply forall_mem_joined
  · exact List.forall_mem_singleton.2 (Or.inl rfl)
  · intro part member c digit
    obtain ⟨octet, _, rfl⟩ := List.mem_map.1 member
    exact Or.inr ((Decimal.isRun_digits octet.val).2 c digit)

theorem digit_mem_quadText (first second third fourth : Octet) :
    ∃ c ∈ quadText first second third fourth, c.isDigit = true := by
  obtain ⟨c, digit⟩ := List.exists_mem_of_ne_nil _ (Decimal.digits_ne_nil first.val)
  refine ⟨c, ?_, (Decimal.isRun_digits first.val).2 c digit⟩
  simp [quadText, joined, digit]

theorem colon_not_mem_quadText (first second third fourth : Octet) :
    ':' ∉ quadText first second third fourth :=
  fun member => absurd (mem_quadText first second third fourth ':' member) (by decide)

def IsAddressChar (c : Char) : Prop := c = ':' ∨ c = '.' ∨ c.isAlphanum = true

instance (c : Char) : Decidable (IsAddressChar c) := inferInstanceAs (Decidable (_ ∨ _ ∨ _))

private theorem isAddressChar_of_quad {c : Char} (quad : c = '.' ∨ c.isDigit = true) :
    IsAddressChar c := by
  rcases quad with dot | digit
  · exact Or.inr (Or.inl dot)
  · exact Or.inr (Or.inr (by simp [Char.isAlphanum, digit]))

private theorem mem_groupsText (groups : List Group) :
    ∀ c ∈ groupsText groups, IsAddressChar c := by
  have hex : ∀ value, (Hex.digit value).isAlphanum = true := by decide
  apply forall_mem_joined
  · exact List.forall_mem_singleton.2 (Or.inl rfl)
  · intro part member c digit
    obtain ⟨group, _, rfl⟩ := List.mem_map.1 member
    exact Or.inr (Or.inr (Hex.forall_mem_digits (·.isAlphanum = true) hex group.val c digit))

private theorem count_groupsText (groups : List Group) :
    (groupsText groups).count ':' = groups.length - 1 := by
  have hex : ∀ value, Hex.digit value ≠ ':' := by decide
  have apart : ∀ part ∈ groups.map fun (group : Group) => Hex.digits group.val, ':' ∉ part := by
    intro part member colon
    obtain ⟨group, _, rfl⟩ := List.mem_map.1 member
    exact Hex.forall_mem_digits (· ≠ ':') hex group.val ':' colon rfl
  rw [groupsText, count_joined apart, List.length_map]

private theorem mem_compressedText (groups : List Group) :
    ∀ c ∈ compressedText groups, IsAddressChar c := by
  unfold compressedText
  dsimp only
  split
  · refine List.forall_mem_append.2 ⟨List.forall_mem_append.2 ⟨mem_groupsText _, ?_⟩,
      mem_groupsText _⟩
    simp [IsAddressChar]
  · exact mem_groupsText groups

private theorem zeroRun_le (groups : List Group) : zeroRun groups ≤ groups.length :=
  (List.takeWhile_prefix _).length_le

private theorem count_compressedText {groups : List Group} (size : groups.length = 8) :
    0 < (compressedText groups).count ':' ∧ (compressedText groups).count ':' ≤ 7 := by
  unfold compressedText
  dsimp only
  split
  · rename_i several
    have within := zeroRun_le (groups.drop (longestZeroRun groups))
    have between : [':', ':'].count ':' = 2 := rfl
    rw [List.length_drop] at within
    rw [List.count_append, List.count_append, count_groupsText, count_groupsText, between,
      List.length_take, List.length_drop]
    omega
  · rw [count_groupsText]
    omega

theorem mem_text (address : Address) : ∀ c ∈ address.text, IsAddressChar c := by
  unfold text
  split
  · exact fun c member => isAddressChar_of_quad (mem_quadText _ _ _ _ c member)
  · refine List.forall_mem_append.2 ⟨?_, fun c member =>
      isAddressChar_of_quad (mem_quadText _ _ _ _ c member)⟩
    simp [IsAddressChar]
  · exact mem_compressedText _

/-- The colons of an IPv6 address. -/
theorem count_text {groups : List Group} (size : groups.length = 8) :
    0 < (v6 groups size).text.count ':' ∧ (v6 groups size).text.count ':' ≤ 7 := by
  unfold text
  split
  · cases ‹_›
  · have front : "::ffff:".toList.count ':' = 3 := rfl
    rw [List.count_append, front, List.count_eq_zero.2 (colon_not_mem_quadText _ _ _ _)]
    omega
  · rename_i same
    cases same
    exact count_compressedText size

theorem exists_mem_text_ne_dot (address : Address) : ∃ c ∈ address.text, c ≠ '.' := by
  cases address with
  | v4 first second third fourth =>
    obtain ⟨c, member, digit⟩ := digit_mem_quadText first second third fourth
    exact ⟨c, member, by rintro rfl; cases digit⟩
  | v6 groups size => exact ⟨':', List.count_pos_iff.1 (count_text size).1, by decide⟩

end Address

end PrinterRoster
