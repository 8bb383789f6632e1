import PrinterRoster.KnownGood
import PrinterRoster.Proofs.Course
import Mathlib.Data.List.Basic
import Mathlib.Data.List.Nodup
import Mathlib.Data.List.Infix

/-! The order of the known-good printers. Whoever was promoted stands before whoever was only
listed from the start, the latest promotion first, and whoever was removed stands nowhere. This
history may be longer than the list: the list is the part of it in front for which there was
always room. -/
namespace PrinterRoster.KnownGood

section Distinct
variable {α : Type} [DecidableEq α]

private theorem filter_eraseDups (keep : α → Bool) (items : List α) :
    (items.filter keep).eraseDups = items.eraseDups.filter keep := by
  cases items with
  | nil => rfl
  | cons item others =>
    have inner := filter_eraseDups keep (others.filter fun other => !other == item)
    rw [List.eraseDups_cons]
    cases keeps : keep item with
    | true =>
      rw [List.filter_cons_of_pos keeps, List.eraseDups_cons, List.filter_cons_of_pos keeps,
        ← inner, List.filter_filter, List.filter_filter]
      simp only [Bool.and_comm]
    | false =>
      rw [List.filter_cons_of_neg (by simp [keeps]), List.filter_cons_of_neg (by simp [keeps]),
        ← inner, List.filter_filter]
      -- Nobody who is kept is the item itself.
      congr 1
      refine List.filter_congr fun other _ => ?_
      by_cases same : other = item
      · simp [same, keeps]
      · simp [same]
termination_by items.length
decreasing_by
  have bound := List.length_filter_le (fun other => !other == item) others
  rw [List.length_cons]
  omega

private theorem nodup_eraseDups (items : List α) : items.eraseDups.Nodup := by
  cases items with
  | nil => exact List.nodup_nil
  | cons item others =>
    rw [List.eraseDups_cons, List.nodup_cons]
    exact ⟨by simp, nodup_eraseDups _⟩
termination_by items.length
decreasing_by
  have bound := List.length_filter_le (fun other => !other == item) others
  rw [List.length_cons]
  omega

theorem eraseDups_of_nodup {items : List α} (nodup : items.Nodup) : items.eraseDups = items := by
  induction items with
  | nil => rfl
  | cons item others ih =>
    obtain ⟨absent, inner⟩ := List.nodup_cons.1 nodup
    have kept : (others.filter fun other => !other == item) = others := by
      refine List.filter_eq_self.2 fun other member => ?_
      have different : other ≠ item := fun same => absent (same ▸ member)
      simpa using different
    rw [List.eraseDups_cons, kept, ih inner]

omit [DecidableEq α] in
private theorem mem_take_of_prefix {items history : List α} (front : items <+: history) {item : α}
    (listed : item ∈ items) {size : Nat} (early : item ∈ history.take size) :
    item ∈ items.take size := by
  obtain ⟨behind, rfl⟩ := front
  rw [List.take_append, List.mem_append] at early
  rcases early with inside | beyond
  · exact inside
  · have longer : size - items.length ≠ 0 := by
      intro none
      rw [none] at beyond
      cases beyond
    rw [List.take_of_length_le (by omega)]
    exact listed

end Distinct

inductive Change
  | promote (id : PrinterId)
  | remove (id : PrinterId)
deriving DecidableEq

def Change.id : Change → PrinterId
  | promote id | remove id => id

def change (known : KnownGood) : Change → KnownGood
  | .promote id => known.promote id
  | .remove id => known.remove id

def changeAll (known : KnownGood) (changes : List Change) : KnownGood :=
  stateAfter change known changes

theorem changeAll_snoc (known : KnownGood) (changes : List Change) (last : Change) :
    known.changeAll (changes ++ [last]) = (known.changeAll changes).change last :=
  stateAfter_snoc ..

/-- What a list of known-good printers keeps: nobody stands in it twice, and there is room for
everybody in it. -/
structure Sound (known : KnownGood) : Prop where
  nodup : known.ids.Nodup
  fits : known.ids.length ≤ known.capacity

theorem sound_ofList (ids : List PrinterId) (capacity : Nat) : (ofList ids capacity).Sound where
  nodup := (List.take_sublist ..).nodup (nodup_eraseDups ids)
  fits := List.length_take_le ..

theorem Sound.change {known : KnownGood} (sound : known.Sound) (made : Change) :
    (known.change made).Sound := by
  have others : (known.remove made.id).ids.Nodup := sound.nodup.filter _
  cases made with
  | promote id =>
    have front : (id :: (known.remove id).ids).Nodup :=
      List.nodup_cons.2 ⟨by simp [remove], others⟩
    exact ⟨(List.take_sublist ..).nodup front, List.length_take_le ..⟩
  | remove id => exact ⟨others, (List.length_filter_le ..).trans sound.fits⟩

theorem Sound.changeAll {known : KnownGood} (sound : known.Sound) (changes : List Change) :
    (known.changeAll changes).Sound :=
  holds_stateAfter Sound sound fun _ sound made _ => sound.change made

theorem capacity_changeAll (known : KnownGood) (changes : List Change) :
    (known.changeAll changes).capacity = known.capacity := by
  refine holds_stateAfter (fun later : KnownGood => later.capacity = known.capacity) rfl ?_
  rintro later same (id | id) _
  · exact same
  · exact same

/-- To promote somebody leaves the order of all others as it is. The last of them is dropped if
the list was full and the promoted one was not in it. -/
theorem others_promote {known : KnownGood} (sound : known.Sound) (room : 1 ≤ known.capacity)
    (id : PrinterId) :
    (known.promote id).ids.filter (· ≠ id) =
      if id ∉ known.ids ∧ known.ids.length = known.capacity then known.ids.dropLast
      else known.ids.filter (· ≠ id) := by
  obtain ⟨ids, capacity⟩ := known
  obtain ⟨nodup, fits⟩ := sound
  obtain ⟨free, rfl⟩ : ∃ free, capacity = free + 1 := ⟨capacity - 1, by simp at room; omega⟩
  dsimp only at fits ⊢
  have others : ((ids.filter (· ≠ id)).take free).filter (· ≠ id) = (ids.filter (· ≠ id)).take free :=
    List.filter_eq_self.2 fun _ member => (List.mem_filter.1 (List.mem_of_mem_take member)).2
  have front : (promote ⟨ids, free + 1⟩ id).ids.filter (· ≠ id) =
      (ids.filter (· ≠ id)).take free := by
    rw [promote, remove, List.take_succ_cons, List.filter_cons_of_neg (by simp)]
    exact others
  rw [front]
  by_cases listed : id ∈ ids
  · have fewer : (ids.filter (· ≠ id)).length < ids.length :=
      List.length_filter_lt_length_iff_exists.2 ⟨id, listed, by simp⟩
    rw [if_neg (fun dropped => dropped.1 listed), List.take_of_length_le (by omega)]
  · have all : ids.filter (· ≠ id) = ids := by
      refine List.filter_eq_self.2 fun other member => ?_
      rw [decide_eq_true_eq]
      rintro rfl
      exact listed member
    rw [all]
    split
    · rename_i full
      rw [List.dropLast_eq_take, full.2, Nat.add_sub_cancel]
    · rename_i roomy
      rw [List.take_of_length_le]
      have short : ids.length ≠ free + 1 := fun full => roomy ⟨listed, full⟩
      omega

section History
variable (initial : List PrinterId) (changes : List Change)

def changed : List PrinterId := (changes.map Change.id).reverse.eraseDups

def latest? (id : PrinterId) : Option Change := changes.reverse.find? (·.id = id)

/-- The printers whose latest change is a promotion, from the latest to the earliest. -/
def promoted : List PrinterId :=
  (changed changes).filter fun id => latest? changes id = some (.promote id)

/-- The promoted printers and then the printers that were listed from the start and never
changed, as if there were room for all. -/
def history : List PrinterId :=
  promoted changes ++ initial.filter fun id => latest? changes id = none

variable {changes}

theorem latest?_snoc (last : Change) (id : PrinterId) :
    latest? (changes ++ [last]) id = if last.id = id then some last else latest? changes id := by
  rw [latest?, List.reverse_append, List.reverse_singleton, List.singleton_append,
    List.find?_cons]
  by_cases same : last.id = id <;> simp [same, latest?]

theorem changed_snoc (last : Change) :
    changed (changes ++ [last]) = last.id :: (changed changes).filter (· ≠ last.id) := by
  rw [changed, List.map_append, List.reverse_append, List.map_singleton, List.reverse_singleton,
    List.singleton_append, List.eraseDups_cons, filter_eraseDups, changed]
  congr 1
  refine List.filter_congr fun other _ => ?_
  by_cases same : other = last.id <;> simp [same]

theorem promoted_snoc (last : Change) :
    promoted (changes ++ [last]) =
      match last with
      | .promote id => id :: (promoted changes).filter (· ≠ id)
      | .remove id => (promoted changes).filter (· ≠ id) := by
  have others : ((changed changes).filter (· ≠ last.id)).filter
        (fun id => latest? (changes ++ [last]) id = some (.promote id)) =
      (promoted changes).filter (· ≠ last.id) := by
    rw [promoted, List.filter_filter, List.filter_filter]
    refine List.filter_congr fun other _ => ?_
    by_cases same : last.id = other
    · simp [same]
    · simp [latest?_snoc, same, Bool.and_comm]
  rw [promoted, changed_snoc]
  cases last with
  | promote id => rw [List.filter_cons_of_pos (by simp [latest?_snoc, Change.id]), others]; rfl
  | remove id => rw [List.filter_cons_of_neg (by simp [latest?_snoc, Change.id]), others]; rfl

theorem history_snoc (last : Change) :
    history initial (changes ++ [last]) =
      match last with
      | .promote id => id :: (history initial changes).filter (· ≠ id)
      | .remove id => (history initial changes).filter (· ≠ id) := by
  have listed : (initial.filter fun id => latest? (changes ++ [last]) id = none) =
      (initial.filter fun id => latest? changes id = none).filter (· ≠ last.id) := by
    rw [List.filter_filter]
    refine List.filter_congr fun other _ => ?_
    by_cases same : last.id = other
    · simp [latest?_snoc, same]
    · simp [latest?_snoc, same, Ne.symm same]
  rw [history, promoted_snoc, listed, history]
  cases last <;> (simp only [List.filter_append, List.cons_append]; rfl)

end History

theorem ids_prefix_history (known : KnownGood) (changes : List Change) :
    (known.changeAll changes).ids <+: history known.ids changes := by
  induction changes using List.reverseRecOn with
  | nil => simp [changeAll, history, promoted, changed, latest?]
  | append_singleton earlier last ih =>
    rw [changeAll_snoc, history_snoc]
    cases last with
    | promote id =>
      have front : id :: ((known.changeAll earlier).remove id).ids <+:
          id :: (history known.ids earlier).filter (· ≠ id) :=
        List.prefix_cons_inj id |>.2 (ih.filter _)
      exact (List.take_prefix ..).trans front
    | remove id => exact ih.filter _

private theorem mem_change {known : KnownGood} {made : Change} {id : PrinterId}
    (other : made.id ≠ id)
    (member : id ∈ (known.change made).ids) : id ∈ known.ids := by
  cases made with
  | promote _ => exact mem_promote (Ne.symm other) member
  | remove _ => exact (mem_remove.1 member).1

/-- Who is in the list: everybody for whom there was room ever since they were changed last, or
since the start if they never were. -/
theorem mem_changeAll_iff {known : KnownGood} (sound : known.Sound) (changes : List Change)
    (id : PrinterId) :
    id ∈ (known.changeAll changes).ids ↔
      ∀ earlier later, changes = earlier ++ later → latest? later id = none →
        id ∈ (history known.ids earlier).take known.capacity := by
  -- At the end of the changes the list is a part of the history for which there is room.
  have within : ∀ made, id ∈ (known.changeAll made).ids →
      id ∈ (history known.ids made).take known.capacity := by
    intro made member
    have fits := (sound.changeAll made).fits
    rw [capacity_changeAll] at fits
    have front := (ids_prefix_history known made).take known.capacity
    rw [List.take_of_length_le fits] at front
    exact front.subset member
  induction changes using List.reverseRecOn with
  | nil =>
    constructor
    · intro member earlier later split _
      obtain ⟨rfl, rfl⟩ := List.append_eq_nil_iff.1 split.symm
      exact within [] member
    · intro roomy
      have start := roomy [] [] rfl rfl
      simpa [history, promoted, changed, latest?, changeAll] using List.mem_of_mem_take start
  | append_singleton before last ih =>
    constructor
    · intro member earlier later split untouched
      cases later using List.reverseRecOn with
      | nil =>
        rw [List.append_nil] at split
        exact split ▸ within _ member
      | append_singleton between final =>
        rw [← List.append_assoc] at split
        obtain ⟨rfl, same⟩ := List.append_inj' split rfl
        obtain rfl := List.singleton_inj.1 same
        rw [latest?_snoc] at untouched
        split at untouched
        · cases untouched
        · rename_i other
          rw [changeAll_snoc] at member
          exact ih.1 (mem_change other member) earlier between rfl untouched
    · intro roomy
      have now := roomy (before ++ [last]) [] (List.append_nil _).symm rfl
      rw [history_snoc] at now
      rw [changeAll_snoc]
      by_cases touched : last.id = id
      · cases last with
        | promote other =>
          obtain rfl : other = id := touched
          have room : known.capacity ≠ 0 := by
            intro none
            rw [none] at now
            cases now
          obtain ⟨free, size⟩ := Nat.exists_eq_succ_of_ne_zero room
          simp [change, promote, capacity_changeAll, size]
        | remove other =>
          obtain rfl : other = id := touched
          have listed := List.mem_of_mem_take now
          simp at listed
      · have listed : id ∈ (known.changeAll before).ids := by
          refine ih.2 fun earlier later split untouched => ?_
          refine roomy earlier (later ++ [last]) (by rw [split, List.append_assoc]) ?_
          rw [latest?_snoc, if_neg touched]
          exact untouched
        have kept : id ∈ ((known.changeAll before).remove last.id).ids :=
          mem_remove.2 ⟨listed, Ne.symm touched⟩
        cases last with
        | promote other =>
          have front : other :: ((known.changeAll before).remove other).ids <+:
              other :: (history known.ids before).filter (· ≠ other) :=
            List.prefix_cons_inj other |>.2 ((ids_prefix_history known before).filter _)
          have early := mem_take_of_prefix front (List.mem_cons_of_mem _ kept) now
          rwa [← capacity_changeAll known before] at early
        | remove other => exact kept

end PrinterRoster.KnownGood
