/-! Finite tables from keys to values. A table is seen through `get?`: each
operation changes what `get?` answers at one key and at no other. Entries keep
the order of their latest insertion, and no key has two of them. -/
namespace PrinterRoster

structure Table (κ : Type) (α : Type) where
  entries : List (κ × α)
  distinct : (entries.map Prod.fst).Nodup

namespace Table
variable {κ α : Type} [DecidableEq κ]

def empty : Table κ α := ⟨[], by simp⟩

instance : Inhabited (Table κ α) := ⟨empty⟩

def get? (table : Table κ α) (key : κ) : Option α :=
  (table.entries.find? fun entry => entry.1 = key).map Prod.snd

def contains (table : Table κ α) (key : κ) : Bool := (table.get? key).isSome

def keys (table : Table κ α) : List κ := table.entries.map Prod.fst

def values (table : Table κ α) : List α := table.entries.map Prod.snd

def isEmpty (table : Table κ α) : Bool := table.entries.isEmpty

omit [DecidableEq κ] in
private theorem nodup_filter_keys {entries : List (κ × α)} (h : (entries.map Prod.fst).Nodup)
    (keep : κ × α → Bool) : ((entries.filter keep).map Prod.fst).Nodup :=
  h.sublist (List.filter_sublist.map _)

def erase (table : Table κ α) (key : κ) : Table κ α where
  entries := table.entries.filter fun entry => entry.1 ≠ key
  distinct := nodup_filter_keys table.distinct _

def insert (table : Table κ α) (key : κ) (value : α) : Table κ α where
  entries := (table.erase key).entries ++ [(key, value)]
  distinct := by
    rw [List.map_append, List.nodup_append]
    refine ⟨(table.erase key).distinct, by simp, ?_⟩
    intro a ha b hb same
    simp only [erase, List.mem_map, List.mem_filter, decide_eq_true_eq] at ha
    simp only [List.map_cons, List.map_nil, List.mem_singleton] at hb
    obtain ⟨entry, ⟨_, different⟩, rfl⟩ := ha
    exact different (same.trans hb)

def mapValues (table : Table κ α) (change : α → α) : Table κ α where
  entries := table.entries.map fun entry => (entry.1, change entry.2)
  distinct := by
    have same : (table.entries.map fun entry => (entry.1, change entry.2)).map Prod.fst =
        table.entries.map Prod.fst := by simp [Function.comp_def]
    rw [same]; exact table.distinct

def filterValues (table : Table κ α) (keep : α → Bool) : Table κ α where
  entries := table.entries.filter fun entry => keep entry.2
  distinct := nodup_filter_keys table.distinct _

def ofList (entries : List (κ × α)) : Table κ α :=
  entries.foldl (fun table entry => table.insert entry.1 entry.2) empty

@[simp] theorem get?_empty (key : κ) : (empty : Table κ α).get? key = none := rfl

theorem get?_erase (table : Table κ α) (key other : κ) :
    (table.erase key).get? other = if other = key then none else table.get? other := by
  simp only [get?, erase, List.find?_filter]
  split
  · subst other
    rw [List.find?_eq_none.2]
    · rfl
    · intro entry _; simp
  · rename_i different
    congr 2
    funext entry
    by_cases same : entry.1 = other
    · simp [same, different]
    · simp [same]

theorem get?_insert (table : Table κ α) (key other : κ) (value : α) :
    (table.insert key value).get? other = if other = key then some value else table.get? other := by
  have erased := get?_erase table key other
  simp only [get?] at erased ⊢
  simp only [insert, List.find?_append]
  by_cases same : other = key
  · subst other
    simp only [if_true] at erased ⊢
    rw [Option.map_eq_none_iff] at erased
    simp [erased]
  · rw [if_neg same] at erased ⊢
    rw [← erased]
    have : List.find? (fun entry : κ × α => entry.1 = other) [(key, value)] = none := by
      simp [Ne.symm same]
    rw [this, Option.or_none]

theorem get?_mapValues (table : Table κ α) (change : α → α) (key : κ) :
    (table.mapValues change).get? key = (table.get? key).map change := by
  simp only [get?, mapValues, List.find?_map, Option.map_map, Function.comp_def]

/-- A table holds an entry exactly if it answers its value at its key. -/
theorem get?_eq_some_iff (table : Table κ α) (key : κ) (value : α) :
    table.get? key = some value ↔ (key, value) ∈ table.entries := by
  obtain ⟨entries, distinct⟩ := table
  simp only [get?, Option.map_eq_some_iff]
  constructor
  · rintro ⟨entry, found, rfl⟩
    have same : entry.1 = key := by simpa using List.find?_some found
    subst same
    exact List.mem_of_find?_eq_some found
  · intro member
    induction entries with
    | nil => cases member
    | cons entry others ih =>
      obtain ⟨fresh, distinct⟩ := List.nodup_cons.1 distinct
      by_cases same : entry.1 = key
      · rcases List.mem_cons.1 member with rfl | later
        · exact ⟨(key, value), by simp, rfl⟩
        · exact absurd (List.mem_map.2 ⟨_, later, same.symm⟩) fresh
      · have later : (key, value) ∈ others := by
          rcases List.mem_cons.1 member with rfl | later
          · exact absurd rfl same
          · exact later
        obtain ⟨found, lookup, rest⟩ := ih distinct later
        exact ⟨found, by simp [same, lookup], rest⟩

theorem isEmpty_of_get? {table : Table κ α} {key : κ} {value : α}
    (held : table.get? key = some value) : table.isEmpty = false := by
  have member := (get?_eq_some_iff table key value).1 held
  rw [isEmpty, List.isEmpty_eq_false_iff]
  exact List.ne_nil_of_mem member

/-- The values of a table are what it answers at some key. -/
theorem mem_values_iff (table : Table κ α) (value : α) :
    value ∈ table.values ↔ ∃ key, table.get? key = some value := by
  simp only [get?_eq_some_iff, values, List.mem_map, Prod.exists, exists_eq_right]

theorem get?_filterValues (table : Table κ α) (keep : α → Bool) (key : κ) :
    (table.filterValues keep).get? key = (table.get? key).filter keep := by
  apply Option.ext
  intro value
  rw [get?_eq_some_iff, Option.filter_eq_some_iff, get?_eq_some_iff]
  simp [filterValues]

private theorem get?_foldl_insert (entries : List (κ × α)) (table : Table κ α) (key : κ) :
    (entries.foldl (fun table entry => table.insert entry.1 entry.2) table).get? key =
      ((entries.reverse.find? fun entry => entry.1 = key).map Prod.snd).or (table.get? key) := by
  induction entries generalizing table with
  | nil => rfl
  | cons entry others ih =>
    rw [List.foldl_cons, ih, List.reverse_cons, List.find?_append, get?_insert]
    cases others.reverse.find? fun entry => entry.1 = key with
    | some found => rfl
    | none =>
      by_cases same : key = entry.1
      · simp [same]
      · simp [same, Ne.symm same]

/-- What the table of listed entries answers stands in the last entry with the key. -/
theorem get?_ofList (entries : List (κ × α)) (key : κ) :
    (ofList entries).get? key =
      (entries.reverse.find? fun entry => entry.1 = key).map Prod.snd := by
  rw [ofList, get?_foldl_insert, get?_empty, Option.or_none]

theorem contains_ofList (entries : List (κ × α)) (key : κ) :
    (ofList entries).contains key = entries.any fun entry => entry.1 = key := by
  rw [contains, get?_ofList, Option.isSome_map, List.isSome_find?, List.any_reverse]

end Table

end PrinterRoster
