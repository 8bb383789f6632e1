import PrinterRoster.Printer
import PrinterRoster.Storage

/-! Known-good printers: the ids of printers that were lately confirmed to be
healthy, latest first and at most `capacity` of them. They are kept between
sessions in a file, as a JSON array of texts; a file that holds anything else
counts as empty. -/
namespace PrinterRoster

structure KnownGood where
  ids : List PrinterId
  capacity : Nat
deriving DecidableEq, Inhabited

namespace KnownGood

def empty (capacity : Nat) : KnownGood := ⟨[], capacity⟩

/-- The first of the listed ids that differ, as many as there is room for. -/
def ofList (ids : List PrinterId) (capacity : Nat) : KnownGood :=
  ⟨ids.eraseDups.take capacity, capacity⟩

def parse? (text : String) : Option (List PrinterId) :=
  (Json.parse? text).bind (Json.asList? fun item => item.asText?.map PrinterId.mk)

def load (file : StoredFile) (capacity : Nat) : KnownGood :=
  ofList ((file.content?.bind parse?).getD []) capacity

def contains (known : KnownGood) (id : PrinterId) : Bool := known.ids.contains id

def remove (known : KnownGood) (id : PrinterId) : KnownGood :=
  { known with ids := known.ids.filter (· ≠ id) }

def promote (known : KnownGood) (id : PrinterId) : KnownGood :=
  { known with ids := (id :: (known.remove id).ids).take known.capacity }

def text (known : KnownGood) : String :=
  (Json.array ((known.ids.take known.capacity).map fun id => Json.text id.text)).compact

def save (known : KnownGood) (file : StoredFile) : StoredFile := file.write known.text

@[simp] theorem capacity_promote (known : KnownGood) (id : PrinterId) :
    (known.promote id).capacity = known.capacity := rfl

@[simp] theorem capacity_remove (known : KnownGood) (id : PrinterId) :
    (known.remove id).capacity = known.capacity := rfl

theorem mem_remove {known : KnownGood} {id other : PrinterId} :
    other ∈ (known.remove id).ids ↔ other ∈ known.ids ∧ other ≠ id := by
  simp [remove]

theorem mem_promote {known : KnownGood} {id other : PrinterId} (different : other ≠ id)
    (member : other ∈ (known.promote id).ids) : other ∈ known.ids := by
  have kept : other ∈ id :: (known.remove id).ids := List.mem_of_mem_take member
  simp only [List.mem_cons, different, false_or, mem_remove] at kept
  exact kept.1

theorem remove_of_not_contains {known : KnownGood} {id : PrinterId}
    (absent : known.contains id = false) : known.remove id = known := by
  rw [contains, List.contains_eq_mem, decide_eq_false_iff_not] at absent
  rw [remove, List.filter_eq_self.2]
  intro other member
  rw [decide_eq_true_eq]
  rintro rfl
  exact absent member

end KnownGood

end PrinterRoster
