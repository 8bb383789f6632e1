import Mathlib.Data.Finset.Card
import PrinterRoster.CapabilityCache
import PrinterRoster.Proofs.Session.Duplicates
import PrinterRoster.Proofs.Session.Review

/-! Commands about two printers in either order. Sources deliver their reports in any order, and the
queries are answered in any order. What a command about one printer depends on is not touched by a
command about another one, as long as neither drops from the cache what the other looks up and no
printer loses its place in the known-good list for want of room. -/
namespace PrinterRoster

namespace CapabilityCache

def removeAll (cache : CapabilityCache) (uris : List String) : CapabilityCache :=
  uris.foldl remove cache

private theorem cached_removeAll {cache : CapabilityCache} {uris : List String} {path : String}
    (kept : path ∉ uris) : (cache.removeAll uris).cached path = cache.cached path := by
  induction uris generalizing cache with
  | nil => rfl
  | cons uri others ih =>
    rw [List.mem_cons, not_or] at kept
    rw [removeAll, List.foldl_cons]
    exact (ih kept.2).trans (by rw [cached_remove, if_neg kept.1])

end CapabilityCache

namespace KnownGood

/-- Where there is room for everybody, nobody makes way for the promoted one. -/
theorem mem_promote_iff {known : KnownGood} (sound : known.Sound) {id : PrinterId}
    (room : (insert id known.ids.toFinset).card ≤ known.capacity) {other : PrinterId} :
    other ∈ (known.promote id).ids ↔ other = id ∨ other ∈ known.ids := by
  have front : (id :: (known.remove id).ids).Nodup :=
    List.nodup_cons.2 ⟨by simp [remove], sound.nodup.filter _⟩
  have size : (id :: (known.remove id).ids).length ≤ known.capacity := by
    rw [← List.toFinset_card_of_nodup front]
    refine (Finset.card_le_card ?_).trans room
    intro listed
    simp only [remove, List.toFinset_cons, List.toFinset_filter, Finset.mem_insert,
      Finset.mem_filter]
    tauto
  rw [promote, List.take_of_length_le size, List.mem_cons, mem_remove]
  tauto

end KnownGood

namespace Session

theorem mem_vouched_iff {known : KnownGood} (sound : known.Sound) {record : Record}
    (room : (insert record.id known.ids.toFinset).card ≤ known.capacity) {id : PrinterId} :
    id ∈ (vouched known record).ids ↔
      if id = record.id then record.vouches = true else id ∈ known.ids := by
  unfold vouched
  split
  · rename_i vouches
    rw [KnownGood.mem_promote_iff sound room]
    split <;> simp_all
  · rename_i unhealthy
    rw [KnownGood.mem_remove]
    split <;> simp_all

def Moment.over (cache : CapabilityCache) (now : Nat) : Moment :=
  ⟨now, fun printer => cache.cached printer.path⟩

/-- Handles two commands at one instant. What the first drops from the cache is not there any more
for the second. -/
def handleBoth (session : Session) (cache : CapabilityCache) (now : Nat) (first second : Command) :
    Outcome :=
  let outcome := session.handle (.over cache now) first
  andThen outcome (·.handle (.over (cache.removeAll (forgotten outcome.2)) now) second)

def Command.printer? : Command → Option Printer
  | .found printer => some printer
  | .lost printer => some printer
  | _ => none

/-- What is known of a printer of one command is not cached where the printer of another is. -/
def Command.Apart (first second : Command) : Prop :=
  ∀ printer ∈ first.printer?, ∀ other ∈ second.printer?,
    printer.uri ≠ other.path ∧ other.uri ≠ printer.path

/-- Two outcomes that come to the same. -/
structure Interchangeable (first second : Outcome) : Prop where
  records : ∀ id, first.1.records.get? id = second.1.records.get? id
  shown : ∀ id, (shownAfter first).get? id = (shownAfter second).get? id
  deadline : first.1.deadline = second.1.deadline
  generation : first.1.generation = second.1.generation
  timed : timing first.2 = timing second.2
  knownGood : ∀ id, id ∈ first.1.knownGood.ids ↔ id ∈ second.1.knownGood.ids
  requests : (requested first.2).Perm (requested second.2)
  forgotten : (forgotten first.2).Perm (forgotten second.2)

section Once
variable {session : Session} {now : Nat} {id : PrinterId} {review : Option Review}
  {outcome : Outcome} (handled : Handled session now id review outcome)
include handled

private theorem Handled.capacity : outcome.1.knownGood.capacity = session.knownGood.capacity := by
  rw [handled.knownGood]
  cases review with
  | none => rfl
  | some made =>
    dsimp only [Option.map_some, Option.getD_some, vouched]
    split <;> rfl

variable (sound : session.knownGood.Sound)
include sound

private theorem Handled.sound_knownGood : outcome.1.knownGood.Sound := by
  rw [handled.knownGood]
  cases review with
  | none => exact sound
  | some made =>
    rw [Option.map_some, Option.getD_some, vouched_eq_change]
    exact sound.change _

variable (room : (insert id session.knownGood.ids.toFinset).card ≤ session.knownGood.capacity)
include room

private theorem Handled.mem_knownGood (other : PrinterId) :
    other ∈ outcome.1.knownGood.ids ↔
      if other = id then review.elim (id ∈ session.knownGood.ids) (·.record.vouches = true)
      else other ∈ session.knownGood.ids := by
  rw [handled.knownGood]
  cases review with
  | none => split <;> simp_all
  | some made =>
    obtain rfl := handled.named made rfl
    exact mem_vouched_iff sound room

private theorem Handled.contains_other {other : PrinterId} (different : other ≠ id) :
    outcome.1.knownGood.contains other = session.knownGood.contains other := by
  have member := handled.mem_knownGood sound room other
  rw [if_neg different] at member
  simp only [KnownGood.contains, List.contains_eq_mem, member]

end Once

structure Normal (session : Session) (now : Nat) (a b : PrinterId) (mine yours : Option Review)
    (dropped : List String) (outcome : Outcome) : Prop where
  records : ∀ id, outcome.1.records.get? id =
    if id = a then mine.map fun made => settled session.knownGood made.record made.wants
    else if id = b then yours.map fun made => settled session.knownGood made.record made.wants
    else session.records.get? id
  shown : ∀ view : View,
    (∀ id, (view.get? id).isSome = (session.records.get? id).any (·.published)) → ∀ id,
      (view.hearAll (published outcome.2)).get? id =
        if id = a then mine.bind fun made => shown? session.knownGood made.record
        else if id = b then yours.bind fun made => shown? session.knownGood made.record
        else view.get? id
  knownGood : ∀ id, id ∈ outcome.1.knownGood.ids ↔
    if id = a then mine.elim (a ∈ session.knownGood.ids) (·.record.vouches = true)
    else if id = b then yours.elim (b ∈ session.knownGood.ids) (·.record.vouches = true)
    else id ∈ session.knownGood.ids
  deadline : outcome.1.deadline =
    if session.setsDeadline mine || session.setsDeadline yours then some (now + session.window)
    else session.deadline
  generation : outcome.1.generation =
    if session.setsDeadline mine || session.setsDeadline yours then session.generation + 1
    else session.generation
  timed : timing outcome.2 =
    if session.setsDeadline mine || session.setsDeadline yours then
      [.arm (session.generation + 1) (now + session.window)]
    else []
  requests : (requested outcome.2).Perm
    ((mine.map Review.queries).getD [] ++ (yours.map Review.queries).getD [])
  forgotten : (forgotten outcome.2).Perm dropped

section Twice
variable {session : Session} {now : Nat} {a b : PrinterId} {mine yours : Option Review}

theorem Normal.symm (different : a ≠ b) {dropped others : List String} {outcome : Outcome}
    (normal : Normal session now a b mine yours dropped outcome) (same : dropped.Perm others) :
    Normal session now b a yours mine others outcome := by
  have swap {α : Type} (id : PrinterId) (x y z : α) :
      (if id = a then x else if id = b then y else z) =
        if id = b then y else if id = a then x else z := by
    by_cases first : id = a
    · rw [if_pos first, if_neg (first ▸ different), if_pos first]
    · rw [if_neg first, if_neg first]
  exact {
    records := fun id => (normal.records id).trans (swap ..)
    shown := fun view visible id => (normal.shown view visible id).trans (swap ..)
    knownGood := fun id => (normal.knownGood id).trans (by rw [swap])
    deadline := by rw [normal.deadline, Bool.or_comm]
    generation := by rw [normal.generation, Bool.or_comm]
    timed := by rw [normal.timed, Bool.or_comm]
    requests := normal.requests.trans List.perm_append_comm
    forgotten := normal.forgotten.trans same }

variable {first second : Outcome} (one : Handled session now a mine first)
  (two : Handled first.1 now b yours second) (different : a ≠ b)
  (sound : session.knownGood.Sound)
  (room : (insert a (insert b session.knownGood.ids.toFinset)).card ≤ session.knownGood.capacity)
include one two different sound room

private theorem normal_of_handled : Normal session now a b mine yours
    (forgotten first.2 ++ forgotten second.2) (second.1, first.2 ++ second.2) := by
  have roomFirst : (insert a session.knownGood.ids.toFinset).card ≤ session.knownGood.capacity :=
    (Finset.card_le_card (Finset.insert_subset_insert a (Finset.subset_insert ..))).trans room
  have roomSecond :
      (insert b first.1.knownGood.ids.toFinset).card ≤ first.1.knownGood.capacity := by
    rw [one.capacity]
    refine (Finset.card_le_card ?_).trans room
    intro id
    have member := one.mem_knownGood sound roomFirst id
    simp only [Finset.mem_insert, List.mem_toFinset, member]
    split <;> tauto
  have known : first.1.knownGood.contains b = session.knownGood.contains b :=
    one.contains_other sound roomFirst different.symm
  have same : ∀ made ∈ yours,
      first.1.knownGood.contains made.record.id = session.knownGood.contains made.record.id := by
    intro made member
    rw [two.named made member, known]
  have settles : (yours.map fun made => settled first.1.knownGood made.record made.wants) =
      yours.map fun made => settled session.knownGood made.record made.wants :=
    Option.map_congr fun made member => settled_congr (same made member) _
  have shows : (yours.bind fun made => shown? first.1.knownGood made.record) =
      yours.bind fun made => shown? session.knownGood made.record :=
    Option.bind_congr fun made member => shown?_congr (same made member)
  have untouched : first.1.records.get? b = session.records.get? b := by
    rw [one.records, if_neg different.symm]
  have sets : first.1.setsDeadline yours =
      (!session.setsDeadline mine && session.setsDeadline yours) := by
    rw [setsDeadline, one.deadline]
    cases session.setsDeadline mine <;> simp [setsDeadline]
  exact {
    records := by
      intro id
      dsimp only
      rw [two.records, settles, one.records]
      by_cases latter : id = b
      · rw [if_pos latter, if_neg (latter ▸ different.symm), if_pos latter]
      · rw [if_neg latter, if_neg latter]
    shown := by
      intro view visible id
      have after := one.shown (visible a)
      have matching : ((view.hearAll (published first.2)).get? b).isSome =
          (first.1.records.get? b).any (·.published) := by
        rw [after, if_neg different.symm, untouched]
        exact visible b
      rw [published_append, hearAll_append, two.shown matching, shows, after]
      by_cases latter : id = b
      · rw [if_pos latter, if_neg (latter ▸ different.symm), if_pos latter]
      · rw [if_neg latter, if_neg latter]
    knownGood := by
      intro id
      dsimp only
      have stays := one.mem_knownGood sound roomFirst
      rw [two.mem_knownGood (one.sound_knownGood sound) roomSecond, stays b, if_neg different.symm,
        stays]
      by_cases latter : id = b
      · rw [if_pos latter, if_neg (latter ▸ different.symm), if_pos latter]
      · rw [if_neg latter, if_neg latter]
    deadline := by
      dsimp only
      rw [two.deadline, sets, one.deadline, one.window]
      cases session.setsDeadline mine <;> cases session.setsDeadline yours <;> simp
    generation := by
      dsimp only
      rw [two.generation, sets, one.generation]
      cases session.setsDeadline mine <;> cases session.setsDeadline yours <;> simp
    timed := by
      dsimp only
      rw [timing_append, two.timed, sets, one.timed, one.generation, one.window]
      cases session.setsDeadline mine <;> cases session.setsDeadline yours <;> simp
    requests := by
      dsimp only
      rw [requested_append, one.requests, two.requests]
    forgotten := by
      dsimp only
      rw [forgotten_append] }

end Twice

private theorem Normal.interchangeable {session : Session} {now : Nat} {a b : PrinterId}
    {mine yours : Option Review} {dropped : List String} {first second : Outcome}
    (one : Normal session now a b mine yours dropped first)
    (two : Normal session now a b mine yours dropped second) {earlier : List Effect}
    (visible : ∀ id, ((View.hearAll Table.empty (published earlier)).get? id).isSome =
      (session.records.get? id).any (·.published)) :
    Interchangeable (first.1, earlier ++ first.2) (second.1, earlier ++ second.2) where
  records := fun id => (one.records id).trans (two.records id).symm
  shown := by
    intro id
    simp only [shownAfter, published_append, hearAll_append]
    exact (one.shown _ visible id).trans (two.shown _ visible id).symm
  deadline := one.deadline.trans two.deadline.symm
  generation := one.generation.trans two.generation.symm
  timed := by simp only [timing_append, one.timed, two.timed]
  knownGood := fun id => (one.knownGood id).trans (two.knownGood id).symm
  requests := by
    simp only [requested_append]
    exact (one.requests.trans two.requests.symm).append_left _
  forgotten := by
    simp only [forgotten_append]
    exact (one.forgotten.trans two.forgotten.symm).append_left _

/-- What a command about another printer drops from the cache is not looked up. -/
theorem cached_after_forgets {first second : Command} (apart : first.Apart second)
    (cache : CapabilityCache) (now : Nat) :
    ∀ printer, second = .found printer →
      (Moment.over (cache.removeAll first.forgets) now).cached printer =
        (Moment.over cache now).cached printer := by
  rintro printer rfl
  apply CapabilityCache.cached_removeAll
  cases first with
  | lost other =>
    dsimp only [Command.forgets]
    split
    · rw [List.mem_singleton]
      exact (apart other rfl printer rfl).1.symm
    · exact List.not_mem_nil
  | _ => exact List.not_mem_nil

section Order
variable {session : Session} (owned : session.Owned) (lives : session.destroyed = false)
  (sound : session.knownGood.Sound) (cache : CapabilityCache) (now : Nat)
  {first second : Command} {a b : PrinterId} (about : first.subject? = some a)
  (other : second.subject? = some b) (different : a ≠ b) (apart : first.Apart second)
  (room : (insert a (insert b session.knownGood.ids.toFinset)).card ≤ session.knownGood.capacity)
include owned lives sound about other different apart room

theorem normal_handleBoth : Normal session now a b (session.review? (.over cache now) first)
    (session.review? (.over cache now) second) (first.forgets ++ second.forgets)
    (session.handleBoth cache now first second) := by
  obtain ⟨one, drops⟩ := handled_handle owned lives (.over cache now) about
  have ownedNext := owned_handle owned (.over cache now) first
  obtain ⟨two, dropsNext⟩ := handled_handle ownedNext (one.lives.trans lives)
    (.over (cache.removeAll first.forgets) now) other
  have untouched : (session.handle (.over cache now) first).1.records.get? b =
      session.records.get? b := by
    rw [one.records, if_neg different.symm]
  have evaluates : (session.handle (.over cache now) first).1.review?
      (.over (cache.removeAll first.forgets) now) second =
        session.review? (.over cache now) second :=
    review?_congr other untouched (one.priority b) rfl (cached_after_forgets apart cache now)
  rw [evaluates] at two
  have normal := normal_of_handled one two different sound room
  rw [drops, dropsNext] at normal
  simp only [handleBoth, andThen, drops]
  exact normal

end Order

theorem knownGood_reached (window capacity : Nat) (file : StoredFile) (turns : List Turn) :
    let reached := ((fresh window (KnownGood.load file capacity)).handleAll turns).1
    reached.knownGood.Sound ∧ reached.knownGood.capacity = capacity := by
  intro reached
  have history : reached.knownGood = (KnownGood.load file capacity).changeAll _ :=
    knownGood_handleAll (vetted_handleAll window _ []).1 turns
  have sound : (KnownGood.load file capacity).Sound := KnownGood.sound_ofList ..
  rw [history, KnownGood.capacity_changeAll]
  exact ⟨sound.changeAll _, rfl⟩

/-- Two commands about different printers come to the same in either order, as long as neither
printer is dropped from the cache as the other one, and nobody is pushed off the known-good list. -/
theorem order_of_commands_is_immaterial (window capacity : Nat) (file : StoredFile)
    (turns : List Turn) (cache : CapabilityCache) (now : Nat) {first second : Command}
    {a b : PrinterId} (about : first.subject? = some a) (other : second.subject? = some b)
    (different : a ≠ b) (apart : first.Apart second) :
    let reached := (fresh window (KnownGood.load file capacity)).handleAll turns
    reached.1.destroyed = false →
    (insert a (insert b reached.1.knownGood.ids.toFinset)).card ≤ capacity →
    Interchangeable (andThen reached (·.handleBoth cache now first second))
      (andThen reached (·.handleBoth cache now second first)) := by
  intro reached lives room
  obtain ⟨sound, size⟩ := knownGood_reached window capacity file turns
  obtain ⟨owned, _⟩ := vetted_handleAll window (KnownGood.load file capacity) turns
  obtain ⟨_, agreement⟩ := agreement_handleAll window (KnownGood.load file capacity) turns
    (goOn_of_lives window _ turns lives)
  have roomEither : (insert b (insert a reached.1.knownGood.ids.toFinset)).card ≤
      reached.1.knownGood.capacity := by
    rw [Finset.insert_comm, size]
    exact room
  have inOrder := normal_handleBoth owned lives sound cache now about other different apart
    (room.trans_eq size.symm)
  have reversed := normal_handleBoth owned lives sound cache now other about different.symm
    (fun printer names another namesOther => (apart another namesOther printer names).symm)
    roomEither
  exact inOrder.interchangeable (reversed.symm different.symm List.perm_append_comm)
    fun id => (agreement id).visible

/-- One printer is lost while another one is sighted. -/
theorem order_of_loss_and_sighting_is_immaterial :
    let office := Printer.report (some "urn:uuid:1") "Office" "ipp://h" none
    let lobby := Printer.report none "Lobby" "ipp://g" none
    let healthy : Capabilities := { (default : Capabilities) with isSupported := true }
    let reached := (fresh 3000 (KnownGood.load .vacant 50)).handleAll
      [⟨⟨0, fun _ => some healthy⟩, .found lobby⟩]
    let cache := CapabilityCache.empty.store "ipp://g" (some healthy)
    office.id ≠ lobby.id ∧ reached.1.destroyed = false ∧
      Interchangeable (andThen reached (·.handleBoth cache 5 (.found office) (.lost lobby)))
        (andThen reached (·.handleBoth cache 5 (.lost lobby) (.found office))) := by
  intro office lobby healthy reached cache
  have apart : Command.Apart (.found office) (.lost lobby) := by
    rintro printer ⟨⟩ other ⟨⟩
    decide
  have lives : reached.1.destroyed = false := by decide
  have room : (insert office.id (insert lobby.id reached.1.knownGood.ids.toFinset)).card ≤ 50 := by
    decide +kernel
  exact ⟨by decide, lives, order_of_commands_is_immaterial 3000 50 .vacant _ cache 5 rfl rfl
    (by decide) apart lives room⟩

end Session

end PrinterRoster
