import PrinterRoster.Proofs.Session.Watch

/-! A start that follows a start. A start makes every printer gone until it is sighted again,
and relies on the source to report all that it sees. But a hub that knows the session already
reports nothing anew. So a printer that was reported before and stays as it is, is gone
although it is visible, and the next sweep removes it. -/
namespace PrinterRoster.Watch
open Session

def visibleAt? (watch : Watch) (path : String) : Option Printer := watch.hub.visible.get? path

def Finds (watch : Watch) (id : PrinterId) : Prop :=
  ∃ record ∈ watch.session.records.get? id, record.isFound = true

/-- A start finds the session registered, and a printer visible at a path of which nothing
is pending. -/
def Overlooked (watch : Watch) (path : String) : Prop :=
  watch.listener ∈ watch.hub.listeners ∧ ∃ printer ∈ watch.visibleAt? path,
    ∀ sighting ∈ watch.pending, sighting.printer.id ≠ printer.id

/-- During some moves, what is visible at a path stays as it was before them. -/
def Untouched (watch : Watch) (moves : List Move) (path : String) : Prop :=
  Throughout move watch moves (·.visibleAt? path = watch.visibleAt? path)

theorem untouched_snoc (watch : Watch) (moves : List Move) (move : Move) (path : String) :
    watch.Untouched (moves ++ [move]) path ↔
      watch.Untouched moves path ∧
        ((stateAfter Watch.move watch moves).move move).visibleAt? path =
          (stateAfter Watch.move watch moves).visibleAt? path := by
  rw [Untouched, throughout_snoc]
  exact and_congr_right fun untouched => by rw [untouched.last]

section Step
variable {home : PrinterId → String} {watch : Watch} {move : Move}
  (allowed : move.allows home = true) (stays : move.switches = false)
include allowed stays

theorem registered_move : (watch.move move).listener ∈ (watch.move move).hub.listeners ↔
    watch.listener ∈ watch.hub.listeners := by
  cases move with
  | handle turn => rw [Watch.move, handle_of_allows allowed stays]
  | deliver moment => rw [Watch.move, deliver_eq]
  | report report => simp [Watch.move, tell]
  | forget => simp [Watch.move, tell, Hub.printersLostTo]

/-- While a session is registered, a move makes right what it changes, and nothing else. -/
theorem right_move_iff (sound : watch.Sound home)
    (registered : watch.listener ∈ watch.hub.listeners) (path : String) :
    (watch.move move).Right path ↔
      watch.Right path ∨ (watch.move move).visibleAt? path ≠ watch.visibleAt? path := by
  cases move with
  | handle turn =>
    have same : (watch.handle turn).hub = watch.hub := by rw [handle_of_allows allowed stays]
    simp only [Watch.move, Right, visibleAt?, same, expects_handle sound.owned sound.lives allowed stays,
      ne_eq, not_true_eq_false, or_false]
  | deliver moment =>
    have same : (watch.deliver moment).hub = watch.hub := by rw [deliver_eq]
    simp only [Watch.move, Right, visibleAt?, same, expects_deliver sound.owned sound.lives, ne_eq,
      not_true_eq_false, or_false]
  | report report => exact right_told_iff sound (told_report sound allowed) registered
  | forget => exact right_told_iff sound (told_forget sound) registered

end Step

/-- After a start, what is visible at a path will be there unless the start overlooked it. -/
theorem right_start_iff {home : PrinterId → String} {watch : Watch} (sound : watch.Sound home)
    (moment : Moment) (priority : List PrinterId) (path : String) :
    (watch.handle ⟨moment, .start priority⟩).Right path ↔ ¬ watch.Overlooked path := by
  rw [handle_start]
  simp only [Right, Hub.visible_addListener]
  constructor
  · rintro right ⟨registered, printer, visible, untold⟩
    have expected := right printer visible
    simp only [Expects, registered, if_true, List.append_nil, latest?_eq_none.2 untold,
      Option.elim_none] at expected
    exact not_here_start _ _ _ _ expected
  · intro noticed printer visible
    by_cases registered : watch.listener ∈ watch.hub.listeners
    · cases told : latest? watch.pending printer.id with
      | none => exact absurd ⟨registered, printer, visible, latest?_eq_none.1 told⟩ noticed
      | some sighting =>
        simp only [Expects, registered, if_true, List.append_nil, told, Option.elim_some]
        exact sound.timely registered path printer visible sighting told
    · obtain ⟨sighting, told, found⟩ := latest?_replay sound.hub watch.pending visible
      simp only [Expects, registered, if_false, told, Option.elim_some, found]

theorem registered_start (watch : Watch) (moment : Moment) (priority : List PrinterId) :
    (watch.handle ⟨moment, .start priority⟩).listener ∈
      (watch.handle ⟨moment, .start priority⟩).hub.listeners := by
  rw [handle_start]
  exact Hub.mem_listeners_addListener.2 (Or.inr rfl)

section Run
variable {home : PrinterId → String} {watch : Watch} {moves : List Move}
  (allowed : ∀ move ∈ moves, move.allows home = true)
  (stays : ∀ move ∈ moves, move.switches = false)
include allowed stays

theorem registered_run :
    (stateAfter move watch moves).listener ∈ (stateAfter move watch moves).hub.listeners ↔
      watch.listener ∈ watch.hub.listeners :=
  holds_stateAfter
    (fun state : Watch => state.listener ∈ state.hub.listeners ↔ watch.listener ∈ watch.hub.listeners)
    Iff.rfl fun _ same move made =>
      (registered_move (allowed move made) (stays move made)).trans same

/-- While a registered session is not started or stopped, it comes to be right about a path
by what changes there, and only so. -/
theorem right_run_iff (sound : watch.Sound home) (registered : watch.listener ∈ watch.hub.listeners)
    (path : String) :
    (stateAfter move watch moves).Right path ↔ ¬ (¬ watch.Right path ∧ watch.Untouched moves path) := by
  -- On the last move, before which the path is untouched or the session is right already.
  induction moves using List.reverseRecOn with
  | nil =>
    have untouched : watch.Untouched [] path := throughout_nil.2 rfl
    simp [untouched]
  | append_singleton earlier move ih =>
    obtain ⟨allowedBefore, allowedLast⟩ := List.forall_mem_append.1 allowed
    obtain ⟨staysBefore, staysLast⟩ := List.forall_mem_append.1 stays
    have last := List.mem_singleton_self move
    rw [stateAfter_snoc, right_move_iff (allowedLast move last) (staysLast move last)
      (sound.run allowedBefore) ((registered_run allowedBefore staysBefore).2 registered),
      ih allowedBefore staysBefore, untouched_snoc]
    tauto

end Run

/-- When all that the hub told is handled after a latest start, the printer visible at a path
is found, exactly if the start did not overlook it or something changed there since. -/
theorem found_iff_not_overlooked (home : PrinterId → String) (window : Nat) (known : KnownGood)
    (listener : Listener) (before : List Move) (moment : Moment) (priority : List PrinterId)
    (after : List Move) (allowed : ∀ move ∈ before ++ after, move.allows home = true)
    (stays : ∀ move ∈ after, move.switches = false)
    (delivered : (stateAfter move ((stateAfter move (begin window known listener) before).handle
      ⟨moment, .start priority⟩) after).pending = []) :
    let watch := stateAfter move (begin window known listener) before
    let started := watch.handle ⟨moment, .start priority⟩
    ∀ path, (∀ printer ∈ (stateAfter move started after).visibleAt? path,
        (stateAfter move started after).Finds printer.id) ↔
      ¬ (watch.Overlooked path ∧ started.Untouched after path) := by
  intro watch started path
  obtain ⟨allowedBefore, allowedAfter⟩ := List.forall_mem_append.1 allowed
  have sound : watch.Sound home := (sound_begin home window known listener).run allowedBefore
  have soundStarted : started.Sound home := sound.handle nofun
  have right := right_run_iff allowedAfter stays soundStarted (registered_start watch moment priority)
    path
  rw [right_start_iff sound, not_not] at right
  rw [← right]
  refine forall₂_congr fun printer _ => ?_
  have pending : (stateAfter move started after).pending = [] := delivered
  rw [Expects, pending, Finds, ← here_iff]
  rfl

theorem found_iff_not_overlooked_while_pending :
    let office := Printer.report none "Office" "ipp://h" none
    let moment : Moment := ⟨0, fun _ => none⟩
    let before : List Move := [.handle ⟨moment, .start []⟩, .report (.found office)]
    let after : List Move := [.deliver moment, .handle ⟨⟨3000, fun _ => none⟩, .tick 1⟩]
    let watch := stateAfter move (begin 3000 (.empty 50) 0) before
    let started := watch.handle ⟨moment, .start []⟩
    (∀ move ∈ before ++ after, move.allows PrinterId.text = true) ∧
      (∀ move ∈ after, move.switches = false) ∧ (stateAfter move started after).pending = [] ∧
        (stateAfter move started after).visibleAt? office.path = some office ∧
          (stateAfter move started after).Finds office.id := by
  intro office moment before after watch started
  have allowed : ∀ move ∈ before ++ after, move.allows PrinterId.text = true := by decide +kernel
  have stays : ∀ move ∈ after, move.switches = false := by decide +kernel
  have delivered : (stateAfter move started after).pending = [] := by decide +kernel
  have visible : (stateAfter move started after).visibleAt? office.path = some office := by
    decide +kernel
  have settled := found_iff_not_overlooked PrinterId.text 3000 (.empty 50) 0 before moment [] after
    allowed stays delivered office.path
  refine ⟨allowed, stays, delivered, visible, settled.2 ?_ office visible⟩
  rintro ⟨⟨_, printer, seen, untold⟩, _⟩
  have known : watch.visibleAt? office.path = some office := by decide +kernel
  have pending : Sighting.found office ∈ watch.pending := by decide +kernel
  have same : office = printer := Option.some.inj (known.symm.trans seen)
  exact untold (.found office) pending (congrArg Printer.id same)

/-- A session is started again while a printer that it found stays visible. All that was told
is handled, and yet the printer is gone, and the sweep removes it. -/
theorem second_start_overlooks_printer :
    let office := Printer.report none "Office" "ipp://h" none
    let moment : Moment := ⟨0, fun _ => none⟩
    let final := stateAfter move (begin 3000 (.empty 50) 0) [.handle ⟨moment, .start []⟩,
      .report (.found office), .deliver moment, .handle ⟨moment, .start []⟩]
    final.pending = [] ∧ final.hub.visible.get? office.path = some office ∧
      (∃ record ∈ final.session.records.get? office.id, record.isFound = false) ∧
        let swept := final.handle ⟨⟨3000, fun _ => none⟩, .tick final.session.generation⟩
        swept.hub.visible.get? office.path = some office ∧
          swept.session.records.get? office.id = none := by
  decide +kernel

end PrinterRoster.Watch
