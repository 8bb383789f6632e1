import PrinterRoster.Proofs.Session.Expiry
import PrinterRoster.Proofs.Session.Subscriber

/-! What becomes of the roster of a stopped session before it is started again. The stop
unsets the deadline, but a printer that is reported lost afterwards, which a source may do
because it is stopped, sets one again. So there is a sweep exactly if the tick of that
deadline is handled before another stop, and only a sweep takes a printer off the roster. -/
namespace PrinterRoster.Session

def entries (session : Session) : List Turn → List Entry
  | [] => []
  | turn :: others =>
    let entry : Entry := ⟨session, turn.moment, turn.command⟩
    entry :: entries entry.after others

def Entry.Loses (entry : Entry) : Prop :=
  ∃ printer, entry.command = .lost printer ∧
    (entry.before.records.get? printer.id).isSome = true

/-- The tick of a generation is handled, and no stop before it. -/
inductive TickComes (generation : Nat) : List Entry → Prop
  | now (entry : Entry) (others : List Entry) (ticks : entry.command = .tick generation) :
      TickComes generation (entry :: others)
  | later (entry : Entry) (others : List Entry) (goesOn : entry.command ≠ .stop)
      (comes : TickComes generation others) : TickComes generation (entry :: others)

/-- A printer on the roster is reported lost, and the tick of the deadline that is set
then is handled before a stop. -/
inductive LossTicks : List Entry → Prop
  | now (entry : Entry) (others : List Entry) (loses : entry.Loses)
      (comes : TickComes entry.after.generation others) : LossTicks (entry :: others)
  | later (entry : Entry) (others : List Entry) (ticks : LossTicks others) :
      LossTicks (entry :: others)

private theorem not_lossTicks {entries : List Entry} (unlost : ∀ entry ∈ entries, ¬ entry.Loses) :
    ¬ LossTicks entries := by
  intro ticks
  induction ticks with
  | now entry _ loses _ => exact unlost entry List.mem_cons_self loses
  | later entry _ _ ih => exact ih fun other member => unlost other (List.mem_cons_of_mem entry member)

namespace Entry
variable {entry : Entry}

private theorem sweeps_of_current {generation : Nat} (goesOn : entry.command ≠ .destroy)
    (ticks : entry.command = .tick generation) (set : entry.before.deadline.isSome = true)
    (current : generation = entry.before.generation) : entry.Sweeps generation := by
  refine ⟨ticks, ?_⟩
  intro same
  have keeps : entry.outcome.1 = entry.before := by rw [same]
  cases entry.deadlineChange goesOn with
  | kept _ ignored _ _ _ =>
    rcases (ignored generation ticks).2 with unset | stale
    · rw [unset] at set
      cases set
    · exact stale current
  | armed _ unset _ _ _ =>
    rw [unset] at set
    cases set
  | stopped stops _ _ _ => cases stops.symm.trans ticks
  | usedUp _ _ _ unset _ _ =>
    rw [keeps] at unset
    rw [unset] at set
    cases set
  | renewed _ _ _ next _ =>
    rw [keeps] at next
    exact absurd next (Nat.ne_of_lt (Nat.lt_succ_self _))

private theorem Loses.isSome_deadline (loses : entry.Loses) (owned : entry.before.Owned)
    (lives : entry.before.destroyed = false) : entry.after.deadline.isSome = true := by
  obtain ⟨before, moment, command⟩ := entry
  obtain ⟨printer, told, listed⟩ := loses
  dsimp only at told listed owned lives
  subst told
  obtain ⟨record, held⟩ := Option.isSome_iff_exists.1 listed
  have handled : before.handle moment (.lost printer) = before.lost moment.now printer := by
    simp only [handle, lives, Bool.false_eq_true, if_false]
  have left : (before.lost moment.now printer).1.presence? printer.id =
      some record.presence.leave := by
    rw [presence?_lost before moment.now printer printer.id owned, if_pos rfl, presence?, held]
    rfl
  rw [after, outcome, handled]
  exact isSome_deadline_lost owned left

/-- Apart from a start, only the loss of a printer on the roster sets a deadline. -/
theorem loses_of_armed (unset : entry.before.deadline = none)
    (set : entry.after.deadline.isSome = true)
    (unstarted : ∀ priority, entry.command ≠ .start priority)
    (goesOn : entry.command ≠ .destroy) : entry.Loses := by
  obtain ⟨before, moment, command⟩ := entry
  dsimp only at unset unstarted goesOn
  have unkept : (before.handle moment command).1.deadline ≠ before.deadline := by
    intro same
    rw [after, outcome, same, unset] at set
    cases set
  cases command with
  | start priority => exact absurd rfl (unstarted priority)
  | destroy => exact absurd rfl goesOn
  | stop => exact absurd unset.symm unkept
  | track id =>
    refine absurd ?_ unkept
    dsimp only [handle, track]
    split
    · exact (rosterChange_request _ id true).sameTimer.deadline
    · rfl
  | untrack id => exact absurd rfl unkept
  | found printer =>
    refine absurd ?_ unkept
    dsimp only [handle]
    split
    · rfl
    · exact (rosterChange_found before moment printer).sameTimer.deadline
  | lost printer =>
    refine ⟨printer, rfl, ?_⟩
    rw [Option.isSome_iff_ne_none]
    intro absent
    refine absurd ?_ unkept
    dsimp only [handle] at absent ⊢
    split
    · rfl
    · simp only [lost, absent]
  | answered id answer =>
    refine absurd ?_ unkept
    dsimp only [handle]
    split
    · rfl
    · exact (rosterChange_answered before id answer).sameTimer.deadline
  | tick generation =>
    refine absurd ?_ unkept
    simp only [handle, tick, unset, Option.isNone_none, Bool.true_or, if_true]

end Entry

section Run
variable {session : Session} (owned : session.Owned) (lives : session.destroyed = false)
  (turns : List Turn) (goOn : ∀ turn ∈ turns, turn.command ≠ .destroy)
include owned lives goOn

private theorem sound_entries : ∀ entry ∈ entries session turns,
    entry.before.Owned ∧ entry.before.destroyed = false ∧ entry.command ≠ .destroy := by
  induction turns generalizing session with
  | nil =>
    intro entry member
    cases member
  | cons turn others ih =>
    have goesOn : turn.command ≠ .destroy := goOn turn List.mem_cons_self
    refine List.forall_mem_cons.2 ⟨⟨owned, lives, goesOn⟩, ?_⟩
    exact ih (owned_handle owned turn.moment turn.command)
      ((handle_keeps session turn.moment goesOn).2.trans lives)
      fun other member => goOn other (List.mem_cons_of_mem turn member)

/-- The tick of the deadline that is set finds it, or there was a sweep before. -/
theorem sweeps_of_tickComes (set : session.deadline.isSome = true)
    (comes : TickComes session.generation (entries session turns)) :
    ∃ entry ∈ entries session turns, ∃ generation, entry.Sweeps generation := by
  induction turns generalizing session with
  | nil => cases comes
  | cons turn others ih =>
    have goesOn : turn.command ≠ .destroy := goOn turn List.mem_cons_self
    let entry : Entry := ⟨session, turn.moment, turn.command⟩
    have sweepsNow : turn.command = .tick session.generation →
        ∃ entry ∈ entries session (turn :: others), ∃ generation, entry.Sweeps generation :=
      fun ticks => ⟨entry, List.mem_cons_self, _,
        @Entry.sweeps_of_current entry _ goesOn ticks set rfl⟩
    cases comes with
    | now _ _ ticks => exact sweepsNow ticks
    | later _ _ unstopped comes =>
      cases entry.deadlineChange goesOn with
      | kept _ _ deadline generation _ =>
        obtain ⟨other, member, sweeps⟩ :=
          ih (owned_handle owned turn.moment turn.command)
            ((handle_keeps session turn.moment goesOn).2.trans lives)
            (fun other member => goOn other (List.mem_cons_of_mem turn member))
            ((congrArg Option.isSome deadline).trans set) (generation.symm ▸ comes)
        exact ⟨other, List.mem_cons_of_mem entry member, sweeps⟩
      | armed _ unset _ _ _ =>
        have none : session.deadline = none := unset
        rw [none] at set
        cases set
      | stopped stops _ _ _ => exact absurd stops unstopped
      | usedUp ticks _ _ _ _ _ => exact sweepsNow ticks
      | renewed ticks _ _ _ _ => exact sweepsNow ticks

private theorem sweeps_of_lossTicks (ticks : LossTicks (entries session turns)) :
    ∃ entry ∈ entries session turns, ∃ generation, entry.Sweeps generation := by
  induction turns generalizing session with
  | nil => cases ticks
  | cons turn others ih =>
    have goesOn : turn.command ≠ .destroy := goOn turn List.mem_cons_self
    have ownedNext := owned_handle owned turn.moment turn.command
    have livesNext := (handle_keeps session turn.moment goesOn).2.trans lives
    have goOnNext : ∀ other ∈ others, other.command ≠ .destroy :=
      fun other member => goOn other (List.mem_cons_of_mem turn member)
    let entry : Entry := ⟨session, turn.moment, turn.command⟩
    obtain ⟨other, member, sweeps⟩ : ∃ other ∈ entries entry.after others,
        ∃ generation, other.Sweeps generation := by
      cases ticks with
      | now _ _ loses comes =>
        exact sweeps_of_tickComes ownedNext livesNext others goOnNext
          (loses.isSome_deadline owned lives) comes
      | later _ _ ticks => exact ih ownedNext livesNext goOnNext ticks
    exact ⟨other, List.mem_cons_of_mem entry member, sweeps⟩

omit owned lives in
/-- A sweep goes back to the deadline that is set, or to a loss. -/
theorem tickComes_or_lossTicks (unstarted : ∀ turn ∈ turns, ∀ priority, turn.command ≠ .start priority)
    (sweeps : ∃ entry ∈ entries session turns, ∃ generation, entry.Sweeps generation) :
    session.deadline.isSome = true ∧ TickComes session.generation (entries session turns) ∨
      LossTicks (entries session turns) := by
  induction turns generalizing session with
  | nil =>
    obtain ⟨_, member, _⟩ := sweeps
    cases member
  | cons turn others ih =>
    have goesOn : turn.command ≠ .destroy := goOn turn List.mem_cons_self
    let entry : Entry := ⟨session, turn.moment, turn.command⟩
    obtain ⟨swept, member, generation, sweeps⟩ := sweeps
    rcases List.mem_cons.1 member with rfl | later
    · obtain ⟨set, current⟩ := sweeps.current
      exact Or.inl ⟨set, .now _ _ (current ▸ sweeps.1)⟩
    · rcases ih (fun other member => goOn other (List.mem_cons_of_mem turn member))
        (fun other member => unstarted other (List.mem_cons_of_mem turn member))
        ⟨swept, later, generation, sweeps⟩ with ⟨set, comes⟩ | ticks
      · cases entry.deadlineChange goesOn with
        | kept unstopped _ deadline same _ =>
          have kept : entry.after.generation = session.generation := same
          rw [kept] at comes
          exact Or.inl ⟨(congrArg Option.isSome deadline).symm.trans set,
            .later entry _ unstopped comes⟩
        | armed _ unset _ _ _ =>
          have loses : entry.Loses := Entry.loses_of_armed unset set
            (unstarted turn List.mem_cons_self) goesOn
          exact Or.inr (.now entry _ loses comes)
        | stopped _ unset _ _ =>
          rw [Entry.after, unset] at set
          cases set
        | usedUp _ _ _ unset _ _ =>
          rw [Entry.after, unset] at set
          cases set
        | renewed ticks isSet _ _ _ => exact Or.inl ⟨isSet, .now entry _ ticks⟩
      · exact Or.inr (.later entry _ ticks)

end Run

/-- Between a stop and the next start there is no sweep and no record leaves the roster,
exactly if no printer on the roster is reported lost so that the tick of the deadline set
then is handled before another stop. -/
theorem roster_kept_iff (window : Nat) (known : KnownGood) (before : List Turn)
    (moment : Moment) (turns : List Turn)
    (goOn : ∀ turn ∈ before ++ turns, turn.command ≠ .destroy)
    (unstarted : ∀ turn ∈ turns, ∀ priority, turn.command ≠ .start priority) :
    let stopped := ((fresh window known).handleAll (before ++ [⟨moment, .stop⟩])).1
    (∀ entry ∈ entries stopped turns, (∀ generation, ¬ entry.Sweeps generation) ∧
        ∀ id, (entry.before.records.get? id).isSome = true →
          (entry.after.records.get? id).isSome = true) ↔
      ¬ LossTicks (entries stopped turns) := by
  intro stopped
  have goOnBefore : ∀ turn ∈ before, turn.command ≠ .destroy :=
    fun turn member => goOn turn (List.mem_append_left turns member)
  have goOnAfter : ∀ turn ∈ turns, turn.command ≠ .destroy :=
    fun turn member => goOn turn (List.mem_append_right before member)
  obtain ⟨running, agreement⟩ := agreement_handleAll window known before goOnBefore
  have stops : stopped = ((fresh window known).handleAll before).1.stop.1 := by
    dsimp only [stopped]
    rw [handleAll_snoc]
    rfl
  have owned : stopped.Owned := by
    rw [stops]
    exact agreement.owned
  have lives : stopped.destroyed = false := by
    rw [stops]
    exact running
  constructor
  · intro kept ticks
    obtain ⟨entry, member, generation, sweeps⟩ :=
      sweeps_of_lossTicks owned lives turns goOnAfter ticks
    exact (kept entry member).1 generation sweeps
  · intro quiet entry member
    have unswept : ∀ generation, ¬ entry.Sweeps generation := by
      intro generation sweeps
      rcases tickComes_or_lossTicks turns goOnAfter unstarted
        ⟨entry, member, generation, sweeps⟩ with ⟨set, _⟩ | ticks
      · rw [stops] at set
        cases set
      · exact quiet ticks
    obtain ⟨sound, alive, goesOn⟩ := sound_entries owned lives turns goOnAfter entry member
    refine ⟨unswept, ?_⟩
    intro id listed
    obtain ⟨record, held⟩ := Option.isSome_iff_exists.1 listed
    rw [Option.isSome_iff_ne_none]
    intro removed
    obtain ⟨_, generation, sweeps⟩ := entry.sweeps_of_removed sound alive goesOn held removed
    exact unswept generation sweeps

theorem roster_kept_iff_with_late_tick :
    let office := Printer.report none "Office" "ipp://h" none
    let other := Printer.report none "Other" "ipp://o" none
    let before : List Turn := [⟨⟨0, fun _ => none⟩, .found office⟩, ⟨⟨1, fun _ => none⟩, .lost office⟩]
    let turns : List Turn := [⟨⟨12, fun _ => none⟩, .tick 1⟩, ⟨⟨13, fun _ => none⟩, .lost other⟩]
    let stopped :=
      ((fresh 10 (.empty 50)).handleAll (before ++ [⟨⟨2, fun _ => none⟩, .stop⟩])).1
    (∀ turn ∈ before ++ turns, turn.command ≠ .destroy) ∧
      (∀ turn ∈ turns, ∀ priority, turn.command ≠ .start priority) ∧
        ∀ entry ∈ entries stopped turns, (∀ generation, ¬ entry.Sweeps generation) ∧
          ∀ id, (entry.before.records.get? id).isSome = true →
            (entry.after.records.get? id).isSome = true := by
  intro office other before turns stopped
  have goOn : ∀ turn ∈ before ++ turns, turn.command ≠ .destroy := by decide
  have unstarted : ∀ turn ∈ turns, ∀ priority, turn.command ≠ .start priority := by simp [turns]
  let late : Entry := ⟨stopped, ⟨12, fun _ => none⟩, .tick 1⟩
  have unlisted : ∀ printer, Command.lost other = .lost printer →
      (late.after.records.get? printer.id).isSome ≠ true := by
    intro printer told
    rw [← Command.lost.inj told]
    decide +kernel
  refine ⟨goOn, unstarted,
    (roster_kept_iff 10 (.empty 50) before ⟨2, fun _ => none⟩ turns goOn unstarted).2 ?_⟩
  apply not_lossTicks
  rintro entry member ⟨printer, told, listed⟩
  rcases List.mem_cons.1 member with rfl | member
  · exact nomatch told
  · cases List.mem_singleton.1 member
    exact unlisted printer told listed

/-- A source reports its printer lost when it is stopped. The sweep that follows removes
the printer, though the session was not started again. -/
theorem roster_shrinks_after_stop :
    let office := Printer.report none "Office" "ipp://h" none
    let before : List Turn := [⟨⟨0, fun _ => none⟩, .start []⟩, ⟨⟨0, fun _ => none⟩, .found office⟩]
    let turns : List Turn := [⟨⟨0, fun _ => none⟩, .lost office⟩, ⟨⟨3000, fun _ => none⟩, .tick 1⟩]
    let stopped :=
      ((fresh 3000 (.empty 50)).handleAll (before ++ [⟨⟨0, fun _ => none⟩, .stop⟩])).1
    ∃ entry ∈ entries stopped turns, (∃ generation, entry.Sweeps generation) ∧
      (entry.before.records.get? office.id).isSome = true ∧
        entry.after.records.get? office.id = none := by
  intro office before turns stopped
  let loss : Entry := ⟨stopped, ⟨0, fun _ => none⟩, .lost office⟩
  let entry : Entry := ⟨loss.after, ⟨3000, fun _ => none⟩, .tick 1⟩
  have listed : (entry.before.records.get? office.id).isSome = true := by decide +kernel
  have removed : entry.after.records.get? office.id = none := by decide +kernel
  exact ⟨entry, List.mem_cons_of_mem loss List.mem_cons_self,
    ⟨1, rfl, entry.changes_of_removed listed removed⟩, listed, removed⟩

end PrinterRoster.Session
