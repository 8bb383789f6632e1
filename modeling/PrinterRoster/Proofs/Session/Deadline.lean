import PrinterRoster.Proofs.Session.Presence

/-! What a command does to the deadline of a session, and to the timer behind it. A
command keeps the deadline, sets it when it was not set, drops it to stop, or uses it
up in a sweep, which may set the next one. -/
namespace PrinterRoster.Session

def timing (effects : List Effect) : List Effect :=
  effects.filter fun
    | .arm .. => true
    | .disarm => true
    | _ => false

theorem timing_append (earlier later : List Effect) :
    timing (earlier ++ later) = timing earlier ++ timing later :=
  List.filter_append ..

theorem timing_evaluate (session : Session) (id : PrinterId) :
    timing (session.evaluate id).2 = [] := by
  have withdraws : ∀ (other : Session) record, timing (other.withdraw record).2 = [] := by
    intro other record
    unfold withdraw
    split <;> rfl
  unfold evaluate
  split
  · rfl
  · dsimp only
    split
    · exact withdraws ..
    · split
      · exact withdraws ..
      · rfl

private theorem timing_request (session : Session) (id : PrinterId) (bypassCache : Bool) :
    timing (session.request id bypassCache).2 = [] := by
  unfold request
  split
  · rfl
  · split <;> rfl

/-- What a command does to the deadline of a session. -/
inductive DeadlineChange (before : Session) (now : Nat) (command : Command) (outcome : Outcome) :
    Prop
  | kept (goesOn : command ≠ .stop)
      (ignored : ∀ generation, command = .tick generation →
        outcome = (before, []) ∧ (before.deadline = none ∨ generation ≠ before.generation))
      (deadline : outcome.1.deadline = before.deadline)
      (generation : outcome.1.generation = before.generation)
      (silent : timing outcome.2 = [])
  | armed (goesOn : command ≠ .stop) (unset : before.deadline = none)
      (deadline : outcome.1.deadline = some (now + before.window))
      (generation : outcome.1.generation = before.generation + 1)
      (arms : timing outcome.2 = [.arm (before.generation + 1) (now + before.window)])
  | stopped (stops : command = .stop) (deadline : outcome.1.deadline = none)
      (generation : outcome.1.generation = before.generation)
      (disarms : timing outcome.2 = if before.deadline.isSome then [.disarm] else [])
  | usedUp (ticks : command = .tick before.generation) (set : before.deadline.isSome)
      (present : ∀ id, ¬ outcome.1.Gone id)
      (deadline : outcome.1.deadline = none)
      (generation : outcome.1.generation = before.generation)
      (silent : timing outcome.2 = [])
  | renewed (ticks : command = .tick before.generation) (set : before.deadline.isSome)
      (deadline : outcome.1.deadline = some (now + before.window))
      (generation : outcome.1.generation = before.generation + 1)
      (arms : timing outcome.2 = [.arm (before.generation + 1) (now + before.window)])

section
variable {before : Session} {now : Nat} {command : Command} {outcome : Outcome}

/-- What becomes of the deadline, whatever the reason. -/
theorem DeadlineChange.outcome_cases (change : DeadlineChange before now command outcome) :
    (command ≠ .stop ∧ outcome.1.deadline = before.deadline ∧
      outcome.1.generation = before.generation ∧ timing outcome.2 = []) ∨
    (outcome.1.deadline = none ∧ outcome.1.generation = before.generation) ∨
    (outcome.1.deadline = some (now + before.window) ∧
      outcome.1.generation = before.generation + 1 ∧
      timing outcome.2 = [.arm (before.generation + 1) (now + before.window)]) := by
  cases change with
  | kept goesOn _ same generation silent => exact Or.inl ⟨goesOn, same, generation, silent⟩
  | armed _ _ new generation arms => exact Or.inr (Or.inr ⟨new, generation, arms⟩)
  | stopped _ unset generation _ => exact Or.inr (Or.inl ⟨unset, generation⟩)
  | usedUp _ _ _ unset generation _ => exact Or.inr (Or.inl ⟨unset, generation⟩)
  | renewed _ _ new generation arms => exact Or.inr (Or.inr ⟨new, generation, arms⟩)

theorem DeadlineChange.generation_le (change : DeadlineChange before now command outcome) :
    before.generation ≤ outcome.1.generation := by
  obtain ⟨_, _, same, _⟩ | ⟨_, same⟩ | ⟨_, next, _⟩ := change.outcome_cases
  · exact Nat.le_of_eq same.symm
  · exact Nat.le_of_eq same.symm
  · rw [next]
    exact Nat.le_succ _

theorem DeadlineChange.kept_or_new (change : DeadlineChange before now command outcome) :
    ∀ deadline ∈ outcome.1.deadline, deadline ∈ before.deadline ∨ deadline = now + before.window := by
  intro deadline set
  obtain ⟨_, same, _⟩ | ⟨unset, _⟩ | ⟨new, _⟩ := change.outcome_cases
  · exact Or.inl (same ▸ set)
  · rw [unset] at set
    cases set
  · rw [new] at set
    exact Or.inr (Option.some.inj set).symm

end

structure SameTimer (before after : Session) : Prop where
  deadline : after.deadline = before.deadline
  generation : after.generation = before.generation
  window : after.window = before.window

theorem RosterChange.sameTimer {before after : Session} (change : RosterChange before after) :
    SameTimer before after := by
  obtain ⟨_, _, rfl⟩ := change
  exact ⟨rfl, rfl, rfl⟩

def Command.isTimed : Command → Bool
  | .stop => true
  | .tick _ => true
  | _ => false

section
variable {before : Session} (command : Command) (untimed : command.isTimed = false) (now : Nat)
include untimed

private theorem ne_stop_of_untimed : command ≠ .stop := by
  rintro rfl
  cases untimed

private theorem deadlineChange_of_same {outcome : Outcome} (same : SameTimer before outcome.1)
    (silent : timing outcome.2 = []) : DeadlineChange before now command outcome := by
  refine .kept (ne_stop_of_untimed command untimed) ?_ same.deadline same.generation silent
  rintro generation rfl
  cases untimed

/-- A command that sets the deadline after it has changed the roster. -/
theorem deadlineChange_monitor {evaluated : Session} (same : SameTimer before evaluated)
    {effects : List Effect} (timed : timing effects = timing (evaluated.monitor now).2) :
    DeadlineChange before now command ((evaluated.monitor now).1, effects) := by
  unfold monitor at timed ⊢
  split at timed
  · rename_i unchanged
    rw [if_pos unchanged]
    exact deadlineChange_of_same command untimed now same timed
  · rename_i unset
    rw [if_neg unset]
    rw [Bool.or_eq_true, not_or, Bool.not_eq_true, Option.isSome_eq_false_iff,
      Option.isNone_iff_eq_none] at unset
    rw [same.generation, same.window] at timed ⊢
    exact .armed (ne_stop_of_untimed command untimed) (same.deadline ▸ unset.1) rfl rfl timed

end

private theorem deadlineChange_sweep {session : Session} {command : Command}
    (ticks : command = .tick session.generation) (set : session.deadline.isSome = true) (now : Nat) :
    DeadlineChange session now command (session.sweep now) := by
  have timed : ∀ effects, timing ((if (session.expired now).isEmpty then []
      else [.publish (.removed ((session.expired now).map Record.id))]) ++ effects) =
        timing effects := by
    intro effects
    rw [timing_append]
    split <;> rfl
  rw [sweep_eq]
  unfold rearm andThen
  dsimp only
  split
  · rename_i someGone
    obtain ⟨record, member, _⟩ := List.any_eq_true.1 someGone
    obtain ⟨id, held⟩ := (Table.mem_values_iff _ record).1 member
    have listed : (session.swept now).records.isEmpty = false := Table.isEmpty_of_get? held
    unfold monitor
    rw [listed, if_neg (by simp [swept])]
    exact .renewed ticks set rfl rfl (timed _)
  · rename_i noneGone
    refine .usedUp ticks set ?_ rfl rfl (timed [])
    rintro id ⟨presence, held, gone⟩
    obtain ⟨record, listed, rfl⟩ := Option.map_eq_some_iff.1 held
    apply noneGone
    have member := (Table.mem_values_iff _ record).2 ⟨id, listed⟩
    have absent : record.isFound = false := gone
    exact List.any_eq_true.2 ⟨record, member, by rw [absent]; rfl⟩

private theorem deadlineChange_lost (session : Session) (printer : Printer) (now : Nat) :
    DeadlineChange session now (.lost printer) (session.lost now printer) := by
  have forgets : timing (if printer.id.isNetworkAddress then [.forget printer.uri] else []) = [] := by
    split <;> rfl
  unfold lost
  cases held : session.records.get? printer.id with
  | none => exact deadlineChange_of_same _ rfl now ⟨rfl, rfl, rfl⟩ forgets
  | some record =>
    let changed : Session := { session with
      records := session.records.insert printer.id record.notFound }
    have listed : RosterChange session changed := ⟨_, session.knownGood, rfl⟩
    have evaluated := listed.trans (rosterChange_evaluate changed printer.id)
    apply deadlineChange_monitor _ rfl now evaluated.sameTimer
    dsimp only [andThen]
    rw [timing_append, timing_append, forgets, timing_evaluate]
    rfl

theorem timing_found (session : Session) (moment : Moment) (printer : Printer) :
    timing (session.found moment printer).2 = [] := by
  unfold found
  dsimp only
  split
  · dsimp only [andThen]
    rw [timing_append, timing_evaluate, timing_request]
    rfl
  · exact timing_evaluate ..

theorem timing_answered (session : Session) (id : PrinterId) (answer : Option Capabilities) :
    timing (session.answered id answer).2 = [] := by
  unfold answered
  split
  · rfl
  · exact timing_evaluate ..

theorem deadlineChange_handle (session : Session) (moment : Moment) {command : Command}
    (goesOn : command ≠ .destroy) :
    DeadlineChange session moment.now command (session.handle moment command) := by
  have unchanged : SameTimer session session := ⟨rfl, rfl, rfl⟩
  cases command with
  | start priority =>
    let lost : Session := { session with
      priority := priority.eraseDups
      records := session.records.mapValues Record.notFound }
    have same : SameTimer session lost := ⟨rfl, rfl, rfl⟩
    have timed : timing ((lost.monitor moment.now).2 ++ [.startSources]) =
        timing (lost.monitor moment.now).2 := by
      rw [timing_append]
      exact List.append_nil _
    exact deadlineChange_monitor (.start priority) rfl moment.now same timed
  | stop =>
    refine .stopped rfl rfl rfl ?_
    dsimp only [handle, stop]
    split <;> rfl
  | track id =>
    let tracking : Session := { session with
      tracking := if session.tracking.contains id then session.tracking else session.tracking ++ [id] }
    have requested := (rosterChange_request tracking id true).sameTimer
    have same : SameTimer session (tracking.request id true).1 :=
      ⟨requested.deadline, requested.generation, requested.window⟩
    dsimp only [handle, track]
    split
    · exact deadlineChange_of_same _ rfl moment.now same (timing_request ..)
    · exact deadlineChange_of_same _ rfl moment.now ⟨rfl, rfl, rfl⟩ rfl
  | untrack id => exact deadlineChange_of_same _ rfl moment.now ⟨rfl, rfl, rfl⟩ rfl
  | found printer =>
    dsimp only [handle]
    split
    · exact deadlineChange_of_same _ rfl moment.now unchanged rfl
    · exact deadlineChange_of_same _ rfl moment.now
        (rosterChange_found session moment printer).sameTimer (timing_found ..)
  | lost printer =>
    dsimp only [handle]
    split
    · exact deadlineChange_of_same _ rfl moment.now unchanged rfl
    · exact deadlineChange_lost session printer moment.now
  | answered id answer =>
    dsimp only [handle]
    split
    · exact deadlineChange_of_same _ rfl moment.now unchanged rfl
    · exact deadlineChange_of_same _ rfl moment.now
        (rosterChange_answered session id answer).sameTimer (timing_answered ..)
  | tick generation =>
    dsimp only [handle, tick]
    split
    · rename_i stale
      refine .kept (by simp) ?_ rfl rfl rfl
      intro other ticks
      cases ticks
      exact ⟨rfl, by simpa using stale⟩
    · rename_i current
      rw [Bool.or_eq_true, not_or] at current
      obtain ⟨set, latest⟩ := current
      have same : generation = session.generation := by simpa using latest
      have isSet : session.deadline.isSome = true := by
        rw [← Option.not_isNone, Bool.not_eq_true']
        exact Bool.not_eq_true _ ▸ set
      exact deadlineChange_sweep (congrArg Command.tick same) isSet moment.now
  | destroy => exact absurd rfl goesOn

end PrinterRoster.Session
