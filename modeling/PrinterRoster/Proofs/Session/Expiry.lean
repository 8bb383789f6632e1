import PrinterRoster.Proofs.Session.Timeline

/-! Sweeps come when they should. A sweep is due to the timer that was armed last, no
sooner than a window after it was armed, and no timer is due to two of them. While a
printer is gone there is a deadline, which is either so near that the printer is found
to have expired or the one before; and so the printer is off the roster within two
windows, if ticks are handled in time. -/
namespace PrinterRoster.Session

/-- The timer of a generation was armed by an entry, and since then none was armed and
the session was not stopped. -/
inductive ArmedBy (generation deadline : Nat) (arming : Entry) : List Entry → Prop
  | just (earlier : List Entry) (arms : arming.Arms generation deadline) :
      ArmedBy generation deadline arming (arming :: earlier)
  | still (entry : Entry) (history : List Entry)
      (armed : ArmedBy generation deadline arming history) (goesOn : entry.command ≠ .stop)
      (quiet : ∀ other instant, ¬ entry.Arms other instant) :
      ArmedBy generation deadline arming (entry :: history)

/-- A printer became gone with an entry, and since then it has been gone and the session
was not stopped. -/
inductive GoneSince (id : PrinterId) (became : Entry) : List Entry → Prop
  | just (earlier : List Entry) (wasThere : ¬ became.before.Gone id) (gone : became.after.Gone id) :
      GoneSince id became (became :: earlier)
  | still (entry : Entry) (history : List Entry) (since : GoneSince id became history)
      (goesOn : entry.command ≠ .stop) (gone : entry.after.Gone id) :
      GoneSince id became (entry :: history)

private theorem mem_timing {effects : List Effect} {generation deadline : Nat} :
    .arm generation deadline ∈ timing effects ↔ .arm generation deadline ∈ effects := by
  rw [timing, List.mem_filter]
  exact and_iff_left rfl

namespace Entry

theorem deadlineChange (entry : Entry) (goesOn : entry.command ≠ .destroy) :
    DeadlineChange entry.before entry.now entry.command entry.outcome :=
  deadlineChange_handle entry.before entry.moment goesOn

theorem Sweeps.current {entry : Entry} {generation : Nat} (sweeps : entry.Sweeps generation) :
    entry.before.deadline.isSome = true ∧ generation = entry.before.generation := by
  obtain ⟨ticks, changes⟩ := sweeps
  have handled : entry.outcome = entry.before.tick entry.now generation := by
    rw [outcome, ticks]
    rfl
  unfold tick at handled
  split at handled
  · exact absurd handled changes
  · rename_i current
    rw [Bool.or_eq_true, not_or, Option.isNone_iff_eq_none, decide_eq_true_eq, not_not] at current
    exact ⟨Option.isSome_iff_ne_none.2 current.1, current.2⟩

theorem changes_of_removed {entry : Entry} {id : PrinterId}
    (listed : (entry.before.records.get? id).isSome = true)
    (removed : entry.after.records.get? id = none) : entry.outcome ≠ (entry.before, []) := by
  intro same
  rw [after, same] at removed
  rw [removed] at listed
  cases listed

/-- Only sweeps remove printers, and only those that have expired. -/
theorem expired_of_removed {entry : Entry} (owned : entry.before.Owned)
    (lives : entry.before.destroyed = false) (goesOn : entry.command ≠ .destroy) {id : PrinterId}
    {record : Record} (held : entry.before.records.get? id = some record)
    (removed : entry.after.records.get? id = none) :
    record.isExpired entry.now entry.before.window = true ∧ ∃ generation, entry.Sweeps generation := by
  have was : entry.before.presence? id = some record.presence := by rw [presence?, held]; rfl
  have none : entry.after.presence? id = none := by rw [presence?, removed]; rfl
  have unequal := entry.changes_of_removed (Option.isSome_iff_exists.2 ⟨record, held⟩) removed
  cases presenceChange_handle owned lives entry.moment goesOn id with
  | stays same => cases none.symm.trans (same.trans was)
  | leaves left _ => cases none.symm.trans (left.trans (congrArg _ was))
  | sighted here => cases none.symm.trans here
  | swept ticks left =>
    obtain ⟨generation, ticks⟩ := ticks
    refine ⟨?_, generation, ticks, unequal⟩
    have expired := left.symm.trans none
    rw [was, Option.filter_some] at expired
    split at expired
    · cases expired
    · rename_i dropped
      rw [Bool.not_eq_true', Bool.not_eq_false] at dropped
      exact dropped

theorem sweeps_of_removed {entry : Entry} (owned : entry.before.Owned)
    (lives : entry.before.destroyed = false) (goesOn : entry.command ≠ .destroy) {id : PrinterId}
    {record : Record} (held : entry.before.records.get? id = some record)
    (removed : entry.after.records.get? id = none) :
    record.isFound = false ∧ ∃ generation, entry.Sweeps generation := by
  obtain ⟨expired, sweeps⟩ := entry.expired_of_removed owned lives goesOn held removed
  rw [Record.isExpired, Bool.and_eq_true, Bool.not_eq_true'] at expired
  exact ⟨expired.1, sweeps⟩

end Entry

namespace Timeline

structure Chronicle (window : Nat) (line : Timeline) : Prop where
  sound : ∀ entry ∈ line.history,
    entry.before.Owned ∧ entry.before.destroyed = false ∧ entry.command ≠ .destroy
  armed : ∀ deadline ∈ line.session.deadline, ∃ arming,
    ArmedBy line.session.generation deadline arming line.history ∧ deadline = arming.now + window
  spent : ∀ entry ∈ line.history, ∀ generation, entry.Sweeps generation →
    generation < line.session.generation ∨
      generation = line.session.generation ∧ line.session.deadline = none
  once : line.history.Pairwise fun later earlier =>
    ∀ generation, later.Sweeps generation → ¬ earlier.Sweeps generation
  due : ∀ entry earlier, entry :: earlier <:+ line.history →
    ∀ generation, entry.Sweeps generation → ∃ arming deadline,
      ArmedBy generation deadline arming earlier ∧ arming.now + window ≤ entry.now
  watched : ∀ id became, GoneSince id became line.history →
    line.session.Gone id ∧ line.session.deadline.isSome = true

theorem chronicle_start (now window : Nat) (known : KnownGood) :
    Chronicle window (Timeline.start now window known) where
  sound := by
    intro entry member
    cases member
  armed := by
    intro deadline set
    cases set
  spent := by
    intro entry member
    cases member
  once := .nil
  due := by
    intro entry earlier part
    cases List.suffix_nil.1 part
  watched := by
    intro id became since
    cases since

/-- A sweep comes no sooner than the deadline that is set. -/
theorem Timely.due_of_sweeps {window : Nat} {line : Timeline} (timely : Timely window line)
    (cached : Printer → Option Capabilities) {command : Command} {others : List Command}
    (queued : line.run.queue = command :: others) {generation : Nat}
    (sweeps : (line.entry cached command).Sweeps generation) :
    ∃ deadline, line.session.deadline = some deadline ∧ deadline ≤ line.now := by
  obtain ⟨set, current⟩ := sweeps.current
  obtain ⟨deadline, instant⟩ := Option.isSome_iff_exists.1 set
  have waits : line.run.queue = .tick line.session.generation :: others := by
    rw [queued, show command = .tick generation from sweeps.1, current]
    rfl
  exact ⟨deadline, instant, timely.due_of_tick waits instant⟩

section Turn
variable {window : Nat} {line : Timeline} (timely : Timely window line)
  (chronicle : Chronicle window line)
  (cached : Printer → Option Capabilities) {command : Command} {others : List Command}
  (goesOn : command ≠ .destroy)
include timely chronicle goesOn

private theorem Chronicle.armed_handled :
    ∀ deadline ∈ (line.entry cached command).after.deadline, ∃ arming,
      ArmedBy (line.entry cached command).after.generation deadline arming
        (line.entry cached command :: line.history) ∧ deadline = arming.now + window := by
  intro deadline set
  have change := (line.entry cached command).deadlineChange goesOn
  obtain ⟨unstopped, same, generation, silent⟩ | ⟨unset, _⟩ | ⟨new, generation, arms⟩ :=
    change.outcome_cases
  · obtain ⟨arming, armed, near⟩ := chronicle.armed deadline (same ▸ set)
    refine ⟨arming, ?_, near⟩
    have before : (line.entry cached command).after.generation = line.session.generation :=
      generation
    rw [before]
    refine .still _ _ armed unstopped ?_
    intro other instant
    rw [Entry.Arms, ← mem_timing, silent]
    exact List.not_mem_nil
  · rw [Entry.after, unset] at set
    cases set
  · rw [Entry.after, new] at set
    cases set
    refine ⟨line.entry cached command, .just line.history ?_, ?_⟩
    · rw [Entry.after, generation, Entry.Arms, ← mem_timing, arms]
      exact List.mem_singleton_self _
    · rw [← timely.lasts]
      rfl

omit timely in
private theorem Chronicle.spent_handled :
    ∀ entry ∈ line.entry cached command :: line.history, ∀ generation, entry.Sweeps generation →
      generation < (line.entry cached command).after.generation ∨
        generation = (line.entry cached command).after.generation ∧
          (line.entry cached command).after.deadline = none := by
  have change := (line.entry cached command).deadlineChange goesOn
  intro entry member generation sweeps
  rcases List.mem_cons.1 member with rfl | earlier
  · obtain ⟨set, latest⟩ := sweeps.current
    cases change with
    | kept _ ignored _ _ _ => exact absurd (ignored generation sweeps.1).1 sweeps.2
    | armed _ unset _ _ _ =>
      rw [unset] at set
      cases set
    | stopped stops _ _ _ => cases stops.symm.trans sweeps.1
    | usedUp _ _ _ unset same _ => exact Or.inr ⟨latest.trans same.symm, unset⟩
    | renewed _ _ _ next _ =>
      left
      rw [Entry.after, next, latest]
      exact Nat.lt_succ_self _
  · have before := chronicle.spent entry earlier generation sweeps
    obtain ⟨_, same, latest, _⟩ | ⟨unset, latest⟩ | ⟨_, next, _⟩ := change.outcome_cases
    · rw [Entry.after, latest, same]
      exact before
    · rw [Entry.after, latest, unset]
      exact before.imp_right fun last => ⟨last.1, rfl⟩
    · left
      rw [Entry.after, next]
      exact Nat.lt_succ_of_le (before.elim Nat.le_of_lt fun same => Nat.le_of_eq same.1)

omit timely goesOn in
private theorem Chronicle.once_handled :
    (line.entry cached command :: line.history).Pairwise fun later earlier =>
      ∀ generation, later.Sweeps generation → ¬ earlier.Sweeps generation := by
  refine .cons ?_ chronicle.once
  intro earlier member generation sweeps again
  obtain ⟨set, latest⟩ := sweeps.current
  have current : generation = line.session.generation := latest
  have isSet : line.session.deadline.isSome = true := set
  rcases chronicle.spent earlier member generation again with before | ⟨_, unset⟩
  · rw [current] at before
    exact Nat.lt_irrefl _ before
  · rw [unset] at isSet
    cases isSet

omit goesOn in
private theorem Chronicle.due_handled {others : List Command}
    (queued : line.run.queue = command :: others) :
    ∀ entry earlier, entry :: earlier <:+ line.entry cached command :: line.history →
      ∀ generation, entry.Sweeps generation → ∃ arming deadline,
        ArmedBy generation deadline arming earlier ∧ arming.now + window ≤ entry.now := by
  intro entry earlier part generation sweeps
  rcases List.suffix_cons_iff.1 part with whole | part
  · cases whole
    obtain ⟨deadline, set, due⟩ := timely.due_of_sweeps cached queued sweeps
    obtain ⟨arming, armed, near⟩ := chronicle.armed deadline set
    have current : generation = line.session.generation := sweeps.current.2
    exact ⟨arming, deadline, current.symm ▸ armed, near ▸ due⟩
  · exact chronicle.due entry earlier part generation sweeps

private theorem Chronicle.watched_handled :
    ∀ id became, GoneSince id became (line.entry cached command :: line.history) →
      (line.entry cached command).after.Gone id ∧
        (line.entry cached command).after.deadline.isSome = true := by
  intro id became since
  have presence := presenceChange_handle timely.owned timely.lives ⟨line.now, cached⟩ goesOn id
  cases since with
  | just _ wasThere gone => exact ⟨gone, presence.isSome_deadline wasThere gone⟩
  | still _ _ since unstopped gone =>
    refine ⟨gone, ?_⟩
    have set := (chronicle.watched id became since).2
    cases (line.entry cached command).deadlineChange goesOn with
    | kept _ _ same _ _ =>
      rw [Entry.after, same]
      exact set
    | armed _ _ new _ _ =>
      rw [Entry.after, new]
      rfl
    | stopped stops _ _ _ => exact absurd stops unstopped
    | usedUp _ _ present _ _ _ => exact absurd gone (present id)
    | renewed _ _ new _ _ =>
      rw [Entry.after, new]
      rfl

end Turn

theorem Chronicle.step {window : Nat} {line next : Timeline} (timely : Timely window line)
    (chronicle : Chronicle window line) {mayPass : Timeline → Nat → Prop}
    (step : Step mayPass line next) : Chronicle window next := by
  obtain ⟨command, _, _, rfl⟩ | ⟨generation, deadline, _, _, rfl⟩ |
    ⟨cached, command, others, queued, goesOn, rfl⟩ | ⟨later, _, _, rfl⟩ := timely.step_cases step
  · exact ⟨chronicle.sound, chronicle.armed, chronicle.spent, chronicle.once, chronicle.due,
      chronicle.watched⟩
  · exact ⟨chronicle.sound, chronicle.armed, chronicle.spent, chronicle.once, chronicle.due,
      chronicle.watched⟩
  · constructor
    · exact List.forall_mem_cons.2 ⟨⟨timely.owned, timely.lives, goesOn⟩, chronicle.sound⟩
    · exact chronicle.armed_handled timely cached goesOn
    · exact chronicle.spent_handled cached goesOn
    · exact chronicle.once_handled cached
    · exact chronicle.due_handled timely cached queued
    · exact chronicle.watched_handled timely cached goesOn
  · exact ⟨chronicle.sound, chronicle.armed, chronicle.spent, chronicle.once, chronicle.due,
      chronicle.watched⟩

theorem Reached.chronicle {now window : Nat} {known : KnownGood}
    {mayPass : Timeline → Nat → Prop} {line : Timeline}
    (reached : Reached mayPass (Timeline.start now window known) line) : Chronicle window line := by
  induction reached with
  | start => exact chronicle_start now window known
  | step earlier step ih => exact ih.step earlier.timely step

/-- How near the deadline is while ticks are handled in time. If it is not within a window
since a printer became gone, then it is the next one, and finds the printer expired. -/
structure Prompt (window : Nat) (line : Timeline) : Prop where
  ahead : ∀ deadline ∈ line.session.deadline, line.now ≤ deadline
  bounded : ∀ id became, GoneSince id became line.history → ∃ presence deadline,
    line.session.presence? id = some presence ∧ presence.isFound = false ∧
      line.session.deadline = some deadline ∧
      (deadline ≤ became.now + window ∨
        deadline ≤ became.now + 2 * window ∧ presence.lastSeen + window ≤ deadline)

theorem prompt_start (now window : Nat) (known : KnownGood) :
    Prompt window (Timeline.start now window known) where
  ahead := by
    intro deadline set
    cases set
  bounded := by
    intro id became since
    cases since

private theorem Prompt.pass {window : Nat} {line : Timeline} (timely : Timely window line)
    (prompt : Prompt window line) {later : Nat} (may : Punctually line later) :
    Prompt window { line with now := later } where
  ahead := by
    intro deadline set
    cases timely.timer with
    | resting unset _ =>
      cases unset.symm.trans set
    | asleep _ same timers _ =>
      cases same.symm.trans set
      exact may.2 (_, deadline) (by rw [timers]; exact List.mem_singleton_self _)
    | fired _ _ _ queued _ => exact absurd queued (may.1 _)
  bounded := prompt.bounded

section PromptTurn
variable {window : Nat} {line : Timeline} (timely : Timely window line)
  (prompt : Prompt window line) (cached : Printer → Option Capabilities) {command : Command}
  {others : List Command} (queued : line.run.queue = command :: others)
  (goesOn : command ≠ .destroy)
include timely prompt goesOn

omit timely in
private theorem Prompt.ahead_handled :
    ∀ deadline ∈ (line.entry cached command).after.deadline, line.now ≤ deadline := by
  intro deadline set
  rcases ((line.entry cached command).deadlineChange goesOn).kept_or_new deadline set with old | new
  · exact prompt.ahead deadline old
  · rw [new]
    exact Nat.le_add_right line.now _

include queued in
private theorem Prompt.bounded_handled :
    ∀ id became, GoneSince id became (line.entry cached command :: line.history) →
      ∃ presence deadline,
        (line.entry cached command).after.presence? id = some presence ∧
          presence.isFound = false ∧
          (line.entry cached command).after.deadline = some deadline ∧
          (deadline ≤ became.now + window ∨
            deadline ≤ became.now + 2 * window ∧ presence.lastSeen + window ≤ deadline) := by
  intro id became since
  have presenceChange :=
    presenceChange_handle timely.owned timely.lives ⟨line.now, cached⟩ goesOn id
  have change := (line.entry cached command).deadlineChange goesOn
  cases since with
  | just _ wasThere gone =>
    obtain ⟨deadline, set⟩ := Option.isSome_iff_exists.1 (presenceChange.isSome_deadline wasThere gone)
    obtain ⟨presence, held, absent⟩ := gone
    refine ⟨presence, deadline, held, absent, set, Or.inl ?_⟩
    rcases change.kept_or_new deadline set with old | new
    · exact timely.near deadline old
    · rw [new, ← timely.lasts]
      exact Nat.le_refl _
  | still _ _ since unstopped gone =>
    obtain ⟨old, deadline, held, wasGone, set, near⟩ := prompt.bounded id became since
    obtain ⟨presence, holds, absent⟩ := gone
    have same : presence = old := presenceChange.eq_of_gone held wasGone holds absent
    subst same
    cases change with
    | kept _ _ kept _ _ => exact ⟨presence, deadline, holds, absent, kept.trans set, near⟩
    | armed _ unset _ _ _ => cases unset.symm.trans set
    | stopped stops _ _ _ => exact absurd stops unstopped
    | usedUp _ _ present _ _ _ => exact absurd ⟨presence, holds, absent⟩ (present id)
    | renewed ticks isSet new _ _ =>
      refine ⟨presence, line.now + window, holds, absent, ?_, ?_⟩
      · rw [← timely.lasts]
        exact new
      · -- The sweep is at its deadline to the instant, so a printer that it spares was seen
        -- less than a window before, and the next deadline finds it expired.
        have waits : line.run.queue = .tick line.session.generation :: others := by
          rw [queued]
          exact congrArg (· :: others) ticks
        have onTime : line.now = deadline :=
          Nat.le_antisymm (prompt.ahead deadline set) (timely.due_of_tick waits set)
        have recent : line.now - presence.lastSeen < line.session.window := by
          rw [Entry.after, Entry.outcome, ticks] at holds
          exact lt_of_sweep timely.owned timely.lives isSet holds absent
        have earlier : presence.lastSeen ≤ line.now := timely.past id presence held
        rw [timely.lasts] at recent
        right
        constructor <;> omega

end PromptTurn

theorem Prompt.step {window : Nat} {line next : Timeline} (timely : Timely window line)
    (prompt : Prompt window line) (step : Step Punctually line next) : Prompt window next := by
  obtain ⟨command, _, _, rfl⟩ | ⟨generation, deadline, _, _, rfl⟩ |
    ⟨cached, command, others, queued, goesOn, rfl⟩ | ⟨later, _, may, rfl⟩ := timely.step_cases step
  · exact ⟨prompt.ahead, prompt.bounded⟩
  · exact ⟨prompt.ahead, prompt.bounded⟩
  · exact ⟨prompt.ahead_handled cached goesOn, prompt.bounded_handled timely cached queued goesOn⟩
  · exact prompt.pass timely may

private theorem Reached.prompt {now window : Nat} {known : KnownGood} {line : Timeline}
    (reached : Reached Punctually (Timeline.start now window known) line) : Prompt window line := by
  induction reached with
  | start => exact prompt_start now window known
  | step earlier step ih => exact ih.step earlier.timely step

/-- Sweeps of a session that runs in time. Each is due to the timer that was armed last,
at least a window after that and with no stop in between; no timer is due to two; and
nothing else removes a printer, and nothing one that is there. While a printer is gone,
and the session was not stopped since, the timer of the deadline sleeps or its tick is
queued. If ticks are handled in time, a printer is not gone for longer than two windows. -/
theorem sweeps_in_time (now window : Nat) (known : KnownGood) {line : Timeline}
    (reached : Reached Freely (Timeline.start now window known) line) :
    (∀ entry earlier, entry :: earlier <:+ line.history →
      ∀ generation, entry.Sweeps generation → ∃ arming deadline,
        ArmedBy generation deadline arming earlier ∧ arming.now + window ≤ entry.now) ∧
    (line.history.Pairwise fun later earlier =>
      ∀ generation, later.Sweeps generation → ¬ earlier.Sweeps generation) ∧
    (∀ entry ∈ line.history, ∀ id record, entry.before.records.get? id = some record →
      entry.after.records.get? id = none →
        record.isFound = false ∧ ∃ generation, entry.Sweeps generation) ∧
    (∀ id became, GoneSince id became line.history → ∃ arming deadline,
      line.session.deadline = some deadline ∧
        ArmedBy line.session.generation deadline arming line.history ∧
        deadline ≤ arming.now + window ∧
        ((line.session.generation, deadline) ∈ line.timers ∨
          .tick line.session.generation ∈ line.run.queue)) ∧
    (Reached Punctually (Timeline.start now window known) line →
      ∀ id became, GoneSince id became line.history → line.now ≤ became.now + 2 * window) := by
  have chronicle := reached.chronicle
  refine ⟨chronicle.due, chronicle.once, ?_, ?_, ?_⟩
  · intro entry member id record held removed
    obtain ⟨owned, lives, goesOn⟩ := chronicle.sound entry member
    exact entry.sweeps_of_removed owned lives goesOn held removed
  · intro id became since
    obtain ⟨deadline, set⟩ := Option.isSome_iff_exists.1 (chronicle.watched id became since).2
    obtain ⟨arming, armed, near⟩ := chronicle.armed deadline set
    refine ⟨arming, deadline, set, armed, Nat.le_of_eq near, ?_⟩
    cases reached.timely.timer with
    | resting unset _ => cases unset.symm.trans set
    | asleep _ same timers _ =>
      cases same.symm.trans set
      left
      rw [timers]
      exact List.mem_singleton_self _
    | fired _ _ _ queued _ => exact Or.inr queued
  · intro punctual id became since
    obtain ⟨presence, deadline, _, _, set, near⟩ := punctual.prompt.bounded id became since
    have ahead := punctual.prompt.ahead deadline set
    omega

theorem sweeps_in_time_of_lost_office :
    let office := Printer.report none "Office" "ipp://h" none
    ∃ line became, Reached Freely (Timeline.start 0 10 (.empty 50)) line ∧
      GoneSince office.id became line.history ∧
      ∃ deadline, line.session.deadline = some deadline ∧ line.now ≤ became.now + 20 := by
  intro office
  let first := Timeline.start 0 10 (.empty 50)
  let sent : Timeline := { first with run := first.run.send (.found office) }
  let found := sent.handled (fun _ => none) (.found office) []
  let told : Timeline := { found with run := found.run.send (.lost office) }
  let lost := told.handled (fun _ => none) (.lost office) []
  have reaches : ∀ mayPass, Reached mayPass first lost := by
    intro mayPass
    have one : Reached mayPass first sent := .step .start (.send _ nofun nofun)
    have two : Reached mayPass first found :=
      .step one (one.timely.step_handled mayPass (fun _ => none) rfl nofun)
    have three : Reached mayPass first told := .step two (.send _ nofun nofun)
    exact .step three (three.timely.step_handled mayPass (fun _ => none) rfl nofun)
  have there : told.session.presence? office.id = some ⟨0, true⟩ := by decide +kernel
  have wasThere : ¬ told.session.Gone office.id := by
    rintro ⟨presence, held, gone⟩
    cases there.symm.trans held
    cases gone
  have gone : (told.entry (fun _ => none) (.lost office)).after.Gone office.id := by
    refine ⟨⟨0, false⟩, ?_, rfl⟩
    decide +kernel
  have since : GoneSince office.id (told.entry (fun _ => none) (.lost office)) lost.history :=
    .just _ wasThere gone
  obtain ⟨_, _, _, armed, prompt⟩ := sweeps_in_time 0 10 (.empty 50) (reaches Freely)
  obtain ⟨_, deadline, set, _⟩ := armed _ _ since
  exact ⟨lost, _, reaches Freely, since, deadline, set, prompt (reaches Punctually) _ _ since⟩

end Timeline

end PrinterRoster.Session
