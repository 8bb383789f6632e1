import PrinterRoster.Proofs.Session.Expiry

/-! How long a printer is gone before a sweep removes it. A record expires a window after
the printer was last sighted, and not a window after it was lost. So the sweep that comes
with a deadline set before the loss may remove a printer that was lost just now, if it was
sighted long ago; but the sweep of a deadline that the loss itself has set, or one set
later, leaves a whole window. -/
namespace PrinterRoster.Session

instance (session : Session) (id : PrinterId) : Decidable (session.Gone id) :=
  decidable_of_iff ((session.presence? id).any fun presence => !presence.isFound) (by
    simp [Gone, Option.any_eq_true])

def becameGone? (id : PrinterId) : List Entry → Option Entry
  | [] => none
  | entry :: earlier =>
    if entry.after.Gone id then
      if entry.before.Gone id then becameGone? id earlier else some entry
    else none

namespace Entry

def Removes (entry : Entry) (id : PrinterId) : Prop :=
  (entry.before.records.get? id).isSome = true ∧ entry.after.records.get? id = none

private theorem not_removes_destroy {entry : Entry} (destroys : entry.command = .destroy)
    (id : PrinterId) : ¬ entry.Removes id := by
  rintro ⟨listed, removed⟩
  have kept : entry.after.records = entry.before.records := by
    rw [after, outcome, destroys]
    exact records_teardown entry.before
  rw [kept] at removed
  rw [removed] at listed
  cases listed

end Entry

namespace Timeline

inductive Course (initial : Timeline) : List Entry → Prop
  | going {line : Timeline} (reached : Reached Freely initial line) : Course initial line.history
  | destroyed {line : Timeline} (reached : Reached Freely initial line)
      (cached : Printer → Option Capabilities) :
      Course initial (line.entry cached .destroy :: line.history)

/-- How a run waits for the printers that are gone. A deadline that was set when a printer
became gone, or since then, is at least a window away from that. -/
structure Patient (window : Nat) (line : Timeline) : Prop where
  past : ∀ entry ∈ line.history, entry.now ≤ line.now
  seen : ∀ sighting ∈ line.history, ∀ printer, sighting.command = .found printer →
    ∀ presence ∈ line.session.presence? printer.id, sighting.now ≤ presence.lastSeen
  waits : ∀ id, line.session.Gone id → ∃ became, becameGone? id line.history = some became ∧
    became.now ≤ line.now ∧ (became.before.deadline = none →
      ∀ deadline ∈ line.session.deadline, became.now + window ≤ deadline)

theorem patient_start (now window : Nat) (known : KnownGood) :
    Patient window (Timeline.start now window known) where
  past := by
    intro entry member
    cases member
  seen := by
    intro sighting member
    cases member
  waits := by
    rintro id ⟨presence, held, _⟩
    cases held

section Turn
variable {window : Nat} {line : Timeline} (timely : Timely window line)
  (patient : Patient window line) (cached : Printer → Option Capabilities) {command : Command}
  (goesOn : command ≠ .destroy)
include timely patient goesOn

private theorem Patient.seen_handled :
    ∀ sighting ∈ line.entry cached command :: line.history, ∀ printer,
      sighting.command = .found printer →
        ∀ presence ∈ (line.entry cached command).after.presence? printer.id,
          sighting.now ≤ presence.lastSeen := by
  intro sighting member printer finds
  rcases List.mem_cons.1 member with rfl | earlier
  · intro presence held
    have here := presence?_handle timely.owned timely.lives ⟨line.now, cached⟩ goesOn printer.id
    have told : command = .found printer := finds
    subst told
    dsimp only at here
    rw [if_pos rfl] at here
    rw [Option.mem_def, Entry.after, Entry.outcome] at held
    cases here.symm.trans held
    exact Nat.le_refl line.now
  · exact (presenceChange_handle timely.owned timely.lives ⟨line.now, cached⟩ goesOn
      printer.id).le_lastSeen (patient.past sighting earlier)
        (patient.seen sighting earlier printer finds)

private theorem Patient.waits_handled (id : PrinterId)
    (gone : (line.entry cached command).after.Gone id) :
    ∃ became, becameGone? id (line.entry cached command :: line.history) = some became ∧
      became.now ≤ line.now ∧ (became.before.deadline = none →
        ∀ deadline ∈ (line.entry cached command).after.deadline,
          became.now + window ≤ deadline) := by
  have change := (line.entry cached command).deadlineChange goesOn
  have fresh : ∀ deadline, deadline = line.now + line.session.window → line.now + window ≤ deadline := by
    intro deadline new
    exact Nat.le_of_eq (timely.lasts ▸ new.symm)
  rw [becameGone?, if_pos gone]
  by_cases wasGone : line.session.Gone id
  · have before : (line.entry cached command).before.Gone id := wasGone
    obtain ⟨became, since, past, waits⟩ := patient.waits id wasGone
    rw [if_pos before]
    refine ⟨became, since, past, ?_⟩
    intro unset deadline set
    rcases change.kept_or_new deadline set with old | new
    · exact waits unset deadline old
    · exact Nat.le_trans (Nat.add_le_add_right past window) (fresh deadline new)
  · have before : ¬ (line.entry cached command).before.Gone id := wasGone
    rw [if_neg before]
    refine ⟨line.entry cached command, rfl, Nat.le_refl line.now, ?_⟩
    intro unset deadline set
    rcases change.kept_or_new deadline set with old | new
    · rw [unset] at old
      cases old
    · exact fresh deadline new

end Turn

theorem Patient.step {window : Nat} {line next : Timeline} (timely : Timely window line)
    (patient : Patient window line) {mayPass : Timeline → Nat → Prop}
    (step : Step mayPass line next) : Patient window next := by
  obtain ⟨command, _, _, rfl⟩ | ⟨generation, deadline, _, _, rfl⟩ |
    ⟨cached, command, others, queued, goesOn, rfl⟩ | ⟨later, rises, _, rfl⟩ := timely.step_cases step
  · exact ⟨patient.past, patient.seen, patient.waits⟩
  · exact ⟨patient.past, patient.seen, patient.waits⟩
  · exact ⟨List.forall_mem_cons.2 ⟨Nat.le_refl line.now, patient.past⟩,
      patient.seen_handled timely cached goesOn, patient.waits_handled timely cached goesOn⟩
  · refine ⟨fun entry member => Nat.le_trans (patient.past entry member) rises, patient.seen, ?_⟩
    intro id gone
    obtain ⟨became, since, past, waits⟩ := patient.waits id gone
    exact ⟨became, since, Nat.le_trans past rises, waits⟩

private theorem Reached.patient {now window : Nat} {known : KnownGood}
    {mayPass : Timeline → Nat → Prop}
    {line : Timeline} (reached : Reached mayPass (Timeline.start now window known) line) :
    Patient window line := by
  induction reached with
  | start => exact patient_start now window known
  | step earlier step ih => exact ih.step earlier.timely step

structure Waited (window : Nat) (id : PrinterId) (entry : Entry) (earlier : List Entry) : Prop where
  sweeps : ∃ generation, entry.Sweeps generation
  gone : entry.before.Gone id
  unseen : ∀ sighting ∈ earlier, ∀ printer, sighting.command = .found printer → printer.id = id →
    sighting.now + window ≤ entry.now
  since : ∃ became, becameGone? id earlier = some became ∧
    (became.before.deadline = none → became.now + window ≤ entry.now)

private theorem Patient.waited {window : Nat} {line : Timeline} (timely : Timely window line)
    (patient : Patient window line) (cached : Printer → Option Capabilities) {command : Command}
    {others : List Command} (queued : line.run.queue = command :: others)
    (goesOn : command ≠ .destroy) {id : PrinterId}
    (removes : (line.entry cached command).Removes id) :
    Waited window id (line.entry cached command) line.history := by
  obtain ⟨listed, removed⟩ := removes
  obtain ⟨record, held⟩ := Option.isSome_iff_exists.1 listed
  obtain ⟨expired, generation, sweeps⟩ :=
    (line.entry cached command).expired_of_removed timely.owned timely.lives goesOn held removed
  rw [Record.isExpired, Bool.and_eq_true, Bool.not_eq_true', decide_eq_true_eq] at expired
  obtain ⟨absent, unseen⟩ := expired
  have was : line.session.presence? id = some record.presence := by
    rw [presence?, show line.session.records.get? id = some record from held]
    rfl
  have gone : line.session.Gone id := ⟨record.presence, was, absent⟩
  refine ⟨⟨generation, sweeps⟩, gone, ?_, ?_⟩
  · rintro sighting member printer finds rfl
    have seen : sighting.now ≤ record.lastSeen :=
      patient.seen sighting member printer finds record.presence was
    have past : record.lastSeen ≤ line.now := timely.past printer.id record.presence was
    have long : window ≤ line.now - record.lastSeen := timely.lasts ▸ unseen
    change sighting.now + window ≤ line.now
    omega
  · obtain ⟨became, since, _, waits⟩ := patient.waits id gone
    obtain ⟨deadline, set, due⟩ := timely.due_of_sweeps cached queued sweeps
    exact ⟨became, since, fun unset => Nat.le_trans (waits unset deadline set) due⟩

private theorem Reached.waited {now window : Nat} {known : KnownGood}
    {mayPass : Timeline → Nat → Prop}
    {line : Timeline} (reached : Reached mayPass (Timeline.start now window known) line) :
    ∀ entry earlier, entry :: earlier <:+ line.history → ∀ id, entry.Removes id →
      Waited window id entry earlier := by
  refine reached.each ?_
  intro line cached command others before queued goesOn id removes
  exact before.patient.waited before.timely cached queued goesOn removes

/-- A sweep that removes a record comes a window after the timer behind it was armed, and
a window after the last sighting of the printer. The printer was gone for a window too,
if no deadline was set when it became gone, or if the timer was armed since. -/
theorem removed_after_window (now window : Nat) (known : KnownGood) {history : List Entry}
    (course : Course (Timeline.start now window known) history) (entry : Entry)
    (earlier : List Entry) (part : entry :: earlier <:+ history) (id : PrinterId)
    (removes : entry.Removes id) :
    ∃ generation arming deadline became, entry.Sweeps generation ∧
      ArmedBy generation deadline arming earlier ∧ arming.now + window ≤ entry.now ∧
      entry.before.Gone id ∧
      (∀ sighting ∈ earlier, ∀ printer, sighting.command = .found printer → printer.id = id →
        sighting.now + window ≤ entry.now) ∧
      becameGone? id earlier = some became ∧
      (became.before.deadline = none ∨ became.now ≤ arming.now →
        became.now + window ≤ entry.now) := by
  obtain ⟨line, reached, part⟩ : ∃ line, ∃ _ : Reached Freely (Timeline.start now window known) line,
      entry :: earlier <:+ line.history := by
    cases course with
    | going reached => exact ⟨_, reached, part⟩
    | destroyed reached cached =>
      rcases List.suffix_cons_iff.1 part with whole | part
      · cases whole
        exact absurd removes (Entry.not_removes_destroy rfl id)
      · exact ⟨_, reached, part⟩
  have waited := reached.waited entry earlier part id removes
  obtain ⟨generation, sweeps⟩ := waited.sweeps
  obtain ⟨became, since, unarmed⟩ := waited.since
  obtain ⟨arming, deadline, armed, due⟩ := reached.chronicle.due entry earlier part generation sweeps
  refine ⟨generation, arming, deadline, became, sweeps, armed, due, waited.gone, waited.unseen,
    since, ?_⟩
  rintro (unset | armedSince)
  · exact unarmed unset
  · exact Nat.le_trans (Nat.add_le_add_right armedSince window) due

def told (line : Timeline) (command : Command) : Timeline :=
  { line with run := line.run.send command }.handled (fun _ => none) command []

def later (line : Timeline) (instant : Nat) : Timeline := { line with now := instant }

def fired (line : Timeline) (generation deadline : Nat) : Timeline :=
  { line with
    run := line.run.send (.tick generation)
    timers := line.timers.erase (generation, deadline) }

private theorem Reached.told {now window : Nat} {known : KnownGood}
    {mayPass : Timeline → Nat → Prop}
    {line : Timeline} (reached : Reached mayPass (Timeline.start now window known) line)
    (idle : line.run.queue = []) (command : Command)
    (untimed : ∀ generation, command ≠ .tick generation) (goesOn : command ≠ .destroy) :
    Reached mayPass (Timeline.start now window known) (line.told command) := by
  have sent := Reached.step reached (.send command untimed goesOn)
  refine .step sent (sent.timely.step_handled mayPass (fun _ => none) ?_ goesOn)
  dsimp only
  rw [send_eq reached.timely.running reached.timely.held, idle]
  rfl

/-- Two printers were found and one of them lost, which armed a timer; the other one is
lost just before the timer goes off, and now the tick waits. -/
def twoLosses (office other : Printer) : Timeline :=
  let found := ((Timeline.start 0 3000 (.empty 50)).told (.found office)).told (.found other)
  (((found.told (.lost other)).later 2999).told (.lost office)).later 3000 |>.fired 1 3000

private theorem course_twoLosses :
    let line :=
      twoLosses (.report none "Office" "ipp://h" none) (.report none "Other" "ipp://o" none)
    Course (Timeline.start 0 3000 (.empty 50))
      (line.entry (fun _ => none) (.tick 1) :: line.history) := by
  let office := Printer.report none "Office" "ipp://h" none
  let other := Printer.report none "Other" "ipp://o" none
  let initial := Timeline.start 0 3000 (.empty 50)
  have one : Reached Freely initial (initial.told (.found office)) :=
    Reached.start.told rfl _ nofun nofun
  have two : Reached Freely initial _ := one.told rfl (.found other) nofun nofun
  have three : Reached Freely initial _ := two.told rfl (.lost other) nofun nofun
  have late : Reached Freely initial _ := three.step (.pass 2999 (Nat.zero_le _) trivial)
  have four : Reached Freely initial _ := late.told rfl (.lost office) nofun nofun
  have due : Reached Freely initial _ := four.step (.pass 3000 (by decide) trivial)
  have fired : Reached Freely initial (twoLosses office other) :=
    due.step (.fire 1 3000 (by decide +kernel) (Nat.le_refl _))
  exact .going (fired.step (fired.timely.step_handled Freely (fun _ => none) rfl nofun))

/-- The printer whose loss armed the timer was gone for the whole window. -/
theorem removed_after_window_of_first_loss :
    let office := Printer.report none "Office" "ipp://h" none
    let other := Printer.report none "Other" "ipp://o" none
    let line := twoLosses office other
    let entry := line.entry (fun _ => none) (.tick 1)
    Course (Timeline.start 0 3000 (.empty 50)) (entry :: line.history) ∧
      entry.Removes other.id ∧ ∃ became, becameGone? other.id line.history = some became ∧
        became.before.deadline = none ∧ became.now + 3000 ≤ entry.now := by
  intro office other line entry
  have removes : entry.Removes other.id := by
    constructor <;> decide +kernel
  have unarmed : (becameGone? other.id line.history).any (·.before.deadline.isNone) = true := by
    decide +kernel
  obtain ⟨_, _, _, became, _, _, _, _, _, since, waits⟩ :=
    removed_after_window 0 3000 (.empty 50) course_twoLosses entry line.history
      (List.suffix_refl _) other.id removes
  rw [since, Option.any_some, Option.isNone_iff_eq_none] at unarmed
  exact ⟨course_twoLosses, removes, became, since, unarmed, waits (Or.inl unarmed)⟩

/-- A sweep removes a printer that was lost a moment before, since another loss has armed
the timer and the printer was not sighted for a window. -/
theorem removed_just_after_loss :
    let office := Printer.report none "Office" "ipp://h" none
    let other := Printer.report none "Other" "ipp://o" none
    let line := twoLosses office other
    let entry := line.entry (fun _ => none) (.tick 1)
    Course (Timeline.start 0 3000 (.empty 50)) (entry :: line.history) ∧
      (∃ generation, entry.Sweeps generation) ∧ entry.Removes office.id ∧
      ∃ became, becameGone? office.id line.history = some became ∧
        entry.now < became.now + 3000 := by
  intro office other line entry
  have removes : entry.Removes office.id := by
    constructor <;> decide +kernel
  have late : (becameGone? office.id line.history).any
      (fun became => decide (entry.now < became.now + 3000)) = true := by
    decide +kernel
  obtain ⟨became, since, late⟩ := (Option.any_eq_true ..).1 late
  exact ⟨course_twoLosses, ⟨1, rfl, entry.changes_of_removed removes.1 removes.2⟩, removes,
    became, since, of_decide_eq_true late⟩

end Timeline

end PrinterRoster.Session
