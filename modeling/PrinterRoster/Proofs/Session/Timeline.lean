import PrinterRoster.Proofs.Session.Deadline
import PrinterRoster.Session.Run

/-! A session that runs in time. Commands are sent at any time and wait in the queue,
a timer that is due goes off at any time and its tick waits there too, and in between
the session takes its turns and time passes. The history tells what was handled. -/
namespace PrinterRoster.Session

structure Entry where
  before : Session
  moment : Moment
  command : Command

namespace Entry

def now (entry : Entry) : Nat := entry.moment.now

def outcome (entry : Entry) : Outcome := entry.before.handle entry.moment entry.command

def after (entry : Entry) : Session := entry.outcome.1

def Arms (entry : Entry) (generation deadline : Nat) : Prop :=
  .arm generation deadline ∈ entry.outcome.2

def Sweeps (entry : Entry) (generation : Nat) : Prop :=
  entry.command = .tick generation ∧ entry.outcome ≠ (entry.before, [])

end Entry

structure Timeline where
  now : Nat
  run : SessionRun
  timers : List (Nat × Nat)
  /-- What was handled, the latest first. -/
  history : List Entry

namespace Timeline

def session (line : Timeline) : Session := line.run.session

def setTimer (timers : List (Nat × Nat)) : Effect → List (Nat × Nat)
  | .arm generation deadline => timers ++ [(generation, deadline)]
  | .disarm => []
  | _ => timers

/-- What may happen next. When time may pass is left open. -/
inductive Step (mayPass : Timeline → Nat → Prop) (line : Timeline) : Timeline → Prop
  | send (command : Command) (untimed : ∀ generation, command ≠ .tick generation)
      (goesOn : command ≠ .destroy) :
      Step mayPass line { line with run := line.run.send command }
  | fire (generation deadline : Nat) (armed : (generation, deadline) ∈ line.timers)
      (due : deadline ≤ line.now) :
      Step mayPass line
        { line with
          run := line.run.send (.tick generation)
          timers := line.timers.erase (generation, deadline) }
  | turn (cached : Printer → Option Capabilities) (command : Command) (others : List Command)
      (queued : line.run.queue = command :: others) (next : SessionRun × List Effect)
      (taken : line.run.next? ⟨line.now, cached⟩ = some next) :
      Step mayPass line
        { line with
          run := next.1
          timers := next.2.foldl setTimer line.timers
          history := ⟨line.session, ⟨line.now, cached⟩, command⟩ :: line.history }
  | pass (later : Nat) (rises : line.now ≤ later) (may : mayPass line later) :
      Step mayPass line { line with now := later }

inductive Reached (mayPass : Timeline → Nat → Prop) (initial : Timeline) : Timeline → Prop
  | start : Reached mayPass initial initial
  | step {line next : Timeline} (earlier : Reached mayPass initial line)
      (step : Step mayPass line next) : Reached mayPass initial next

def start (now window : Nat) (known : KnownGood) : Timeline :=
  ⟨now, .start (fresh window known), [], []⟩

def Freely (_ : Timeline) (_ : Nat) : Prop := True

/-- Time passes only when no tick is due. -/
def Punctually (line : Timeline) (later : Nat) : Prop :=
  (∀ generation, .tick generation ∉ line.run.queue) ∧ ∀ timer ∈ line.timers, later ≤ timer.2

private theorem foldl_setTimer (timers : List (Nat × Nat)) (effects : List Effect) :
    effects.foldl setTimer timers = (timing effects).foldl setTimer timers := by
  induction effects generalizing timers with
  | nil => rfl
  | cons effect others ih =>
    cases effect with
    | arm generation deadline => exact ih (timers ++ [(generation, deadline)])
    | disarm => exact ih []
    | _ => exact ih timers

inductive TimerState (line : Timeline) : Prop
  | resting (unset : line.session.deadline = none) (timers : line.timers = [])
  | asleep (deadline : Nat) (set : line.session.deadline = some deadline)
      (timers : line.timers = [(line.session.generation, deadline)])
      (unqueued : .tick line.session.generation ∉ line.run.queue)
  | fired (deadline : Nat) (set : line.session.deadline = some deadline)
      (timers : line.timers = []) (queued : .tick line.session.generation ∈ line.run.queue)
      (due : deadline ≤ line.now)

structure Timely (window : Nat) (line : Timeline) : Prop where
  running : line.run.phase = .running
  held : line.run.isHeld = true
  lives : line.session.destroyed = false
  lasts : line.session.window = window
  owned : line.session.Owned
  lasting : .destroy ∉ line.run.queue
  past : ∀ id, ∀ presence ∈ line.session.presence? id, presence.lastSeen ≤ line.now
  near : ∀ deadline ∈ line.session.deadline, deadline ≤ line.now + window
  ticks : ∀ generation, .tick generation ∈ line.run.queue → generation ≤ line.session.generation
  timer : TimerState line

theorem send_eq {run : SessionRun} (running : run.phase = .running) (held : run.isHeld = true)
    (command : Command) : run.send command = { run with queue := run.queue ++ [command] } := by
  rw [SessionRun.send, running, held]
  rfl

def entry (line : Timeline) (cached : Printer → Option Capabilities) (command : Command) : Entry :=
  ⟨line.session, ⟨line.now, cached⟩, command⟩

def handled (line : Timeline) (cached : Printer → Option Capabilities) (command : Command)
    (others : List Command) : Timeline :=
  { line with
    run := { line.run with session := (line.entry cached command).after, queue := others }
    timers := (line.entry cached command).outcome.2.foldl setTimer line.timers
    history := line.entry cached command :: line.history }

private theorem next?_eq {run : SessionRun} (running : run.phase = .running) {command : Command}
    {others : List Command} (queued : run.queue = command :: others) (goesOn : command ≠ .destroy)
    (moment : Moment) :
    run.next? moment =
      some ({ run with session := (run.session.handle moment command).1, queue := others },
        (run.session.handle moment command).2) := by
  have continues : command.continues = true := by
    cases command with
    | destroy => exact absurd rfl goesOn
    | _ => rfl
  unfold SessionRun.next?
  rw [running, if_neg (not_not_intro rfl), queued]
  dsimp only [SessionRun.handle]
  rw [continues, if_pos rfl]

/-- What may happen next to a timeline whose run goes on. -/
theorem Timely.step_cases {window : Nat} {line next : Timeline} (timely : Timely window line)
    {mayPass : Timeline → Nat → Prop} (step : Step mayPass line next) :
    (∃ command, (∀ generation, command ≠ .tick generation) ∧ command ≠ .destroy ∧
      next = { line with run := { line.run with queue := line.run.queue ++ [command] } }) ∨
    (∃ generation deadline, (generation, deadline) ∈ line.timers ∧ deadline ≤ line.now ∧
      next = { line with
        run := { line.run with queue := line.run.queue ++ [.tick generation] }
        timers := line.timers.erase (generation, deadline) }) ∨
    (∃ cached command others, line.run.queue = command :: others ∧ command ≠ .destroy ∧
      next = line.handled cached command others) ∨
    ∃ later, line.now ≤ later ∧ mayPass line later ∧ next = { line with now := later } := by
  cases step with
  | send command untimed goesOn =>
    rw [send_eq timely.running timely.held]
    exact Or.inl ⟨command, untimed, goesOn, rfl⟩
  | fire generation deadline armed due =>
    rw [send_eq timely.running timely.held]
    exact Or.inr (Or.inl ⟨generation, deadline, armed, due, rfl⟩)
  | turn cached command others queued next taken =>
    have goesOn : command ≠ .destroy := by
      rintro rfl
      apply timely.lasting
      rw [queued]
      exact List.mem_cons_self
    rw [next?_eq timely.running queued goesOn] at taken
    cases taken
    exact Or.inr (Or.inr (Or.inl ⟨cached, command, others, queued, goesOn, rfl⟩))
  | pass later rises may => exact Or.inr (Or.inr (Or.inr ⟨later, rises, may, rfl⟩))

/-- The session may take its turn whenever a command is queued. -/
theorem Timely.step_handled {window : Nat} {line : Timeline} (timely : Timely window line)
    (mayPass : Timeline → Nat → Prop) (cached : Printer → Option Capabilities)
    {command : Command} {others : List Command} (queued : line.run.queue = command :: others)
    (goesOn : command ≠ .destroy) :
    Step mayPass line (line.handled cached command others) :=
  .turn cached command others queued _ (next?_eq timely.running queued goesOn ⟨line.now, cached⟩)

theorem timely_start (now window : Nat) (known : KnownGood) :
    Timely window (start now window known) where
  running := rfl
  held := rfl
  lives := rfl
  lasts := rfl
  owned := by
    intro id record held
    cases held
  lasting := List.not_mem_nil
  past := by
    intro id presence held
    cases held
  near := by
    intro deadline set
    cases set
  ticks := by
    intro generation queued
    cases queued
  timer := .resting rfl rfl

private theorem Timely.send {window : Nat} {line : Timeline} (timely : Timely window line)
    {command : Command} (untimed : ∀ generation, command ≠ .tick generation)
    (goesOn : command ≠ .destroy) :
    Timely window
      { line with run := { line.run with queue := line.run.queue ++ [command] } } where
  running := timely.running
  held := timely.held
  lives := timely.lives
  lasts := timely.lasts
  owned := timely.owned
  lasting := by
    rw [List.mem_append, List.mem_singleton, not_or]
    exact ⟨timely.lasting, Ne.symm goesOn⟩
  past := timely.past
  near := timely.near
  ticks := by
    intro generation queued
    rcases List.mem_append.1 queued with before | added
    · exact timely.ticks generation before
    · exact absurd (List.mem_singleton.1 added).symm (untimed generation)
  timer := by
    cases timely.timer with
    | resting unset timers => exact .resting unset timers
    | asleep deadline set timers unqueued =>
      refine .asleep deadline set timers ?_
      rw [List.mem_append, List.mem_singleton, not_or]
      exact ⟨unqueued, Ne.symm (untimed _)⟩
    | fired deadline set timers queued due =>
      exact .fired deadline set timers (List.mem_append_left _ queued) due

private theorem Timely.fire {window : Nat} {line : Timeline} (timely : Timely window line)
    {generation deadline : Nat} (armed : (generation, deadline) ∈ line.timers)
    (due : deadline ≤ line.now) :
    Timely window
      { line with
        run := { line.run with queue := line.run.queue ++ [.tick generation] }
        timers := line.timers.erase (generation, deadline) } := by
  obtain ⟨set, timers, latest⟩ : line.session.deadline = some deadline ∧
      line.timers = [(generation, deadline)] ∧ generation = line.session.generation := by
    cases timely.timer with
    | resting _ timers =>
      rw [timers] at armed
      cases armed
    | asleep deadline set timers _ =>
      rw [timers, List.mem_singleton] at armed
      cases armed
      exact ⟨set, timers, rfl⟩
    | fired _ _ timers _ _ =>
      rw [timers] at armed
      cases armed
  constructor
  · exact timely.running
  · exact timely.held
  · exact timely.lives
  · exact timely.lasts
  · exact timely.owned
  · rw [List.mem_append, List.mem_singleton, not_or]
    exact ⟨timely.lasting, nofun⟩
  · exact timely.past
  · exact timely.near
  · intro other queued
    rcases List.mem_append.1 queued with before | added
    · exact timely.ticks other before
    · cases List.mem_singleton.1 added
      exact Nat.le_of_eq latest
  · refine .fired deadline set ?_ ?_ due
    · dsimp only
      rw [timers, List.erase_cons_head]
    · rw [latest]
      exact List.mem_append_right _ (List.mem_singleton_self _)

private theorem Timely.pass {window : Nat} {line : Timeline} (timely : Timely window line)
    {later : Nat}
    (rises : line.now ≤ later) : Timely window { line with now := later } where
  running := timely.running
  held := timely.held
  lives := timely.lives
  lasts := timely.lasts
  owned := timely.owned
  lasting := timely.lasting
  past := fun id presence held => Nat.le_trans (timely.past id presence held) rises
  near := by
    intro deadline set
    exact Nat.le_trans (timely.near deadline set) (Nat.add_le_add_right rises window)
  ticks := timely.ticks
  timer := by
    cases timely.timer with
    | resting unset timers => exact .resting unset timers
    | asleep deadline set timers unqueued => exact .asleep deadline set timers unqueued
    | fired deadline set timers queued due =>
      exact .fired deadline set timers queued (Nat.le_trans due rises)

private theorem Timely.timers_of_tick {window : Nat} {line : Timeline} (timely : Timely window line)
    {others : List Command}
    (queued : line.run.queue = .tick line.session.generation :: others) : line.timers = [] := by
  cases timely.timer with
  | resting _ timers => exact timers
  | asleep _ _ _ unqueued =>
    rw [queued] at unqueued
    exact absurd List.mem_cons_self unqueued
  | fired _ _ timers _ _ => exact timers

theorem Timely.due_of_tick {window : Nat} {line : Timeline} (timely : Timely window line)
    {others : List Command} (queued : line.run.queue = .tick line.session.generation :: others)
    {deadline : Nat} (set : line.session.deadline = some deadline) : deadline ≤ line.now := by
  cases timely.timer with
  | resting unset _ =>
    rw [unset] at set
    cases set
  | asleep _ _ _ unqueued =>
    rw [queued] at unqueued
    exact absurd List.mem_cons_self unqueued
  | fired _ same _ _ due =>
    rw [same] at set
    cases set
    exact due

section Turn
variable {window : Nat} {line : Timeline} (timely : Timely window line)
  (cached : Printer → Option Capabilities) {command : Command} {others : List Command}
  (queued : line.run.queue = command :: others) (goesOn : command ≠ .destroy)
include timely queued goesOn

private theorem Timely.timer_handled : TimerState (line.handled cached command others) := by
  have timers : (line.handled cached command others).timers =
      (timing (line.session.handle ⟨line.now, cached⟩ command).2).foldl setTimer line.timers :=
    foldl_setTimer ..
  have fewer : ∀ other ∈ others, other ∈ line.run.queue := by
    intro other member
    rw [queued]
    exact List.mem_cons_of_mem command member
  -- The tick of a timer that is armed now cannot have been queued before.
  have unnamed : .tick (line.session.generation + 1) ∉ others := by
    intro member
    exact Nat.not_succ_le_self _ (timely.ticks _ (fewer _ member))
  cases deadlineChange_handle line.session ⟨line.now, cached⟩ goesOn with
  | kept _ ignored deadline generation silent =>
    rw [silent] at timers
    cases timely.timer with
    | resting unset rest => exact .resting (deadline.trans unset) (timers.trans rest)
    | asleep instant set rest unqueued =>
      refine .asleep instant (deadline.trans set) ?_ ?_
      · exact (timers.trans rest).trans (by rw [← generation]; rfl)
      · intro member
        apply unqueued
        rw [← generation]
        exact fewer _ member
    | fired instant set rest waits due =>
      refine .fired instant (deadline.trans set) (timers.trans rest) ?_ due
      rw [queued, List.mem_cons] at waits
      rcases waits with first | waits
      · rcases (ignored _ first.symm).2 with unset | stale
        · rw [unset] at set
          cases set
        · exact absurd rfl stale
      · exact generation.symm ▸ waits
  | armed _ unset deadline generation arms =>
    rw [arms] at timers
    cases timely.timer with
    | resting _ rest =>
      rw [rest] at timers
      refine .asleep _ deadline ?_ ?_
      · exact timers.trans (by rw [← generation]; rfl)
      · exact generation.symm ▸ unnamed
    | asleep _ set _ _ =>
      rw [unset] at set
      cases set
    | fired _ set _ _ _ =>
      rw [unset] at set
      cases set
  | stopped _ deadline _ disarms =>
    refine .resting deadline ?_
    rw [disarms] at timers
    rw [timers]
    split
    · rfl
    · rename_i unset
      cases timely.timer with
      | resting _ rest => exact rest
      | asleep _ set _ _ => rw [set] at unset; exact absurd rfl unset
      | fired _ set _ _ _ => rw [set] at unset; exact absurd rfl unset
  | usedUp ticks _ _ deadline _ silent =>
    rw [silent, timely.timers_of_tick (ticks ▸ queued)] at timers
    exact .resting deadline timers
  | renewed ticks _ deadline generation arms =>
    rw [arms, timely.timers_of_tick (ticks ▸ queued)] at timers
    refine .asleep _ deadline ?_ ?_
    · exact timers.trans (by rw [← generation]; rfl)
    · exact generation.symm ▸ unnamed

private theorem Timely.handled : Timely window (line.handled cached command others) where
  running := timely.running
  held := timely.held
  lives := (handle_keeps line.session ⟨line.now, cached⟩ goesOn).2.trans timely.lives
  lasts := (handle_keeps line.session ⟨line.now, cached⟩ goesOn).1.trans timely.lasts
  owned := owned_handle timely.owned ⟨line.now, cached⟩ command
  lasting := by
    intro member
    apply timely.lasting
    rw [queued]
    exact List.mem_cons_of_mem command member
  past := fun id => (presenceChange_handle timely.owned timely.lives ⟨line.now, cached⟩ goesOn
    id).lastSeen_le (timely.past id)
  near := by
    intro deadline set
    have change := deadlineChange_handle line.session ⟨line.now, cached⟩ goesOn
    rcases change.kept_or_new deadline set with before | new
    · exact timely.near deadline before
    · rw [new, timely.lasts]
      exact Nat.le_refl _
  ticks := by
    intro generation member
    have change := deadlineChange_handle line.session ⟨line.now, cached⟩ goesOn
    refine Nat.le_trans (timely.ticks generation ?_) change.generation_le
    rw [queued]
    exact List.mem_cons_of_mem command member
  timer := timely.timer_handled cached queued goesOn

end Turn

theorem Timely.step {window : Nat} {line next : Timeline} (timely : Timely window line)
    {mayPass : Timeline → Nat → Prop} (step : Step mayPass line next) : Timely window next := by
  obtain ⟨command, untimed, goesOn, rfl⟩ | ⟨generation, deadline, armed, due, rfl⟩ |
    ⟨cached, command, others, queued, goesOn, rfl⟩ | ⟨later, rises, _, rfl⟩ :=
      timely.step_cases step
  · exact timely.send untimed goesOn
  · exact timely.fire armed due
  · exact timely.handled cached queued goesOn
  · exact timely.pass rises

theorem Reached.timely {now window : Nat} {known : KnownGood} {mayPass : Timeline → Nat → Prop}
    {line : Timeline} (reached : Reached mayPass (Timeline.start now window known) line) :
    Timely window line := by
  induction reached with
  | start => exact timely_start now window known
  | step _ step ih => exact ih.step step

/-- What holds of every command when it is handled holds of every entry of the history,
with what was handled before. -/
theorem Reached.each {now window : Nat} {known : KnownGood} {mayPass : Timeline → Nat → Prop}
    {holds : Entry → List Entry → Prop}
    (handled : ∀ (line : Timeline) cached command others,
      Reached mayPass (Timeline.start now window known) line →
        line.run.queue = command :: others → command ≠ .destroy →
          holds (line.entry cached command) line.history)
    {line : Timeline} (reached : Reached mayPass (Timeline.start now window known) line) :
    ∀ entry earlier, entry :: earlier <:+ line.history → holds entry earlier := by
  induction reached with
  | start =>
    intro entry earlier part
    cases List.suffix_nil.1 part
  | step before step ih =>
    obtain ⟨_, _, _, rfl⟩ | ⟨_, _, _, _, rfl⟩ | ⟨cached, command, others, queued, goesOn, rfl⟩ |
      ⟨_, _, _, rfl⟩ := before.timely.step_cases step
    · exact ih
    · exact ih
    · intro entry earlier part
      rcases List.suffix_cons_iff.1 part with whole | part
      · cases whole
        exact handled _ cached command others before queued goesOn
      · exact ih entry earlier part
    · exact ih

end Timeline

end PrinterRoster.Session
