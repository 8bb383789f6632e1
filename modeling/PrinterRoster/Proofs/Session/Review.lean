import PrinterRoster.Proofs.Session.Confirmed
import PrinterRoster.Proofs.Session.Deadline
import PrinterRoster.Proofs.Session.Heritage

/-! Commands about one printer. A sighting, a loss or an answer evaluates one record, and all that
it does follows from that record, from whether an answer of the printer is wanted, and from whether
it is to be seen to that the printer expires. -/
namespace PrinterRoster.Session

def requested (effects : List Effect) : List Effect :=
  effects.filter fun
    | .query .. => true
    | _ => false

/-- A record that is evaluated. -/
structure Review where
  record : Record
  wants : Bool
  watches : Bool

def Review.queries (review : Review) : List Effect :=
  if review.wants && !review.record.refreshing then
    [.query review.record.id review.record.printer false]
  else []

def review? (session : Session) (moment : Moment) : Command → Option Review
  | .found printer =>
    some ⟨session.sighted moment printer, session.wantsAnswer moment printer, false⟩
  | .lost printer =>
    (session.records.get? printer.id).map fun record => ⟨record.notFound, false, true⟩
  | .answered id answer =>
    (session.records.get? id).map fun record => ⟨withAnswer record answer, false, false⟩
  | _ => none

def Command.forgets : Command → List String
  | .lost printer => if printer.id.isNetworkAddress then [printer.uri] else []
  | _ => []

def setsDeadline (session : Session) (review : Option Review) : Bool :=
  review.any (·.watches) && session.deadline.isNone

structure Handled (session : Session) (now : Nat) (id : PrinterId) (review : Option Review)
    (outcome : Outcome) : Prop where
  named : ∀ made ∈ review, made.record.id = id
  visible : ∀ made ∈ review,
    made.record.published = (session.records.get? id).any (·.published)
  absent : review = none → session.records.get? id = none
  records : ∀ other, outcome.1.records.get? other =
    if other = id then review.map fun made => settled session.knownGood made.record made.wants
    else session.records.get? other
  told : published outcome.2 =
    (review.map fun made => announced session.knownGood made.record).getD []
  knownGood : outcome.1.knownGood =
    (review.map fun made => vouched session.knownGood made.record).getD session.knownGood
  requests : requested outcome.2 = (review.map Review.queries).getD []
  deadline : outcome.1.deadline =
    if session.setsDeadline review then some (now + session.window) else session.deadline
  generation : outcome.1.generation =
    if session.setsDeadline review then session.generation + 1 else session.generation
  timed : timing outcome.2 =
    if session.setsDeadline review then [.arm (session.generation + 1) (now + session.window)]
    else []
  priority : ∀ other, outcome.1.isPriority other = session.isPriority other
  window : outcome.1.window = session.window
  lives : outcome.1.destroyed = session.destroyed

section Effects

theorem requested_append (earlier later : List Effect) :
    requested (earlier ++ later) = requested earlier ++ requested later :=
  List.filter_append ..

private theorem requested_map_publish (events : List RosterEvent) :
    requested (events.map .publish) = [] := by
  rw [requested, List.filter_eq_nil_iff]
  intro effect member
  obtain ⟨event, _, rfl⟩ := List.mem_map.1 member
  exact Bool.false_ne_true

private theorem requested_monitor (session : Session) (now : Nat) :
    requested (session.monitor now).2 = [] := by
  unfold monitor
  split <;> rfl

private theorem requested_request {session : Session} {id : PrinterId} {record : Record}
    (held : session.records.get? id = some record) (bypassCache : Bool) :
    requested (session.request id bypassCache).2 =
      if !record.refreshing then [.query id record.printer bypassCache] else [] := by
  unfold request
  rw [held]
  cases busy : record.refreshing <;> simp [busy, requested]

theorem forgotten_append (earlier later : List Effect) :
    forgotten (earlier ++ later) = forgotten earlier ++ forgotten later :=
  List.filterMap_append ..

private theorem forgotten_monitor (session : Session) (now : Nat) :
    forgotten (session.monitor now).2 = [] := by
  unfold monitor
  split <;> rfl

private theorem forgotten_request (session : Session) (id : PrinterId) (bypassCache : Bool) :
    forgotten (session.request id bypassCache).2 = [] := by
  unfold request
  split
  · rfl
  · split <;> rfl

private theorem forgotten_evaluate (session : Session) (id : PrinterId) :
    forgotten (session.evaluate id).2 = [] := by
  unfold evaluate withdraw present
  split
  · rfl
  · split
    · split <;> rfl
    · dsimp only
      split
      · split <;> rfl
      · rfl

private theorem forgotten_found (session : Session) (moment : Moment) (printer : Printer) :
    forgotten (session.found moment printer).2 = [] := by
  unfold found
  dsimp only
  split <;>
    simp only [andThen, forgotten_append, forgotten_evaluate, forgotten_request, List.append_nil]

private theorem forgotten_answered (session : Session) (id : PrinterId)
    (answer : Option Capabilities) : forgotten (session.answered id answer).2 = [] := by
  unfold answered
  split
  · rfl
  · exact forgotten_evaluate ..

theorem forgotten_of_lost (session : Session) (now : Nat) (printer : Printer) :
    forgotten (session.lost now printer).2 = Command.forgets (.lost printer) := by
  have dropped : forgotten (if printer.id.isNetworkAddress then [.forget printer.uri] else []) =
      Command.forgets (.lost printer) := by
    dsimp only [Command.forgets]
    split <;> rfl
  unfold lost
  cases session.records.get? printer.id with
  | none => exact dropped
  | some record =>
    simp only [andThen, forgotten_append, forgotten_evaluate, forgotten_monitor, dropped,
      List.append_nil]

end Effects

private theorem RosterChange.isPriority {before after : Session}
    (change : RosterChange before after)
    (id : PrinterId) : after.isPriority id = before.isPriority id := by
  obtain ⟨_, _, rfl⟩ := change
  rfl

/-- A command that changes nothing but the roster and the known-good list leaves the rest. -/
theorem Handled.of_rosterChange {session : Session} {now : Nat} {id : PrinterId} {made : Review}
    {outcome : Outcome} (named : made.record.id = id)
    (visible : made.record.published = (session.records.get? id).any (·.published))
    (evaluation : Evaluation session made.record made.wants outcome)
    (requests : requested outcome.2 = made.queries) (unwatched : made.watches = false)
    (change : RosterChange session outcome.1) (timed : timing outcome.2 = []) :
    Handled session now id (some made) outcome where
  named := by simpa using named
  visible := by simpa using visible
  absent := by simp
  records := named ▸ evaluation.records
  told := evaluation.told
  knownGood := evaluation.knownGood
  requests := requests
  deadline := by simp [setsDeadline, unwatched, change.sameTimer.deadline]
  generation := by simp [setsDeadline, unwatched, change.sameTimer.generation]
  timed := by simp [setsDeadline, unwatched, timed]
  priority := change.isPriority
  window := change.keeps.1
  lives := change.keeps.2

/-- A deadline that is wanted for somebody on the roster is set, unless one is. -/
theorem monitor_of_listed {session : Session} {id : PrinterId} {record : Record}
    (held : session.records.get? id = some record) (now : Nat) :
    session.monitor now =
      if session.deadline.isNone then
        ({ session with
            generation := session.generation + 1
            deadline := some (now + session.window) },
          [.arm (session.generation + 1) (now + session.window)])
      else (session, []) := by
  rw [monitor, Table.isEmpty_of_get? held, Bool.or_false]
  cases session.deadline <;> rfl

/-- A command that sets a deadline after it has changed the roster. -/
theorem Handled.of_monitor {session : Session} {now : Nat} {id : PrinterId} {made : Review}
    {changed : Outcome} {record : Record} (named : made.record.id = id)
    (visible : made.record.published = (session.records.get? id).any (·.published))
    (evaluation : Evaluation session made.record made.wants
      (andThen changed fun next => next.monitor now))
    (requests : requested changed.2 = made.queries) (watched : made.watches = true)
    (change : RosterChange session changed.1) (timed : timing changed.2 = [])
    (listed : changed.1.records.get? id = some record) :
    Handled session now id (some made) (andThen changed fun next => next.monitor now) := by
  obtain ⟨deadline, generation, window⟩ := change.sameTimer
  have lives := change.keeps.2
  have priority := change.isPriority
  have asks : requested (changed.2 ++ (changed.1.monitor now).2) = made.queries := by
    rw [requested_append, requested_monitor, List.append_nil, requests]
  have sets : session.setsDeadline (some made) = session.deadline.isNone := by
    simp [setsDeadline, watched]
  have monitored := monitor_of_listed listed now
  rw [deadline, generation, window] at monitored
  exact {
    named := by simpa using named
    visible := by simpa using visible
    absent := by simp
    records := named ▸ evaluation.records
    told := evaluation.told
    knownGood := evaluation.knownGood
    requests := asks
    deadline := by
      simp only [sets, andThen, monitored]
      split
      · rfl
      · exact deadline
    generation := by
      simp only [sets, andThen, monitored]
      split
      · rfl
      · exact generation
    timed := by
      simp only [sets, andThen, monitored, timing_append, timed]
      split <;> rfl
    priority := by
      intro other
      simp only [andThen, monitored]
      split <;> exact priority other
    window := by
      simp only [andThen, monitored]
      split
      · rfl
      · exact window
    lives := by
      simp only [andThen, monitored]
      split <;> exact lives }

/-- A command about a printer that is not on the roster. -/
theorem Handled.of_absent {session : Session} {now : Nat} {id : PrinterId}
    (absent : session.records.get? id = none) {effects : List Effect}
    (silent : published effects = [] ∧ requested effects = [] ∧ timing effects = []) :
    Handled session now id none (session, effects) where
  named := by simp
  visible := by simp
  absent := fun _ => absent
  records := by
    intro other
    split
    · rename_i same
      rw [same, absent, Option.map_none]
    · rfl
  told := silent.1
  knownGood := rfl
  requests := silent.2.1
  deadline := rfl
  generation := rfl
  timed := silent.2.2
  priority := fun _ => rfl
  window := rfl
  lives := rfl

section Commands
variable {session : Session} (owned : session.Owned)
include owned

theorem requested_found (moment : Moment) (printer : Printer) :
    requested (session.found moment printer).2 =
      Review.queries
        ⟨session.sighted moment printer, session.wantsAnswer moment printer, false⟩ := by
  have named := id_sighted moment printer owned
  let listed : Session := { session with
    records := session.records.insert printer.id (session.sighted moment printer) }
  have silent : requested (listed.evaluate printer.id).2 = [] := by
    rw [effects_evaluate_insert session _ printer.id named, requested_map_publish]
  have held : (listed.evaluate printer.id).1.records.get? printer.id =
      some (reviewed session.knownGood (session.sighted moment printer)) := by
    rw [get?_evaluate_insert session _ printer.id printer.id named, if_pos rfl]
  unfold found Review.queries
  dsimp only
  cases wants : session.wantsAnswer moment printer with
  | false =>
    rw [wantsAnswer] at wants
    rw [wants, if_neg Bool.false_ne_true, silent]
    rfl
  | true =>
    rw [wantsAnswer] at wants
    rw [wants, if_pos rfl]
    dsimp only [andThen]
    rw [requested_append, silent, requested_request held, named, Bool.true_and]
    rfl

theorem handled_found (moment : Moment) (printer : Printer) :
    Handled session moment.now printer.id (session.review? moment (.found printer))
      (session.found moment printer) :=
  .of_rosterChange (id_sighted moment printer owned) (published_sighted ..)
    (evaluation_found owned moment printer)
    (requested_found owned moment printer) rfl (rosterChange_found session moment printer)
    (timing_found ..)

private theorem handled_answered (moment : Moment) (id : PrinterId) (answer : Option Capabilities) :
    Handled session moment.now id (session.review? moment (.answered id answer))
      (session.answered id answer) := by
  cases held : session.records.get? id with
  | none =>
    rw [review?, held, answered, held]
    exact .of_absent held ⟨rfl, rfl, rfl⟩
  | some record =>
    have named : (withAnswer record answer).id = id := (owned _ _ held).1
    have silent : requested (session.answered id answer).2 = [] := by
      have evaluated := effects_evaluate_insert session (withAnswer record answer) id named
      rw [answered, held]
      exact (congrArg requested evaluated).trans (requested_map_publish _)
    rw [review?, held]
    exact .of_rosterChange named (by rw [held]; rfl) (evaluation_answered owned held answer)
      silent rfl
      (rosterChange_answered session id answer) (timing_answered ..)

private theorem handled_lost (moment : Moment) (printer : Printer) :
    Handled session moment.now printer.id (session.review? moment (.lost printer))
      (session.lost moment.now printer) := by
  let dropped : List Effect :=
    if printer.id.isNetworkAddress then [.forget printer.uri] else []
  have silent : published dropped = [] ∧ requested dropped = [] ∧ timing dropped = [] := by
    dsimp only [dropped]
    split <;> exact ⟨rfl, rfl, rfl⟩
  cases held : session.records.get? printer.id with
  | none =>
    rw [review?, held, lost, held]
    exact .of_absent held silent
  | some record =>
    have named : record.notFound.id = printer.id := (owned _ _ held).1
    let listed : Session := { session with
      records := session.records.insert printer.id record.notFound }
    let changed : Outcome :=
      ((listed.evaluate printer.id).1, dropped ++ (listed.evaluate printer.id).2)
    have whole : session.lost moment.now printer =
        andThen changed fun next => next.monitor moment.now := by
      rw [lost, held]
      rfl
    have change : RosterChange session changed.1 :=
      RosterChange.trans ⟨_, session.knownGood, rfl⟩ (rosterChange_evaluate listed printer.id)
    have asks : requested changed.2 = [] := by
      rw [requested_append, silent.2.1, effects_evaluate_insert session _ _ named,
        requested_map_publish]
      rfl
    have timed : timing changed.2 = [] := by
      rw [timing_append, silent.2.2, timing_evaluate]
      rfl
    have stays : changed.1.records.get? printer.id =
        some (reviewed session.knownGood record.notFound) := by
      rw [get?_evaluate_insert session _ _ printer.id named, if_pos rfl]
    rw [review?, held, whole]
    exact .of_monitor named (by rw [held]; rfl) (whole ▸ evaluation_lost owned held moment.now) asks
      rfl change timed stays

/-- All that a command about one printer does in a session that lives. -/
theorem handled_handle (lives : session.destroyed = false) (moment : Moment) {command : Command}
    {id : PrinterId} (subject : command.subject? = some id) :
    Handled session moment.now id (session.review? moment command) (session.handle moment command) ∧
      forgotten (session.handle moment command).2 = command.forgets := by
  cases command with
  | found printer =>
    cases subject
    rw [handle, lives, if_neg Bool.false_ne_true]
    exact ⟨handled_found owned moment printer, forgotten_found session moment printer⟩
  | lost printer =>
    cases subject
    rw [handle, lives, if_neg Bool.false_ne_true]
    exact ⟨handled_lost owned moment printer, forgotten_of_lost session moment.now printer⟩
  | answered _ answer =>
    cases subject
    rw [handle, lives, if_neg Bool.false_ne_true]
    exact ⟨handled_answered owned moment id answer, forgotten_answered session id answer⟩
  | _ => cases subject

end Commands

/-- What a command evaluates depends on nothing but the record and the priority of its printer and
on what is cached of it. -/
theorem review?_congr {session other : Session} {moment later : Moment} {command : Command}
    {id : PrinterId} (subject : command.subject? = some id)
    (record : other.records.get? id = session.records.get? id)
    (priority : other.isPriority id = session.isPriority id) (now : later.now = moment.now)
    (cached : ∀ printer, command = .found printer → later.cached printer = moment.cached printer) :
    other.review? later command = session.review? moment command := by
  cases command with
  | found printer =>
    cases subject
    simp only [review?, wantsAnswer, sighted, record, priority, now, cached printer rfl]
  | lost printer =>
    cases subject
    simp only [review?, record]
  | answered other answer =>
    cases subject
    simp only [review?, record]
  | _ => cases subject

section Known
variable {known other : KnownGood} {record : Record}
  (same : known.contains record.id = other.contains record.id)
include same

theorem shown?_congr : shown? known record = shown? other record := by
  rw [shown?, shown?, same]

theorem settled_congr (asked : Bool) : settled known record asked = settled other record asked := by
  simp only [settled, reviewed, shown?_congr same]

end Known

/-- What subscribers show after a command about one printer. -/
theorem Handled.shown {session : Session} {now : Nat} {id : PrinterId} {review : Option Review}
    {outcome : Outcome} (handled : Handled session now id review outcome) {view : View}
    (visible : (view.get? id).isSome = (session.records.get? id).any (·.published))
    (other : PrinterId) :
    (view.hearAll (published outcome.2)).get? other =
      if other = id then review.bind fun made => shown? session.knownGood made.record
      else view.get? other := by
  rw [handled.told]
  cases review with
  | none =>
    rw [handled.absent rfl, Option.any_none, Option.isSome_eq_false_iff,
      Option.isNone_iff_eq_none] at visible
    split
    · rename_i same
      rw [same]
      exact visible
    · rfl
  | some made =>
    have matching := visible.trans (handled.visible made rfl).symm
    exact get?_hear_announced view session.knownGood made.record id other (handled.named made rfl)
      matching

end PrinterRoster.Session
