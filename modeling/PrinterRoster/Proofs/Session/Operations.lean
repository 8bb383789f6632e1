import PrinterRoster.Proofs.Course
import PrinterRoster.Session.Step

/-! What the operations of a session do to the record of one printer, and which
events they publish. The lemmas speak of what the roster answers at an id, so
that whoever uses them need not open an operation. Where an operation evaluates
a record, the record is `reviewed` and the event is `announced`. -/
namespace PrinterRoster.Session

def shown? (known : KnownGood) (record : Record) : Option PrinterInfo :=
  if record.capabilities.isNone && !known.contains record.id then none else record.info?

def reviewed (known : KnownGood) (record : Record) : Record :=
  { record with published := (shown? known record).isSome }

def announced (known : KnownGood) (record : Record) : List RosterEvent :=
  match shown? known record with
  | some info => [.added info]
  | none => if record.published then [.removed [record.id]] else []

def withAnswer (record : Record) (answer : Option Capabilities) : Record :=
  { record.endRefresh with capabilities := answer }

def published (effects : List Effect) : List RosterEvent :=
  effects.filterMap fun
    | .publish event => some event
    | _ => none

def wantsAnswer (session : Session) (moment : Moment) (printer : Printer) : Bool :=
  (session.sighted moment printer).capabilities.isNone &&
    (session.isPriority printer.id || !(session.records.get? printer.id).any (·.isFound))

/-- Every record stands under its own id, which is that of the printer it holds. -/
def Owned (session : Session) : Prop :=
  ∀ id, ∀ record ∈ session.records.get? id, record.id = id ∧ record.printer.id = id

private theorem get?_withdraw (session : Session) (record : Record) (other : PrinterId)
    (held : session.records.get? record.id = some record) :
    (session.withdraw record).1.records.get? other =
      if other = record.id then some { record with published := false }
      else session.records.get? other := by
  unfold withdraw
  split
  · exact Table.get?_insert ..
  · rename_i hidden
    split
    · rename_i same
      have unpublished : { record with published := false } = record := by
        cases record; simp_all
      rw [same, unpublished]
      exact held
    · rfl

private theorem get?_present (session : Session) (record : Record) (info : PrinterInfo)
    (other : PrinterId) : (session.present record info).1.records.get? other =
      if other = record.id then some { record with published := true }
      else session.records.get? other :=
  Table.get?_insert ..

/-- Evaluating takes a record off the known-good list, on which one that is shown
may be put again. -/
theorem evaluate_of_shown {session : Session} {record : Record} {info : PrinterInfo}
    (held : session.records.get? record.id = some record)
    (shows : shown? session.knownGood record = some info) :
    session.evaluate record.id =
      { session with knownGood := session.knownGood.remove record.id }.present record info := by
  unfold shown? at shows
  unfold evaluate
  rw [held]
  split at shows
  · cases shows
  · rename_i candidate
    simp only [if_neg candidate, shows]

theorem evaluate_of_hidden {session : Session} {record : Record}
    (held : session.records.get? record.id = some record)
    (hides : shown? session.knownGood record = none) :
    session.evaluate record.id =
      { session with knownGood := session.knownGood.remove record.id }.withdraw record := by
  unfold shown? at hides
  unfold evaluate
  rw [held]
  split at hides
  · rename_i unknown
    simp only [if_pos unknown]
    rw [Bool.and_eq_true, Bool.not_eq_true'] at unknown
    rw [KnownGood.remove_of_not_contains unknown.2]
  · rename_i candidate
    simp only [if_neg candidate, hides]

private theorem get?_evaluate (session : Session) (record : Record) (other : PrinterId)
    (held : session.records.get? record.id = some record) :
    (session.evaluate record.id).1.records.get? other =
      if other = record.id then some (reviewed session.knownGood record)
      else session.records.get? other := by
  cases shows : shown? session.knownGood record with
  | none =>
    have hidden : reviewed session.knownGood record = { record with published := false } := by
      rw [reviewed, shows]; rfl
    rw [evaluate_of_hidden held shows, hidden]
    exact get?_withdraw { session with knownGood := session.knownGood.remove record.id } _ _ held
  | some info =>
    have visible : reviewed session.knownGood record = { record with published := true } := by
      rw [reviewed, shows]; rfl
    rw [evaluate_of_shown held shows, visible]
    exact get?_present ..

private theorem effects_evaluate (session : Session) (record : Record)
    (held : session.records.get? record.id = some record) :
    (session.evaluate record.id).2 = (announced session.knownGood record).map .publish := by
  unfold announced
  cases shows : shown? session.knownGood record with
  | none =>
    rw [evaluate_of_hidden held shows]
    unfold withdraw
    split <;> rfl
  | some info => rw [evaluate_of_shown held shows]; rfl

theorem get?_request (session : Session) (id other : PrinterId) (bypassCache : Bool) :
    (session.request id bypassCache).1.records.get? other =
      if other = id then (session.records.get? id).map Record.beginRefresh
      else session.records.get? other := by
  unfold request
  split
  · rename_i absent
    split
    · rename_i same
      rw [same, absent]; rfl
    · rfl
  · rename_i record held
    split
    · rename_i busy
      have unchanged : record.beginRefresh = record := by
        cases record; simp_all [Record.beginRefresh]
      split
      · rename_i same
        rw [same, held, Option.map_some, unchanged]
      · rfl
    · rw [Table.get?_insert, held, Option.map_some]

theorem published_request (session : Session) (id : PrinterId) (bypassCache : Bool) :
    published (session.request id bypassCache).2 = [] := by
  unfold request
  split
  · rfl
  · split <;> rfl

theorem records_monitor (session : Session) (now : Nat) :
    (session.monitor now).1.records = session.records := by
  unfold monitor
  split <;> rfl

theorem published_monitor (session : Session) (now : Nat) :
    published (session.monitor now).2 = [] := by
  unfold monitor
  split <;> rfl

theorem get?_start (session : Session) (now : Nat) (priority : List PrinterId) (id : PrinterId) :
    (session.start now priority).1.records.get? id =
      (session.records.get? id).map Record.notFound := by
  simp only [start, andThen, records_monitor, Table.get?_mapValues]

theorem id_sighted {session : Session} (moment : Moment) (printer : Printer)
    (owned : session.Owned) : (session.sighted moment printer).id = printer.id := by
  unfold sighted
  cases held : session.records.get? printer.id with
  | none => rfl
  | some record => exact (owned _ _ held).1

/-- The roster after a record is put in and evaluated. -/
theorem get?_evaluate_insert (session : Session) (record : Record) (id other : PrinterId)
    (named : record.id = id) :
    (evaluate { session with records := session.records.insert id record } id).1.records.get? other =
      if other = id then some (reviewed session.knownGood record)
      else session.records.get? other := by
  subst named
  rw [get?_evaluate _ record other (by simp [Table.get?_insert])]
  split
  · rfl
  · rename_i different
    rw [Table.get?_insert, if_neg different]

theorem effects_evaluate_insert (session : Session) (record : Record) (id : PrinterId)
    (named : record.id = id) :
    (evaluate { session with records := session.records.insert id record } id).2 =
      (announced session.knownGood record).map .publish := by
  subst named
  exact effects_evaluate _ record (by simp [Table.get?_insert])

@[simp] theorem published_append (earlier later : List Effect) :
    published (earlier ++ later) = published earlier ++ published later :=
  List.filterMap_append ..

@[simp] theorem published_map_publish (events : List RosterEvent) :
    published (events.map .publish) = events := by
  induction events with
  | nil => rfl
  | cons event others ih => rw [List.map_cons, published, List.filterMap_cons]; exact congrArg _ ih

theorem get?_found (session : Session) (moment : Moment) (printer : Printer) (other : PrinterId)
    (owned : session.Owned) :
    (session.found moment printer).1.records.get? other =
      if other = printer.id then
        let record := reviewed session.knownGood (session.sighted moment printer)
        some (if session.wantsAnswer moment printer then record.beginRefresh else record)
      else session.records.get? other := by
  have evaluated := fun other => get?_evaluate_insert session (session.sighted moment printer)
    printer.id other (id_sighted moment printer owned)
  unfold found
  dsimp only
  cases wants : session.wantsAnswer moment printer with
  | false =>
    rw [wantsAnswer] at wants
    rw [wants, if_neg Bool.false_ne_true, evaluated]
    rfl
  | true =>
    rw [wantsAnswer] at wants
    rw [wants, if_pos rfl]
    simp only [andThen, get?_request, evaluated]
    split <;> rfl

theorem get?_lost (session : Session) (now : Nat) (printer : Printer) (other : PrinterId)
    (owned : session.Owned) :
    (session.lost now printer).1.records.get? other =
      if other = printer.id then
        (session.records.get? printer.id).map fun record =>
          reviewed session.knownGood record.notFound
      else session.records.get? other := by
  unfold lost
  cases held : session.records.get? printer.id with
  | none =>
    dsimp only
    split
    · rename_i same; rw [same, held]; rfl
    · rfl
  | some record =>
    simp only [andThen, records_monitor, Option.map_some]
    exact get?_evaluate_insert session record.notFound printer.id other (owned _ _ held).1

theorem get?_answered (session : Session) (id other : PrinterId) (answer : Option Capabilities)
    (owned : session.Owned) :
    (session.answered id answer).1.records.get? other =
      if other = id then
        (session.records.get? id).map fun record =>
          reviewed session.knownGood (withAnswer record answer)
      else session.records.get? other := by
  unfold answered
  cases held : session.records.get? id with
  | none =>
    dsimp only
    split
    · rename_i same; rw [same, held]; rfl
    · rfl
  | some record =>
    exact get?_evaluate_insert session (withAnswer record answer) id other (owned _ _ held).1

theorem published_found (session : Session) (moment : Moment) (printer : Printer)
    (owned : session.Owned) :
    published (session.found moment printer).2 =
      announced session.knownGood (session.sighted moment printer) := by
  unfold found
  dsimp only
  split <;>
    simp [andThen, effects_evaluate_insert _ _ _ (id_sighted moment printer owned), published_request]

theorem published_lost (session : Session) (now : Nat) (printer : Printer)
    (owned : session.Owned) :
    published (session.lost now printer).2 =
      ((session.records.get? printer.id).map fun record =>
        announced session.knownGood record.notFound).getD [] := by
  have silent : published (if printer.id.isNetworkAddress then [.forget printer.uri] else []) = [] := by
    split <;> rfl
  unfold lost
  cases held : session.records.get? printer.id with
  | none => exact silent
  | some record =>
    have named : record.notFound.id = printer.id := (owned _ _ held).1
    simp [andThen, effects_evaluate_insert _ _ _ named, published_monitor, silent]

theorem published_answered (session : Session) (id : PrinterId) (answer : Option Capabilities)
    (owned : session.Owned) :
    published (session.answered id answer).2 =
      ((session.records.get? id).map fun record =>
        announced session.knownGood (withAnswer record answer)).getD [] := by
  unfold answered
  cases held : session.records.get? id with
  | none => rfl
  | some record =>
    have named : (withAnswer record answer).id = id := (owned _ _ held).1
    have evaluated := effects_evaluate_insert session (withAnswer record answer) id named
    exact (congrArg published evaluated).trans (published_map_publish _)

def expired (session : Session) (now : Nat) : List Record :=
  session.records.values.filter fun record => record.isExpired now session.window

def swept (session : Session) (now : Nat) : Session :=
  { session with
    deadline := none
    records := session.records.filterValues fun record => !record.isExpired now session.window }

def rearm (session : Session) (now : Nat) : Outcome :=
  if session.records.values.any fun record => !record.isFound then session.monitor now
  else (session, [])

theorem sweep_eq (session : Session) (now : Nat) :
    session.sweep now =
      andThen
        (session.swept now,
          if (session.expired now).isEmpty then []
          else [.publish (.removed ((session.expired now).map Record.id))])
        fun left => left.rearm now := rfl

private theorem records_rearm (session : Session) (now : Nat) :
    (session.rearm now).1.records = session.records := by
  unfold rearm
  split
  · exact records_monitor ..
  · rfl

private theorem published_rearm (session : Session) (now : Nat) :
    published (session.rearm now).2 = [] := by
  unfold rearm
  split
  · exact published_monitor ..
  · rfl

theorem get?_sweep (session : Session) (now : Nat) (id : PrinterId) :
    (session.sweep now).1.records.get? id =
      (session.records.get? id).filter fun record => !record.isExpired now session.window := by
  rw [sweep_eq, andThen, records_rearm]
  exact Table.get?_filterValues ..

theorem published_sweep (session : Session) (now : Nat) :
    published (session.sweep now).2 =
      if (session.expired now).isEmpty then []
      else [.removed ((session.expired now).map Record.id)] := by
  rw [sweep_eq, andThen, published_append, published_rearm, List.append_nil]
  split <;> rfl

theorem records_teardown (session : Session) : session.teardown.1.records = session.records := by
  unfold teardown
  split <;> rfl

/-- A change of nothing but the records and the known-good list. -/
def RosterChange (before after : Session) : Prop :=
  ∃ records known, after = { before with records := records, knownGood := known }

theorem RosterChange.refl (session : Session) : RosterChange session session :=
  ⟨session.records, session.knownGood, rfl⟩

theorem RosterChange.trans {first second third : Session} (earlier : RosterChange first second)
    (later : RosterChange second third) : RosterChange first third := by
  obtain ⟨_, _, rfl⟩ := earlier
  obtain ⟨records, known, rfl⟩ := later
  exact ⟨records, known, rfl⟩

private theorem rosterChange_withdraw (session : Session) (record : Record) :
    RosterChange session (session.withdraw record).1 := by
  unfold withdraw
  split
  · exact ⟨_, session.knownGood, rfl⟩
  · exact .refl session

theorem rosterChange_evaluate (session : Session) (id : PrinterId) :
    RosterChange session (session.evaluate id).1 := by
  have unlisted : RosterChange session { session with knownGood := session.knownGood.remove id } :=
    ⟨session.records, _, rfl⟩
  unfold evaluate
  split
  · exact .refl session
  · dsimp only
    split
    · exact rosterChange_withdraw ..
    · split
      · exact unlisted.trans (rosterChange_withdraw ..)
      · exact unlisted.trans ⟨_, _, rfl⟩

theorem rosterChange_request (session : Session) (id : PrinterId) (bypassCache : Bool) :
    RosterChange session (session.request id bypassCache).1 := by
  unfold request
  split
  · exact .refl session
  · split
    · exact .refl session
    · exact ⟨_, session.knownGood, rfl⟩

theorem rosterChange_found (session : Session) (moment : Moment) (printer : Printer) :
    RosterChange session (session.found moment printer).1 := by
  have listed : RosterChange session { session with
      records := session.records.insert printer.id (session.sighted moment printer) } :=
    ⟨_, session.knownGood, rfl⟩
  have evaluated := listed.trans (rosterChange_evaluate _ printer.id)
  unfold found
  dsimp only
  split
  · exact evaluated.trans (rosterChange_request ..)
  · exact evaluated

theorem rosterChange_answered (session : Session) (id : PrinterId)
    (answer : Option Capabilities) : RosterChange session (session.answered id answer).1 := by
  unfold answered
  split
  · exact .refl session
  · rename_i record held
    have listed : RosterChange session { session with
        records := session.records.insert id (withAnswer record answer) } :=
      ⟨_, session.knownGood, rfl⟩
    exact listed.trans (rosterChange_evaluate _ id)

theorem lost_eq_monitor {session : Session} {printer : Printer} {record : Record}
    (held : session.records.get? printer.id = some record) (now : Nat) :
    ∃ evaluated, RosterChange session evaluated ∧
      (session.lost now printer).1 = (evaluated.monitor now).1 := by
  have listed : RosterChange session { session with
      records := session.records.insert printer.id record.notFound } :=
    ⟨_, session.knownGood, rfl⟩
  refine ⟨_, listed.trans (rosterChange_evaluate _ printer.id), ?_⟩
  unfold lost
  simp only [held, andThen]

theorem RosterChange.keeps {before after : Session} (change : RosterChange before after) :
    after.window = before.window ∧ after.destroyed = before.destroyed := by
  obtain ⟨_, _, rfl⟩ := change
  exact ⟨rfl, rfl⟩

theorem monitor_keeps (session : Session) (now : Nat) :
    (session.monitor now).1.window = session.window ∧
      (session.monitor now).1.destroyed = session.destroyed := by
  unfold monitor
  split <;> exact ⟨rfl, rfl⟩

theorem lost_keeps (session : Session) (now : Nat) (printer : Printer) :
    (session.lost now printer).1.window = session.window ∧
      (session.lost now printer).1.destroyed = session.destroyed := by
  cases held : session.records.get? printer.id with
  | none => unfold lost; rw [held]; exact ⟨rfl, rfl⟩
  | some record =>
    obtain ⟨evaluated, change, same⟩ := lost_eq_monitor held now
    rw [same, (monitor_keeps evaluated now).1, (monitor_keeps evaluated now).2]
    exact change.keeps

theorem sweep_keeps (session : Session) (now : Nat) :
    (session.sweep now).1.window = session.window ∧
      (session.sweep now).1.destroyed = session.destroyed := by
  rw [sweep_eq]
  dsimp only [andThen]
  unfold rearm
  split
  · exact monitor_keeps (session.swept now) now
  · exact ⟨rfl, rfl⟩

theorem handle_keeps (session : Session) (moment : Moment) {command : Command}
    (goesOn : command ≠ .destroy) :
    (session.handle moment command).1.window = session.window ∧
      (session.handle moment command).1.destroyed = session.destroyed := by
  cases command with
  | start priority => exact monitor_keeps _ moment.now
  | stop => exact ⟨rfl, rfl⟩
  | track id =>
    simp only [handle, track]
    split
    · exact (rosterChange_request _ id true).keeps
    · exact ⟨rfl, rfl⟩
  | untrack id => exact ⟨rfl, rfl⟩
  | found printer =>
    simp only [handle]
    split
    · exact ⟨rfl, rfl⟩
    · exact (rosterChange_found session moment printer).keeps
  | lost printer =>
    simp only [handle]
    split
    · exact ⟨rfl, rfl⟩
    · exact lost_keeps session moment.now printer
  | answered id answer =>
    simp only [handle]
    split
    · exact ⟨rfl, rfl⟩
    · exact (rosterChange_answered session id answer).keeps
  | tick generation =>
    simp only [handle, tick]
    split
    · exact ⟨rfl, rfl⟩
    · exact sweep_keeps session moment.now
  | destroy => exact absurd rfl goesOn

structure Turn where
  moment : Moment
  command : Command

def handleAll (session : Session) (turns : List Turn) : Outcome :=
  stateAfter (fun outcome turn => andThen outcome (·.handle turn.moment turn.command)) (session, [])
    turns

theorem handleAll_snoc (session : Session) (turns : List Turn) (turn : Turn) :
    session.handleAll (turns ++ [turn]) =
      andThen (session.handleAll turns) (·.handle turn.moment turn.command) :=
  stateAfter_snoc ..

end PrinterRoster.Session
