import PrinterRoster.Proofs.Session.Operations

/-! What a subscriber shows. A subscriber hears the published events and keeps a
table of the printers to show: an added printer takes its place there, removed
ones leave it. In every run that table agrees with the roster, printer by
printer. Only the status lags: a start marks every record as gone and publishes
nothing, so until the record is evaluated again its shown status is an old one. -/
namespace PrinterRoster

abbrev View := Table PrinterId PrinterInfo

namespace View

def hear (view : View) : RosterEvent → View
  | .added info => view.insert info.id info
  | .removed ids => ids.foldl Table.erase view

def hearAll (view : View) (events : List RosterEvent) : View := stateAfter hear view events

private theorem get?_erase_all (view : View) (ids : List PrinterId) (id : PrinterId) :
    (ids.foldl Table.erase view).get? id = if id ∈ ids then none else view.get? id := by
  induction ids generalizing view with
  | nil => simp
  | cons first others ih =>
    rw [List.foldl_cons, ih, Table.get?_erase]
    by_cases same : id = first
    · simp [same]
    · simp [same]

end View

namespace Session

def Command.subject? : Command → Option PrinterId
  | found printer => some printer.id
  | lost printer => some printer.id
  | answered id _ => some id
  | _ => none

def Command.awaits (command : Command) (id : PrinterId) (before : Bool) : Bool :=
  match command with
  | start _ => true
  | command => if command.subject? = some id then false else before

/-- Whether a start was handled since the record of an id was evaluated last. -/
def startedSince (turns : List Turn) (id : PrinterId) : Bool :=
  stateAfter (fun before turn => turn.command.awaits id before) false turns

/-- How what is shown of an id agrees with its record, if it has one. -/
structure Agrees (id : PrinterId) (record : Option Record) (shown : Option PrinterInfo)
    (awaits : Bool) : Prop where
  owned : ∀ held ∈ record, held.id = id ∧ held.printer.id = id
  visible : shown.isSome = record.any (·.published)
  current : ∀ held ∈ record, ∀ entry ∈ shown, ∃ info ∈ held.info?,
    { entry with status := info.status } = info ∧ (awaits = false → entry = info)
  complete : ∀ held ∈ record, ∀ answer ∈ held.capabilities, answer.isSupported = true →
    held.published = true

private theorem agrees_none (id : PrinterId) (awaits : Bool) : Agrees id none none awaits where
  owned := by simp
  visible := rfl
  current := by simp
  complete := by simp

theorem info?_eq_of_same {record other : Record} (id : other.id = record.id)
    (printer : other.printer = record.printer) (answer : other.capabilities = record.capabilities)
    (isFound : other.isFound = record.isFound) : other.info? = record.info? := by
  cases record
  cases other
  subst id printer answer isFound
  rfl

theorem info?_of_shown {known : KnownGood} {record : Record} {info : PrinterInfo}
    (shows : shown? known record = some info) : record.info? = some info := by
  unfold shown? at shows
  split at shows
  · cases shows
  · exact shows

theorem id_of_info {record : Record} {info : PrinterInfo} (presented : record.info? = some info) :
    info.id = record.id := by
  unfold Record.info? at presented
  split at presented
  · cases presented
  · cases presented
    rfl

private theorem supported_of_info {record : Record} {info : PrinterInfo} {answer : Capabilities}
    (presented : record.info? = some info) (stated : info.capabilities = some answer) :
    answer.isSupported = true := by
  unfold Record.info? at presented
  split at presented
  · cases presented
  · rename_i usable
    cases presented
    simpa [Record.isUnsupported, show record.capabilities = some answer from stated] using usable

private theorem shown_of_supported (known : KnownGood) {record : Record} {answer : Capabilities}
    (told : record.capabilities = some answer) (usable : answer.isSupported = true) :
    (shown? known record).isSome = true := by
  simp [shown?, Record.info?, Record.isUnsupported, told, usable]

private theorem agrees_reviewed (known : KnownGood) {id : PrinterId} {record : Record}
    (owned : record.id = id ∧ record.printer.id = id) :
    Agrees id (some (reviewed known record)) (shown? known record) false where
  owned := by
    intro held member
    cases member
    exact owned
  visible := rfl
  current := by
    intro held member info shows
    cases member
    have presented := info?_of_shown shows
    have unchanged : (reviewed known record).info? = record.info? :=
      info?_eq_of_same rfl rfl rfl rfl
    exact ⟨info, unchanged.trans presented, rfl, fun _ => rfl⟩
  complete := by
    intro held member answer told usable
    cases member
    exact shown_of_supported known told usable

private theorem Agrees.beginRefresh {id : PrinterId} {record : Record} {shown : Option PrinterInfo}
    {awaits : Bool} (agrees : Agrees id (some record) shown awaits) :
    Agrees id (some record.beginRefresh) shown awaits where
  owned := by
    intro held member
    cases member
    exact agrees.owned record rfl
  visible := agrees.visible
  current := by
    intro held member entry shows
    cases member
    have unchanged : record.beginRefresh.info? = record.info? := info?_eq_of_same rfl rfl rfl rfl
    rw [unchanged]
    exact agrees.current record rfl entry shows
  complete := by
    intro held member answer told usable
    cases member
    exact agrees.complete record rfl answer told usable

private theorem info?_notFound {record : Record} {info : PrinterInfo}
    (presented : record.info? = some info) :
    record.notFound.info? = some { info with status := .unavailable } := by
  unfold Record.info? at presented
  split at presented
  · cases presented
  · rename_i usable
    cases presented
    exact if_neg usable

private theorem Agrees.notFound {id : PrinterId} {record : Option Record}
    {shown : Option PrinterInfo}
    {awaits : Bool} (agrees : Agrees id record shown awaits) :
    Agrees id (record.map Record.notFound) shown true where
  owned := by
    intro held member
    obtain ⟨earlier, found, rfl⟩ := Option.map_eq_some_iff.1 member
    exact agrees.owned earlier found
  visible := by
    rw [agrees.visible]
    cases record <;> rfl
  current := by
    intro held member entry shows
    obtain ⟨earlier, found, rfl⟩ := Option.map_eq_some_iff.1 member
    obtain ⟨info, presented, same, _⟩ := agrees.current earlier found entry shows
    refine ⟨{ info with status := .unavailable }, info?_notFound presented, ?_, by simp⟩
    rw [← same]
  complete := by
    intro held member answer told usable
    obtain ⟨earlier, found, rfl⟩ := Option.map_eq_some_iff.1 member
    exact agrees.complete earlier found answer told usable

def Agreement (session : Session) (view : View) (awaits : PrinterId → Bool) : Prop :=
  ∀ id, Agrees id (session.records.get? id) (view.get? id) (awaits id)

theorem Agreement.owned {session : Session} {view : View} {awaits : PrinterId → Bool}
    (agreement : Agreement session view awaits) : session.Owned :=
  fun id => (agreement id).owned

theorem get?_hear_announced (view : View) (known : KnownGood) (record : Record)
    (id other : PrinterId) (named : record.id = id)
    (visible : (view.get? id).isSome = record.published) :
    (view.hearAll (announced known record)).get? other =
      if other = id then shown? known record else view.get? other := by
  unfold announced
  cases shows : shown? known record with
  | some info =>
    have titled : info.id = id := (id_of_info (info?_of_shown shows)).trans named
    simp only [View.hearAll, stateAfter_cons, stateAfter_nil, View.hear, titled, Table.get?_insert]
  | none =>
    dsimp only
    split
    · simp only [View.hearAll, stateAfter_cons, stateAfter_nil, View.hear, named, List.foldl_cons,
        List.foldl_nil, Table.get?_erase]
    · rename_i hidden
      split
      · rename_i same
        rw [Bool.not_eq_true] at hidden
        rw [hidden, Option.isSome_eq_false_iff, Option.isNone_iff_eq_none] at visible
        rw [same]
        exact visible
      · rfl

/-- An evaluation of one record brings it and what is shown of it into agreement,
and touches no other. -/
theorem Agreement.of_evaluation {session after : Session} {view : View}
    {awaits later : PrinterId → Bool} {settled : Record}
    (agreement : Agreement session view awaits) (id : PrinterId) (record : Record)
    (owned : record.id = id ∧ record.printer.id = id)
    (visible : (view.get? id).isSome = record.published)
    (settles : settled = reviewed session.knownGood record ∨
      settled = (reviewed session.knownGood record).beginRefresh)
    (records : ∀ other, after.records.get? other =
      if other = id then some settled else session.records.get? other)
    (evaluated : ∀ other, later other = if other = id then false else awaits other) :
    Agreement after (view.hearAll (announced session.knownGood record)) later := by
  intro other
  rw [records, get?_hear_announced view _ record id other owned.1 visible, evaluated]
  by_cases same : other = id
  · subst same
    have agrees := agrees_reviewed session.knownGood owned
    simp only [if_pos]
    rcases settles with rfl | rfl
    · exact agrees
    · exact agrees.beginRefresh
  · simp only [if_neg same]
    exact agreement other

private theorem Agreement.of_absent {session after : Session} {view : View}
    {awaits later : PrinterId → Bool} (agreement : Agreement session view awaits) (id : PrinterId)
    (absent : session.records.get? id = none) (records : after.records = session.records)
    (evaluated : ∀ other, later other = if other = id then false else awaits other) :
    Agreement after view later := by
  intro other
  rw [records, evaluated]
  by_cases same : other = id
  · subst same
    have hidden := (agreement other).visible
    rw [absent, Option.any_none, Option.isSome_eq_false_iff, Option.isNone_iff_eq_none] at hidden
    rw [absent, hidden]
    exact agrees_none ..
  · rw [if_neg same]
    exact agreement other

theorem published_sighted (session : Session) (moment : Moment) (printer : Printer) :
    (session.sighted moment printer).published =
      (session.records.get? printer.id).any (·.published) := by
  unfold sighted
  cases session.records.get? printer.id <;> rfl

private theorem awaits_of_subject (command : Command) {id : PrinterId}
    (subject : command.subject? = some id) (other : PrinterId) (before : Bool) :
    command.awaits other before = if other = id then false else before := by
  cases command <;> simp_all [Command.subject?, Command.awaits, eq_comm]

private theorem Agreement.found {session : Session} {view : View} {awaits : PrinterId → Bool}
    (agreement : Agreement session view awaits) (moment : Moment) (printer : Printer) :
    Agreement (session.found moment printer).1
      (view.hearAll (published (session.found moment printer).2))
      fun id => Command.awaits (.found printer) id (awaits id) := by
  rw [published_found session moment printer agreement.owned]
  have owned := id_sighted moment printer agreement.owned
  refine agreement.of_evaluation printer.id (session.sighted moment printer) ⟨owned, rfl⟩ ?_ ?_
    (fun other => get?_found session moment printer other agreement.owned)
    (fun other => awaits_of_subject (.found printer) rfl other (awaits other))
  · rw [published_sighted]
    exact (agreement printer.id).visible
  · cases session.wantsAnswer moment printer
    · exact .inl rfl
    · exact .inr rfl

private theorem Agreement.lost {session : Session} {view : View} {awaits : PrinterId → Bool}
    (agreement : Agreement session view awaits) (now : Nat) (printer : Printer) :
    Agreement (session.lost now printer).1
      (view.hearAll (published (session.lost now printer).2))
      fun id => Command.awaits (.lost printer) id (awaits id) := by
  have evaluated := fun other => awaits_of_subject (.lost printer) rfl other (awaits other)
  rw [published_lost session now printer agreement.owned]
  cases held : session.records.get? printer.id with
  | none =>
    have same : (session.lost now printer).1.records = session.records := by
      simp only [Session.lost, held]
    exact agreement.of_absent printer.id held same evaluated
  | some record =>
    have owned := agreement.owned _ _ held
    refine agreement.of_evaluation printer.id record.notFound owned ?_ (.inl rfl) ?_ evaluated
    · rw [(agreement printer.id).visible, held]
      rfl
    · intro other
      rw [get?_lost session now printer other agreement.owned, held]
      rfl

private theorem Agreement.answered {session : Session} {view : View} {awaits : PrinterId → Bool}
    (agreement : Agreement session view awaits) (id : PrinterId) (answer : Option Capabilities) :
    Agreement (session.answered id answer).1
      (view.hearAll (published (session.answered id answer).2))
      fun other => Command.awaits (.answered id answer) other (awaits other) := by
  have evaluated := fun other =>
    awaits_of_subject (.answered id answer) rfl other (awaits other)
  rw [published_answered session id answer agreement.owned]
  cases held : session.records.get? id with
  | none =>
    have same : (session.answered id answer).1.records = session.records := by
      simp only [Session.answered, held]
    exact agreement.of_absent id held same evaluated
  | some record =>
    have owned := agreement.owned _ _ held
    refine agreement.of_evaluation id (withAnswer record answer) owned ?_ (.inl rfl) ?_ evaluated
    · rw [(agreement id).visible, held]
      rfl
    · intro other
      rw [get?_answered session id other answer agreement.owned, held]
      rfl

private theorem Agreement.request {session : Session} {view : View} {awaits : PrinterId → Bool}
    (agreement : Agreement session view awaits) (id : PrinterId) (bypassCache : Bool) :
    Agreement (session.request id bypassCache).1
      (view.hearAll (published (session.request id bypassCache).2)) awaits := by
  intro other
  rw [published_request, get?_request]
  split
  · rename_i same
    subst same
    have agrees := agreement other
    cases held : session.records.get? other with
    | none => rw [held] at agrees; exact agrees
    | some record => rw [held] at agrees; exact agrees.beginRefresh
  · exact agreement other

private theorem mem_expired_ids {session : Session} (owned : session.Owned) (now : Nat)
    (id : PrinterId) : id ∈ (session.expired now).map Record.id ↔
      ∃ record, session.records.get? id = some record ∧ record.isExpired now session.window = true := by
  simp only [expired, List.mem_map, List.mem_filter, Table.mem_values_iff]
  constructor
  · rintro ⟨record, ⟨⟨key, held⟩, gone⟩, rfl⟩
    rw [(owned key record held).1]
    exact ⟨record, held, gone⟩
  · rintro ⟨record, held, gone⟩
    exact ⟨record, ⟨⟨id, held⟩, gone⟩, (owned id record held).1⟩

private theorem Agreement.sweep {session : Session} {view : View} {awaits : PrinterId → Bool}
    (agreement : Agreement session view awaits) (now : Nat) :
    Agreement (session.sweep now).1 (view.hearAll (published (session.sweep now).2)) awaits := by
  have heard : ∀ id, (view.hearAll (published (session.sweep now).2)).get? id =
      if id ∈ (session.expired now).map Record.id then none else view.get? id := by
    intro id
    rw [published_sweep]
    split
    · rename_i nobody
      rw [List.isEmpty_iff.1 nobody]
      rfl
    · exact View.get?_erase_all ..
  intro id
  have agrees := agreement id
  rw [heard, get?_sweep]
  simp only [mem_expired_ids agreement.owned]
  cases held : session.records.get? id with
  | none => rw [held] at agrees; simpa using agrees
  | some record =>
    cases gone : record.isExpired now session.window with
    | true => simpa [Option.filter_some, gone] using agrees_none id (awaits id)
    | false => rw [held] at agrees; simpa [Option.filter_some, gone] using agrees

/-- One command keeps what is shown in agreement with the roster. -/
theorem Agreement.handle {session : Session} {view : View} {awaits : PrinterId → Bool}
    (agreement : Agreement session view awaits) (live : session.destroyed = false)
    (moment : Moment) (command : Command) (goesOn : command ≠ .destroy) :
    Agreement (session.handle moment command).1
      (view.hearAll (published (session.handle moment command).2))
      fun id => command.awaits id (awaits id) := by
  cases command with
  | start priority =>
    intro id
    have silent : published (session.start moment.now priority).2 = [] := by
      simp only [Session.start, andThen, published_append, published_monitor]
      rfl
    simp only [Session.handle, silent, get?_start]
    exact (agreement id).notFound
  | stop =>
    have silent : published session.stop.2 = [] := by
      unfold Session.stop
      dsimp only
      split <;> rfl
    simp only [Session.handle, silent]
    exact agreement
  | track id =>
    have kept : ∀ tracking, Agreement { session with tracking } view awaits := fun _ => agreement
    simp only [Session.handle, Session.track]
    split
    · exact (kept _).request id true
    · exact kept _
  | untrack id => exact agreement
  | found printer =>
    simp only [Session.handle, live, Bool.false_eq_true, if_false]
    exact agreement.found moment printer
  | lost printer =>
    simp only [Session.handle, live, Bool.false_eq_true, if_false]
    exact agreement.lost moment.now printer
  | answered id answer =>
    simp only [Session.handle, live, Bool.false_eq_true, if_false]
    exact agreement.answered id answer
  | tick generation =>
    simp only [Session.handle, Session.tick]
    split
    · exact agreement
    · exact agreement.sweep moment.now
  | destroy => exact absurd rfl goesOn

theorem agreement_fresh (window : Nat) (known : KnownGood) (awaits : PrinterId → Bool) :
    Agreement (fresh window known) Table.empty awaits :=
  fun id => agrees_none id (awaits id)

theorem startedSince_snoc (turns : List Turn) (turn : Turn) (id : PrinterId) :
    startedSince (turns ++ [turn]) id = turn.command.awaits id (startedSince turns id) :=
  stateAfter_snoc ..

theorem hearAll_append (view : View) (earlier later : List RosterEvent) :
    view.hearAll (earlier ++ later) = (view.hearAll earlier).hearAll later :=
  stateAfter_append ..

theorem agreement_handleAll (window : Nat) (known : KnownGood) (turns : List Turn)
    (live : ∀ turn ∈ turns, turn.command ≠ .destroy) :
    let outcome := (fresh window known).handleAll turns
    outcome.1.destroyed = false ∧
      Agreement outcome.1 (View.hearAll Table.empty (published outcome.2)) (startedSince turns) := by
  -- On the latest command, since `startedSince` looks back from the end.
  induction turns using List.reverseRecOn with
  | nil => exact ⟨rfl, agreement_fresh window known _⟩
  | append_singleton earlier turn ih =>
    have goesOn : turn.command ≠ .destroy := live turn (by simp)
    obtain ⟨running, agreement⟩ := ih fun other member => live other (by simp [member])
    dsimp only
    rw [handleAll_snoc]
    simp only [andThen, published_append, hearAll_append]
    refine ⟨?_, ?_⟩
    · rw [(handle_keeps _ turn.moment goesOn).2]
      exact running
    · have handled := agreement.handle running turn.moment turn.command goesOn
      intro id
      rw [startedSince_snoc]
      exact handled id

/-- After any commands other than destruction, handled at any times and with any
answers in the cache, a subscriber shows exactly the published records, each as
its record says, except that a status may lag behind a start. None that is shown
says that it takes no usable format, and every record that says it takes one is
shown. -/
theorem subscriber_agrees_with_roster (window : Nat) (known : KnownGood) (turns : List Turn)
    (live : ∀ turn ∈ turns, turn.command ≠ .destroy) :
    let session := ((fresh window known).handleAll turns).1
    let view := View.hearAll Table.empty (published ((fresh window known).handleAll turns).2)
    (∀ id, (view.get? id).isSome = true ↔
        ∃ record ∈ session.records.get? id, record.published = true) ∧
      (∀ id, ∀ record ∈ session.records.get? id, record.id = id ∧ record.printer.id = id) ∧
      (∀ id, ∀ shown ∈ view.get? id, ∃ record ∈ session.records.get? id,
        ∃ info ∈ record.info?, { shown with status := info.status } = info ∧
          (startedSince turns id = false → shown = info)) ∧
      (∀ id, ∀ shown ∈ view.get? id, ∀ answer ∈ shown.capabilities, answer.isSupported = true) ∧
      ∀ id, ∀ record ∈ session.records.get? id, ∀ answer ∈ record.capabilities,
        answer.isSupported = true → (view.get? id).isSome = true := by
  intro session view
  have agreement : Agreement session view (startedSince turns) :=
    (agreement_handleAll window known turns live).2
  have visible : ∀ id, (view.get? id).isSome = true ↔
      ∃ record ∈ session.records.get? id, record.published = true := by
    intro id
    rw [(agreement id).visible, Option.any_eq_true]
    rfl
  have current : ∀ id, ∀ shown ∈ view.get? id, ∃ record ∈ session.records.get? id,
      ∃ info ∈ record.info?, { shown with status := info.status } = info ∧
        (startedSince turns id = false → shown = info) := by
    intro id shown shows
    obtain ⟨record, held, _⟩ := (visible id).1 (Option.isSome_of_mem shows)
    exact ⟨record, held, (agreement id).current record held shown shows⟩
  refine ⟨visible, agreement.owned, current, ?_, ?_⟩
  · intro id shown shows answer told
    obtain ⟨record, _, info, presented, same, _⟩ := current id shown shows
    have stated : info.capabilities = some answer := by rw [← same]; exact told
    exact supported_of_info presented stated
  · intro id record held answer told usable
    exact (visible id).2 ⟨record, held, (agreement id).complete record held answer told usable⟩

theorem subscriber_shows_printer_after_start :
    let office := Printer.report none "Office" "ipp://h" none
    let healthy : Capabilities := { (default : Capabilities) with isSupported := true }
    let turns : List Turn :=
      [⟨⟨0, fun _ => some healthy⟩, .found office⟩, ⟨⟨5, fun _ => none⟩, .start []⟩]
    (∀ turn ∈ turns, turn.command ≠ .destroy) ∧
      ((View.hearAll Table.empty
        (published ((fresh 3000 (.empty 50)).handleAll turns).2)).get? office.id).isSome = true := by
  intro office healthy turns
  have live : ∀ turn ∈ turns, turn.command ≠ .destroy := by decide
  obtain ⟨visible, _⟩ := subscriber_agrees_with_roster 3000 (.empty 50) turns live
  exact ⟨live, (visible office.id).2 ⟨_, rfl, rfl⟩⟩

end Session
end PrinterRoster
