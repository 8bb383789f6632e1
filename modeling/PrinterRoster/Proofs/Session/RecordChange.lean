import PrinterRoster.Proofs.Session.Review

/-! What a command makes of the record of one printer, and at which path it has the printer queried.
A sighting puts the printer at the path where it is sighted, and a query goes to that path; any other
query goes to the path of the record. -/
namespace PrinterRoster.Session

def inquired (id : PrinterId) (effects : List Effect) : List String :=
  effects.filterMap fun
    | .query other printer _ => if other = id then some printer.path else none
    | _ => none

def isThere (session : Session) (id : PrinterId) : Bool := (session.records.get? id).any (·.isFound)

/-- What a command makes of the record of one printer, and where it queries the printer. -/
inductive RecordChange (session : Session) (command : Command) (id : PrinterId)
    (outcome : Outcome) : Prop
  | kept (same : outcome.1.records.get? id = session.records.get? id)
      (silent : inquired id outcome.2 = [])
  | gone (absent : ∀ record ∈ outcome.1.records.get? id, record.isFound = false)
      (silent : inquired id outcome.2 = [])
  | tracked (record : Record) (held : session.records.get? id = some record)
      (holds : outcome.1.records.get? id = some record.beginRefresh)
      (asks : inquired id outcome.2 = [record.printer.path])
  | sighted (printer : Printer) (finds : command = .found printer) (named : printer.id = id)
      (record : Record) (holds : outcome.1.records.get? id = some record)
      (here : record.isFound = true) (placed : record.printer = printer)
      (unanswered : record.capabilities = none →
        ∀ old ∈ session.records.get? id, old.capabilities = none)
      (wants : Bool)
      (wanted : wants = (record.capabilities.isNone && (session.isPriority id || !session.isThere id)))
      (slot : record.refreshing = (wants || (session.slot? id).getD false))
      (asks : inquired id outcome.2 =
        if wants && !(session.slot? id).getD false then [printer.path] else [])
  | answered (answer : Option Capabilities) (answers : command = .answered id answer)
      (old record : Record) (held : session.records.get? id = some old)
      (holds : outcome.1.records.get? id = some record) (same : record.isFound = old.isFound)
      (placed : record.printer = old.printer) (told : record.capabilities = answer)
      (silent : inquired id outcome.2 = [])

theorem isThere_of_get? {session : Session} {id : PrinterId} {record : Record}
    (held : session.records.get? id = some record) : session.isThere id = record.isFound := by
  rw [isThere, held, Option.any_some]

theorem exists_of_isThere {session : Session} {id : PrinterId} (there : session.isThere id = true) :
    ∃ record, session.records.get? id = some record ∧ record.isFound = true := by
  cases held : session.records.get? id with
  | none =>
    rw [isThere, held] at there
    cases there
  | some record => exact ⟨record, rfl, isThere_of_get? held ▸ there⟩

private theorem inquired_requested (id : PrinterId) (effects : List Effect) :
    inquired id (requested effects) = inquired id effects := by
  rw [requested, inquired, List.filterMap_filter, inquired]
  congr 1
  funext effect
  cases effect <;> rfl

private theorem inquired_of_not_asked {id : PrinterId} {effects : List Effect}
    (unasked : id ∉ asked effects) : inquired id effects = [] := by
  rw [inquired, List.filterMap_eq_nil_iff]
  intro effect member
  cases effect with
  | query other printer bypassCache =>
    have different : other ≠ id := fun same => unasked (same ▸ mem_asked member)
    simp [different]
  | _ => rfl

private theorem refreshing_settled (known : KnownGood) (record : Record) (asked : Bool) :
    (settled known record asked).refreshing = (asked || record.refreshing) := by
  cases asked <;> rfl

theorem isFound_settled (known : KnownGood) (record : Record) (asked : Bool) :
    (settled known record asked).isFound = record.isFound := by
  cases asked <;> rfl

private theorem recordChange_request {before session : Session}
    (same : session.records = before.records)
    (id other : PrinterId) (bypassCache : Bool) (command : Command) :
    RecordChange before command id (session.request other bypassCache) := by
  unfold request
  split
  · exact .kept (by rw [same]) rfl
  · rename_i record held
    split
    · exact .kept (by rw [same]) rfl
    · by_cases about : id = other
      · subst about
        refine .tracked record (same ▸ held) ?_ (by simp [inquired])
        rw [Table.get?_insert, if_pos rfl]
      · refine .kept ?_ (by simp [inquired, Ne.symm about])
        rw [Table.get?_insert, if_neg about, same]

section Change
variable {session : Session} (owned : session.Owned) (moment : Moment) (id : PrinterId)
include owned

theorem inquired_found (printer : Printer) :
    inquired id (session.found moment printer).2 =
      if session.wantsAnswer moment printer && !(session.slot? printer.id).getD false then
        if printer.id = id then [printer.path] else []
      else [] := by
  rw [← inquired_requested, requested_found owned, Review.queries, refreshing_sighted,
    id_sighted moment printer owned]
  split
  · by_cases same : printer.id = id <;> simp [inquired, same, printer_sighted]
  · rfl

theorem get?_found_settled (printer : Printer) :
    (session.found moment printer).1.records.get? printer.id =
      some (settled session.knownGood (session.sighted moment printer)
        (session.wantsAnswer moment printer)) :=
  ((handled_found owned moment printer).records printer.id).trans (if_pos rfl)

private theorem recordChange_found (printer : Printer) :
    RecordChange session (.found printer) id (session.found moment printer) := by
  have asks := inquired_found owned moment id printer
  by_cases same : id = printer.id
  · subst same
    refine .sighted printer rfl rfl _ (get?_found_settled owned moment printer) ?_ ?_ ?_
      (session.wantsAnswer moment printer) ?_ ?_ ?_
    · exact isFound_settled ..
    · exact printer_settled ..
    · rw [capabilities_settled, capabilities_sighted]
      intro unanswered old held
      rw [Option.mem_def.1 held] at unanswered
      exact (Option.or_eq_none_iff.1 unanswered).1
    · rw [capabilities_settled, wantsAnswer, isThere]
    · rw [refreshing_settled, refreshing_sighted]
    · rw [asks, if_pos rfl]
  · refine .kept ?_ ?_
    · rw [(handled_found owned moment printer).records, if_neg same]
    · rw [asks, if_neg (Ne.symm same), ite_self]

theorem recordChange_handle (lives : session.destroyed = false) (command : Command) :
    RecordChange session command id (session.handle moment command) := by
  have silent : command.seeks = false → inquired id (session.handle moment command).2 = [] := by
    intro idle
    apply inquired_of_not_asked
    rw [asked_of_not_seeks owned moment idle]
    exact List.not_mem_nil
  cases command with
  | found printer =>
    rw [handle, lives, if_neg Bool.false_ne_true]
    exact recordChange_found owned moment id printer
  | track other =>
    dsimp only [handle, track]
    split
    · exact recordChange_request (by rfl) id other true (.track other)
    · exact .kept rfl rfl
  | lost printer =>
    have quiet := silent rfl
    rw [handle, lives, if_neg Bool.false_ne_true] at quiet ⊢
    have left := get?_lost session moment.now printer id owned
    by_cases same : id = printer.id
    · refine .gone ?_ quiet
      intro record held
      rw [left, if_pos same] at held
      obtain ⟨old, _, rfl⟩ := Option.map_eq_some_iff.1 held
      rfl
    · exact .kept (left.trans (if_neg same)) quiet
  | answered other answer =>
    have quiet := silent rfl
    rw [handle, lives, if_neg Bool.false_ne_true] at quiet ⊢
    have left := get?_answered session other id answer owned
    by_cases same : id = other
    · subst same
      rw [if_pos rfl] at left
      cases held : session.records.get? id with
      | none => exact .kept (left.trans (by rw [held]; rfl)) quiet
      | some old =>
        rw [held, Option.map_some] at left
        exact .answered answer rfl old _ held left rfl rfl rfl quiet
    · exact .kept (left.trans (if_neg same)) quiet
  | start priority =>
    refine .gone ?_ (silent rfl)
    intro record held
    rw [handle, get?_start] at held
    obtain ⟨old, _, rfl⟩ := Option.map_eq_some_iff.1 held
    rfl
  | tick generation =>
    have left : (session.handle moment (.tick generation)).1.records.get? id =
        session.records.get? id ∨
          (session.handle moment (.tick generation)).1.records.get? id = none := by
      dsimp only [handle, tick]
      split
      · exact Or.inl rfl
      · rw [get?_sweep]
        cases session.records.get? id with
        | none => exact Or.inl rfl
        | some record =>
          rw [Option.filter_some]
          split
          · exact Or.inl rfl
          · exact Or.inr rfl
    rcases left with same | absent
    · exact .kept same (silent rfl)
    · exact .gone (by simp [absent]) (silent rfl)
  | stop => exact .kept rfl (silent rfl)
  | untrack other => exact .kept rfl (silent rfl)
  | destroy =>
    refine .kept ?_ (silent rfl)
    rw [handle, records_teardown]

end Change

end PrinterRoster.Session
