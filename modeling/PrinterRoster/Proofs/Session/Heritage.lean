import PrinterRoster.Proofs.Session.Slot
import PrinterRoster.Proofs.Session.Vouched

/-! Where a record has its printer and its capabilities from. A sighting names the printer and may
bring cached capabilities to a record that has none, an answer brings others, and nothing else that
a session handles changes either. What is queried is the printer that the record holds. -/
namespace PrinterRoster.Session

/-- How a record on the roster after a command has come by its printer and its capabilities. -/
inductive Heritage (session : Session) (moment : Moment) (command : Command) (id : PrinterId)
    (record : Record) : Prop
  | kept (old : Record) (held : session.records.get? id = some old)
      (printer : record.printer = old.printer) (capabilities : record.capabilities = old.capabilities)
  | sighted (printer : Printer) (finds : command = .found printer) (named : printer.id = id)
      (placed : record.printer = printer)
      (capabilities : record.capabilities =
        ((session.records.get? id).bind Record.capabilities).or (moment.cached printer))
  | answered (answer : Option Capabilities) (answers : command = .answered id answer) (old : Record)
      (held : session.records.get? id = some old) (printer : record.printer = old.printer)
      (capabilities : record.capabilities = answer)

@[simp] theorem printer_settled (known : KnownGood) (record : Record) (asked : Bool) :
    (settled known record asked).printer = record.printer := by
  cases asked <;> rfl

theorem printer_sighted (session : Session) (moment : Moment) (printer : Printer) :
    (session.sighted moment printer).printer = printer := rfl

theorem capabilities_sighted (session : Session) (moment : Moment) (printer : Printer) :
    (session.sighted moment printer).capabilities =
      ((session.records.get? printer.id).bind Record.capabilities).or (moment.cached printer) := by
  unfold sighted
  cases session.records.get? printer.id <;> rfl

theorem heritage_request {session : Session} (moment : Moment) (command : Command) {id : PrinterId}
    {record : Record} (other : PrinterId) (bypassCache : Bool)
    (held : (session.request other bypassCache).1.records.get? id = some record) :
    Heritage session moment command id record := by
  rw [get?_request] at held
  split at held
  · rename_i same
    obtain ⟨old, was, rfl⟩ := Option.map_eq_some_iff.1 held
    exact .kept old (same ▸ was) rfl rfl
  · exact .kept record held rfl rfl

theorem heritage_handle {session : Session} (owned : session.Owned) (moment : Moment)
    (command : Command) {id : PrinterId} {record : Record}
    (held : (session.handle moment command).1.records.get? id = some record) :
    Heritage session moment command id record := by
  cases command with
  | start priority =>
    rw [handle, get?_start] at held
    obtain ⟨old, was, rfl⟩ := Option.map_eq_some_iff.1 held
    exact .kept old was rfl rfl
  | stop => exact .kept record held rfl rfl
  | track other =>
    dsimp only [handle, track] at held
    split at held
    · obtain ⟨old, was, printer, capabilities⟩ | ⟨_, finds, _⟩ | ⟨_, answers, _⟩ :=
        heritage_request moment (.track other) other true held
      · exact .kept old was printer capabilities
      · cases finds
      · cases answers
    · exact .kept record held rfl rfl
  | untrack other => exact .kept record held rfl rfl
  | found printer =>
    dsimp only [handle] at held
    split at held
    · exact .kept record held rfl rfl
    · rw [(evaluation_found owned moment printer).records, id_sighted moment printer owned] at held
      split at held
      · rename_i same
        cases held
        refine .sighted printer rfl same.symm ?_ ?_
        · rw [printer_settled, printer_sighted]
        · rw [capabilities_settled, capabilities_sighted, same]
      · exact .kept record held rfl rfl
  | lost printer =>
    dsimp only [handle] at held
    split at held
    · exact .kept record held rfl rfl
    · rw [get?_lost session moment.now printer id owned] at held
      split at held
      · rename_i same
        obtain ⟨old, was, rfl⟩ := Option.map_eq_some_iff.1 held
        exact .kept old (same ▸ was) rfl rfl
      · exact .kept record held rfl rfl
  | answered other answer =>
    dsimp only [handle] at held
    split at held
    · exact .kept record held rfl rfl
    · rw [get?_answered session other id answer owned] at held
      split at held
      · rename_i same
        subst same
        obtain ⟨old, was, rfl⟩ := Option.map_eq_some_iff.1 held
        exact .answered answer rfl old was rfl rfl
      · exact .kept record held rfl rfl
  | tick generation =>
    dsimp only [handle, tick] at held
    split at held
    · exact .kept record held rfl rfl
    · rw [get?_sweep] at held
      exact .kept record (Option.filter_eq_some_iff.1 held).1 rfl rfl
  | destroy =>
    rw [handle, records_teardown] at held
    exact .kept record held rfl rfl

theorem Heritage.capabilities_cases {session : Session} {moment : Moment} {command : Command}
    {id : PrinterId} {record : Record} {answer : Capabilities}
    (heritage : Heritage session moment command id record)
    (told : record.capabilities = some answer) :
    (∃ old, session.records.get? id = some old ∧ old.capabilities = some answer) ∨
      (∃ printer, command = .found printer ∧ printer.id = id ∧ moment.cached printer = some answer) ∨
      command = .answered id (some answer) := by
  cases heritage with
  | kept old held _ capabilities => exact Or.inl ⟨old, held, capabilities.symm.trans told⟩
  | sighted printer finds named _ capabilities =>
    rw [told] at capabilities
    rcases Option.or_eq_some_iff.1 capabilities.symm with had | ⟨_, cached⟩
    · obtain ⟨old, held, was⟩ := Option.bind_eq_some_iff.1 had
      exact Or.inl ⟨old, held, was⟩
    · exact Or.inr (Or.inl ⟨printer, finds, named, cached⟩)
  | answered given answers _ _ _ capabilities =>
    rw [answers, ← capabilities, told]
    exact Or.inr (Or.inr rfl)

def Placed (session : Session) (id : PrinterId) : Prop :=
  ∀ record ∈ session.records.get? id, record.printer.path = id.text

theorem placed_handle {session : Session} (owned : session.Owned) {id : PrinterId}
    (placed : session.Placed id) (moment : Moment) {command : Command}
    (addressed : ∀ printer, command = .found printer → printer.id = id → printer.path = id.text) :
    (session.handle moment command).1.Placed id := by
  intro record held
  cases heritage_handle owned moment command held with
  | kept old was printer _ => exact printer ▸ placed old was
  | sighted printer finds named at_printer _ => exact at_printer ▸ addressed printer finds named
  | answered _ _ old was printer _ => exact printer ▸ placed old was

theorem mem_asked {effects : List Effect} {id : PrinterId} {printer : Printer} {bypassCache : Bool}
    (queries : .query id printer bypassCache ∈ effects) : id ∈ asked effects :=
  List.mem_filterMap.2 ⟨_, queries, rfl⟩

private theorem queried_request {session : Session} {id other : PrinterId}
    {bypassCache bypass : Bool}
    {printer : Printer} (queries : .query id printer bypass ∈ (session.request other bypassCache).2) :
    ∃ record, (session.request other bypassCache).1.records.get? id = some record ∧
      record.printer = printer := by
  unfold request at queries ⊢
  split at queries
  · cases queries
  · rename_i record held
    split at queries
    · cases queries
    · rename_i free
      cases List.mem_singleton.1 queries
      rw [if_neg free, Table.get?_insert, if_pos rfl]
      exact ⟨record.beginRefresh, rfl, rfl⟩

def Command.seeks : Command → Bool
  | .found _ | .track _ => true
  | _ => false

theorem asked_of_not_seeks {session : Session} (owned : session.Owned) (moment : Moment)
    {command : Command} (idle : command.seeks = false) :
    asked (session.handle moment command).2 = [] := by
  cases command with
  | found printer => cases idle
  | track id => cases idle
  | start priority =>
    dsimp only [handle, start, andThen]
    rw [asked_append, asked_monitor]
    rfl
  | stop =>
    dsimp only [handle, stop]
    split <;> rfl
  | untrack id => rfl
  | lost printer =>
    dsimp only [handle]
    split
    · rfl
    · exact asked_lost session moment.now printer owned
  | answered id answer =>
    dsimp only [handle]
    split
    · rfl
    · exact asked_answered session id answer owned
  | tick generation =>
    dsimp only [handle, tick]
    split
    · rfl
    · exact asked_sweep ..
  | destroy =>
    unfold handle teardown stop
    dsimp only [andThen]
    split
    · rfl
    · rw [asked_append]
      split <;> rfl

private theorem queried_found {session : Session} (owned : session.Owned) {moment : Moment}
    {sighting : Printer} {id : PrinterId} {printer : Printer} {bypass : Bool}
    (queries : .query id printer bypass ∈ (session.found moment sighting).2) :
    ∃ record, (session.found moment sighting).1.records.get? id = some record ∧
      record.printer = printer := by
  -- The evaluation only tells of the record, so the query is that of the request after it.
  have evaluated := effects_evaluate_insert session (session.sighted moment sighting) sighting.id
    (id_sighted moment sighting owned)
  unfold found at queries ⊢
  dsimp only at queries ⊢
  split at queries
  · rename_i wants
    rw [if_pos wants]
    dsimp only [andThen] at queries ⊢
    rw [evaluated] at queries
    rcases List.mem_append.1 queries with announces | requested
    · obtain ⟨event, _, differs⟩ := List.mem_map.1 announces
      cases differs
    · exact queried_request requested
  · rw [evaluated] at queries
    obtain ⟨event, _, differs⟩ := List.mem_map.1 queries
    cases differs

/-- What a command queries is the printer that the record holds then. -/
theorem queried_handle {session : Session} (owned : session.Owned) {moment : Moment}
    {command : Command} {id : PrinterId} {printer : Printer} {bypass : Bool}
    (queries : .query id printer bypass ∈ (session.handle moment command).2) :
    ∃ record, (session.handle moment command).1.records.get? id = some record ∧
      record.printer = printer := by
  cases seeks : command.seeks with
  | false =>
    have member := mem_asked queries
    rw [asked_of_not_seeks owned moment seeks] at member
    cases member
  | true =>
    cases command with
    | track other =>
      dsimp only [handle, track] at queries ⊢
      split at queries
      · rename_i found
        rw [if_pos found]
        exact queried_request queries
      · cases queries
    | found sighting =>
      dsimp only [handle] at queries ⊢
      split at queries
      · cases queries
      · rename_i lives
        rw [if_neg lives]
        exact queried_found owned queries
    | _ => cases seeks

def forgotten (effects : List Effect) : List String :=
  effects.filterMap fun
    | .forget uri => some uri
    | _ => none

theorem forgotten_lost {session : Session} (lives : session.destroyed = false) (moment : Moment)
    {printer : Printer} (network : printer.id.isNetworkAddress = true) :
    printer.uri ∈ forgotten (session.handle moment (.lost printer)).2 := by
  refine List.mem_filterMap.2 ⟨.forget printer.uri, ?_, rfl⟩
  rw [handle, lives, if_neg Bool.false_ne_true, lost, network]
  split
  · exact List.mem_singleton_self _
  · simp [andThen]

/-- What is shown of a printer is what its record tells once it is evaluated. -/
theorem Evaluation.record_of_added {session : Session} {record : Record} {asked : Bool}
    {outcome : Outcome} (evaluation : Evaluation session record asked outcome) {info : PrinterInfo}
    (added : .added info ∈ published outcome.2) :
    ∃ record, outcome.1.records.get? info.id = some record ∧ record.info? = some info := by
  rw [evaluation.told, announced] at added
  split at added
  · rename_i shown shows
    cases List.mem_singleton.1 added
    have presents := info?_of_shown shows
    refine ⟨settled session.knownGood record asked, ?_, ?_⟩
    · rw [evaluation.records, if_pos (id_of_info presents)]
    · rw [info?_settled, presents]
  · split at added
    · cases List.mem_singleton.1 added
    · cases added

/-- Only a session that lives shows anybody, and whoever it shows has a record afterwards that
tells what is shown. -/
theorem record_of_added {session : Session} (owned : session.Owned) {moment : Moment}
    {command : Command} {info : PrinterInfo}
    (added : .added info ∈ published (session.handle moment command).2) :
    session.destroyed = false ∧
      ∃ record, (session.handle moment command).1.records.get? info.id = some record ∧
        record.info? = some info := by
  cases command with
  | start priority =>
    simp only [handle, start, andThen, published_append, published_monitor] at added
    cases added
  | stop =>
    dsimp only [handle, stop] at added
    split at added <;> cases added
  | track id =>
    dsimp only [handle, track] at added
    split at added
    · rw [published_request] at added
      cases added
    · cases added
  | untrack id => cases added
  | found printer =>
    dsimp only [handle] at added ⊢
    split at added
    · cases added
    · rename_i lives
      rw [if_neg lives]
      exact ⟨Bool.not_eq_true _ ▸ lives, (evaluation_found owned moment printer).record_of_added added⟩
  | lost printer =>
    dsimp only [handle] at added ⊢
    split at added
    · cases added
    · rename_i lives
      rw [if_neg lives]
      cases held : session.records.get? printer.id with
      | none =>
        rw [published_lost session moment.now printer owned, held] at added
        cases added
      | some record =>
        exact ⟨Bool.not_eq_true _ ▸ lives,
          (evaluation_lost owned held moment.now).record_of_added added⟩
  | answered id answer =>
    dsimp only [handle] at added ⊢
    split at added
    · cases added
    · rename_i lives
      rw [if_neg lives]
      cases held : session.records.get? id with
      | none =>
        rw [published_answered session id answer owned, held] at added
        cases added
      | some record =>
        exact ⟨Bool.not_eq_true _ ▸ lives,
          (evaluation_answered owned held answer).record_of_added added⟩
  | tick generation =>
    dsimp only [handle, tick] at added
    split at added
    · cases added
    · rw [published_sweep] at added
      split at added
      · cases added
      · cases List.mem_singleton.1 added
  | destroy =>
    dsimp only [handle, teardown, andThen, stop] at added
    split at added
    · cases added
    · split at added <;> simp [published] at added

theorem destroyed_handle {session : Session} (ended : session.destroyed = true) (moment : Moment)
    (command : Command) : (session.handle moment command).1.destroyed = true := by
  by_cases ends : command = .destroy
  · subst ends
    rw [handle, teardown, if_pos ended]
    exact ended
  · rw [(handle_keeps session moment ends).2, ended]

end PrinterRoster.Session
