import PrinterRoster.Proofs.Session.Presence
import PrinterRoster.Proofs.Session.Subscriber

/-! Which printers are known good. To evaluate a record takes its printer off the known-good
list, and puts it in front again if the printer is there, healthy and has a uuid. So nobody
is known good who is on the roster without an answer. -/
namespace PrinterRoster

namespace KnownGood

theorem remove_remove (known : KnownGood) (id : PrinterId) :
    (known.remove id).remove id = known.remove id := by
  simp [remove]

theorem promote_remove (known : KnownGood) (id : PrinterId) :
    (known.remove id).promote id = known.promote id := by
  simp [promote, remove]

theorem promote_promote (known : KnownGood) (id : PrinterId) :
    (known.promote id).promote id = known.promote id := by
  obtain ⟨ids, capacity⟩ := known
  cases capacity with
  | zero => rfl
  | succ capacity =>
    -- Whoever was cut off for want of room is not missed, as the front stays the same.
    have others : ((ids.filter (· ≠ id)).take capacity).filter (· ≠ id) =
        (ids.filter (· ≠ id)).take capacity :=
      List.filter_eq_self.2 fun _ member => (List.mem_filter.1 (List.mem_of_mem_take member)).2
    simp only [promote, remove, List.take_succ_cons, List.filter_cons_of_neg, ne_eq,
      not_true_eq_false, decide_false, Bool.false_eq_true, not_false_eq_true]
    simp only [ne_eq] at others
    rw [others, List.take_take, Nat.min_self]

end KnownGood

/-- Whether a record earns its printer a place in the known-good list. -/
def Record.vouches (record : Record) : Bool :=
  record.isFound && record.printer.uuid.isSome &&
    record.capabilities.any fun answer => answer.isSupported && !answer.isError

namespace Session

def vouched (known : KnownGood) (record : Record) : KnownGood :=
  if record.vouches then known.promote record.id else known.remove record.id

private theorem vouches_of_info {record : Record} {info : PrinterInfo}
    (presented : record.info? = some info) :
    record.vouches = (info.status = .idle && record.printer.uuid.isSome) := by
  unfold Record.info? at presented
  split at presented
  · cases presented
  · rename_i usable
    cases presented
    obtain ⟨_, _, capabilities, _, isFound, _, _⟩ := record
    rw [Record.isUnsupported] at usable
    simp only [Record.vouches, Record.status]
    cases capabilities with
    | none => simp
    | some answer => cases isFound <;> simp_all [Bool.and_comm]

theorem not_vouches_of_unanswered {record : Record} (unanswered : record.capabilities = none) :
    record.vouches = false := by
  simp [Record.vouches, unanswered]

private theorem not_vouches_of_hidden {known : KnownGood} {record : Record}
    (hides : shown? known record = none) : record.vouches = false := by
  unfold Record.vouches
  cases told : record.capabilities with
  | none => simp
  | some answer => simp_all [shown?, Record.info?, Record.isUnsupported]

private theorem knownGood_withdraw (session : Session) (record : Record) :
    (session.withdraw record).1.knownGood = session.knownGood := by
  unfold withdraw
  split <;> rfl

private theorem knownGood_evaluate {session : Session} {record : Record}
    (held : session.records.get? record.id = some record) :
    (session.evaluate record.id).1.knownGood = vouched session.knownGood record := by
  cases shows : shown? session.knownGood record with
  | none =>
    rw [evaluate_of_hidden held shows, knownGood_withdraw, vouched, not_vouches_of_hidden shows]
    rfl
  | some info =>
    rw [evaluate_of_shown held shows, vouched, vouches_of_info (info?_of_shown shows)]
    simp only [present, KnownGood.promote_remove]

private theorem knownGood_evaluate_insert (session : Session) (record : Record) (id : PrinterId)
    (named : record.id = id) :
    (evaluate { session with records := session.records.insert id record } id).1.knownGood =
      vouched session.knownGood record := by
  subst named
  exact knownGood_evaluate (by simp [Table.get?_insert])

theorem knownGood_request (session : Session) (id : PrinterId) (bypassCache : Bool) :
    (session.request id bypassCache).1.knownGood = session.knownGood := by
  unfold request
  split
  · rfl
  · split <;> rfl

theorem knownGood_monitor (session : Session) (now : Nat) :
    (session.monitor now).1.knownGood = session.knownGood := by
  unfold monitor
  split <;> rfl

theorem knownGood_sweep (session : Session) (now : Nat) :
    (session.sweep now).1.knownGood = session.knownGood := by
  rw [sweep_eq]
  simp only [andThen, rearm]
  split
  · exact knownGood_monitor ..
  · rfl

def settled (known : KnownGood) (record : Record) (asked : Bool) : Record :=
  if asked then (reviewed known record).beginRefresh else reviewed known record

section Settled
variable (known : KnownGood) (record : Record) (asked : Bool)

@[simp] theorem id_settled : (settled known record asked).id = record.id := by
  cases asked <;> rfl

@[simp] theorem capabilities_settled :
    (settled known record asked).capabilities = record.capabilities := by
  cases asked <;> rfl

@[simp] theorem published_settled :
    (settled known record asked).published = (shown? known record).isSome := by
  cases asked <;> rfl

@[simp] theorem vouches_settled : (settled known record asked).vouches = record.vouches := by
  cases asked <;> rfl

@[simp] theorem info?_settled : (settled known record asked).info? = record.info? := by
  cases asked <;> exact info?_eq_of_same rfl rfl rfl rfl

end Settled

structure Evaluation (session : Session) (record : Record) (asked : Bool) (outcome : Outcome) :
    Prop where
  records : ∀ other, outcome.1.records.get? other =
    if other = record.id then some (settled session.knownGood record asked)
    else session.records.get? other
  told : published outcome.2 = announced session.knownGood record
  knownGood : outcome.1.knownGood = vouched session.knownGood record

section Commands
variable {session : Session} (owned : session.Owned)
include owned

theorem evaluation_found (moment : Moment) (printer : Printer) :
    Evaluation session (session.sighted moment printer) (session.wantsAnswer moment printer)
      (session.found moment printer) where
  records := by
    intro other
    rw [get?_found session moment printer other owned, id_sighted moment printer owned]
    rfl
  told := published_found session moment printer owned
  knownGood := by
    have evaluated := knownGood_evaluate_insert session (session.sighted moment printer)
      printer.id (id_sighted moment printer owned)
    unfold found
    dsimp only
    split
    · exact (knownGood_request ..).trans evaluated
    · exact evaluated

theorem evaluation_lost {printer : Printer} {record : Record}
    (held : session.records.get? printer.id = some record) (now : Nat) :
    Evaluation session record.notFound false (session.lost now printer) where
  records := by
    intro other
    have named : record.notFound.id = printer.id := (owned _ _ held).1
    rw [get?_lost session now printer other owned, held, named]
    rfl
  told := by
    rw [published_lost session now printer owned, held]
    rfl
  knownGood := by
    have evaluated := knownGood_evaluate_insert session record.notFound printer.id (owned _ _ held).1
    simp only [lost, held, andThen]
    exact (knownGood_monitor ..).trans evaluated

theorem evaluation_answered {id : PrinterId} {record : Record}
    (held : session.records.get? id = some record) (answer : Option Capabilities) :
    Evaluation session (withAnswer record answer) false (session.answered id answer) where
  records := by
    intro other
    have named : (withAnswer record answer).id = id := (owned _ _ held).1
    rw [get?_answered session id other answer owned, held, named]
    rfl
  told := by
    rw [published_answered session id answer owned, held]
    rfl
  knownGood := by
    have evaluated := knownGood_evaluate_insert session (withAnswer record answer) id
      (owned _ _ held).1
    unfold answered
    rw [held]
    exact evaluated

end Commands

def Vetted (session : Session) : Prop :=
  ∀ id, ∀ record ∈ session.records.get? id, record.capabilities = none →
    session.knownGood.contains id = false

private theorem contains_vouched {known : KnownGood} {record : Record} {id : PrinterId}
    (unlisted : known.contains id = false) (different : id ≠ record.id) :
    (vouched known record).contains id = false := by
  simp only [KnownGood.contains, List.contains_eq_mem, decide_eq_false_iff_not] at unlisted ⊢
  intro listed
  unfold vouched at listed
  split at listed
  · exact unlisted (KnownGood.mem_promote different listed)
  · exact unlisted (KnownGood.mem_remove.1 listed).1

theorem contains_vouched_self {known : KnownGood} {record : Record}
    (unhealthy : record.vouches = false) : (vouched known record).contains record.id = false := by
  rw [vouched, unhealthy]
  simp [KnownGood.contains, KnownGood.remove]

private theorem Evaluation.vetted {session : Session} {record : Record} {asked : Bool}
    {outcome : Outcome}
    (evaluation : Evaluation session record asked outcome) (vetted : session.Vetted) :
    outcome.1.Vetted := by
  intro id held member unanswered
  rw [evaluation.records] at member
  rw [evaluation.knownGood]
  split at member
  · rename_i same
    have unhealthy : record.vouches = false := by
      cases member
      rw [capabilities_settled] at unanswered
      exact not_vouches_of_unanswered unanswered
    rw [same]
    exact contains_vouched_self unhealthy
  · rename_i different
    exact contains_vouched (vetted id held member unanswered) different

private theorem Vetted.of_get? {before after : Session} (vetted : before.Vetted)
    (knownGood : after.knownGood = before.knownGood)
    (from_before : ∀ id, ∀ record ∈ after.records.get? id,
      ∃ old ∈ before.records.get? id, record.capabilities = old.capabilities) : after.Vetted := by
  intro id record held unanswered
  obtain ⟨old, was, same⟩ := from_before id record held
  rw [knownGood]
  exact vetted id old was (same.symm.trans unanswered)

private theorem vetted_request {session : Session} (vetted : session.Vetted) (id : PrinterId)
    (bypassCache : Bool) : (session.request id bypassCache).1.Vetted := by
  refine vetted.of_get? (knownGood_request ..) ?_
  intro other record held
  rw [get?_request] at held
  split at held
  · rename_i same
    obtain ⟨old, was, rfl⟩ := Option.map_eq_some_iff.1 held
    exact ⟨old, same ▸ was, rfl⟩
  · exact ⟨record, held, rfl⟩

theorem vetted_handle {session : Session} (owned : session.Owned) (vetted : session.Vetted)
    (moment : Moment) (command : Command) : (session.handle moment command).1.Vetted := by
  cases command with
  | start priority =>
    refine vetted.of_get? (knownGood_monitor ..) ?_
    intro id record held
    rw [handle, get?_start] at held
    obtain ⟨old, was, rfl⟩ := Option.map_eq_some_iff.1 held
    exact ⟨old, was, rfl⟩
  | stop => exact vetted
  | track id =>
    dsimp only [handle, track]
    let tracking : Session := { session with
      tracking := if session.tracking.contains id then session.tracking else session.tracking ++ [id] }
    have same : tracking.Vetted := vetted
    split
    · exact vetted_request same id true
    · exact vetted
  | untrack id => exact vetted
  | found printer =>
    dsimp only [handle]
    split
    · exact vetted
    · exact (evaluation_found owned moment printer).vetted vetted
  | lost printer =>
    dsimp only [handle]
    split
    · exact vetted
    · cases held : session.records.get? printer.id with
      | none => simpa only [lost, held] using vetted
      | some record => exact (evaluation_lost owned held moment.now).vetted vetted
  | answered id answer =>
    dsimp only [handle]
    split
    · exact vetted
    · cases held : session.records.get? id with
      | none => simpa only [answered, held] using vetted
      | some record => exact (evaluation_answered owned held answer).vetted vetted
  | tick generation =>
    dsimp only [handle, tick]
    split
    · exact vetted
    · refine vetted.of_get? (knownGood_sweep ..) ?_
      intro id record held
      rw [get?_sweep] at held
      exact ⟨record, (Option.filter_eq_some_iff.1 held).1, rfl⟩
  | destroy =>
    dsimp only [handle, teardown]
    split <;> exact vetted

theorem vetted_handleAll (window : Nat) (known : KnownGood) (turns : List Turn) :
    ((fresh window known).handleAll turns).1.Owned ∧
      ((fresh window known).handleAll turns).1.Vetted :=
  holds_stateAfter (fun outcome : Outcome => outcome.1.Owned ∧ outcome.1.Vetted)
    (by simp [fresh, Owned, Vetted]) fun _ held turn _ =>
      ⟨owned_handle held.1 turn.moment turn.command,
        vetted_handle held.1 held.2 turn.moment turn.command⟩

end Session
end PrinterRoster
