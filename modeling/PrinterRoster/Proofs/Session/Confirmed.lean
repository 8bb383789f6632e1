import PrinterRoster.Proofs.KnownGood.Order
import PrinterRoster.Proofs.Session.Vouched

/-! Who is known good in a running session. Each evaluation of a record changes the known-good
list in one way: the printer is promoted if the record vouches for it and is removed if not. So
whoever is in the list was evaluated last by a record that vouches, or was in the file and was
never evaluated. -/
namespace PrinterRoster.Session

def verdict (record : Record) : KnownGood.Change :=
  if record.vouches then .promote record.id else .remove record.id

@[simp] theorem id_verdict (record : Record) : (verdict record).id = record.id := by
  unfold verdict
  split <;> rfl

theorem verdict_eq_promote_iff {record : Record} {id : PrinterId} :
    verdict record = .promote id ↔ record.vouches = true ∧ record.id = id := by
  unfold verdict
  split <;> simp_all

theorem vouched_eq_change (known : KnownGood) (record : Record) :
    vouched known record = known.change (verdict record) := by
  unfold vouched verdict
  split <;> rfl

/-- A record that vouches for its printer shows it as idle. -/
theorem idle_of_vouches {record : Record} (vouches : record.vouches = true) :
    record.status = .idle ∧ record.printer.uuid.isSome = true := by
  simp only [Record.vouches, Bool.and_eq_true, Option.any_eq_true] at vouches
  obtain ⟨⟨found, identified⟩, answer, told, _, healthy⟩ := vouches
  refine ⟨?_, identified⟩
  rw [Record.status, if_pos]
  rw [Bool.and_eq_true, Option.any_eq_true]
  exact ⟨found, answer, told, healthy⟩

/-- The printer whose record a command evaluates in a session. A sighting makes a record where
there is none. -/
def evaluated? (session : Session) (command : Command) : Option PrinterId :=
  if session.destroyed then none
  else
    match command with
    | .found printer => some printer.id
    | command => command.subject?.filter session.records.contains

private theorem evaluation_of_evaluated {session : Session} (owned : session.Owned)
    (moment : Moment)
    {command : Command} {id : PrinterId} (evaluates : session.evaluated? command = some id) :
    ∃ record asked, record.id = id ∧
      Evaluation session record asked (session.handle moment command) := by
  unfold evaluated? at evaluates
  split at evaluates
  · cases evaluates
  · rename_i lives
    rw [Bool.not_eq_true] at lives
    cases command with
    | found printer =>
      obtain rfl : printer.id = id := Option.some.inj evaluates
      rw [handle, lives, if_neg Bool.false_ne_true]
      exact ⟨_, _, id_sighted moment printer owned, evaluation_found owned moment printer⟩
    | lost printer =>
      obtain ⟨same, listed⟩ := Option.filter_eq_some_iff.1 evaluates
      obtain rfl : printer.id = id := Option.some.inj same
      obtain ⟨record, held⟩ := Option.isSome_iff_exists.1 listed
      rw [handle, lives, if_neg Bool.false_ne_true]
      exact ⟨record.notFound, _, (owned _ _ held).1, evaluation_lost owned held moment.now⟩
    | answered other answer =>
      obtain ⟨same, listed⟩ := Option.filter_eq_some_iff.1 evaluates
      obtain rfl : other = id := Option.some.inj same
      obtain ⟨record, held⟩ := Option.isSome_iff_exists.1 listed
      rw [handle, lives, if_neg Bool.false_ne_true]
      exact ⟨withAnswer record answer, _, (owned _ _ held).1,
        evaluation_answered owned held answer⟩
    | _ => cases evaluates

private theorem knownGood_handle_of_unevaluated {session : Session} (moment : Moment)
    {command : Command}
    (quiet : session.evaluated? command = none) :
    (session.handle moment command).1.knownGood = session.knownGood := by
  unfold evaluated? at quiet
  cases command with
  | start priority => exact knownGood_monitor ..
  | stop => rfl
  | track id =>
    dsimp only [handle, track]
    split
    · exact knownGood_request ..
    · rfl
  | untrack id => rfl
  | found printer =>
    split at quiet
    · rename_i ended
      rw [handle, if_pos ended]
    · cases quiet
  | lost printer =>
    dsimp only [handle]
    split at quiet
    · rename_i ended
      rw [if_pos ended]
    · rename_i lives
      rw [if_neg lives]
      cases held : session.records.get? printer.id with
      | none => rw [lost, held]
      | some record => simp [Command.subject?, Table.contains, held] at quiet
  | answered id answer =>
    dsimp only [handle]
    split at quiet
    · rename_i ended
      rw [if_pos ended]
    · rename_i lives
      rw [if_neg lives]
      cases held : session.records.get? id with
      | none => rw [answered, held]
      | some record => simp [Command.subject?, Table.contains, held] at quiet
  | tick generation =>
    dsimp only [handle, tick]
    split
    · rfl
    · exact knownGood_sweep ..
  | destroy =>
    dsimp only [handle, teardown]
    split <;> rfl

def evaluation? (session : Session) (turn : Turn) : Option Record :=
  (session.evaluated? turn.command).bind
    (session.handle turn.moment turn.command).1.records.get?

def evaluations (session : Session) : List Turn → List Record
  | [] => []
  | turn :: later =>
    (session.evaluation? turn).toList ++
      evaluations (session.handle turn.moment turn.command).1 later

/-- The printer that a command evaluates has a record afterwards, and the verdict on that is what
becomes of the known-good list. -/
theorem get?_of_evaluated {session : Session} (owned : session.Owned) {moment : Moment}
    {command : Command} {id : PrinterId} (evaluates : session.evaluated? command = some id) :
    ∃ record, (session.handle moment command).1.records.get? id = some record ∧ record.id = id ∧
      (session.handle moment command).1.knownGood = session.knownGood.change (verdict record) := by
  obtain ⟨record, asked, rfl, evaluation⟩ := evaluation_of_evaluated owned moment evaluates
  refine ⟨settled session.knownGood record asked, ?_, id_settled .., ?_⟩
  · rw [evaluation.records, if_pos rfl]
  · rw [evaluation.knownGood, vouched_eq_change, verdict, verdict, vouches_settled, id_settled]

theorem knownGood_handle {session : Session} (owned : session.Owned) (turn : Turn) :
    (session.handle turn.moment turn.command).1.knownGood =
      session.knownGood.changeAll ((session.evaluation? turn).toList.map verdict) := by
  cases evaluates : session.evaluated? turn.command with
  | none =>
    rw [knownGood_handle_of_unevaluated turn.moment evaluates, evaluation?, evaluates]
    rfl
  | some id =>
    obtain ⟨record, held, _, changed⟩ := get?_of_evaluated owned evaluates
    rw [changed, evaluation?, evaluates, Option.bind_some, held]
    rfl

theorem handleAll_cons (session : Session) (turn : Turn) (later : List Turn) :
    (session.handleAll (turn :: later)).1 =
      ((session.handle turn.moment turn.command).1.handleAll later).1 := by
  induction later using List.reverseRecOn with
  | nil => rfl
  | append_singleton between last ih =>
    rw [← List.cons_append, handleAll_snoc, handleAll_snoc]
    dsimp only [andThen]
    rw [ih]

theorem knownGood_handleAll {session : Session} (owned : session.Owned) (turns : List Turn) :
    (session.handleAll turns).1.knownGood =
      session.knownGood.changeAll ((session.evaluations turns).map verdict) := by
  induction turns generalizing session with
  | nil => rfl
  | cons turn later ih =>
    rw [handleAll_cons, ih (owned_handle owned turn.moment turn.command), evaluations,
      List.map_append, knownGood_handle owned turn]
    exact (stateAfter_append ..).symm

def lastEvaluated? (session : Session) (turns : List Turn) (id : PrinterId) : Option Record :=
  (session.evaluations turns).reverse.find? (·.id = id)

private theorem latest?_verdicts (records : List Record) (id : PrinterId) :
    KnownGood.latest? (records.map verdict) id =
      (records.reverse.find? (·.id = id)).map verdict := by
  rw [KnownGood.latest?, ← List.map_reverse, List.find?_map]
  simp only [Function.comp_def, id_verdict]

/-- What an evaluation makes of the known-good list: the printer is in it, and in front, exactly
if its record vouches for it. All others keep their order, and only the last may be dropped. -/
theorem listed_of_evaluated {session : Session} (owned : session.Owned)
    (sound : session.knownGood.Sound) (room : 1 ≤ session.knownGood.capacity) {moment : Moment}
    {command : Command} {id : PrinterId} (evaluates : session.evaluated? command = some id) :
    let next := (session.handle moment command).1
    ∃ record, next.records.get? id = some record ∧
      (id ∈ next.knownGood.ids ↔ record.vouches = true) ∧
      (id ∈ next.knownGood.ids → next.knownGood.ids.head? = some id) ∧
      next.knownGood.ids.filter (· ≠ id) =
        if id ∈ next.knownGood.ids ∧ id ∉ session.knownGood.ids ∧
            session.knownGood.ids.length = session.knownGood.capacity
        then session.knownGood.ids.dropLast else session.knownGood.ids.filter (· ≠ id) := by
  intro next
  obtain ⟨record, held, rfl, changed⟩ := get?_of_evaluated owned evaluates
  refine ⟨record, held, ?_⟩
  have others := KnownGood.others_promote sound room record.id
  rw [changed, verdict]
  cases vouches : record.vouches with
  | true =>
    obtain ⟨free, size⟩ := Nat.exists_eq_add_of_le' room
    have front : (session.knownGood.promote record.id).ids.head? = some record.id := by
      rw [KnownGood.promote, size, List.take_succ_cons, List.head?_cons]
    have listed := List.mem_of_head? front
    simp only [if_true, KnownGood.change, listed, front, true_and, others]
    trivial
  | false =>
    simp [KnownGood.change, KnownGood.remove]

theorem listed_exactly_when_vouched_for (window capacity : Nat) (file : StoredFile)
    (turns : List Turn) :
    let loaded := KnownGood.load file capacity
    let reached := ((fresh window loaded).handleAll turns).1
    (1 ≤ capacity → ∀ (turn : Turn) (id : PrinterId), reached.evaluated? turn.command = some id →
      let next := (reached.handle turn.moment turn.command).1
      ∃ record, next.records.get? id = some record ∧
        (id ∈ next.knownGood.ids ↔
          record.isFound = true ∧ record.printer.uuid.isSome = true ∧
            ∃ answer ∈ record.capabilities, answer.isSupported = true ∧ answer.isError = false) ∧
        (id ∈ next.knownGood.ids → next.knownGood.ids.head? = some id) ∧
        next.knownGood.ids.filter (· ≠ id) =
          if id ∈ next.knownGood.ids ∧ id ∉ reached.knownGood.ids ∧
              reached.knownGood.ids.length = capacity
          then reached.knownGood.ids.dropLast else reached.knownGood.ids.filter (· ≠ id)) ∧
    ∀ id ∈ reached.knownGood.ids,
      ((fresh window loaded).lastEvaluated? turns id = none ∧ id ∈ loaded.ids) ∨
      ∃ record, (fresh window loaded).lastEvaluated? turns id = some record ∧
        record.status = .idle ∧ record.printer.uuid.isSome = true := by
  intro loaded reached
  obtain ⟨owned, _⟩ := vetted_handleAll window loaded turns
  have ownedAtFirst : (fresh window loaded).Owned := (vetted_handleAll window loaded []).1
  have history : reached.knownGood =
      loaded.changeAll (((fresh window loaded).evaluations turns).map verdict) :=
    knownGood_handleAll ownedAtFirst turns
  have sound : loaded.Sound := KnownGood.sound_ofList ..
  have size : reached.knownGood.capacity = capacity := by
    rw [history, KnownGood.capacity_changeAll]
    rfl
  constructor
  · intro room turn id evaluates next
    obtain ⟨record, held, listed, front, others⟩ := listed_of_evaluated owned
      (history ▸ sound.changeAll _) (size ▸ room) evaluates
    rw [size] at others
    refine ⟨record, held, ?_, front, others⟩
    rw [listed, Record.vouches]
    simp only [Bool.and_eq_true, Option.any_eq_true, Bool.not_eq_true', and_assoc]
    simp
  · intro id listed
    rw [history] at listed
    have kept := (KnownGood.ids_prefix_history loaded _).subset listed
    rw [KnownGood.history, List.mem_append, KnownGood.promoted, List.mem_filter, List.mem_filter,
      latest?_verdicts] at kept
    simp only [decide_eq_true_eq] at kept
    rcases kept with ⟨_, promoted⟩ | ⟨initial, untouched⟩
    · obtain ⟨record, last, promotes⟩ := Option.map_eq_some_iff.1 promoted
      exact Or.inr ⟨record, last, idle_of_vouches (verdict_eq_promote_iff.1 promotes).1⟩
    · exact Or.inl ⟨Option.map_eq_none_iff.1 untouched, initial⟩

/-- A healthy printer takes the place of the last of two that the file lists, and the other one
stays behind it without an evaluation. -/
theorem healthy_printer_takes_last_place :
    let healthy : Capabilities := ⟨true, "Office", "1", none, none, .idle, [], [], false, false⟩
    let office := Printer.report (some "urn:uuid:1") "Office" "ipp://h" none
    let turn : Turn := ⟨⟨0, fun _ => some healthy⟩, .found office⟩
    let loaded := KnownGood.load (.text "[\"a\",\"b\"]") 2
    let next := ((fresh 10 loaded).handleAll [turn]).1
    1 ≤ 2 ∧ (fresh 10 loaded).evaluated? turn.command = some office.id ∧
      loaded.ids = [⟨"a"⟩, ⟨"b"⟩] ∧ next.knownGood.ids.head? = some office.id ∧
        next.knownGood.ids.filter (· ≠ office.id) = loaded.ids.dropLast ∧
          ⟨"a"⟩ ∈ next.knownGood.ids ∧
            (fresh 10 loaded).lastEvaluated? [turn] ⟨"a"⟩ = none ∧ ⟨"a"⟩ ∈ loaded.ids := by
  intro healthy office turn loaded next
  have evaluates : (fresh 10 loaded).evaluated? turn.command = some office.id := rfl
  have initially : loaded.ids = [⟨"a"⟩, ⟨"b"⟩] := by decide +kernel
  have promoted : office.id ∈ next.knownGood.ids := by decide +kernel
  have stays : ⟨"a"⟩ ∈ next.knownGood.ids := by decide +kernel
  have unevaluated : (fresh 10 loaded).lastEvaluated? [turn] ⟨"a"⟩ = none := by decide +kernel
  obtain ⟨record, _, _, front, others⟩ := (listed_exactly_when_vouched_for 10 2
    (.text "[\"a\",\"b\"]") []).1 (by decide) turn office.id evaluates
  have full : office.id ∈ next.knownGood.ids ∧ office.id ∉ loaded.ids ∧ loaded.ids.length = 2 :=
    ⟨promoted, by decide +kernel, by rw [initially]; rfl⟩
  refine ⟨by decide, evaluates, initially, front promoted, others.trans (if_pos full), stays, ?_⟩
  rcases (listed_exactly_when_vouched_for 10 2 (.text "[\"a\",\"b\"]") [turn]).2 ⟨"a"⟩ stays with
    untouched | ⟨record, last, _⟩
  · exact untouched
  · exact absurd (last.symm.trans unevaluated) (Option.some_ne_none record)

end PrinterRoster.Session
