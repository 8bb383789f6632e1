import PrinterRoster.Proofs.Session.Vouched

/-! Repeated reports. A source may report a sighting twice, and the record is evaluated each
time. The second evaluation finds what the first one made of the record and of the
known-good list. So it changes nothing, unless the printer was shown for its place in that
list alone, which it loses by being shown. -/
namespace PrinterRoster.Session

def shownAfter (outcome : Outcome) : View := View.hearAll Table.empty (published outcome.2)

/-- Two outcomes are the same for the roster, for a subscriber and for the known-good list. -/
structure Alike (first second : Outcome) : Prop where
  records : ∀ id, first.1.records.get? id = second.1.records.get? id
  shown : ∀ id, (shownAfter first).get? id = (shownAfter second).get? id
  knownGood : first.1.knownGood = second.1.knownGood

theorem Alike.refl (outcome : Outcome) : Alike outcome outcome := ⟨fun _ => rfl, fun _ => rfl, rfl⟩

/-- The sighted printer is on the roster for the first time and there is no answer of it, so
that it is shown only if it is known good, which it is. -/
def ShownOnTrust (session : Session) (moment : Moment) : Sighting → Prop
  | .found printer =>
    session.destroyed = false ∧ session.records.get? printer.id = none ∧
      moment.cached printer = none ∧ session.knownGood.contains printer.id = true
  | .lost _ => False

section Again
variable (known : KnownGood) (record : Record) (asked : Bool)

private theorem vouched_settled : vouched (vouched known record) (settled known record asked) =
    vouched known record := by
  simp only [vouched, vouches_settled, id_settled]
  split
  · exact KnownGood.promote_promote ..
  · exact KnownGood.remove_remove ..

variable {known record}

private theorem shown?_of_unanswered (unanswered : record.capabilities = none) :
    shown? known record = if known.contains record.id then record.info? else none := by
  simp only [shown?, unanswered, Option.isNone_none, Bool.true_and]
  cases known.contains record.id <;> rfl

/-- Without an answer, no printer is shown when it is evaluated again. -/
theorem shown?_settled_of_unanswered (unanswered : record.capabilities = none) :
    shown? (vouched known record) (settled known record asked) = none := by
  have told : (settled known record asked).capabilities = none := by simpa using unanswered
  rw [shown?_of_unanswered told, id_settled,
    contains_vouched_self (not_vouches_of_unanswered unanswered)]
  rfl

private theorem shown?_settled
    (vetted : record.capabilities = none → known.contains record.id = false) :
    shown? (vouched known record) (settled known record asked) = shown? known record := by
  cases told : record.capabilities with
  | none =>
    rw [shown?_settled_of_unanswered asked told, shown?_of_unanswered told, vetted told]
    rfl
  | some answer => simp [shown?, told]

private theorem settled_settled
    (vetted : record.capabilities = none → known.contains record.id = false)
    {askedAgain : Bool} (less : askedAgain = true → asked = true) :
    settled (vouched known record) (settled known record asked) askedAgain =
      settled known record asked := by
  have shows := shown?_settled asked vetted
  cases asked with
  | true => cases askedAgain <;> simp_all [settled, reviewed, Record.beginRefresh]
  | false => cases askedAgain <;> simp_all [settled, reviewed]

end Again

section Evaluations
variable {session : Session} {record : Record} {asked askedAgain : Bool} {first second : Outcome}
  (once : Evaluation session record asked first)
  (twice : Evaluation first.1 (settled session.knownGood record asked) askedAgain second)
include once twice

/-- What was evaluated is the same after another evaluation. -/
theorem Evaluation.again (less : askedAgain = true → asked = true)
    (vetted : record.capabilities = none → session.knownGood.contains record.id = false)
    {earlier : List Effect}
    (visible : ((View.hearAll Table.empty (published earlier)).get? record.id).isSome =
      record.published) :
    Alike (second.1, earlier ++ first.2 ++ second.2) (first.1, earlier ++ first.2) := by
  have shownOnce := get?_hear_announced _ session.knownGood record record.id record.id rfl visible
  rw [if_pos rfl] at shownOnce
  refine ⟨fun other => ?_, fun other => ?_, ?_⟩
  · rw [twice.records, once.knownGood, settled_settled asked vetted less, once.records, id_settled]
    split <;> rfl
  · simp only [shownAfter, published_append, hearAll_append, once.told, twice.told]
    rw [get?_hear_announced _ first.1.knownGood _ record.id other (id_settled ..), once.knownGood,
      shown?_settled asked vetted]
    · split
      · rename_i same
        rw [same, shownOnce]
      · rfl
    · rw [shownOnce, published_settled]
  · dsimp only
    rw [twice.knownGood, once.knownGood, vouched_settled]

/-- A printer that is shown without an answer is not shown after another evaluation. -/
theorem Evaluation.not_again (unanswered : record.capabilities = none)
    (trusted : session.knownGood.contains record.id = true) :
    second.1.records.get? record.id ≠ first.1.records.get? record.id := by
  intro same
  rw [twice.records, id_settled, if_pos rfl, once.records, if_pos rfl, once.knownGood] at same
  have publishes := congrArg Record.published (Option.some.inj same)
  rw [published_settled, shown?_settled_of_unanswered asked unanswered, published_settled,
    shown?_of_unanswered unanswered, trusted] at publishes
  simp [Record.info?, Record.isUnsupported, unanswered] at publishes

end Evaluations

section Sightings
variable {session : Session} (owned : session.Owned) (moment : Moment) (printer : Printer)
include owned

private theorem get?_found_self :
    (session.found moment printer).1.records.get? printer.id =
      some (settled session.knownGood (session.sighted moment printer)
        (session.wantsAnswer moment printer)) := by
  rw [get?_found session moment printer printer.id owned, if_pos rfl]
  rfl

/-- A sighting of a printer that was just sighted finds the record as it was left. -/
theorem sighted_found :
    (session.found moment printer).1.sighted moment printer =
      settled session.knownGood (session.sighted moment printer)
        (session.wantsAnswer moment printer) := by
  have cached : (session.sighted moment printer).capabilities.or (moment.cached printer) =
      (session.sighted moment printer).capabilities := by
    rw [sighted]
    simp [Option.or_assoc]
  rw [sighted, get?_found_self owned]
  cases session.wantsAnswer moment printer <;>
    simpa [settled, reviewed, Record.beginRefresh, Record.found, sighted] using cached

private theorem wantsAnswer_found
    (wants : (session.found moment printer).1.wantsAnswer moment printer = true) :
    session.wantsAnswer moment printer = true := by
  have isFound : (settled session.knownGood (session.sighted moment printer)
      (session.wantsAnswer moment printer)).isFound = true := by
    cases session.wantsAnswer moment printer <;> rfl
  have priority : (session.found moment printer).1.isPriority printer.id =
      session.isPriority printer.id := by
    obtain ⟨_, _, same⟩ := rosterChange_found session moment printer
    rw [same]
    rfl
  rw [wantsAnswer, sighted_found owned, get?_found_self owned, priority] at wants
  simp only [capabilities_settled, Option.any_some, isFound, Bool.not_true, Bool.or_false,
    Bool.and_eq_true] at wants
  simp [wantsAnswer, wants]

variable (vetted : session.Vetted) (lives : session.destroyed = false) {earlier : List Effect}
  (visible : ∀ id, ((View.hearAll Table.empty (published earlier)).get? id).isSome =
    (session.records.get? id).any (·.published))
include vetted lives visible

private theorem alike_lost_again :
    let once := session.lost moment.now printer
    let twice := once.1.lost moment.now printer
    Alike (twice.1, earlier ++ once.2 ++ twice.2) (once.1, earlier ++ once.2) := by
  intro once twice
  have ownedOnce : once.1.Owned := by
    simpa [handle, lives] using owned_handle owned moment (.lost printer)
  cases held : session.records.get? printer.id with
  | none =>
    have silent : published once.2 = [] := by
      rw [published_lost session moment.now printer owned, held]
      rfl
    have same : once.1 = session := by simp only [once, lost, held]
    have again : twice = once := by simp only [twice, same, once]
    refine ⟨fun _ => ?_, fun _ => ?_, ?_⟩
    · rw [again]
    · simp [shownAfter, again, silent]
    · rw [again]
  | some record =>
    have first : Evaluation session record.notFound false once := evaluation_lost owned held moment.now
    have named : record.notFound.id = printer.id := (owned _ _ held).1
    have left : once.1.records.get? printer.id =
        some (settled session.knownGood record.notFound false) := by
      rw [first.records, named, if_pos rfl]
    have second : Evaluation once.1 (settled session.knownGood record.notFound false) false twice :=
      evaluation_lost ownedOnce left moment.now
    refine first.again second id (fun unanswered => ?_) ?_
    · rw [named]
      exact vetted printer.id record held unanswered
    · rw [named, visible, held]
      rfl

theorem alike_found_again_iff :
    let once := session.found moment printer
    let twice := once.1.found moment printer
    Alike (twice.1, earlier ++ once.2 ++ twice.2) (once.1, earlier ++ once.2) ↔
      ¬ ShownOnTrust session moment (.found printer) := by
  intro once twice
  have ownedOnce : once.1.Owned := by
    simpa [handle, lives] using owned_handle owned moment (.found printer)
  have named := id_sighted moment printer owned
  have first : Evaluation session (session.sighted moment printer)
      (session.wantsAnswer moment printer) once := evaluation_found owned moment printer
  have second : Evaluation once.1 (settled session.knownGood (session.sighted moment printer)
      (session.wantsAnswer moment printer)) (once.1.wantsAnswer moment printer) twice := by
    rw [← sighted_found owned]
    exact evaluation_found ownedOnce moment printer
  constructor
  · rintro alike ⟨_, absent, uncached, trusted⟩
    have unanswered : (session.sighted moment printer).capabilities = none := by
      simp [sighted, absent, uncached, Record.found, Record.ofPrinter]
    exact first.not_again second unanswered (named ▸ trusted) (alike.records _)
  · intro untrusted
    refine first.again second (wantsAnswer_found owned moment printer) (fun unanswered => ?_) ?_
    · rw [named]
      cases held : session.records.get? printer.id with
      | none =>
        have uncached : moment.cached printer = none := by
          simpa [sighted, held, Record.found, Record.ofPrinter] using unanswered
        by_contra listed
        exact untrusted ⟨lives, held, uncached, Bool.of_not_eq_false listed⟩
      | some record =>
        refine vetted printer.id record held ?_
        simp only [sighted, held, Option.getD_some, Record.found, Option.or_eq_none_iff] at unanswered
        exact unanswered.1
    · rw [named, visible, published_sighted]

end Sightings

private theorem handle_eq_of_destroyed {session : Session} (ended : session.destroyed = true)
    (moment : Moment) (sighting : Sighting) :
    session.handle moment (.ofSighting sighting) = (session, []) := by
  cases sighting <;> simp [Command.ofSighting, handle, ended]

/-- Who was never destroyed was not told to be. -/
theorem goOn_of_lives (window : Nat) (known : KnownGood) (turns : List Turn)
    (lives : ((fresh window known).handleAll turns).1.destroyed = false) :
    ∀ turn ∈ turns, turn.command ≠ .destroy := by
  induction turns using List.reverseRecOn with
  | nil => exact nofun
  | append_singleton earlier turn ih =>
    rw [handleAll_snoc] at lives
    have goesOn : turn.command ≠ .destroy := by
      intro destroys
      simp only [andThen, destroys, handle, teardown] at lives
      split at lives <;> simp_all
    have before := (handle_keeps _ turn.moment goesOn).2.symm.trans lives
    intro other member
    rcases List.mem_append.1 member with earliest | last
    · exact ih before other earliest
    · rw [List.mem_singleton.1 last]
      exact goesOn

/-- In every session, a sighting that is reported twice at one moment leaves the roster, what
a subscriber shows and the known-good list as it does when it is reported once, exactly if
the printer is not shown on trust. -/
theorem repeated_sighting_alike_iff (window : Nat) (known : KnownGood) (turns : List Turn)
    (moment : Moment) (sighting : Sighting) :
    let session := ((fresh window known).handleAll turns).1
    let turn : Turn := ⟨moment, .ofSighting sighting⟩
    Alike ((fresh window known).handleAll (turns ++ [turn] ++ [turn]))
        ((fresh window known).handleAll (turns ++ [turn])) ↔
      ¬ ShownOnTrust session moment sighting := by
  intro session turn
  obtain ⟨owned, vetted⟩ := vetted_handleAll window known turns
  rw [handleAll_snoc, handleAll_snoc]
  simp only [andThen]
  -- A destroyed session ignores sightings, and what is shown of any other agrees with its roster.
  cases ended : session.destroyed with
  | true =>
    have idle : ((fresh window known).handleAll turns).1.handle turn.moment turn.command =
        (session, []) := handle_eq_of_destroyed ended moment sighting
    have idleAgain : session.handle turn.moment turn.command = (session, []) := idle
    have untrusted : ¬ ShownOnTrust session moment sighting := by
      cases sighting <;> simp [ShownOnTrust, ended]
    refine iff_of_true ?_ untrusted
    rw [idle, idleAgain, List.append_nil]
    exact .refl _
  | false =>
    have goOn := goOn_of_lives window known turns ended
    obtain ⟨_, agreement⟩ := agreement_handleAll window known turns goOn
    have visible := fun id => (agreement id).visible
    have goesOn : turn.command ≠ .destroy := by cases sighting <;> simp [turn, Command.ofSighting]
    have livesOnce := (handle_keeps session moment goesOn).2.trans ended
    cases sighting with
    | found printer =>
      have handled : ∀ other : Session, other.destroyed = false →
          other.handle moment turn.command = other.found moment printer := by
        intro other lives
        simp [turn, Command.ofSighting, handle, lives]
      rw [handled _ livesOnce, handled _ ended]
      exact alike_found_again_iff owned moment printer vetted ended visible
    | lost printer =>
      have handled : ∀ other : Session, other.destroyed = false →
          other.handle moment turn.command = other.lost moment.now printer := by
        intro other lives
        simp [turn, Command.ofSighting, handle, lives]
      rw [handled _ livesOnce, handled _ ended]
      exact iff_of_true (alike_lost_again owned moment printer vetted ended visible) id

/-- A known-good printer that has not answered yet is shown when it is reported once, and
not shown when it is reported twice. -/
theorem trusted_printer_hidden_by_repeat :
    let office := Printer.report (some "urn:uuid:1") "Office" "ipp://h" none
    let turn : Turn := ⟨⟨0, fun _ => none⟩, .ofSighting (.found office)⟩
    let session := fresh 3000 ⟨[office.id], 50⟩
    ((shownAfter (session.handleAll [turn])).get? office.id).isSome = true ∧
      (shownAfter (session.handleAll [turn, turn])).get? office.id = none := by
  decide +kernel

end PrinterRoster.Session
