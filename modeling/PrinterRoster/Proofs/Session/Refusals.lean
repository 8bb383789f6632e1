import PrinterRoster.Proofs.Session.Pursuit

/-! Whoever is there without capabilities, and is not being queried, has refused to answer since it was
sighted. The refusal may come from a path that the printer has left since, or from a query that the
sighting has found under way. -/
namespace PrinterRoster.Session
namespace Pursuit

theorem Counted.move {pursuit : Pursuit} (counted : Counted pursuit) (move : Move) :
    Counted (pursuit.move move) := by
  cases move with
  | told moment command =>
    dsimp only [Pursuit.move]
    split
    · exact counted
    · exact counted.handled moment command
  | heard moment question answer =>
    dsimp only [Pursuit.move]
    split
    · rename_i heard
      exact (counted.closed answer heard.1).handled moment (.answered question.id answer)
    · exact counted

theorem Sound.move {pursuit : Pursuit} {strayed : Question → Prop} {id : PrinterId}
    (counted : Counted pursuit) (sound : Sound pursuit strayed id) (move : Move) :
    Sound (pursuit.move move)
      (fun question => strayed question ∨ Elsewhere question pursuit move) id := by
  cases move with
  | told moment command =>
    dsimp only [Pursuit.move]
    split
    · exact sound.mono fun _ => Or.inl
    · rename_i goesOn
      obtain ⟨tells, lives⟩ : command.isAnswer = false ∧ pursuit.session.destroyed = false := by
        simpa using goesOn
      refine sound.handled counted lives (fun _ => Or.inl) ?_ ?_
      · rintro printer rfl question about elsewhere past there excused
        exact Or.inr ⟨moment, printer, rfl, about, elsewhere, past, there, excused⟩
      · rintro rfl
        cases tells
  | heard moment question answer =>
    dsimp only [Pursuit.move]
    split
    · rename_i heard
      obtain ⟨waits, lives⟩ := heard
      refine (sound.closed answer).handled (counted.closed answer waits) lives
        (fun _ => Or.inl) nofun ?_
      -- An answer frees the place of the printer whichever query it is to, so every query counts.
      rintro answers record held here
      cases answers
      exact ⟨question, List.mem_append_right _ (List.mem_singleton_self _), rfl,
        sound.asking record held here question waits rfl⟩
    · exact sound.mono fun _ => Or.inl

theorem counted_run (window : Nat) (known : KnownGood) (moves : List Move) :
    Counted (stateAfter move (start window known) moves) := by
  refine holds_stateAfter Counted ?_ fun _ counted move _ => counted.move move
  constructor
  · intro id record held
    cases held
  · exact fun _ => Nat.le_refl _
  · rintro question (asking | refused)
    · cases asking
    · cases refused

theorem sound_run (window : Nat) (known : KnownGood) (moves : List Move) (id : PrinterId) :
    Sound (stateAfter move (start window known) moves)
      (fun question => Happens move (start window known) moves (Elsewhere question)) id := by
  induction moves using List.reverseRecOn with
  | nil =>
    constructor
    · intro record held
      cases held
    · intro record silent
      cases silent.held
  | append_singleton moves last ih =>
    rw [stateAfter_snoc]
    exact (ih.move (counted_run window known moves) last).mono fun _ => happens_snoc.2

private theorem exists_question_of_asked {id : PrinterId} {effects : List Effect}
    (asks : id ∈ asked effects) (number : Nat) :
    ∃ question ∈ questions number effects, question.id = id := by
  obtain ⟨effect, member, same⟩ := List.mem_filterMap.1 asks
  cases effect with
  | query other printer bypassCache =>
    cases same
    exact ⟨⟨id, printer.path, number⟩, List.mem_filterMap.2 ⟨_, member, rfl⟩, rfl⟩
  | _ => cases same

private theorem occupied_handled {pursuit : Pursuit} (counted : Counted pursuit)
    (lives : pursuit.session.destroyed = false) (moment : Moment) (command : Command)
    (id : PrinterId)
    (before : (∀ answer, command ≠ .answered id answer) → pursuit.session.slot? id = some true →
      ∃ question ∈ pursuit.unanswered, question.id = id)
    (taken : (pursuit.handled moment command).session.slot? id = some true) :
    ∃ question ∈ (pursuit.handled moment command).unanswered, question.id = id := by
  have begun (asks : id ∈ asked (pursuit.session.handle moment command).2) :
      ∃ question ∈ (pursuit.handled moment command).unanswered, question.id = id := by
    obtain ⟨question, member, about⟩ := exists_question_of_asked asks (pursuit.count + 1)
    exact ⟨question, List.mem_append_right _ member, about⟩
  by_cases answers : ∃ answer, command = .answered id answer
  · obtain ⟨answer, rfl⟩ := answers
    have free : (pursuit.handled moment (.answered id answer)).session.slot? id =
        (pursuit.session.slot? id).map fun _ => false := by
      dsimp only [handled, handle]
      rw [lives, if_neg Bool.false_ne_true, slot?_answered pursuit.session id id answer counted.owned,
        if_pos rfl]
    rw [free, Option.map_eq_some_iff] at taken
    obtain ⟨_, _, different⟩ := taken
    cases different
  · cases slotChange_handle counted.owned moment command id with
    | kept same _ =>
      obtain ⟨question, waits, about⟩ := before (not_exists.1 answers) (same ▸ taken)
      exact ⟨question, List.mem_append_left _ waits, about⟩
    | claimed _ _ once => exact begun (once ▸ List.mem_singleton_self id)
    | entered _ _ _ asks listed once =>
      cases listed.symm.trans taken
      exact begun (once ▸ List.mem_singleton_self id)
    | freed answered _ _ => exact absurd answered answers
    | left gone _ => cases gone.symm.trans taken

theorem Occupied.move {pursuit : Pursuit} (counted : Counted pursuit) (occupied : Occupied pursuit)
    (move : Move) : Occupied (pursuit.move move) := by
  intro id
  cases move with
  | told moment command =>
    dsimp only [Pursuit.move]
    split
    · exact occupied id
    · rename_i goesOn
      obtain ⟨_, lives⟩ : command.isAnswer = false ∧ pursuit.session.destroyed = false := by
        simpa using goesOn
      exact occupied_handled counted lives moment command id fun _ => occupied id
  | heard moment question answer =>
    dsimp only [Pursuit.move]
    split
    · rename_i heard
      obtain ⟨waits, lives⟩ := heard
      refine occupied_handled (counted.closed answer waits) lives moment _ id ?_
      intro unanswered taken
      obtain ⟨other, asking, about⟩ := occupied id taken
      have different : other ≠ question := by
        rintro rfl
        exact unanswered answer (by rw [about])
      exact ⟨other, (List.mem_erase_of_ne different).2 asking, about⟩
    · exact occupied id

theorem occupied_run (window : Nat) (known : KnownGood) (moves : List Move) :
    Occupied (stateAfter move (start window known) moves) := by
  induction moves using List.reverseRecOn with
  | nil =>
    intro id taken
    cases taken
  | append_singleton moves last ih =>
    rw [stateAfter_snoc]
    exact ih.move (counted_run window known moves) last

/-- A sighting that begins while no query of the printer is under way leads to one. -/
theorem Occupied.asks_of_sighted {pursuit : Pursuit} (counted : Counted pursuit)
    (occupied : Occupied pursuit) (lives : pursuit.session.destroyed = false) (moment : Moment)
    {printer : Printer} (absent : pursuit.session.isThere printer.id = false)
    (unasked : ∀ question ∈ pursuit.unanswered, question.id ≠ printer.id)
    (unknown : ∀ record ∈ (pursuit.move (.told moment (.found printer))).session.records.get?
      printer.id, record.capabilities = none) :
    ⟨printer.id, printer.path, (pursuit.move (.told moment (.found printer))).since printer.id⟩ ∈
      (pursuit.move (.told moment (.found printer))).unanswered := by
  have moves : pursuit.move (.told moment (.found printer)) =
      pursuit.handled moment (.found printer) := by
    rw [Pursuit.move, lives]
    rfl
  have finds : pursuit.session.handle moment (.found printer) =
      pursuit.session.found moment printer := by
    rw [handle, lives, if_neg Bool.false_ne_true]
  have holds : (pursuit.handled moment (.found printer)).session.records.get? printer.id =
      some (settled pursuit.session.knownGood (pursuit.session.sighted moment printer)
        (pursuit.session.wantsAnswer moment printer)) := by
    dsimp only [handled]
    rw [finds, get?_found_settled counted.owned]
  rw [moves] at unknown ⊢
  have since : (pursuit.handled moment (.found printer)).since printer.id = pursuit.count + 1 := by
    refine if_pos ?_
    rw [begins, absent]
    exact (isThere_of_get? holds).trans (isFound_settled ..)
  have wants : pursuit.session.wantsAnswer moment printer = true := by
    have bare := unknown _ holds
    rw [capabilities_settled] at bare
    rw [isThere] at absent
    rw [wantsAnswer, bare, absent, Bool.not_false, Bool.or_true]
    rfl
  have free : (pursuit.session.slot? printer.id).getD false = false := by
    rw [Bool.eq_false_iff]
    intro taken
    rcases Option.getD_eq_iff.1 taken with held | ⟨_, untaken⟩
    · obtain ⟨question, waits, about⟩ := occupied printer.id held
      exact unasked question waits about
    · cases untaken
  refine mem_unanswered_handled.2 (Or.inr ⟨since, ?_⟩)
  rw [finds, inquired_found counted.owned, wants, free]
  simp

/-- A printer that is there, of which nothing is known and which is not being queried has refused to
answer a query that its sighting has found under way, or one begun since, of the path where it is or of
one where it was before it was sighted elsewhere. Each sighting of a printer of which nothing is known
leads to a query of the place, unless one of the printer is under way. -/
theorem silent_printer_has_refused (window : Nat) (known : KnownGood) (moves : List Move) :
    let pursuit := stateAfter move (start window known) moves
    (∀ id record, Silent pursuit.session id record →
      ∃ question ∈ pursuit.refused, question.id = id ∧
        (question ∈ pursuit.inherited id ∨ pursuit.since id ≤ question.begun ∧
          (question.path = record.printer.path ∨
            Happens move (start window known) moves (Elsewhere question)))) ∧
    ∀ moment printer, pursuit.session.destroyed = false →
      pursuit.session.isThere printer.id = false →
        (∀ question ∈ pursuit.unanswered, question.id ≠ printer.id) →
          let after := pursuit.move (.told moment (.found printer))
          (∀ record ∈ after.session.records.get? printer.id, record.capabilities = none) →
            ⟨printer.id, printer.path, after.since printer.id⟩ ∈ after.unanswered := by
  intro pursuit
  constructor
  · intro id record silent
    obtain ⟨question, refused, rfl, concerns⟩ := (sound_run window known moves id).asked record silent
    exact ⟨question, refused, rfl, concerns⟩
  · intro moment printer lives absent unasked
    exact (occupied_run window known moves).asks_of_sighted (counted_run window known moves) lives
      moment absent unasked

/-- A printer has refused to answer, and another one is sighted. -/
theorem silent_printer_has_refused_once :
    let office := Printer.report (some "urn:uuid:1") "Office" "ipp://h" none
    let lobby := Printer.report none "Lobby" "ipp://g" none
    let moment : Moment := ⟨0, fun _ => none⟩
    let moves : List Move :=
      [.told moment (.found office), .heard moment ⟨office.id, "ipp://h", 1⟩ none]
    let pursuit := stateAfter move (start 3000 (.empty 50)) moves
    let after := pursuit.move (.told moment (.found lobby))
    (∃ record, Silent pursuit.session office.id record) ∧
      (∃ question ∈ pursuit.refused, question.id = office.id ∧
        pursuit.since office.id ≤ question.begun) ∧
      ⟨lobby.id, lobby.path, after.since lobby.id⟩ ∈ after.unanswered := by
  intro office lobby moment moves pursuit after
  obtain ⟨refuses, asks⟩ := silent_printer_has_refused 3000 (.empty 50) moves
  have bare : ∃ record ∈ pursuit.session.records.get? office.id,
      record.isFound = true ∧ record.capabilities = none ∧ record.refreshing = false := by
    decide +kernel
  obtain ⟨record, held, there, unknown, idle⟩ := bare
  have silent : Silent pursuit.session office.id record := ⟨held, there, unknown, idle⟩
  have alone : pursuit.inherited office.id = [] := by decide +kernel
  obtain ⟨question, refused, about, inherits | ⟨recent, _⟩⟩ := refuses office.id record silent
  · cases alone ▸ inherits
  · refine ⟨⟨record, silent⟩, ⟨question, refused, about, recent⟩, ?_⟩
    exact asks moment lobby (by decide +kernel) (by decide +kernel) (by decide +kernel)
      (by decide +kernel)

/-- A printer that has refused to answer is sighted at another path, where it is not asked. A printer
that is lost and sighted again while it is asked is not asked anew. -/
theorem sighting_need_not_be_queried :
    let office := Printer.report (some "urn:uuid:1") "Office" "ipp://h" none
    let secure := Printer.report (some "urn:uuid:1") "Office" "ipps://h" none
    let moment : Moment := ⟨0, fun _ => none⟩
    let refuses : Move := .heard moment ⟨office.id, "ipp://h", 1⟩ none
    let moved := stateAfter move (start 3000 (.empty 50))
      [.told moment (.found office), refuses, .told moment (.found secure)]
    let returned := stateAfter move (start 3000 (.empty 50))
      [.told moment (.found office), .told moment (.lost office), .told moment (.found office),
        refuses]
    (∃ record, Silent moved.session office.id record ∧
      ∀ question ∈ moved.refused, question.path ≠ record.printer.path) ∧
    (∃ record, Silent returned.session office.id record ∧
      ∀ question ∈ returned.refused, question.begun < returned.since office.id) := by
  intro office secure moment refuses moved returned
  have atOtherPath : ∃ record ∈ moved.session.records.get? office.id,
      (record.isFound = true ∧ record.capabilities = none ∧ record.refreshing = false) ∧
        ∀ question ∈ moved.refused, question.path ≠ record.printer.path := by
    decide +kernel
  have askedBefore : ∃ record ∈ returned.session.records.get? office.id,
      (record.isFound = true ∧ record.capabilities = none ∧ record.refreshing = false) ∧
        ∀ question ∈ returned.refused, question.begun < returned.since office.id := by
    decide +kernel
  obtain ⟨here, held, ⟨there, unknown, idle⟩, elsewhere⟩ := atOtherPath
  obtain ⟨again, stands, ⟨found, bare, free⟩, before⟩ := askedBefore
  exact ⟨⟨here, ⟨held, there, unknown, idle⟩, elsewhere⟩,
    ⟨again, ⟨stands, found, bare, free⟩, before⟩⟩

end Pursuit

end PrinterRoster.Session
