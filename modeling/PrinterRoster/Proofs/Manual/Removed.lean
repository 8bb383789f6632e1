import PrinterRoster.Proofs.Manual.Follower

/-! Printers that were removed. To remove a saved printer hides what is visible at its path. But a
refresh asks the printers that were saved when it began, and when one answers that was removed
meanwhile it is visible again, although it is not saved any more. So may one be that is visible under
the same id at another path. Where there is neither, a removed printer stays away until it is added
again. -/
namespace PrinterRoster.Follower

/-- During some moves no printer with an id is visible, and none is told of as found. -/
def Away (follower : Follower) (moves : List Move) (id : PrinterId) : Prop :=
  (Throughout next follower moves fun state =>
      ∀ path, ∀ printer ∈ state.visibleAt? path, printer.id ≠ id) ∧
    ∀ delivery ∈ follower.deliveries moves, ∀ printer, delivery.sighting = .found printer →
      printer.id ≠ id

def Unknown (follower : Follower) (id : PrinterId) : Prop :=
  (∀ saved ∈ follower.source.saved, saved.printer.id ≠ id) ∧
    ∀ query ∈ follower.source.openQueries, query.printer.id ≠ id

/-- While no printer with an id is added, none appears exactly if none is visible and none
answers. -/
theorem away_iff {follower : Follower} (sound : follower.source.hub.Sound) {moves : List Move}
    {id : PrinterId} (unadded : ∀ move ∈ moves, ∀ printer, move.Adds printer → printer.id ≠ id) :
    follower.Away moves id ↔
      (∀ path, ∀ printer ∈ follower.visibleAt? path, printer.id ≠ id) ∧
        ∀ printer, Happens next follower moves (fun state move => state.Answers move printer) →
          printer.id ≠ id := by
  constructor
  · rintro ⟨hidden, _⟩
    refine ⟨hidden.first, ?_⟩
    rintro printer ⟨earlier, move, later, rfl, answers⟩
    have part : earlier ++ [move] <+: earlier ++ move :: later := ⟨later, by simp⟩
    have unseen := hidden _ part
    rw [stateAfter_snoc] at unseen
    exact unseen _ printer (visible_of_found (report?_eq_found_iff.2 (Or.inr answers)))
  · rintro ⟨hidden, silent⟩
    have unseen : Throughout next follower moves fun state =>
        ∀ path, ∀ printer ∈ state.visibleAt? path, printer.id ≠ id := by
      rintro earlier ⟨later, rfl⟩ path printer visible
      rcases visible_cases visible with always | added | answered
      · exact hidden path printer always.first
      · obtain ⟨_, move, _, split, adds⟩ := added
        exact unadded move (by simp [split]) printer adds
      · exact silent printer (answered.append later)
    refine ⟨unseen, fun delivery told printer found => ?_⟩
    obtain ⟨earlier, move, later, rfl, now⟩ := mem_deliveries_iff.1 told
    rcases found_of_delivery (hubSound_run sound earlier) now found with ⟨path, visible⟩ | reported
    · exact unseen earlier ⟨_, rfl⟩ path printer visible
    · rcases report?_eq_found_iff.1 reported with adds | answers
      · exact unadded move (by simp) printer adds
      · exact silent printer ⟨earlier, move, later, rfl, answers⟩

theorem Unknown.move {follower : Follower} {id : PrinterId} (unknown : follower.Unknown id)
    {move : Move} (unadded : ∀ printer, move.Adds printer → printer.id ≠ id) :
    (follower.move move).1.Unknown id := by
  constructor
  · intro entry saved
    rcases mem_saved_move saved with old | new
    · exact unknown.1 entry old
    · exact unadded entry.printer new
  · intro query asked
    rcases mem_openQueries_move asked with old | ⟨_, entry, saved, same⟩
    · exact unknown.2 query old
    · rw [← same]
      exact unknown.1 entry saved

theorem Unknown.run {follower : Follower} {id : PrinterId} (unknown : follower.Unknown id)
    {moves : List Move} (unadded : ∀ move ∈ moves, ∀ printer, move.Adds printer → printer.id ≠ id) :
    (stateAfter next follower moves).Unknown id :=
  holds_stateAfter (fun follower : Follower => follower.Unknown id) unknown
    fun _ unknown move made => unknown.move (unadded move made)

/-- A printer that is neither saved nor asked does not answer before it is added. -/
theorem Unknown.silent {follower : Follower} {id : PrinterId} (unknown : follower.Unknown id)
    {moves : List Move} (unadded : ∀ move ∈ moves, ∀ printer, move.Adds printer → printer.id ≠ id)
    {printer : Printer}
    (answered : Happens next follower moves fun state move => state.Answers move printer) :
    printer.id ≠ id := by
  obtain ⟨earlier, move, later, rfl, number, _, query, asked, rfl⟩ := answered
  have still : (stateAfter next follower earlier).Unknown id :=
    unknown.run fun move made => unadded move (List.mem_append_left _ made)
  exact still.2 query (List.mem_of_find?_eq_some asked)

private theorem listed_of_removes {source : ManualSource} {id : PrinterId}
    (removes : (source.remove id).2.2 = true) :
    ∃ removed, SavedPrinter.find? source.saved id = some removed := by
  unfold ManualSource.remove at removes
  split at removes
  · cases removes
  · rename_i removed listed
    exact ⟨removed, listed⟩

/-- A printer that was removed under an id stays away until one is added under it, exactly if none was
visible under it at another path, and none answers that was asked before. None is asked if the ids of
the saved printers were distinct and no query of it was open. -/
theorem removed_stays_away_iff (file : StoredFile) (signal : Option Signal) (before : List Move)
    (id : PrinterId) (after : List Move)
    (removes : ((stateAfter next (begin file signal) before).source.remove id).2.2 = true)
    (unadded : ∀ move ∈ after, ∀ printer, move.Adds printer → printer.id ≠ id) :
    let state := stateAfter next (begin file signal) before
    let left := (state.move (.remove id)).1
    (left.Away after id ↔
      (∀ path, ∀ printer ∈ state.visibleAt? path, printer.id = id →
          ∃ removed ∈ SavedPrinter.find? state.source.saved id, removed.printer.path = path) ∧
        ∀ printer, Happens next left after (fun state move => state.Answers move printer) →
          printer.id ≠ id) ∧
      ((state.source.saved.map (·.printer.id)).Nodup →
        (∀ query ∈ state.source.openQueries, query.printer.id ≠ id) →
          ∀ printer, Happens next left after (fun state move => state.Answers move printer) →
            printer.id ≠ id) := by
  intro state left
  have sound : state.source.hub.Sound := hubSound_run (hubSound_begin file signal) before
  obtain ⟨removed, listed⟩ := listed_of_removes removes
  have shown : ∀ path, left.visibleAt? path =
      if removed.printer.path = path then none else state.visibleAt? path := by
    intro path
    have reported : state.report? (.remove id) = some (.lost removed.printer.path) := by
      rw [report?, listed, Option.map_some]
    rw [visibleAt?_move, reportAt?, reported, Option.bind_some, Hub.Report.at?]
    split <;> rfl
  refine ⟨?_, ?_⟩
  · rw [away_iff (hubSound_move sound _) unadded]
    refine and_congr_left fun _ => forall_congr' fun path => ?_
    rw [shown path, listed]
    by_cases here : removed.printer.path = path
    · simp [here]
    · simp [here]
  · intro distinct unasked printer
    have unknown : left.Unknown id := by
      refine ⟨fun entry saved => ?_, fun query asked => unasked query ?_⟩
      · have kept : left.source.saved = SavedPrinter.remove state.source.saved id :=
          ManualSource.saved_remove state.source id
        rw [kept, ManualSource.remove_eq_filter distinct] at saved
        simpa using (List.mem_filter.1 saved).2
      · rcases mem_openQueries_move asked with old | ⟨refreshes, _⟩
        · exact old
        · cases refreshes.1
    exact unknown.silent unadded

/-- Of two printers that a refresh asks, one answers and is removed, and then the other answers. -/
theorem removed_stays_away_while_another_answers :
    let office := Printer.report none "Office" "ipp://h" none
    let lobby := Printer.report (some "urn:uuid:1") "Lobby" "ipp://l" none
    let add (printer : Printer) : Move := .add (.ok (.found printer true)) default
    let before := [add office, add lobby, .start 0, .look, .queryEnded 0 true]
    let after : List Move := [.queryEnded 1 true, .start 1]
    let state := stateAfter next (begin .vacant none) before
    let left := (state.move (.remove office.id)).1
    (state.source.remove office.id).2.2 = true ∧
      (∀ move ∈ after, ∀ printer, move.Adds printer → printer.id ≠ office.id) ∧
        left.Away after office.id ∧ ⟨1, .found lobby⟩ ∈ left.deliveries after := by
  intro office lobby add before after state left
  have removes : (state.source.remove office.id).2.2 = true := by decide +kernel
  have unadded : ∀ move ∈ after, ∀ printer, move.Adds printer → printer.id ≠ office.id := by
    simp [after, Move.Adds]
  obtain ⟨away, silent⟩ := removed_stays_away_iff .vacant none before office.id after removes unadded
  refine ⟨removes, unadded, away.2 ⟨?_, ?_⟩, by decide +kernel⟩
  · intro path printer visible same
    have listed : ∀ entry ∈ state.source.hub.visible.entries, entry.2.id = office.id →
        ∃ removed ∈ SavedPrinter.find? state.source.saved office.id,
          removed.printer.path = entry.1 := by
      decide +kernel
    exact listed (path, printer) ((Table.get?_eq_some_iff ..).1 visible) same
  · exact silent (by decide +kernel) (by decide +kernel)

/-- A printer is removed while a refresh asks it, and answers then. It is visible again, and told of,
although it is not saved. -/
theorem late_answer_brings_removed_printer_back :
    let office := Printer.report none "Office" "ipp://h" none
    let state := stateAfter next (begin .vacant none)
      [.add (.ok (.found office true)) default, .start 0, .look]
    let left := (state.move (.remove office.id)).1
    let final := stateAfter next left [.queryEnded 0 true]
    (state.source.remove office.id).2.2 = true ∧
      final.visibleAt? office.path = some office ∧
        ⟨0, .found office⟩ ∈ left.deliveries [.queryEnded 0 true] ∧
          SavedPrinter.find? final.source.saved office.id = none := by
  decide +kernel

end PrinterRoster.Follower
