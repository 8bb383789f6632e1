import PrinterRoster.Proofs.Manual.Follower

/-! Saved printers and visible ones. An added printer takes the place of those that are saved under
its id or at its path, but of those that are visible only the one at its path. So a printer that is
added again at another path stays visible at the old one, where it is not saved any more and cannot be
removed. As long as that does not happen, and no open query is answered, whatever is visible is
saved. -/
namespace PrinterRoster.Follower

/-- Every visible printer is one of those saved. -/
def AllSaved (follower : Follower) : Prop :=
  ∀ path, ∀ printer ∈ follower.visibleAt? path,
    ∃ entry ∈ follower.source.saved, entry.printer = printer

/-- A move adds a printer under the id of one that is visible at another path. -/
def Displaces (follower : Follower) (move : Move) : Prop :=
  ∃ printer, move.Adds printer ∧ ∃ path, ∃ other ∈ follower.visibleAt? path,
    other.id = printer.id ∧ path ≠ printer.path

/-- Of the saved printers only the first with an id is removed. -/
theorem mem_remove_of_path {saved : List SavedPrinter} {id : PrinterId} {entry : SavedPrinter}
    (member : entry ∈ saved) (elsewhere : ∀ removed ∈ SavedPrinter.find? saved id,
      removed.printer.path ≠ entry.printer.path) : entry ∈ SavedPrinter.remove saved id := by
  cases listed : SavedPrinter.find? saved id with
  | none =>
    rw [SavedPrinter.remove, List.eraseP_of_forall_not]
    · exact member
    · simpa [SavedPrinter.find?] using listed
  | some removed =>
    obtain ⟨named, earlier, later, rfl, others⟩ := List.find?_eq_some_iff_append.1 listed
    have left : SavedPrinter.remove (earlier ++ removed :: later) id = earlier ++ later := by
      rw [SavedPrinter.remove, List.eraseP_append_right, List.eraseP_cons_of_pos (by simpa using named)]
      simpa using others
    have different : entry ≠ removed := by
      rintro rfl
      exact elsewhere entry listed rfl
    rw [left]
    simpa [different] using member

/-- A saved printer stays saved, unless one is added under its id or at its path, or the printer at
its path is removed. -/
theorem saved_cases {follower : Follower} (move : Move) {entry : SavedPrinter}
    (saved : entry ∈ follower.source.saved) :
    entry ∈ (follower.move move).1.source.saved ∨
      (∃ printer, move.Adds printer ∧
        (entry.printer.id = printer.id ∨ entry.printer.path = printer.path)) ∨
      follower.report? move = some (.lost entry.printer.path) := by
  cases move with
  | add probed now =>
    rcases follower.saved_add probed now with same | ⟨printer, adds, same⟩
    · exact Or.inl (same.symm ▸ saved)
    · by_cases shares : entry.printer.id = printer.id ∨ entry.printer.path = printer.path
      · exact Or.inr (Or.inl ⟨printer, adds, shares⟩)
      · rw [same]
        refine Or.inl (List.mem_append_left _ (List.mem_filter.2 ⟨saved, ?_⟩))
        simpa [not_or] using shares
  | remove id =>
    by_cases elsewhere : ∀ removed ∈ SavedPrinter.find? follower.source.saved id,
        removed.printer.path ≠ entry.printer.path
    · left
      rw [Follower.move, after, ManualSource.saved_remove]
      exact mem_remove_of_path saved elsewhere
    · simp only [not_forall, not_not] at elsewhere
      obtain ⟨removed, listed, same⟩ := elsewhere
      rw [report?, Option.mem_def.1 listed, Option.map_some, same]
      exact Or.inr (Or.inr rfl)
  | start listener => exact Or.inl saved
  | stop listener => exact Or.inl ((ManualSource.saved_stop ..).1.symm ▸ saved)
  | look => exact Or.inl ((ManualSource.saved_look ..).1.symm ▸ saved)
  | queryEnded number answered => exact Or.inl ((ManualSource.saved_queryEnded ..).1.symm ▸ saved)
  | send online => exact Or.inl saved
  | close => exact Or.inl saved

section Step
variable {follower : Follower} {move : Move}

/-- A printer that is added under the id of one visible at another path leaves it there unsaved. -/
theorem Displaces.not_allSaved (sound : follower.source.hub.Sound)
    (displaces : follower.Displaces move) : ¬ (follower.move move).1.AllSaved := by
  obtain ⟨printer, ⟨now, rfl⟩, path, other, visible, sameId, elsewhere⟩ := displaces
  intro allSaved
  have placed : other.path = path := sound.placed path other visible
  have stays : (follower.move (.add (.ok (.found printer true)) now)).1.visibleAt? path =
      some other := by
    rw [visibleAt?_move, reportAt?, report?, Option.bind_some, Hub.Report.at?,
      if_neg (Ne.symm elsewhere)]
    exact visible
  obtain ⟨entry, saved, rfl⟩ := allSaved path other stays
  rcases List.mem_append.1 saved with old | new
  · simpa [sameId] using (List.mem_filter.1 old).2
  · rw [List.mem_singleton.1 new] at placed
    exact elsewhere placed.symm

theorem AllSaved.kept (allSaved : follower.AllSaved) (sound : follower.source.hub.Sound)
    (unanswered : ∀ printer, ¬ follower.Answers move printer)
    (keeps : ¬ follower.Displaces move) : (follower.move move).1.AllSaved := by
  intro path printer visible
  rw [Option.mem_def, visibleAt?_move] at visible
  cases reported : follower.reportAt? move path with
  | some shown =>
    rw [reported, Option.getD_some] at visible
    have found := (found_of_reportAt? (visible ▸ reported)).1
    obtain ⟨now, rfl⟩ := found.resolve_right (unanswered printer)
    exact ⟨⟨printer, now⟩, List.mem_append_right _ (List.mem_singleton_self _), rfl⟩
  | none =>
    rw [reported, Option.getD_none] at visible
    have placed : printer.path = path := sound.placed path printer visible
    obtain ⟨entry, saved, rfl⟩ := allSaved path printer visible
    rcases saved_cases move saved with stays | ⟨newcomer, ⟨now, rfl⟩, shares⟩ | gone
    · exact ⟨entry, stays, rfl⟩
    · have elsewhere : newcomer.path ≠ path := by
        simpa [reportAt?, report?, Hub.Report.at?] using reported
      rcases shares with sameId | samePath
      · exact absurd ⟨newcomer, ⟨now, rfl⟩, path, entry.printer, visible, sameId, elsewhere.symm⟩ keeps
      · exact absurd (samePath.symm.trans placed) elsewhere
    · rw [reportAt?, gone, Option.bind_some, Hub.Report.at?, if_pos placed] at reported
      cases reported

end Step

/-- From a moment when nothing is visible, and while no open query is answered: all that is visible is
saved at every moment, exactly if no printer is added under the id of one that is visible at another
path. -/
theorem visible_saved_iff (file : StoredFile) (signal : Option Signal) (before moves : List Move)
    (nothing : ∀ path, (stateAfter next (begin file signal) before).visibleAt? path = none)
    (unanswered : ∀ number, .queryEnded number true ∉ moves) :
    let state := stateAfter next (begin file signal) before
    Throughout next state moves AllSaved ↔ ¬ Happens next state moves Displaces := by
  intro state
  have sound : ∀ earlier, (stateAfter next state earlier).source.hub.Sound :=
    hubSound_run (hubSound_run (hubSound_begin file signal) before)
  induction moves using List.reverseRecOn with
  | nil =>
    refine iff_of_true (throughout_nil.2 fun path printer visible => ?_) (not_happens_nil)
    cases (nothing path).symm.trans visible
  | append_singleton earlier move ih =>
    have unansweredBefore : ∀ number, .queryEnded number true ∉ earlier :=
      fun number made => unanswered number (List.mem_append_left _ made)
    have unansweredLast : ∀ printer, ¬ (stateAfter next state earlier).Answers move printer := by
      rintro printer ⟨number, rfl, _⟩
      exact unanswered number (by simp)
    have before : Throughout next state earlier AllSaved ↔ ¬ Happens next state earlier Displaces :=
      ih unansweredBefore
    rw [throughout_snoc, happens_snoc, not_or]
    constructor
    · rintro ⟨always, last⟩
      exact ⟨before.1 always, fun displaces => displaces.not_allSaved (sound earlier) last⟩
    · rintro ⟨kept, keeps⟩
      have always := before.2 kept
      exact ⟨always, always.last.kept (sound earlier) unansweredLast keeps⟩

/-- Printers with different ids are added, by a source that kept one of them from before, and one is
removed. -/
theorem visible_saved_iff_while_ids_differ :
    let office := Printer.report none "Office" "ipp://h" none
    let lobby := Printer.report (some "urn:uuid:1") "Lobby" "ipp://l" none
    let add (printer : Printer) : Move := .add (.ok (.found printer true)) default
    let before := [add lobby, .start 0, .stop 0]
    let moves := [add office, add lobby, .remove office.id]
    let state := stateAfter next (begin .vacant none) before
    (∀ path, state.visibleAt? path = none) ∧ (∀ number, .queryEnded number true ∉ moves) ∧
      Throughout next state moves AllSaved ∧
        (stateAfter next state moves).visibleAt? lobby.path = some lobby := by
  intro office lobby add before moves state
  have nothing : ∀ path, state.visibleAt? path = none := fun _ => rfl
  have unanswered : ∀ number, .queryEnded number true ∉ moves := by simp [moves, add]
  have saved := visible_saved_iff .vacant none before moves nothing unanswered
  refine ⟨nothing, unanswered, saved.2 ?_, by decide +kernel⟩
  have split : moves = [] ++ [add office] ++ [add lobby] ++ [.remove office.id] := rfl
  rw [split, happens_snoc, happens_snoc, happens_snoc]
  rintro (((none | first) | second) | third)
  · exact not_happens_nil none
  · obtain ⟨printer, _, path, other, visible, _⟩ := first
    cases (nothing path).symm.trans visible
  · obtain ⟨printer, ⟨now, same⟩, path, other, visible, sameId, _⟩ := second
    cases same
    have listed : ∀ entry ∈ (stateAfter next state ([] ++ [add office])).source.hub.visible.entries,
        entry.2.id ≠ lobby.id := by
      decide +kernel
    exact listed (path, other) ((Table.get?_eq_some_iff ..).1 visible) sameId
  · obtain ⟨printer, ⟨now, same⟩, _⟩ := third
    cases same

/-- A printer is added again at another path. At the old path it stays visible: it is not saved there,
removing it hides the new one alone, and then there is nothing left to remove. -/
theorem moved_printer_stays_at_old_path :
    let old := Printer.report (some "urn:uuid:1") "Office" "ipp://a" none
    let new := Printer.report (some "urn:uuid:1") "Office" "ipp://b" none
    let add (printer : Printer) : Move := .add (.ok (.found printer true)) default
    let final := stateAfter next (begin .vacant none) [add old, add new]
    let left := (final.move (.remove old.id)).1
    final.visibleAt? old.path = some old ∧ final.source.saved.map (·.printer) = [new] ∧
      left.visibleAt? old.path = some old ∧ (left.source.remove old.id).2.2 = false := by
  decide +kernel

end PrinterRoster.Follower
