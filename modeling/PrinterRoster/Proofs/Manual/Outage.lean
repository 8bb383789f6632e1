import PrinterRoster.Proofs.Manual.Watching

/-! The network goes down. The watcher sees it once no query is open, and then all printers are lost.
But as long as a query is open it does not look: what was visible stays visible and is told of to
nobody as lost, although the network is down, and a printer that answers now is visible too. -/
namespace PrinterRoster

def Watcher.Unaware (signal : Signal) : Watcher → Prop
  | .absent => True
  | .due => True
  | .refreshing seen _ => ∃ version ∈ seen, version < signal.version
  | .waiting seen => seen < signal.version
  | .done => False

private theorem Watcher.Unaware.later {watcher : Watcher} {before after : Signal}
    (unaware : watcher.Unaware before) (precedes : before.Precedes after) : watcher.Unaware after := by
  cases watcher with
  | absent => trivial
  | due => trivial
  | refreshing seen isOpen =>
    obtain ⟨version, known, lt⟩ := unaware
    exact ⟨version, known, Nat.lt_of_lt_of_le lt precedes.version⟩
  | waiting seen => exact Nat.lt_of_lt_of_le unaware precedes.version
  | done => exact unaware

/-- Nobody has seen yet what a signal has just become. -/
theorem Watcher.Heeds.unaware {watcher : Watcher} {before after : Signal}
    (heeds : watcher.Heeds before) (precedes : before.Precedes after)
    (changed : after.online ≠ before.online) : watcher.Unaware after := by
  have lt : before.version < after.version :=
    Nat.lt_of_le_of_ne precedes.version (mt precedes.same changed)
  cases watcher with
  | absent => trivial
  | due => trivial
  | refreshing seen isOpen =>
    obtain ⟨_, version, known, le⟩ := heeds
    exact ⟨version, known, Nat.lt_of_le_of_lt le lt⟩
  | waiting seen => exact Nat.lt_of_le_of_lt heeds lt
  | done =>
    rw [precedes.closed heeds] at changed
    exact changed rfl

namespace Follower

/-- The network is down after some moves, and was not before the last of them, if there is one. -/
def Falls (follower : Follower) (moves : List Move) : Prop :=
  (stateAfter next follower moves).isDown = true ∧
    ∀ earlier move, moves = earlier ++ [move] → (stateAfter next follower earlier).isDown = false

/-- A move shows another printer in the place of a visible one. -/
def Replaces (follower : Follower) (move : Move) (printer : Printer) : Prop :=
  follower.visibleAt? printer.path = some printer ∧
    ∃ other, follower.reportAt? move printer.path = some (some other) ∧ other ≠ printer

/-- A move adds a printer at a path, or removes the one that is saved there. -/
def Edits (follower : Follower) (move : Move) (path : String) : Prop :=
  (∃ printer, move.Adds printer ∧ printer.path = path) ∨
    follower.report? move = some (.lost path)

def Unaware (follower : Follower) : Prop :=
  ∀ signal ∈ follower.signal, follower.source.watcher.Unaware signal

/-- A source that drops all printers has no query open then, and shows nothing. -/
theorem quiet_of_allLost {follower : Follower} {move : Move}
    (drops : follower.report? move = some .allLost) :
    (follower.move move).1.source.openQueries = [] ∧
      ∀ path, (follower.move move).1.visibleAt? path = none := by
  refine ⟨?_, fun path => by rw [visibleAt?_move, reportAt?, drops]; rfl⟩
  unfold report? at drops
  split at drops
  · cases drops
  · simp at drops
  · split at drops
    · rename_i edge
      rw [Follower.move, after, ManualSource.stop_eq, if_pos edge]
      rfl
    · cases drops
  · split at drops
    · rename_i looks
      obtain ⟨attends, down⟩ := Bool.and_eq_true_iff.1 looks
      rw [isDown] at down
      rw [Follower.move, after, ManualSource.openQueries_look, if_pos attends,
        ManualSource.openQueries_attend, if_pos down]
    · cases drops
  · simp at drops
  · cases drops

section Dark
variable {dark : Follower} {moves : List Move}

/-- While the network is down no refresh begins. -/
theorem asksNobody_move (down : dark.isDown = true) (nobody : dark.source.openQueries = [])
    (move : Move) : (dark.move move).1.source.openQueries = [] := by
  refine List.eq_nil_iff_forall_not_mem.2 fun query asked => ?_
  rcases mem_openQueries_move asked with old | ⟨refreshes, _⟩
  · rw [nobody] at old
    cases old
  · cases refreshes.2.2.symm.trans down

theorem asksNobody_run (down : Throughout next dark moves (·.isDown = true))
    (nobody : dark.source.openQueries = []) :
    (stateAfter next dark moves).source.openQueries = [] := by
  induction moves using List.reverseRecOn with
  | nil => exact nobody
  | append_singleton earlier move ih =>
    rw [stateAfter_snoc]
    have still := (throughout_snoc.1 down).1
    exact asksNobody_move still.last (ih still) move

/-- While the network is down only the loss of all printers makes the watcher aware of it. -/
theorem Unaware.move (unaware : dark.Unaware) (down : dark.isDown = true) {move : Move}
    (keeps : dark.report? move ≠ some .allLost) : (dark.move move).1.Unaware := by
  intro signal followed
  obtain ⟨before, known, precedes⟩ := precedes_move followed
  refine Watcher.Unaware.later ?_ precedes
  have behind := unaware before known
  have change := dark.watcherChange_move move
  generalize (dark.move move).1.source.watcher = watcher at change
  cases change with
  | kept => exact behind
  | setOff => trivial
  | gone => trivial
  | sawDown signal attends => exact absurd (by rw [report?, attends, down]; rfl) keeps
  | began isOpen refreshes => cases refreshes.2.2.symm.trans down
  | askedNobody refreshes => cases refreshes.2.2.symm.trans down
  | gaveUp signal same closed waits =>
    obtain rfl := Option.some.inj (known.symm.trans same)
    rw [waits] at behind
    exact absurd behind (Nat.lt_irrefl _)
  | ended number answered seen isOpen left refreshing =>
    rw [refreshing] at behind
    exact behind
  | endedLast number answered seen isOpen refreshing =>
    rw [refreshing] at behind
    obtain ⟨version, rfl, lt⟩ := behind
    exact lt

theorem Unaware.run (unaware : dark.Unaware) (down : Throughout next dark moves (·.isDown = true))
    (keeps : ¬ Happens next dark moves fun state move => state.report? move = some .allLost) :
    (stateAfter next dark moves).Unaware := by
  induction moves using List.reverseRecOn with
  | nil => exact unaware
  | append_singleton earlier move ih =>
    rw [happens_snoc, not_or] at keeps
    rw [stateAfter_snoc]
    have still := (throughout_snoc.1 down).1
    exact (ih still keeps.1).move still.last keeps.2

/-- If somebody listens and the watcher has nothing to look at, although it has not seen the signal, a
query is open. -/
theorem Sound.asks_of_unaware (sound : dark.Sound) (unaware : dark.Unaware)
    (down : dark.isDown = true) (heard : dark.source.hub.hasListeners = true)
    (settled : dark.source.isDue dark.signal = false) : dark.source.openQueries ≠ [] := by
  obtain ⟨signal, followed, _⟩ := (Option.any_eq_true _ _).1 down
  have heeds := sound.heeds signal followed
  have behind := unaware signal followed
  rw [followed] at settled
  cases watches : dark.source.watcher with
  | absent => exact absurd watches (sound.watched heard)
  | due => simp [ManualSource.isDue, watches] at settled
  | refreshing seen isOpen =>
    rw [watches] at heeds
    rw [ManualSource.openQueries, watches]
    exact heeds.1
  | waiting seen =>
    rw [watches] at behind
    have news : signal.version ≠ seen := Nat.ne_of_gt behind
    simp [ManualSource.isDue, watches, Signal.hasNews, news] at settled
  | done =>
    rw [watches] at behind
    exact behind.elim

/-- When the watcher has nothing to look at, no query is open exactly if all printers were dropped. -/
theorem asksNobody_iff (sound : dark.Sound) (unaware : dark.Unaware)
    (down : Throughout next dark moves (·.isDown = true))
    (heard : (stateAfter next dark moves).source.hub.hasListeners = true)
    (settled : (stateAfter next dark moves).source.isDue (stateAfter next dark moves).signal = false) :
    (stateAfter next dark moves).source.openQueries = [] ↔
      Happens next dark moves fun state move => state.report? move = some .allLost := by
  constructor
  · intro nobody
    by_contra kept
    exact (sound.run moves).asks_of_unaware (unaware.run down kept) down.last heard settled nobody
  · rintro ⟨earlier, move, later, rfl, drops⟩
    rw [List.append_cons] at down ⊢
    rw [stateAfter_append]
    refine asksNobody_run down.right ?_
    rw [stateAfter_snoc]
    exact (quiet_of_allLost drops).1

/-- A listener that stays is told of a visible printer as lost, unless it stays visible or another
takes its place. -/
theorem told_lost_cases (sound : dark.source.hub.Sound) {listener : Listener}
    (stays : Throughout next dark moves (listener ∈ ·.source.hub.listeners)) {printer : Printer}
    (visible : dark.visibleAt? printer.path = some printer) :
    (stateAfter next dark moves).visibleAt? printer.path = some printer ∨
      .lost printer ∈ Hub.told listener (dark.deliveries moves) ∨
        Happens next dark moves fun state move => state.Replaces move printer := by
  induction moves using List.reverseRecOn with
  | nil => exact Or.inl visible
  | append_singleton earlier move ih =>
    have before := (throughout_snoc.1 stays).1
    rw [stateAfter_snoc, deliveries_snoc, Hub.told_append]
    rcases ih before with shown | told | replaced
    -- It was visible until now: what counts is what the last move says of its path.
    · have shows := visibleAt?_move (stateAfter next dark earlier) move printer.path
      cases reported : (stateAfter next dark earlier).reportAt? move printer.path with
      | none =>
        rw [reported, Option.getD_none, shown] at shows
        exact Or.inl shows
      | some word =>
        rw [reported, Option.getD_some] at shows
        cases word with
        | none =>
          have told := lost_of_move (hubSound_run sound earlier) shown shows before.last
            (throughout_snoc.1 stays).2
          exact Or.inr (Or.inl (List.mem_append_right _ told))
        | some other =>
          by_cases same : other = printer
          · exact Or.inl (same ▸ shows)
          · exact Or.inr (Or.inr (happens_snoc.2 (Or.inr ⟨shown, other, reported, same⟩)))
    · exact Or.inr (Or.inl (List.mem_append_left _ told))
    · exact Or.inr (Or.inr (replaced.append [move]))

/-- Until all printers are dropped, a path that is not edited shows what it showed, or what answered
there. -/
theorem visibleAt?_run_eq_none_iff {path : String}
    (keeps : ¬ Happens next dark moves fun state move => state.report? move = some .allLost)
    (unedited : ¬ Happens next dark moves fun state move => state.Edits move path) :
    (stateAfter next dark moves).visibleAt? path = none ↔
      dark.visibleAt? path = none ∧ ∀ printer,
        Happens next dark moves (fun state move => state.Answers move printer) →
          printer.path ≠ path := by
  induction moves using List.reverseRecOn with
  | nil => simp [not_happens_nil]
  | append_singleton earlier move ih =>
    -- To hide the path the last move would have to edit it, or to drop all printers.
    rw [happens_snoc, not_or] at keeps unedited
    simp only [stateAfter_snoc, visibleAt?_move, happens_snoc]
    cases reported : (stateAfter next dark earlier).reportAt? move path with
    | none =>
      rw [Option.getD_none, ih keeps.1 unedited.1]
      refine and_congr_right fun _ => forall_congr' fun printer => ?_
      refine ⟨fun unanswered => ?_, fun unanswered before => unanswered (Or.inl before)⟩
      rintro (before | answers) rfl
      · exact unanswered before rfl
      · have found := report?_eq_found_iff.2 (Or.inr answers)
        simp [reportAt?, found, Hub.Report.at?] at reported
    | some word =>
      rw [Option.getD_some]
      cases word with
      | none =>
        obtain ⟨report, made, tells⟩ := Option.bind_eq_some_iff.1 reported
        cases report with
        | found other => simp [Hub.Report.at?] at tells
        | lost gone =>
          have same : gone = path := by simpa [Hub.Report.at?] using tells
          exact absurd (Or.inr (same ▸ made)) unedited.2
        | allLost => exact absurd made keeps.2
      | some other =>
        obtain ⟨found, placed⟩ := found_of_reportAt? reported
        refine iff_of_false (Option.some_ne_none other) ?_
        rintro ⟨_, unanswered⟩
        rcases found with adds | answers
        · exact unedited.2 (Or.inl ⟨other, adds, placed⟩)
        · exact unanswered other (Or.inr answers) placed

/-- Once all printers were dropped in an outage, what is visible was added in it. -/
theorem added_of_allLost (down : Throughout next dark moves (·.isDown = true))
    (drops : Happens next dark moves fun state move => state.report? move = some .allLost)
    {path : String} {printer : Printer}
    (visible : (stateAfter next dark moves).visibleAt? path = some printer) :
    Happens next dark moves fun _ move => move.Adds printer := by
  obtain ⟨earlier, move, later, rfl, drop⟩ := drops
  rw [List.append_cons] at down visible ⊢
  rw [stateAfter_append] at visible
  have quiet : (stateAfter next dark (earlier ++ [move])).source.openQueries = [] ∧
      ∀ path, (stateAfter next dark (earlier ++ [move])).visibleAt? path = none := by
    rw [stateAfter_snoc]
    exact quiet_of_allLost drop
  rcases visible_cases visible with always | added | answered
  · cases (quiet.2 path).symm.trans always.first
  · exact added.prepend
  · obtain ⟨between, ends, others, rfl, number, _, query, asked, _⟩ := answered
    have nobody :
        (stateAfter next (stateAfter next dark (earlier ++ [move])) between).source.openQueries = [] :=
      asksNobody_run down.right.left quiet.1
    rw [ManualSource.query?, nobody] at asked
    cases asked

/-- When all printers are dropped a listener that stays has been told of each as lost, unless another
took its place before. -/
theorem told_lost_of_allLost (sound : dark.source.hub.Sound)
    (drops : Happens next dark moves fun state move => state.report? move = some .allLost)
    {listener : Listener} (stays : Throughout next dark moves (listener ∈ ·.source.hub.listeners))
    {printer : Printer} (visible : dark.visibleAt? printer.path = some printer) :
    .lost printer ∈ Hub.told listener (dark.deliveries moves) ∨
      Happens next dark moves fun state move => state.Replaces move printer := by
  obtain ⟨earlier, move, later, rfl, drop⟩ := drops
  rw [List.append_cons] at stays ⊢
  rcases told_lost_cases sound stays.left visible with shown | told | replaced
  · rw [stateAfter_snoc, (quiet_of_allLost drop).2] at shown
    cases shown
  · rw [deliveries_append, Hub.told_append]
    exact Or.inl (List.mem_append_left _ told)
  · exact Or.inr (replaced.append later)

end Dark

/-- When the network has just gone down the watcher has not seen it. -/
theorem unaware_of_falls {file : StoredFile} {signal : Option Signal} {moves : List Move}
    (falls : (begin file signal).Falls moves) :
    (stateAfter next (begin file signal) moves).Unaware := by
  rcases moves.eq_nil_or_concat' with rfl | ⟨earlier, move, rfl⟩
  · exact fun _ _ => trivial
  · obtain ⟨down, up⟩ := falls
    intro set followed
    rw [stateAfter_snoc] at followed down ⊢
    rw [Option.mem_def] at followed
    obtain ⟨before, known, precedes⟩ := precedes_move followed
    have wasUp : before.online = true := by simpa [isDown, known] using up earlier move rfl
    have isOff : set.online = false := by simpa [isDown, followed] using down
    refine (((sound_begin file signal).run earlier).heeds_move move known).unaware precedes ?_
    rw [wasUp, isOff]
    exact Bool.false_ne_true

/-- The network has gone down, somebody listens and the watcher has nothing to look at. If no query is
open, whatever is visible was added since, and who has listened all the time was told of all that was
visible before as lost, except for what was replaced at its path. But while a query is open a path that
nobody edits shows what it showed, or what answers there. -/
theorem hidden_iff_asksNobody (file : StoredFile) (signal : Option Signal) (before after : List Move)
    (falls : (begin file signal).Falls before)
    (down : Throughout next (stateAfter next (begin file signal) before) after (·.isDown = true))
    (heard : (stateAfter next (stateAfter next (begin file signal) before) after).source.hub.hasListeners
      = true)
    (settled : (stateAfter next (stateAfter next (begin file signal) before) after).source.isDue
      (stateAfter next (stateAfter next (begin file signal) before) after).signal = false) :
    let dark := stateAfter next (begin file signal) before
    let final := stateAfter next dark after
    (final.source.openQueries = [] →
      (∀ path, ∀ printer ∈ final.visibleAt? path,
          Happens next dark after fun _ move => move.Adds printer) ∧
        ∀ path, ∀ printer ∈ dark.visibleAt? path, ∀ listener,
          Throughout next dark after (listener ∈ ·.source.hub.listeners) →
            .lost printer ∈ Hub.told listener (dark.deliveries after) ∨
              Happens next dark after fun state move => state.Replaces move printer) ∧
      ∀ path, ¬ Happens next dark after (fun state move => state.Edits move path) →
        (final.visibleAt? path = none ↔
          final.source.openQueries = [] ∨
            dark.visibleAt? path = none ∧ ∀ printer,
              Happens next dark after (fun state move => state.Answers move printer) →
                printer.path ≠ path) := by
  intro dark final
  have sound : dark.Sound := (sound_begin file signal).run before
  -- No query is open exactly if all printers were dropped since the network went down.
  have drops := asksNobody_iff sound (unaware_of_falls falls) down heard settled
  refine ⟨fun nobody => ⟨fun path printer visible => ?_, fun path printer visible listener stays => ?_⟩,
    fun path unedited => ?_⟩
  · exact added_of_allLost down (drops.1 nobody) visible
  · have placed : printer.path = path := sound.hub.placed path printer visible
    exact told_lost_of_allLost sound.hub (drops.1 nobody) stays (placed ▸ visible)
  · by_cases nobody : final.source.openQueries = []
    · refine iff_of_true ?_ (Or.inl nobody)
      refine Option.eq_none_iff_forall_ne_some.2 fun printer visible => unedited ?_
      have placed : printer.path = path := (sound.run after).hub.placed path printer visible
      obtain ⟨earlier, move, later, made, adds⟩ :=
        added_of_allLost down (drops.1 nobody) visible
      exact ⟨earlier, move, later, made, Or.inl ⟨printer, adds, placed⟩⟩
    · rw [or_iff_right nobody]
      exact visibleAt?_run_eq_none_iff (mt drops.2 nobody) unedited

/-- The network goes down while the second of two printers is asked. It answers, and then both are
lost. -/
theorem hidden_once_last_query_ended :
    let office := Printer.report none "Office" "ipp://h" none
    let lobby := Printer.report (some "urn:uuid:1") "Lobby" "ipp://l" none
    let add (printer : Printer) : Move := .add (.ok (.found printer true)) default
    let before := [add office, add lobby, .start 0, .look, .queryEnded 0 true, .send false]
    let after : List Move := [.queryEnded 1 true, .look]
    let start := begin .vacant (some (.start true))
    let dark := stateAfter next start before
    let final := stateAfter next dark after
    start.Falls before ∧ Throughout next dark after (·.isDown = true) ∧
      final.source.hub.hasListeners = true ∧ final.source.isDue final.signal = false ∧
        dark.visibleAt? lobby.path = some lobby ∧ (∀ path, final.visibleAt? path = none) ∧
          .lost lobby ∈ Hub.told 0 (dark.deliveries after) := by
  intro office lobby add before after start dark final
  have falls : start.Falls before := by
    refine ⟨by decide +kernel, fun earlier move split => ?_⟩
    have last : before = [add office, add lobby, .start 0, .look, .queryEnded 0 true] ++ [.send false] :=
      rfl
    rw [← (List.append_inj' (last.symm.trans split) rfl).1]
    decide +kernel
  have split : after = [] ++ [.queryEnded 1 true] ++ [.look] := rfl
  have down : Throughout next dark after (·.isDown = true) := by
    rw [split, throughout_snoc, throughout_snoc, throughout_nil]
    decide +kernel
  have heard : final.source.hub.hasListeners = true := by decide +kernel
  have settled : final.source.isDue final.signal = false := by decide +kernel
  have nobody : final.source.openQueries = [] := by decide +kernel
  have visible : dark.visibleAt? lobby.path = some lobby := by decide +kernel
  obtain ⟨hidden, told⟩ :=
    (hidden_iff_asksNobody .vacant (some (.start true)) before after falls down heard settled).1 nobody
  have stays : Throughout next dark after (0 ∈ ·.source.hub.listeners) := by
    rw [split, throughout_snoc, throughout_snoc, throughout_nil]
    decide +kernel
  refine ⟨falls, down, heard, settled, visible, fun path => ?_,
    (told lobby.path lobby visible 0 stays).resolve_right ?_⟩
  · refine Option.eq_none_iff_forall_ne_some.2 fun printer shown => ?_
    obtain ⟨_, move, _, made, now, rfl⟩ := hidden path printer shown
    have listed : Move.add (.ok (.found printer true)) now ∈ after := by simp [made]
    simp [after] at listed
  · rw [split, happens_snoc, happens_snoc]
    rintro ((none | ⟨_, other, reported, different⟩) | ⟨_, other, reported, _⟩)
    · exact not_happens_nil none
    · have answered : (stateAfter next dark []).reportAt? (.queryEnded 1 true) lobby.path =
          some (some lobby) := by
        decide +kernel
      cases answered.symm.trans reported
      exact different rfl
    · have dropped : (stateAfter next dark ([] ++ [.queryEnded 1 true])).reportAt? .look lobby.path =
          some none := by
        decide +kernel
      cases dropped.symm.trans reported

/-- The network goes down while a printer is asked that has not answered. Somebody listens, and the
watcher has nothing to look at, but the printer stays visible, and nobody is told that it is lost. -/
theorem outage_unseen_during_query :
    let office := Printer.report none "Office" "ipp://h" none
    let before := [.add (.ok (.found office true)) default, .start 0, .look]
    let start := begin .vacant (some (.start true))
    let dark := (stateAfter next start before |>.move (.send false)).1
    (stateAfter next start before).isDown = false ∧ dark.isDown = true ∧
      dark.source.hub.hasListeners = true ∧ dark.source.isDue dark.signal = false ∧
        (stateAfter next start before).visibleAt? office.path = some office ∧
          dark.visibleAt? office.path = some office ∧
            (stateAfter next start before |>.move (.send false)).2 = [] := by
  decide +kernel

end Follower
end PrinterRoster
