import Mathlib.Data.List.Induction
import PrinterRoster.Proofs.Course
import PrinterRoster.Proofs.Hub.Operations
import PrinterRoster.Proofs.Manual.Saved

/-! A manual source in the course of time. Printers are added and removed, listeners come and go,
the signal is set, the watcher takes its turn and open queries end, in any order. A move reports at
most once to the hub, and what is visible at a path is what was last reported of it. -/
namespace PrinterRoster

namespace Hub

/-- What a report tells of a path, if anything: that a printer is visible there, or that none is. -/
def Report.at? (report : Report) (path : String) : Option (Option Printer) :=
  match report with
  | .found printer => if printer.path = path then some (some printer) else none
  | .lost gone => if gone = path then some none else none
  | .allLost => some none

private theorem get?_take (hub : Hub) (report : Report) (path : String) :
    (hub.take report).1.visible.get? path = (report.at? path).getD (hub.visible.get? path) := by
  cases report with
  | found printer =>
    rw [take, get?_printerFound, Report.at?]
    by_cases same : printer.path = path
    · rw [if_pos same, if_pos same.symm, Option.getD_some]
    · rw [if_neg same, if_neg (Ne.symm same), Option.getD_none]
  | lost gone =>
    rw [take, get?_printerLost, Report.at?]
    by_cases same : gone = path
    · rw [if_pos same, if_pos same.symm, Option.getD_some]
    · rw [if_neg same, if_neg (Ne.symm same), Option.getD_none]
  | allLost => rfl

private theorem Report.eq_found_of_at? {report : Report} {path : String} {printer : Printer}
    (word : report.at? path = some (some printer)) : report = .found printer ∧ printer.path = path := by
  cases report with
  | found other =>
    simp only [at?, Option.ite_none_right_eq_some, Option.some.injEq] at word
    obtain ⟨same, rfl⟩ := word
    exact ⟨rfl, same⟩
  | lost gone => simp [at?] at word
  | allLost => simp [at?] at word

/-- A printer that a report makes invisible is told of as lost. -/
theorem lost_of_at? {hub : Hub} (sound : hub.Sound) {report : Report} {path : String}
    {printer : Printer} (visible : hub.visible.get? path = some printer)
    (word : report.at? path = some none) : .lost printer ∈ hub.news report := by
  cases report with
  | found other => simp [Report.at?] at word
  | lost gone =>
    have same : gone = path := by simpa [Report.at?] using word
    simp [news, same, visible]
  | allLost =>
    have placed : printer.path = path := sound.placed path printer visible
    exact List.mem_map_of_mem (sound.mem_values.2 (placed ▸ visible))

private theorem eq_found_of_news {hub : Hub} {report : Report} {printer : Printer}
    (told : .found printer ∈ hub.news report) : report = .found printer := by
  cases report with
  | found other =>
    dsimp only [news] at told
    split at told
    · cases told
    · cases List.mem_singleton.1 told
      rfl
  | lost gone => simp [news] at told
  | allLost => simp [news] at told

end Hub

namespace ManualSource

def query? (source : ManualSource) (number : Nat) : Option SavedQuery :=
  source.openQueries.find? (·.number = number)

def attends (source : ManualSource) (signal : Option Signal) : Bool :=
  match source.watcher, signal with
  | .due, _ => true
  | .waiting seen, some signal => signal.hasNews seen
  | _, _ => false

theorem look_of_attends {source : ManualSource} {signal : Option Signal}
    (attends : source.attends signal = true) : source.look signal = source.attend signal := by
  cases watches : source.watcher with
  | due => simp only [look, watches]
  | waiting seen =>
    cases signal with
    | none => simp [ManualSource.attends, watches] at attends
    | some signal =>
      have news : signal.hasNews seen = true := by
        simpa only [ManualSource.attends, watches] using attends
      simp only [look, watches, news, if_true]
  | _ => simp [ManualSource.attends, watches] at attends

/-- Without anything to look at, a turn of the watcher at most ends it. -/
theorem look_of_not_attends {source : ManualSource} {signal : Option Signal}
    (idle : source.attends signal = false) :
    source.look signal = (source, []) ∨
      ∃ seen given, source.watcher = .waiting seen ∧ signal = some given ∧ given.version = seen ∧
        given.isOpen = false ∧ source.look signal = ({ source with watcher := .done }, []) := by
  cases watches : source.watcher with
  | due => simp [ManualSource.attends, watches] at idle
  | waiting seen =>
    cases signal with
    | none => exact Or.inl (by simp only [look, watches])
    | some given =>
      have known : given.hasNews seen = false := by
        simpa only [ManualSource.attends, watches] using idle
      cases isOpen : given.isOpen with
      | true => exact Or.inl (by simp [look, watches, known, isOpen])
      | false =>
        exact Or.inr ⟨seen, given, rfl, rfl, by simpa [Signal.hasNews] using known, isOpen,
          by simp [look, watches, known, isOpen]⟩
  | _ => exact Or.inl (by simp only [look, watches])

theorem stop_eq (source : ManualSource) (listener : Listener) :
    source.stop listener =
      if (source.hub.removeListener listener).edge then
        ({ source with
            hub := { (source.hub.removeListener listener).hub with visible := Table.empty }
            watcher := .absent },
          (source.hub.printersLostTo listener).2)
      else ({ source with hub := (source.hub.removeListener listener).hub }, []) := rfl

theorem saved_remove (source : ManualSource) (id : PrinterId) :
    (source.remove id).1.saved = SavedPrinter.remove source.saved id := by
  unfold remove
  split
  · rename_i absent
    rw [SavedPrinter.remove, List.eraseP_of_forall_not]
    simpa [SavedPrinter.find?] using absent
  · rfl

theorem watcher_attempt (source : ManualSource) (probed : Except Failure ProbeOutcome)
    (now : Stamp) : (source.attempt probed now).1.watcher = source.watcher := by
  cases probed with
  | error failure => rfl
  | ok outcome =>
    cases outcome with
    | found printer supported => cases supported <;> rfl
    | notFound => rfl

theorem watcher_remove (source : ManualSource) (id : PrinterId) :
    (source.remove id).1.watcher = source.watcher := by
  unfold remove
  split <;> rfl

/-- A watcher that is set off asks nobody yet. -/
theorem openQueries_start (source : ManualSource) (listener : Listener) :
    (source.start listener).1.openQueries =
      if (source.hub.addListener listener).edge then [] else source.openQueries := by
  cases edge : (source.hub.addListener listener).edge <;> simp [start, openQueries, edge]

private theorem openQueries_afterRefresh (source : ManualSource) (seen : Option Nat) :
    ({ source with watcher := afterRefresh seen } : ManualSource).openQueries = [] := by
  cases seen <;> rfl

/-- A refresh asks every saved printer. -/
theorem openQueries_refresh (source : ManualSource) (seen : Option Nat) :
    (source.refresh seen).openQueries =
      source.saved.mapIdx fun number saved => ⟨number, saved.printer⟩ := by
  unfold refresh
  dsimp only
  split
  · rename_i nobody
    rw [List.isEmpty_iff.1 nobody]
    exact openQueries_afterRefresh source seen
  · rfl

theorem openQueries_attend (source : ManualSource) (signal : Option Signal) :
    (source.attend signal).1.openQueries =
      if signal.any (!·.online) then []
      else source.saved.mapIdx fun number saved => ⟨number, saved.printer⟩ := by
  cases signal with
  | none => exact openQueries_refresh source none
  | some signal =>
    cases up : signal.online with
    | true => simp [attend, up, openQueries_refresh]
    | false => simp [attend, up, openQueries]

theorem openQueries_look (source : ManualSource) (signal : Option Signal) :
    (source.look signal).1.openQueries =
      if source.attends signal then (source.attend signal).1.openQueries else source.openQueries := by
  cases attends : source.attends signal with
  | true => rw [look_of_attends attends, if_pos rfl]
  | false =>
    rw [if_neg Bool.false_ne_true]
    rcases look_of_not_attends attends with same | ⟨seen, _, waits, _, _, _, same⟩
    · rw [same]
    · rw [same, openQueries, openQueries, waits]

/-- When a query ends the others stay open. -/
theorem openQueries_queryEnded (source : ManualSource) (number : Nat) (answered : Bool) :
    (source.queryEnded number answered).1.openQueries =
      source.openQueries.filter (·.number ≠ number) := by
  unfold queryEnded
  split
  · rename_i seen isOpen watches
    have asked : source.openQueries = isOpen := by rw [openQueries, watches]
    rw [asked]
    split
    · rename_i unknown
      rw [asked, List.filter_eq_self.2]
      simpa using unknown
    · have left : ({ source with
          watcher := if (isOpen.filter (·.number ≠ number)).isEmpty then afterRefresh seen
            else .refreshing seen (isOpen.filter (·.number ≠ number)) } : ManualSource).openQueries =
          isOpen.filter (·.number ≠ number) := by
        split
        · rename_i nobody
          rw [openQueries_afterRefresh, List.isEmpty_iff.1 nobody]
        · rfl
      dsimp only
      split <;> exact left
  · rename_i idle
    have nothing : source.openQueries = [] := by
      unfold openQueries
      split
      · rename_i watches
        exact absurd watches (idle _ _)
      · rfl
    rw [nothing]
    rfl

end ManualSource

structure Follower where
  source : ManualSource
  signal : Option Signal

namespace Follower

def begin (file : StoredFile) (signal : Option Signal) : Follower := ⟨.openFile file, signal⟩

def visibleAt? (follower : Follower) (path : String) : Option Printer :=
  follower.source.hub.visible.get? path

/-- Whether the network is down. Nobody's signal counts as up. -/
def isDown (follower : Follower) : Bool := follower.signal.any (!·.online)

inductive Move
  | add (probed : Except Failure ProbeOutcome) (now : Stamp)
  | remove (id : PrinterId)
  | start (listener : Listener)
  | stop (listener : Listener)
  | look
  | queryEnded (number : Nat) (answered : Bool)
  | send (online : Bool)
  | close

def Move.registers : Move → Bool
  | .start _ | .stop _ => true
  | _ => false

def after (follower : Follower) (outcome : ManualSource × List Delivery) :
    Follower × List Delivery :=
  ({ follower with source := outcome.1 }, outcome.2)

def withSignal (follower : Follower) (change : Signal → Signal) : Follower × List Delivery :=
  ({ follower with signal := follower.signal.map change }, [])

def move (follower : Follower) : Move → Follower × List Delivery
  | .add probed now => follower.after (follower.source.attempt probed now)
  | .remove id =>
    let outcome := follower.source.remove id
    follower.after (outcome.1, outcome.2.1)
  | .start listener => follower.after (follower.source.start listener)
  | .stop listener => follower.after (follower.source.stop listener)
  | .look => follower.after (follower.source.look follower.signal)
  | .queryEnded number answered => follower.after (follower.source.queryEnded number answered)
  | .send online =>
    follower.withSignal fun signal => if signal.isOpen then signal.send online else signal
  | .close => follower.withSignal Signal.close

def report? (follower : Follower) : Move → Option Hub.Report
  | .add (.ok (.found printer true)) _ => some (.found printer)
  | .remove id =>
    (SavedPrinter.find? follower.source.saved id).map fun removed => .lost removed.printer.path
  | .stop listener =>
    if (follower.source.hub.removeListener listener).edge then some .allLost else none
  | .look =>
    if follower.source.attends follower.signal && follower.isDown then some .allLost else none
  | .queryEnded number true =>
    (follower.source.query? number).map fun query => .found query.printer
  | _ => none

def reportAt? (follower : Follower) (move : Move) (path : String) : Option (Option Printer) :=
  (follower.report? move).bind (·.at? path)

/-- A move adds a printer: it was looked for, answered and can be used. -/
def Move.Adds (move : Move) (printer : Printer) : Prop :=
  ∃ now, move = .add (.ok (.found printer true)) now

/-- A move is the answer of a printer to an open query. -/
def Answers (follower : Follower) (move : Move) (printer : Printer) : Prop :=
  ∃ number, move = .queryEnded number true ∧
    ∃ query ∈ follower.source.query? number, query.printer = printer

def Refreshes (follower : Follower) (move : Move) : Prop :=
  move = .look ∧ follower.source.attends follower.signal = true ∧ follower.isDown = false

abbrev next (follower : Follower) (move : Move) : Follower := (follower.move move).1

def deliveries (follower : Follower) : List Move → List Delivery
  | [] => []
  | move :: later => (follower.move move).2 ++ (follower.move move).1.deliveries later

theorem deliveries_append (follower : Follower) (earlier later : List Move) :
    follower.deliveries (earlier ++ later) =
      follower.deliveries earlier ++ (stateAfter next follower earlier).deliveries later := by
  induction earlier generalizing follower with
  | nil => rfl
  | cons move others ih =>
    rw [List.cons_append, deliveries, deliveries, ih, List.append_assoc]
    rfl

theorem deliveries_snoc (follower : Follower) (moves : List Move) (move : Move) :
    follower.deliveries (moves ++ [move]) =
      follower.deliveries moves ++ ((stateAfter next follower moves).move move).2 := by
  rw [deliveries_append, deliveries, deliveries, List.append_nil]

theorem mem_deliveries_iff {follower : Follower} {moves : List Move} {delivery : Delivery} :
    delivery ∈ follower.deliveries moves ↔
      Happens next follower moves fun state move => delivery ∈ (state.move move).2 := by
  induction moves using List.reverseRecOn with
  | nil => exact iff_of_false List.not_mem_nil (not_happens_nil)
  | append_singleton earlier move ih => rw [deliveries_snoc, List.mem_append, ih, happens_snoc]

/-- A reported printer was added, or answered. -/
theorem report?_eq_found_iff {follower : Follower} {move : Move} {printer : Printer} :
    follower.report? move = some (.found printer) ↔
      move.Adds printer ∨ follower.Answers move printer := by
  constructor
  · intro reported
    unfold report? at reported
    split at reported
    · cases reported
      exact Or.inl ⟨_, rfl⟩
    · simp at reported
    · split at reported <;> cases reported
    · split at reported <;> cases reported
    · obtain ⟨query, asked, found⟩ := Option.map_eq_some_iff.1 reported
      cases found
      exact Or.inr ⟨_, rfl, query, asked, rfl⟩
    · cases reported
  · rintro (⟨now, rfl⟩ | ⟨number, rfl, query, asked, rfl⟩)
    · rfl
    · rw [report?, Option.mem_def.1 asked]
      rfl

/-- A printer that a move shows at a path was added, or answered. -/
theorem found_of_reportAt? {follower : Follower} {move : Move} {path : String} {printer : Printer}
    (shown : follower.reportAt? move path = some (some printer)) :
    (move.Adds printer ∨ follower.Answers move printer) ∧ printer.path = path := by
  obtain ⟨report, made, tells⟩ := Option.bind_eq_some_iff.1 shown
  obtain ⟨rfl, placed⟩ := Hub.Report.eq_found_of_at? tells
  exact ⟨report?_eq_found_iff.1 made, placed⟩

/-- To add saves the printer that was found, or leaves what is saved as it was. -/
theorem saved_add (follower : Follower) (probed : Except Failure ProbeOutcome) (now : Stamp) :
    (follower.move (.add probed now)).1.source.saved = follower.source.saved ∨
      ∃ printer, (Move.add probed now).Adds printer ∧
        (follower.move (.add probed now)).1.source.saved =
          SavedPrinter.save follower.source.saved printer now := by
  cases probed with
  | error failure => exact Or.inl rfl
  | ok outcome =>
    cases outcome with
    | found printer supported =>
      cases supported with
      | true => exact Or.inr ⟨printer, ⟨now, rfl⟩, rfl⟩
      | false => exact Or.inl rfl
    | notFound => exact Or.inl rfl

/-- Only adding saves a printer, and only it. -/
theorem mem_saved_move {follower : Follower} {move : Move} {entry : SavedPrinter}
    (saved : entry ∈ (follower.move move).1.source.saved) :
    entry ∈ follower.source.saved ∨ move.Adds entry.printer := by
  cases move with
  | add probed now =>
    rcases follower.saved_add probed now with same | ⟨printer, adds, same⟩
    · exact Or.inl (same ▸ saved)
    · rw [same] at saved
      rcases List.mem_append.1 saved with old | new
      · exact Or.inl (List.mem_filter.1 old).1
      · rw [List.mem_singleton.1 new]
        exact Or.inr adds
  | remove id =>
    rw [Follower.move, after, ManualSource.saved_remove] at saved
    exact Or.inl (List.mem_of_mem_eraseP saved)
  | start listener => exact Or.inl saved
  | stop listener => exact Or.inl ((ManualSource.saved_stop ..).1 ▸ saved)
  | look => exact Or.inl ((ManualSource.saved_look ..).1 ▸ saved)
  | queryEnded number answered => exact Or.inl ((ManualSource.saved_queryEnded ..).1 ▸ saved)
  | send online => exact Or.inl saved
  | close => exact Or.inl saved

/-- What is asked was asked before, or is saved when a refresh begins. -/
theorem mem_openQueries_move {follower : Follower} {move : Move} {query : SavedQuery}
    (asked : query ∈ (follower.move move).1.source.openQueries) :
    query ∈ follower.source.openQueries ∨
      follower.Refreshes move ∧ ∃ entry ∈ follower.source.saved, entry.printer = query.printer := by
  cases move with
  | add probed now =>
    rw [Follower.move, after, ManualSource.openQueries, ManualSource.watcher_attempt] at asked
    exact Or.inl asked
  | remove id =>
    rw [Follower.move, after, ManualSource.openQueries, ManualSource.watcher_remove] at asked
    exact Or.inl asked
  | start listener =>
    left
    rw [Follower.move, after, ManualSource.openQueries_start] at asked
    split at asked
    · cases asked
    · exact asked
  | stop listener =>
    left
    rw [Follower.move, after, ManualSource.stop_eq] at asked
    split at asked
    · cases asked
    · exact asked
  | look =>
    have looked := follower.source.openQueries_look follower.signal
    rw [Follower.move, after, looked] at asked
    split at asked
    · rename_i attends
      rw [ManualSource.openQueries_attend] at asked
      split at asked
      · cases asked
      · rename_i up
        obtain ⟨number, inside, rfl⟩ := List.mem_mapIdx.1 asked
        exact Or.inr ⟨⟨rfl, attends, Bool.eq_false_iff.2 up⟩, _, List.getElem_mem inside, rfl⟩
    · exact Or.inl asked
  | queryEnded number answered =>
    rw [Follower.move, after, ManualSource.openQueries_queryEnded] at asked
    exact Or.inl (List.mem_filter.1 asked).1
  | send online => exact Or.inl asked
  | close => exact Or.inl asked

section Reports
variable (follower : Follower)

private theorem hub_attempt (probed : Except Failure ProbeOutcome) (now : Stamp) :
    ((follower.source.attempt probed now).1.hub, (follower.source.attempt probed now).2) =
      (follower.report? (.add probed now)).elim (follower.source.hub, []) follower.source.hub.take := by
  cases probed with
  | error failure => rfl
  | ok outcome =>
    cases outcome with
    | found printer supported => cases supported <;> rfl
    | notFound => rfl

private theorem hub_remove (id : PrinterId) :
    ((follower.source.remove id).1.hub, (follower.source.remove id).2.1) =
      (follower.report? (.remove id)).elim (follower.source.hub, []) follower.source.hub.take := by
  rw [ManualSource.remove, report?]
  cases SavedPrinter.find? follower.source.saved id <;> rfl

private theorem hub_look :
    ((follower.source.look follower.signal).1.hub, (follower.source.look follower.signal).2) =
      (follower.report? .look).elim (follower.source.hub, []) follower.source.hub.take := by
  cases attends : follower.source.attends follower.signal with
  | false =>
    rw [report?, attends]
    rcases ManualSource.look_of_not_attends attends with same | ⟨_, _, _, _, _, _, same⟩ <;>
      rw [same] <;> rfl
  | true =>
    rw [ManualSource.look_of_attends attends, report?, attends, isDown]
    cases follower.signal with
    | none => rfl
    | some signal =>
      cases up : signal.online with
      | true => simp [ManualSource.attend, ManualSource.refresh, up]
      | false => simp [ManualSource.attend, up, Hub.take]

private theorem hub_queryEnded (number : Nat) (answered : Bool) :
    ((follower.source.queryEnded number answered).1.hub,
        (follower.source.queryEnded number answered).2) =
      (follower.report? (.queryEnded number answered)).elim (follower.source.hub, [])
        follower.source.hub.take := by
  have open? : follower.source.query? number = follower.source.openQueries.find? (·.number = number) :=
    rfl
  rw [ManualSource.openQueries] at open?
  unfold ManualSource.queryEnded
  split
  · rename_i seen isOpen watches
    simp only [watches] at open?
    cases found : isOpen.find? (·.number = number) with
    | none => cases answered <;> simp [report?, open?, found]
    | some query =>
      cases answered <;> simp [report?, open?, found, ManualSource.printerFound, Hub.take]
  · rename_i idle
    have nothing : follower.source.query? number = none := by
      rw [open?]
      split
      · rename_i watches
        exact absurd watches (idle _ _)
      · rfl
    cases answered <;> simp [report?, nothing]

/-- Unless listeners come or go, the hub takes what a move reports, and tells of that alone. -/
theorem hub_move {move : Move} (reports : move.registers = false) :
    ((follower.move move).1.source.hub, (follower.move move).2) =
      (follower.report? move).elim (follower.source.hub, []) follower.source.hub.take := by
  cases move with
  | add probed now => exact follower.hub_attempt probed now
  | remove id => exact follower.hub_remove id
  | start listener => cases reports
  | stop listener => cases reports
  | look => exact follower.hub_look
  | queryEnded number answered => exact follower.hub_queryEnded number answered
  | send online => rfl
  | close => rfl

theorem visible_move (move : Move) :
    (follower.move move).1.source.hub.visible =
      (follower.report? move).elim follower.source.hub.visible
        fun report => (follower.source.hub.take report).1.visible := by
  cases registers : move.registers with
  | true =>
    cases move with
    | start listener => exact Hub.visible_addListener ..
    | stop listener =>
      rw [Follower.move, after, ManualSource.stop_eq, report?]
      split <;> rfl
    | _ => cases registers
  | false =>
    have taken := congrArg (·.1.visible) (follower.hub_move registers)
    dsimp only at taken
    rw [taken]
    cases follower.report? move <;> rfl

theorem visibleAt?_move (move : Move) (path : String) :
    (follower.move move).1.visibleAt? path =
      (follower.reportAt? move path).getD (follower.visibleAt? path) := by
  rw [visibleAt?, visible_move, reportAt?]
  cases follower.report? move with
  | none => rfl
  | some report => exact Hub.get?_take ..

end Reports

theorem hubSound_move {follower : Follower} (sound : follower.source.hub.Sound) (move : Move) :
    (follower.move move).1.source.hub.Sound := by
  cases registers : move.registers with
  | true =>
    cases move with
    | start listener => exact sound.addListener listener
    | stop listener =>
      rw [Follower.move, after, ManualSource.stop_eq]
      split
      · exact ⟨(sound.removeListener listener).distinct, nofun⟩
      · exact sound.removeListener listener
    | _ => cases registers
  | false =>
    have taken := congrArg Prod.fst (follower.hub_move registers)
    dsimp only at taken
    rw [taken]
    cases follower.report? move with
    | none => exact sound
    | some report => exact sound.take report

theorem hubSound_run {follower : Follower} (sound : follower.source.hub.Sound) (moves : List Move) :
    (stateAfter next follower moves).source.hub.Sound :=
  holds_stateAfter (fun follower : Follower => follower.source.hub.Sound) sound
    fun _ sound move _ => hubSound_move sound move

theorem hubSound_begin (file : StoredFile) (signal : Option Signal) :
    (begin file signal).source.hub.Sound :=
  Hub.sound_empty

/-- What is visible after some moves was so all the time, or was added, or answered. -/
theorem visible_cases {follower : Follower} {moves : List Move} {path : String} {printer : Printer}
    (visible : (stateAfter next follower moves).visibleAt? path = some printer) :
    Throughout next follower moves (fun state => state.visibleAt? path = some printer) ∨
      Happens next follower moves (fun _ move => move.Adds printer) ∨
        Happens next follower moves (fun state move => state.Answers move printer) := by
  -- On the last move, which reports the printer or leaves it as it was.
  induction moves using List.reverseRecOn with
  | nil =>
    exact Or.inl (throughout_nil.2 visible)
  | append_singleton earlier move ih =>
    rw [stateAfter_snoc, visibleAt?_move] at visible
    cases reported : (stateAfter next follower earlier).reportAt? move path with
    | none =>
      rw [reported, Option.getD_none] at visible
      rcases ih visible with always | added | answered
      · refine Or.inl (throughout_snoc.2 ⟨always, ?_⟩)
        rw [visibleAt?_move, reported, Option.getD_none]
        exact visible
      · exact Or.inr (Or.inl (added.append [move]))
      · exact Or.inr (Or.inr (answered.append [move]))
    | some shown =>
      rw [reported, Option.getD_some] at visible
      rcases (found_of_reportAt? (visible ▸ reported)).1 with adds | answers
      · exact Or.inr (Or.inl (happens_snoc.2 (Or.inr adds)))
      · exact Or.inr (Or.inr (happens_snoc.2 (Or.inr answers)))

/-- A printer that is added or answers is visible then. -/
theorem visible_of_found {follower : Follower} {move : Move} {printer : Printer}
    (found : follower.report? move = some (.found printer)) :
    (follower.move move).1.visibleAt? printer.path = some printer := by
  rw [visibleAt?_move, reportAt?, found]
  simp [Hub.Report.at?]

section Told
variable {follower : Follower} (sound : follower.source.hub.Sound) {move : Move}
include sound

theorem told_move (reports : move.registers = false) (listener : Listener) :
    Hub.told listener (follower.move move).2 =
      if listener ∈ follower.source.hub.listeners then
        (follower.report? move).elim [] follower.source.hub.news
      else [] := by
  have taken := congrArg Prod.snd (follower.hub_move reports)
  dsimp only at taken
  rw [taken]
  cases follower.report? move with
  | none => split <;> rfl
  | some report => exact Hub.told_take sound report listener

/-- A listener is told as found what is visible when it comes, or what is reported. -/
theorem replayed_or_reported {delivery : Delivery} {printer : Printer}
    (told : delivery ∈ (follower.move move).2) (found : delivery.sighting = .found printer) :
    (move = .start delivery.listener ∧ delivery.listener ∉ follower.source.hub.listeners ∧
        ∃ path, follower.visibleAt? path = some printer) ∨
      follower.report? move = some (.found printer) := by
  have heard : .found printer ∈ Hub.told delivery.listener (follower.move move).2 :=
    List.mem_map.2 ⟨delivery, List.mem_filter.2 ⟨told, decide_eq_true rfl⟩, found⟩
  cases registers : move.registers with
  | true =>
    cases move with
    | start listener =>
      have replayed : .found printer ∈ Hub.told delivery.listener
          (follower.source.hub.addListener listener).deliveries := heard
      rw [Hub.told_addListener] at replayed
      split at replayed
      · rename_i comes
        obtain ⟨shown, member, same⟩ := List.mem_map.1 replayed
        cases same
        refine Or.inl ⟨by rw [comes.1], ?_, (Table.mem_values_iff ..).1 member⟩
        rw [comes.1]
        exact comes.2
      · cases replayed
    | stop listener =>
      rw [Follower.move, after, ManualSource.stop_eq] at told
      split at told
      · obtain ⟨shown, _, rfl⟩ := List.mem_map.1 told
        cases found
      · cases told
    | _ => cases registers
  | false =>
    rw [told_move sound registers] at heard
    split at heard
    · cases reported : follower.report? move with
      | none =>
        rw [reported] at heard
        cases heard
      | some report =>
        rw [reported] at heard
        rw [Hub.eq_found_of_news heard]
        exact Or.inr rfl
    · cases heard

/-- A listener is told as found what is visible already, or what is reported. -/
theorem found_of_delivery {delivery : Delivery} {printer : Printer}
    (told : delivery ∈ (follower.move move).2) (found : delivery.sighting = .found printer) :
    (∃ path, follower.visibleAt? path = some printer) ∨
      follower.report? move = some (.found printer) :=
  (replayed_or_reported sound told found).imp_left fun replayed => replayed.2.2

/-- Who listens before and after a move is told what it makes invisible. -/
theorem lost_of_move {path : String} {printer : Printer} {listener : Listener}
    (visible : follower.visibleAt? path = some printer)
    (gone : (follower.move move).1.visibleAt? path = none)
    (before : listener ∈ follower.source.hub.listeners)
    (stays : listener ∈ (follower.move move).1.source.hub.listeners) :
    .lost printer ∈ Hub.told listener (follower.move move).2 := by
  rw [visibleAt?_move] at gone
  cases reported : follower.reportAt? move path with
  | none =>
    rw [reported, Option.getD_none, visible] at gone
    cases gone
  | some shown =>
    rw [reported, Option.getD_some] at gone
    obtain ⟨report, made, tells⟩ := Option.bind_eq_some_iff.1 (gone ▸ reported)
    cases registers : move.registers with
    | true =>
      cases move with
      | start other => cases made
      | stop other =>
        rw [Follower.move, after, ManualSource.stop_eq] at stays
        rw [report?] at made
        split at made
        · rename_i edge
          rw [if_pos edge] at stays
          have left : (follower.source.hub.removeListener other).hub.listeners = [] :=
            List.isEmpty_iff.1 (Bool.and_eq_true .. ▸ edge).2
          simp [left] at stays
        · cases made
      | _ => cases registers
    | false =>
      rw [told_move sound registers, if_pos before, made, Option.elim_some]
      exact Hub.lost_of_at? sound visible tells

end Told

end Follower
end PrinterRoster
