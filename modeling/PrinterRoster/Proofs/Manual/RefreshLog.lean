import Mathlib.Data.List.Perm.Basic
import PrinterRoster.Proofs.Manual.Queries

/-! The refreshes of a manual source. A refresh asks everybody who is saved when it begins, past the
cache and each once, and ends when all have been asked and their queries have ended. As there is one
watcher at most, there is one refresh at most; with the last listener the watcher goes, the open
queries are dropped, and nobody hears anything before somebody listens again. -/
namespace PrinterRoster

inductive Refresh.Fate
  | underWay
  | complete
  | aborted
deriving DecidableEq

structure Refresh where
  printers : List Printer
  waiting : List SavedQuery
  fetches : List Probe.Fetch
  fate : Refresh.Fate

namespace Refresh

def isUnderWay (refresh : Refresh) : Bool := refresh.fate = .underWay

def begin (saved : List SavedPrinter) (isOpen : List SavedQuery) : Refresh :=
  ⟨saved.map SavedPrinter.printer, isOpen, [], if isOpen.isEmpty then .complete else .underWay⟩

def ask (refresh : Refresh) (query : SavedQuery) : Refresh :=
  { refresh with waiting := refresh.waiting.erase query, fetches := refresh.fetches ++ [query.fetch] }

def after (refresh : Refresh) (move : Follower.Move) (left : List SavedQuery) : Refresh :=
  if refresh.isUnderWay && left.isEmpty then
    { refresh with
      fate := match move with
        | .queryEnded .. => .complete
        | _ => .aborted }
  else refresh

/-- Every saved printer was asked past the cache, or is to be, each once. -/
structure Accounted (refresh : Refresh) : Prop where
  once : (refresh.fetches ++ refresh.waiting.map SavedQuery.fetch).Perm
    (refresh.printers.map fun printer => ⟨printer.path, true⟩)
  complete : refresh.fate = .complete → refresh.waiting = []

private theorem Accounted.ask {refresh : Refresh} (accounted : refresh.Accounted)
    (underWay : refresh.isUnderWay = true) {query : SavedQuery} (waits : query ∈ refresh.waiting) :
    (refresh.ask query).Accounted where
  once := by
    have begun := (List.perm_cons_erase waits).map SavedQuery.fetch
    have moved : (refresh.fetches ++ [query.fetch] ++
        (refresh.waiting.erase query).map SavedQuery.fetch).Perm
          (refresh.fetches ++ refresh.waiting.map SavedQuery.fetch) := by
      rw [List.append_assoc]
      exact begun.symm.append_left refresh.fetches
    exact moved.trans accounted.once
  complete := by
    intro complete
    cases (of_decide_eq_true underWay).symm.trans complete

theorem accounted_begin (saved : List SavedPrinter) :
    (begin saved (saved.mapIdx fun number saved => ⟨number, saved.printer⟩)).Accounted where
  once := by
    have same : (saved.mapIdx fun number saved => (⟨number, saved.printer⟩ : SavedQuery)).map
        SavedQuery.fetch = (saved.map SavedPrinter.printer).map fun printer => ⟨printer.path, true⟩ := by
      refine List.ext_getElem (by simp) fun number _ _ => ?_
      simp [SavedQuery.fetch]
    rw [begin, List.nil_append, same]
  complete := by
    intro complete
    dsimp only [begin] at complete ⊢
    split at complete
    · rename_i nobody
      exact List.isEmpty_iff.1 nobody
    · cases complete

private theorem after_of_open {left : List SavedQuery} (somebody : left ≠ []) (refresh : Refresh)
    (move : Follower.Move) : refresh.after move left = refresh := by
  simp [after, somebody]

theorem isUnderWay_after_nil (refresh : Refresh) (move : Follower.Move) :
    (refresh.after move []).isUnderWay = false := by
  unfold after
  split
  · cases move <;> rfl
  · rename_i settled
    simpa using settled

private theorem Accounted.after {refresh : Refresh} (accounted : refresh.Accounted)
    {move : Follower.Move}
    {left : List SavedQuery}
    (done : refresh.isUnderWay = true → left = [] →
      ∀ number answered, move = .queryEnded number answered → refresh.waiting = []) :
    (refresh.after move left).Accounted := by
  unfold Refresh.after
  split
  · rename_i ends
    rw [Bool.and_eq_true, List.isEmpty_iff] at ends
    refine ⟨accounted.once, fun complete => ?_⟩
    cases move with
    | queryEnded number answered => exact done ends.1 ends.2 number answered rfl
    | _ => cases complete
  · exact accounted

end Refresh

structure RefreshLog where
  follower : Follower
  refreshes : List Refresh

namespace RefreshLog

inductive Move
  | asks (query : SavedQuery)
  | makes (move : Follower.Move)

def begin (file : StoredFile) (signal : Option Signal) : RefreshLog := ⟨.begin file signal, []⟩

def waiting (log : RefreshLog) : List SavedQuery :=
  (log.refreshes.filter Refresh.isUnderWay).flatMap Refresh.waiting

/-- A query does not end before its fetch has begun. -/
def allows (log : RefreshLog) : Follower.Move → Bool
  | .queryEnded number _ => log.waiting.all (·.number ≠ number)
  | _ => true

def begins (log : RefreshLog) : Follower.Move → Bool
  | .look => log.follower.source.attends log.follower.signal && !log.follower.isDown
  | _ => false

def made (log : RefreshLog) (move : Follower.Move) : RefreshLog :=
  let next := (log.follower.move move).1
  let left := next.source.openQueries
  let earlier := log.refreshes.map (·.after move left)
  ⟨next, if log.begins move then .begin log.follower.source.saved left :: earlier else earlier⟩

def move (log : RefreshLog) : Move → RefreshLog
  | .asks query =>
    { log with
      refreshes := log.refreshes.map fun refresh =>
        if refresh.isUnderWay && refresh.waiting.contains query then refresh.ask query else refresh }
  | .makes move => if log.allows move then log.made move else log

def told (log : RefreshLog) : Move → List Delivery
  | .asks _ => []
  | .makes move => if log.allows move then (log.follower.move move).2 else []

def heard (log : RefreshLog) : List Move → List Delivery
  | [] => []
  | first :: later => log.told first ++ (log.move first).heard later

theorem begins_iff {log : RefreshLog} {move : Follower.Move} :
    log.begins move = true ↔ log.follower.Refreshes move := by
  unfold begins Follower.Refreshes
  split
  · simp
  · rename_i other
    exact iff_of_false Bool.false_ne_true fun refreshes => other refreshes.1

/-- The refreshes of a log fit its follower: one is under way exactly while queries are open, and it
is the latest. -/
structure Sound (log : RefreshLog) : Prop where
  hub : log.follower.source.hub.Sound
  unheard : log.follower.Unheard
  accounted : ∀ refresh ∈ log.refreshes, refresh.Accounted
  idle : log.follower.source.openQueries = [] → ∀ refresh ∈ log.refreshes,
    refresh.isUnderWay = false
  busy : log.follower.source.openQueries ≠ [] → ∃ current earlier,
    log.refreshes = current :: earlier ∧ current.isUnderWay = true ∧
      (∀ refresh ∈ earlier, refresh.isUnderWay = false) ∧
      (∀ query ∈ current.waiting, query ∈ log.follower.source.openQueries) ∧
      ∀ query ∈ log.follower.source.openQueries, query.printer ∈ current.printers ∧
        (query ∈ current.waiting ∨ query.fetch ∈ current.fetches)

theorem sound_begin (file : StoredFile) (signal : Option Signal) : (begin file signal).Sound where
  hub := Follower.hubSound_begin file signal
  unheard := fun _ => rfl
  accounted := nofun
  idle := nofun
  busy := fun asked => absurd rfl asked

section Step
variable {log : RefreshLog}

private theorem Sound.open_of_waiting (sound : log.Sound) {refresh : Refresh}
    (member : refresh ∈ log.refreshes) (underWay : refresh.isUnderWay = true) {query : SavedQuery}
    (waits : query ∈ refresh.waiting) : query ∈ log.follower.source.openQueries := by
  by_cases nobody : log.follower.source.openQueries = []
  · cases (sound.idle nobody refresh member).symm.trans underWay
  · obtain ⟨current, earlier, logged, _, settled, isOpen, _⟩ := sound.busy nobody
    rw [logged] at member
    rcases List.mem_cons.1 member with rfl | before
    · exact isOpen query waits
    · cases (settled refresh before).symm.trans underWay

/-- The query that ends is none that waits to begin. -/
theorem allowed_number {number : Nat} {answered : Bool}
    (allowed : log.allows (.queryEnded number answered) = true) {refresh : Refresh}
    (member : refresh ∈ log.refreshes) (underWay : refresh.isUnderWay = true) {query : SavedQuery}
    (waits : query ∈ refresh.waiting) : query.number ≠ number := by
  have listed : query ∈ log.waiting :=
    List.mem_flatMap.2 ⟨refresh, List.mem_filter.2 ⟨member, underWay⟩, waits⟩
  exact of_decide_eq_true (List.all_eq_true.1 allowed query listed)

private theorem Sound.asks (sound : log.Sound) (query : SavedQuery) :
    (log.move (.asks query)).Sound where
  hub := sound.hub
  unheard := sound.unheard
  accounted := by
    intro refresh member
    obtain ⟨before, logged, rfl⟩ := List.mem_map.1 member
    split
    · rename_i waits
      rw [Bool.and_eq_true, List.contains_iff_mem] at waits
      exact (sound.accounted before logged).ask waits.1 waits.2
    · exact sound.accounted before logged
  idle := by
    intro nobody refresh member
    obtain ⟨before, logged, rfl⟩ := List.mem_map.1 member
    split <;> exact sound.idle nobody before logged
  busy := by
    intro somebody
    obtain ⟨current, earlier, logged, underWay, settled, isOpen, asked⟩ := sound.busy somebody
    -- Only the latest refresh is under way, so whatever begins to be fetched is one of its queries.
    have same : earlier.map (fun refresh =>
        if refresh.isUnderWay && refresh.waiting.contains query then refresh.ask query
        else refresh) = earlier := by
      refine (List.map_congr_left fun refresh member => ?_).trans (List.map_id _)
      rw [settled refresh member]
      rfl
    dsimp only [move]
    rw [logged, List.map_cons, same, underWay, Bool.true_and]
    refine ⟨_, earlier, rfl, ?_, settled, ?_, ?_⟩
    · split <;> exact underWay
    · split
      · exact fun other waits => isOpen other (List.mem_of_mem_erase waits)
      · exact isOpen
    · intro other member
      obtain ⟨known, begun⟩ := asked other member
      split
      · refine ⟨known, ?_⟩
        by_cases same : other = query
        · rw [same]
          exact Or.inr (List.mem_append_right _ (List.mem_singleton_self _))
        · exact begun.imp (List.mem_erase_of_ne same).2 (List.mem_append_left _)
      · exact ⟨known, begun⟩

private theorem Sound.made (sound : log.Sound) {move : Follower.Move}
    (allowed : log.allows move = true) : (log.made move).Sound where
  hub := Follower.hubSound_move sound.hub move
  unheard := sound.unheard.move move
  accounted := by
    have others : ∀ refresh ∈ log.refreshes,
        (refresh.after move (log.follower.move move).1.source.openQueries).Accounted := by
      intro refresh member
      refine (sound.accounted refresh member).after ?_
      rintro underWay nobody number answered rfl
      -- Whoever waited would be open still, as another query has ended.
      refine List.eq_nil_iff_forall_not_mem.2 fun query waits => ?_
      have other : query.number ≠ number := allowed_number allowed member underWay waits
      have isOpen := sound.open_of_waiting member underWay waits
      have left : query ∈ (log.follower.move (.queryEnded number answered)).1.source.openQueries := by
        rw [Follower.move, Follower.after, ManualSource.openQueries_queryEnded]
        exact List.mem_filter.2 ⟨isOpen, decide_eq_true other⟩
      rw [nobody] at left
      cases left
    intro refresh member
    dsimp only [RefreshLog.made] at member
    split at member
    · rename_i begins
      rcases List.mem_cons.1 member with rfl | before
      · cases log.follower.queryChange_move move with
        | began refreshes everybody =>
          rw [everybody]
          exact Refresh.accounted_begin ..
        | kept same idle runs => exact absurd (begins_iff.1 begins) idle
        | dropped nobody idle runs => exact absurd (begins_iff.1 begins) idle
        | ended number answered ends others => cases ends ▸ begins
      · obtain ⟨old, logged, rfl⟩ := List.mem_map.1 before
        exact others old logged
    · obtain ⟨old, logged, rfl⟩ := List.mem_map.1 member
      exact others old logged
  idle := by
    intro nobody refresh member
    have nobody : (log.follower.move move).1.source.openQueries = [] := nobody
    dsimp only [RefreshLog.made] at member
    rw [nobody] at member
    split at member
    · rcases List.mem_cons.1 member with rfl | before
      · rfl
      · obtain ⟨old, _, rfl⟩ := List.mem_map.1 before
        exact Refresh.isUnderWay_after_nil ..
    · obtain ⟨old, _, rfl⟩ := List.mem_map.1 member
      exact Refresh.isUnderWay_after_nil ..
  busy := by
    intro somebody
    have somebody : (log.follower.move move).1.source.openQueries ≠ [] := somebody
    -- No refresh ends while a query is left, so at most a new one comes before the others.
    have same : log.refreshes.map
        (·.after move (log.follower.move move).1.source.openQueries) = log.refreshes := by
      refine (List.map_congr_left fun refresh _ => ?_).trans (List.map_id _)
      exact Refresh.after_of_open somebody refresh move
    dsimp only [RefreshLog.made]
    rw [same]
    have change := log.follower.queryChange_move move
    generalize (log.follower.move move).1.source.openQueries = left at somebody change
    have continues : ¬ log.follower.Refreshes move → ¬ log.begins move = true :=
      mt begins_iff.1
    cases change with
    | kept kept idle runs =>
      rw [if_neg (continues idle), kept]
      exact sound.busy (kept ▸ somebody)
    | dropped nobody => exact absurd nobody somebody
    | ended number answered ends others =>
      subst ends others
      rw [if_neg (continues fun refreshes => by cases refreshes.1)]
      have before : log.follower.source.openQueries ≠ [] := fun nobody => somebody (by rw [nobody]; rfl)
      obtain ⟨current, earlier, logged, underWay, settled, isOpen, asked⟩ := sound.busy before
      refine ⟨current, earlier, logged, underWay, settled, fun query waits => ?_, fun query member => ?_⟩
      · have member : current ∈ log.refreshes := logged ▸ List.mem_cons_self
        exact List.mem_filter.2 ⟨isOpen query waits,
          decide_eq_true (allowed_number allowed member underWay waits)⟩
      · exact asked query (List.mem_filter.1 member).1
    | began refreshes everybody =>
      rw [if_pos (begins_iff.2 refreshes)]
      refine ⟨_, _, rfl, ?_, sound.idle (Follower.openQueries_of_refreshes refreshes), ?_, ?_⟩
      · simp [Refresh.begin, Refresh.isUnderWay, somebody]
      · exact fun query waits => waits
      · intro query member
        refine ⟨?_, Or.inl member⟩
        rw [everybody] at member
        obtain ⟨number, inside, rfl⟩ := List.mem_mapIdx.1 member
        exact List.mem_map_of_mem (List.getElem_mem inside)

theorem Sound.move (sound : log.Sound) (move : Move) : (log.move move).Sound := by
  cases move with
  | asks query => exact sound.asks query
  | makes move =>
    dsimp only [RefreshLog.move]
    split
    · rename_i allowed
      exact sound.made allowed
    · exact sound

private theorem Sound.single (sound : log.Sound) : log.refreshes.countP Refresh.isUnderWay ≤ 1 := by
  have settled : ∀ refreshes : List Refresh, (∀ refresh ∈ refreshes, refresh.isUnderWay = false) →
      refreshes.countP Refresh.isUnderWay = 0 := fun refreshes settled => by
    simpa [List.countP_eq_zero] using settled
  by_cases nobody : log.follower.source.openQueries = []
  · rw [settled _ (sound.idle nobody)]
    exact Nat.zero_le 1
  · obtain ⟨current, earlier, logged, underWay, ended, _⟩ := sound.busy nobody
    rw [logged, List.countP_cons_of_pos underWay, settled earlier ended]

private theorem Sound.none_unheard (sound : log.Sound)
    (nobody : log.follower.source.hub.listeners = []) :
    log.refreshes.countP Refresh.isUnderWay = 0 := by
  have asked : log.follower.source.openQueries = [] := by
    simp only [ManualSource.openQueries, sound.unheard nobody]
  simpa [List.countP_eq_zero] using sound.idle asked

/-- Who is asked by a refresh is who is saved when it begins. -/
theorem Sound.begun (sound : log.Sound) {move : Follower.Move}
    (refreshes : log.follower.Refreshes move) :
    ∃ fresh, (log.move (.makes move)).refreshes = fresh :: log.refreshes ∧
      fresh.printers = log.follower.source.saved.map SavedPrinter.printer := by
  have allowed : log.allows move = true := by
    rw [refreshes.1]
    rfl
  have idle := sound.idle (Follower.openQueries_of_refreshes refreshes)
  have same : log.refreshes.map
      (·.after move (log.follower.move move).1.source.openQueries) = log.refreshes := by
    refine (List.map_congr_left fun refresh member => ?_).trans (List.map_id _)
    simp [Refresh.after, idle refresh member]
  refine ⟨.begin log.follower.source.saved (log.follower.move move).1.source.openQueries, ?_, rfl⟩
  rw [RefreshLog.move, if_pos allowed, RefreshLog.made, same, if_pos (begins_iff.2 refreshes)]

/-- Whoever is told as found is told of a printer that was visible before, was added, or has answered
in the refresh under way. -/
theorem Sound.found_cases (sound : log.Sound) {move : Move} {delivery : Delivery}
    {printer : Printer} (told : delivery ∈ log.told move)
    (found : delivery.sighting = .found printer) :
    (move = .makes (.start delivery.listener) ∧
        delivery.listener ∉ log.follower.source.hub.listeners ∧
          ∃ path, log.follower.visibleAt? path = some printer) ∨
      (∃ now, move = .makes (.add (.ok (.found printer true)) now)) ∨
        ∃ number current, move = .makes (.queryEnded number true) ∧
          log.follower.Answers (.queryEnded number true) printer ∧
            log.refreshes.head? = some current ∧ current.isUnderWay = true ∧
              printer ∈ current.printers ∧ ⟨printer.path, true⟩ ∈ current.fetches := by
  cases move with
  | asks query => cases told
  | makes move =>
    dsimp only [RefreshLog.told] at told
    split at told
    · rename_i allowed
      rcases Follower.replayed_or_reported sound.hub told found with
        ⟨rfl, comes, shown⟩ | reported
      · exact Or.inl ⟨rfl, comes, shown⟩
      · rcases Follower.report?_eq_found_iff.1 reported with ⟨now, rfl⟩ | answers
        · exact Or.inr (Or.inl ⟨now, rfl⟩)
        · have answer := answers
          obtain ⟨number, rfl, query, isAsked, rfl⟩ := answers
          rw [ManualSource.query?, Option.mem_def] at isAsked
          have isOpen : query ∈ log.follower.source.openQueries := List.mem_of_find?_eq_some isAsked
          have numbered : query.number = number := by simpa using List.find?_some isAsked
          obtain ⟨current, earlier, logged, underWay, _, _, asked⟩ :=
            sound.busy (List.ne_nil_of_mem isOpen)
          obtain ⟨known, waits | begun⟩ := asked query isOpen
          · have member : current ∈ log.refreshes := logged ▸ List.mem_cons_self
            exact absurd numbered (allowed_number allowed member underWay waits)
          · exact Or.inr (Or.inr ⟨number, current, rfl, answer, by rw [logged]; rfl, underWay, known,
              begun⟩)
    · cases told

private theorem heard_of_unheard (nobody : log.follower.source.hub.listeners = [])
    {moves : List Move}
    (alone : ∀ move ∈ moves, ∀ listener, move ≠ .makes (.start listener)) : log.heard moves = [] := by
  induction moves generalizing log with
  | nil => rfl
  | cons first later ih =>
    have others : ∀ move ∈ later, ∀ listener, move ≠ .makes (.start listener) :=
      fun move member => alone move (List.mem_cons_of_mem _ member)
    rw [heard]
    cases first with
    | asks query => exact ih nobody others
    | makes move =>
      have stays : ∀ listener, move ≠ .start listener :=
        fun listener same => alone _ List.mem_cons_self listener (by rw [same])
      obtain ⟨silent, stillNobody⟩ := Follower.silent_of_unheard nobody stays
      dsimp only [told, RefreshLog.move]
      split
      · rw [silent, List.nil_append]
        exact ih stillNobody others
      · exact ih nobody others

end Step

theorem sound_run (file : StoredFile) (signal : Option Signal) (moves : List Move) :
    (stateAfter move (begin file signal) moves).Sound :=
  holds_stateAfter Sound (sound_begin file signal) fun _ sound move _ => sound.move move

/-- At most one refresh is under way, and none while nobody listens. A refresh makes one fetch past
the cache for each printer that is saved when it begins: all of them, once it is complete. A listener
is told as found what is visible when it comes, what is added, and what answers in the refresh under
way. When the last listener leaves, the open queries are dropped, it alone is told of what was visible
as lost, nothing is visible any more, and nobody hears anything before somebody comes to listen. -/
theorem one_refresh_at_a_time (file : StoredFile) (signal : Option Signal) (moves : List Move) :
    let log := stateAfter move (begin file signal) moves
    let source := log.follower.source
    log.refreshes.countP Refresh.isUnderWay ≤ 1 ∧
      (source.hub.listeners = [] → log.refreshes.countP Refresh.isUnderWay = 0) ∧
      (∀ move, log.follower.Refreshes move → ∃ fresh,
        (log.move (.makes move)).refreshes = fresh :: log.refreshes ∧
          fresh.printers = source.saved.map SavedPrinter.printer) ∧
      (∀ refresh ∈ log.refreshes,
        (refresh.fetches ++ refresh.waiting.map SavedQuery.fetch).Perm
            (refresh.printers.map fun printer => ⟨printer.path, true⟩) ∧
          (refresh.fate = .complete → refresh.waiting = [])) ∧
      (∀ move, ∀ delivery ∈ log.told move, ∀ printer, delivery.sighting = .found printer →
        (move = .makes (.start delivery.listener) ∧ delivery.listener ∉ source.hub.listeners ∧
            ∃ path, log.follower.visibleAt? path = some printer) ∨
          (∃ now, move = .makes (.add (.ok (.found printer true)) now)) ∨
            ∃ number current, move = .makes (.queryEnded number true) ∧
              log.follower.Answers (.queryEnded number true) printer ∧
                log.refreshes.head? = some current ∧ current.isUnderWay = true ∧
                  printer ∈ current.printers ∧ ⟨printer.path, true⟩ ∈ current.fetches) ∧
      ∀ listener, source.hub.listeners = [listener] →
        let stop := Move.makes (.stop listener)
        let stopped := log.move stop
        stopped.follower.source.openQueries = [] ∧
          log.told stop = (source.hub.visible.values.map fun printer => ⟨listener, .lost printer⟩) ∧
          stopped.follower.source.hub = .empty ∧
          ∀ later : List Move, (∀ move ∈ later, ∀ other, move ≠ .makes (.start other)) →
            stopped.heard later = [] := by
  intro log source
  have sound : log.Sound := sound_run file signal moves
  refine ⟨sound.single, sound.none_unheard, fun _ => sound.begun,
    fun refresh member => ⟨(sound.accounted refresh member).once,
      (sound.accounted refresh member).complete⟩,
    fun _ _ told _ found => sound.found_cases told found, fun listener last => ?_⟩
  intro stop stopped
  have left := Follower.move_of_last_stop last
  have after : stopped.follower = (log.follower.move (.stop listener)).1 := rfl
  have said : log.told stop = (log.follower.move (.stop listener)).2 := rfl
  rw [left] at after said
  refine ⟨by rw [after]; rfl, said, by rw [after], fun later alone => ?_⟩
  exact heard_of_unheard (by rw [after]; rfl) alone

end RefreshLog

end PrinterRoster
