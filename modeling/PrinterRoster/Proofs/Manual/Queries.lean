import PrinterRoster.Proofs.Manual.Watching

/-! What becomes of the open queries of a manual source, and of the source once nobody listens. A
query is open from the beginning of a refresh until it ends, unless all are dropped. While nobody
listens nobody watches either, so no query is open and nobody hears anything. -/
namespace PrinterRoster

private theorem Hub.take_of_unheard {hub : Hub} (nobody : hub.listeners = []) (report : Report) :
    (hub.take report).2 = [] := by
  cases report with
  | found printer =>
    dsimp only [take, printerFound]
    split
    · rfl
    · simp [toAll, nobody]
  | lost path =>
    dsimp only [take, printerLost]
    split
    · rfl
    · simp [toAll, nobody]
  | allLost => simp [take, allPrintersLost, toAll, nobody]

namespace Follower

inductive QueryChange (follower : Follower) (move : Move) (left : List SavedQuery) : Prop
  | kept (same : left = follower.source.openQueries) (idle : ¬ follower.Refreshes move)
      (runs : ∀ number answered, move ≠ .queryEnded number answered)
  | dropped (nobody : left = []) (idle : ¬ follower.Refreshes move)
      (runs : ∀ number answered, move ≠ .queryEnded number answered)
  | ended (number : Nat) (answered : Bool) (ends : move = .queryEnded number answered)
      (others : left = follower.source.openQueries.filter (·.number ≠ number))
  | began (refreshes : follower.Refreshes move)
      (everybody : left = follower.source.saved.mapIdx fun number saved => ⟨number, saved.printer⟩)

theorem queryChange_move (follower : Follower) (move : Move) :
    QueryChange follower move (follower.move move).1.source.openQueries := by
  have idle : move ≠ .look → ¬ follower.Refreshes move := fun other refreshes => other refreshes.1
  cases move with
  | add probed now =>
    refine .kept ?_ (idle (by simp)) (by simp)
    rw [Follower.move, after, ManualSource.openQueries, ManualSource.watcher_attempt]
    rfl
  | remove id =>
    refine .kept ?_ (idle (by simp)) (by simp)
    rw [Follower.move, after, ManualSource.openQueries, ManualSource.watcher_remove]
    rfl
  | start listener =>
    rw [Follower.move, after, ManualSource.openQueries_start]
    split
    · exact .dropped rfl (idle (by simp)) (by simp)
    · exact .kept rfl (idle (by simp)) (by simp)
  | stop listener =>
    rw [Follower.move, after, ManualSource.stop_eq]
    split
    · exact .dropped rfl (idle (by simp)) (by simp)
    · exact .kept rfl (idle (by simp)) (by simp)
  | look =>
    have looked := follower.source.openQueries_look follower.signal
    rw [Follower.move, after, looked]
    split
    · rename_i attends
      rw [ManualSource.openQueries_attend]
      split
      · rename_i down
        exact .dropped rfl (fun refreshes => by cases refreshes.2.2.symm.trans down) (by simp)
      · rename_i up
        exact .began ⟨rfl, attends, Bool.eq_false_iff.2 up⟩ rfl
    · rename_i unconcerned
      exact .kept rfl (fun refreshes => unconcerned refreshes.2.1) (by simp)
  | queryEnded number answered =>
    exact .ended number answered rfl (follower.source.openQueries_queryEnded number answered)
  | send online => exact .kept rfl (idle (by simp)) (by simp)
  | close => exact .kept rfl (idle (by simp)) (by simp)

private theorem not_attends_of_absent {follower : Follower}
    (absent : follower.source.watcher = .absent) :
    follower.source.attends follower.signal = false := by
  simp only [ManualSource.attends, absent]

theorem openQueries_of_refreshes {follower : Follower} {move : Move}
    (refreshes : follower.Refreshes move) : follower.source.openQueries = [] := by
  obtain ⟨_, attends, _⟩ := refreshes
  unfold ManualSource.attends at attends
  unfold ManualSource.openQueries
  split
  · rename_i watches
    rw [watches] at attends
    cases attends
  · rfl

def Unheard (follower : Follower) : Prop :=
  follower.source.hub.listeners = [] → follower.source.watcher = .absent

theorem listeners_start (follower : Follower) (listener : Listener) :
    (follower.move (.start listener)).1.source.hub.listeners ≠ [] :=
  List.ne_nil_of_mem (Hub.mem_listeners_addListener.2 (Or.inr rfl))

private theorem listeners_stop (follower : Follower) (listener : Listener) :
    (follower.move (.stop listener)).1.source.hub.listeners =
      (follower.source.hub.removeListener listener).hub.listeners := by
  rw [Follower.move, after, ManualSource.stop_eq]
  split <;> rfl

theorem Unheard.move {follower : Follower} (unheard : follower.Unheard) (move : Move) :
    (follower.move move).1.Unheard := by
  intro nobody
  have change := follower.watcherChange_move move
  have before : move.registers = false → follower.source.watcher = .absent :=
    fun registers => unheard (listeners_move registers ▸ nobody)
  generalize (follower.move move).1.source.watcher = watcher at change
  cases change with
  | kept _ idle =>
    cases registers : move.registers with
    | false => exact before registers
    | true =>
      cases move with
      | start listener => exact absurd nobody (follower.listeners_start listener)
      | stop listener =>
        -- The watcher stays, so it was not the last one who left.
        refine unheard (by_contra fun somebody => ?_)
        have edge := Hub.edge_removeListener follower.source.hub listener
        rw [Hub.hasListeners_iff.2 somebody, Hub.hasListeners, ← listeners_stop, nobody] at edge
        cases edge.symm.trans idle
      | _ => cases registers
  | setOff listener edge => exact absurd nobody (follower.listeners_start listener)
  | gone => rfl
  | sawDown signal attends =>
    cases (not_attends_of_absent (before rfl)).symm.trans attends
  | began isOpen refreshes =>
    cases (not_attends_of_absent (before rfl)).symm.trans refreshes.2.1
  | askedNobody refreshes =>
    cases (not_attends_of_absent (before rfl)).symm.trans refreshes.2.1
  | gaveUp signal followed closed waits => cases (before rfl).symm.trans waits
  | ended number answered seen isOpen left refreshing => cases (before rfl).symm.trans refreshing
  | endedLast number answered seen isOpen refreshing => cases (before rfl).symm.trans refreshing

/-- Nobody hears anything before somebody comes to listen. -/
theorem silent_of_unheard {follower : Follower} (nobody : follower.source.hub.listeners = [])
    {move : Move} (alone : ∀ listener, move ≠ .start listener) :
    (follower.move move).2 = [] ∧ (follower.move move).1.source.hub.listeners = [] := by
  cases registers : move.registers with
  | true =>
    cases move with
    | start listener => exact absurd rfl (alone listener)
    | stop listener =>
      have edge : (follower.source.hub.removeListener listener).edge = false := by
        rw [Hub.edge_removeListener, Hub.hasListeners, nobody]
        rfl
      rw [Follower.move, after, ManualSource.stop_eq, edge]
      exact ⟨rfl, by simp [Hub.removeListener, nobody]⟩
    | _ => cases registers
  | false =>
    refine ⟨?_, (listeners_move registers).trans nobody⟩
    have taken := congrArg Prod.snd (follower.hub_move registers)
    dsimp only at taken
    rw [taken]
    cases follower.report? move with
    | none => rfl
    | some report => exact Hub.take_of_unheard nobody report

/-- When the only listener leaves, it is told of every visible printer as lost, nobody is told
anything else, and nothing is open or visible any more. -/
theorem move_of_last_stop {follower : Follower} {listener : Listener}
    (last : follower.source.hub.listeners = [listener]) :
    follower.move (.stop listener) =
      (⟨{ follower.source with hub := .empty, watcher := .absent }, follower.signal⟩,
        follower.source.hub.visible.values.map fun printer => ⟨listener, .lost printer⟩) := by
  have left : (follower.source.hub.removeListener listener).hub.listeners = [] := by
    simp [Hub.removeListener, last]
  have edge : (follower.source.hub.removeListener listener).edge = true := by
    rw [Hub.edge_removeListener, Hub.hasListeners, Hub.hasListeners, left, last]
    rfl
  have gone : (⟨(follower.source.hub.removeListener listener).hub.listeners, Table.empty⟩ : Hub) =
      .empty := by
    rw [left]
    rfl
  rw [Follower.move, after, ManualSource.stop_eq, if_pos edge, gone]
  rfl

end Follower

end PrinterRoster
