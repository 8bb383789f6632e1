import PrinterRoster.Proofs.Manual.Follower

/-! What becomes of a watcher. It is there while somebody listens. It never has seen a later version
of the signal than there is, and it looks at the signal only when no query is open: whatever happens to
the signal during a refresh is seen when the last query has ended. -/
namespace PrinterRoster

theorem Hub.hasListeners_iff {hub : Hub} : hub.hasListeners = true ↔ hub.listeners ≠ [] := by
  simp [hasListeners]

structure Signal.Precedes (before after : Signal) : Prop where
  version : before.version ≤ after.version
  same : before.version = after.version → after.online = before.online
  closed : before.isOpen = false → after = before

theorem Signal.Precedes.refl (signal : Signal) : signal.Precedes signal :=
  ⟨Nat.le_refl _, fun _ => rfl, fun _ => rfl⟩

def Watcher.Heeds (signal : Signal) : Watcher → Prop
  | .absent => True
  | .due => True
  | .refreshing seen isOpen => isOpen ≠ [] ∧ ∃ version ∈ seen, version ≤ signal.version
  | .waiting seen => seen ≤ signal.version
  | .done => signal.isOpen = false

private theorem Watcher.Heeds.later {watcher : Watcher} {before after : Signal}
    (heeds : watcher.Heeds before)
    (precedes : before.Precedes after) : watcher.Heeds after := by
  cases watcher with
  | absent => trivial
  | due => trivial
  | refreshing seen isOpen =>
    obtain ⟨more, version, known, le⟩ := heeds
    exact ⟨more, version, known, le.trans precedes.version⟩
  | waiting seen => exact Nat.le_trans heeds precedes.version
  | done =>
    have closed : before.isOpen = false := heeds
    rw [precedes.closed closed]
    exact closed

namespace Follower

def stirs (follower : Follower) : Move → Bool
  | .start listener => (follower.source.hub.addListener listener).edge
  | .stop listener => (follower.source.hub.removeListener listener).edge
  | .look => follower.source.attends follower.signal
  | _ => false

inductive WatcherChange (follower : Follower) : Move → Watcher → Prop
  | kept (move : Move) (idle : follower.stirs move = false) :
      WatcherChange follower move follower.source.watcher
  | setOff (listener : Listener) (edge : (follower.source.hub.addListener listener).edge = true) :
      WatcherChange follower (.start listener) .due
  | gone (listener : Listener) (edge : (follower.source.hub.removeListener listener).edge = true) :
      WatcherChange follower (.stop listener) .absent
  | sawDown (signal : Signal) (attends : follower.source.attends follower.signal = true)
      (followed : follower.signal = some signal) (down : signal.online = false) :
      WatcherChange follower .look (.waiting signal.version)
  | began (isOpen : List SavedQuery) (refreshes : follower.Refreshes .look) (asked : isOpen ≠ []) :
      WatcherChange follower .look (.refreshing (follower.signal.map Signal.version) isOpen)
  | askedNobody (refreshes : follower.Refreshes .look) :
      WatcherChange follower .look
        (ManualSource.afterRefresh (follower.signal.map Signal.version))
  | gaveUp (signal : Signal) (followed : follower.signal = some signal)
      (closed : signal.isOpen = false) (waits : follower.source.watcher = .waiting signal.version) :
      WatcherChange follower .look .done
  | ended (number : Nat) (answered : Bool) (seen : Option Nat) (isOpen left : List SavedQuery)
      (refreshing : follower.source.watcher = .refreshing seen isOpen) (more : left ≠ []) :
      WatcherChange follower (.queryEnded number answered) (.refreshing seen left)
  | endedLast (number : Nat) (answered : Bool) (seen : Option Nat) (isOpen : List SavedQuery)
      (refreshing : follower.source.watcher = .refreshing seen isOpen) :
      WatcherChange follower (.queryEnded number answered) (ManualSource.afterRefresh seen)

private theorem watcherChange_refresh {follower : Follower} (refreshes : follower.Refreshes .look) :
    WatcherChange follower .look
      (follower.source.refresh (follower.signal.map Signal.version)).watcher := by
  unfold ManualSource.refresh
  dsimp only
  split
  · exact .askedNobody refreshes
  · rename_i somebody
    exact .began _ refreshes (mt List.isEmpty_iff.2 somebody)

private theorem watcherChange_look (follower : Follower) :
    WatcherChange follower .look (follower.source.look follower.signal).1.watcher := by
  cases attends : follower.source.attends follower.signal with
  | false =>
    rcases ManualSource.look_of_not_attends attends with
      same | ⟨seen, signal, waits, followed, rfl, closed, same⟩
    · rw [same]
      exact .kept .look attends
    · rw [same]
      exact .gaveUp signal followed closed waits
  | true =>
    rw [ManualSource.look_of_attends attends]
    cases followed : follower.signal with
    | none =>
      have refreshes : follower.Refreshes .look := ⟨rfl, attends, by rw [isDown, followed]; rfl⟩
      have began := watcherChange_refresh refreshes
      rw [followed] at began
      exact began
    | some signal =>
      cases up : signal.online with
      | true =>
        have refreshes : follower.Refreshes .look :=
          ⟨rfl, attends, by rw [isDown, followed, Option.any_some, up]; rfl⟩
        have began := watcherChange_refresh refreshes
        rw [followed, Option.map_some] at began
        simpa only [ManualSource.attend, up, if_true] using began
      | false =>
        simpa only [ManualSource.attend, up, Bool.false_eq_true, if_false] using
          WatcherChange.sawDown signal attends followed up

private theorem watcherChange_queryEnded (follower : Follower) (number : Nat) (answered : Bool) :
    WatcherChange follower (.queryEnded number answered)
      (follower.source.queryEnded number answered).1.watcher := by
  have kept : WatcherChange follower (.queryEnded number answered) follower.source.watcher :=
    .kept _ rfl
  unfold ManualSource.queryEnded
  split
  · rename_i seen isOpen refreshing
    split
    · exact kept
    · have changed : WatcherChange follower (.queryEnded number answered)
          (if (isOpen.filter (·.number ≠ number)).isEmpty then ManualSource.afterRefresh seen
            else .refreshing seen (isOpen.filter (·.number ≠ number))) := by
        split
        · exact .endedLast number answered seen isOpen refreshing
        · rename_i more
          exact .ended number answered seen isOpen _ refreshing (mt List.isEmpty_iff.2 more)
      dsimp only
      split <;> exact changed
  · exact kept

theorem watcherChange_move (follower : Follower) (move : Move) :
    WatcherChange follower move (follower.move move).1.source.watcher := by
  cases move with
  | add probed now =>
    rw [Follower.move, after, ManualSource.watcher_attempt]
    exact .kept _ rfl
  | remove id =>
    rw [Follower.move, after, ManualSource.watcher_remove]
    exact .kept _ rfl
  | start listener =>
    rw [Follower.move, after, ManualSource.start]
    dsimp only
    cases edge : (follower.source.hub.addListener listener).edge with
    | true => exact .setOff listener edge
    | false => exact .kept _ edge
  | stop listener =>
    rw [Follower.move, after, ManualSource.stop_eq]
    cases edge : (follower.source.hub.removeListener listener).edge with
    | true => exact .gone listener edge
    | false => exact .kept _ edge
  | look => exact follower.watcherChange_look
  | queryEnded number answered => exact follower.watcherChange_queryEnded number answered
  | send online => exact .kept _ rfl
  | close => exact .kept _ rfl

/-- Unless listeners come or go, those who listen stay the same. -/
theorem listeners_move {follower : Follower} {move : Move} (reports : move.registers = false) :
    (follower.move move).1.source.hub.listeners = follower.source.hub.listeners := by
  have taken := congrArg (·.1.listeners) (follower.hub_move reports)
  dsimp only at taken
  rw [taken]
  cases follower.report? move with
  | none => rfl
  | some report => exact Hub.listeners_take ..

/-- What becomes of the signal in a move. -/
theorem signal_move (follower : Follower) (move : Move) :
    ∃ change : Signal → Signal, (∀ signal : Signal, signal.Precedes (change signal)) ∧
      (follower.move move).1.signal = follower.signal.map change := by
  cases move with
  | send online =>
    refine ⟨_, fun signal => ?_, rfl⟩
    split
    · rename_i isOpen
      exact ⟨Nat.le_succ _, fun same => absurd same (Nat.ne_of_lt (Nat.lt_succ_self _)),
        fun closed => by simp [isOpen] at closed⟩
    · exact .refl signal
  | close =>
    refine ⟨Signal.close, fun signal => ⟨Nat.le_refl _, fun _ => rfl, fun closed => ?_⟩, rfl⟩
    rw [Signal.close, ← closed]
  | _ => exact ⟨id, Signal.Precedes.refl, Option.map_id_apply.symm⟩

theorem precedes_move {follower : Follower} {move : Move} {signal : Signal}
    (followed : (follower.move move).1.signal = some signal) :
    ∃ before, follower.signal = some before ∧ before.Precedes signal := by
  obtain ⟨change, precedes, changed⟩ := follower.signal_move move
  obtain ⟨before, known, rfl⟩ := Option.map_eq_some_iff.1 (changed ▸ followed)
  exact ⟨before, known, precedes before⟩

/-- A source that is in order: somebody watches while somebody listens, and heeds the signal. -/
structure Sound (follower : Follower) : Prop where
  hub : follower.source.hub.Sound
  watched : follower.source.hub.hasListeners = true → follower.source.watcher ≠ .absent
  heeds : ∀ signal ∈ follower.signal, follower.source.watcher.Heeds signal

theorem sound_begin (file : StoredFile) (signal : Option Signal) : (begin file signal).Sound where
  hub := hubSound_begin file signal
  watched := nofun
  heeds := fun _ _ => trivial

theorem Sound.watched_move {follower : Follower} (sound : follower.Sound) {move : Move}
    (heard : (follower.move move).1.source.hub.hasListeners = true) :
    (follower.move move).1.source.watcher ≠ .absent := by
  have change := follower.watcherChange_move move
  generalize (follower.move move).1.source.watcher = watcher at change
  cases change with
  | kept _ idle =>
    -- Unless a first listener has come, somebody listened before who listens now.
    refine sound.watched ?_
    cases registers : move.registers with
    | true =>
      cases move with
      | start listener => simpa [stirs, Hub.edge_addListener] using idle
      | stop listener =>
        rw [stirs] at idle
        obtain ⟨other, member⟩ := List.exists_mem_of_ne_nil _ (Hub.hasListeners_iff.1 heard)
        rw [Follower.move, after, ManualSource.stop_eq, idle] at member
        exact Hub.hasListeners_of_mem (Hub.mem_listeners_removeListener.1 member).1
      | _ => cases registers
    | false =>
      rw [Hub.hasListeners, listeners_move registers] at heard
      exact heard
  | gone listener edge =>
    have nobody : (follower.source.hub.removeListener listener).hub.listeners = [] :=
      List.isEmpty_iff.1 (Bool.and_eq_true .. ▸ edge).2
    rw [Follower.move, after, ManualSource.stop_eq, if_pos edge] at heard
    exact absurd nobody (Hub.hasListeners_iff.1 heard)
  | askedNobody refreshes => cases follower.signal <;> rintro ⟨⟩
  | endedLast number answered seen isOpen refreshing => cases seen <;> rintro ⟨⟩
  | _ => rintro ⟨⟩

/-- What a watcher has seen after a move is of the signal as it was before. -/
theorem Sound.heeds_move {follower : Follower} (sound : follower.Sound) (move : Move)
    {before : Signal} (known : follower.signal = some before) :
    (follower.move move).1.source.watcher.Heeds before := by
  have heeds := sound.heeds before known
  have change := follower.watcherChange_move move
  generalize (follower.move move).1.source.watcher = watcher at change
  cases change with
  | kept => exact heeds
  | setOff => trivial
  | gone => trivial
  | sawDown signal attends same down =>
    obtain rfl := Option.some.inj (known.symm.trans same)
    exact Nat.le_refl before.version
  | began isOpen refreshes asked =>
    rw [known]
    exact ⟨asked, before.version, rfl, Nat.le_refl before.version⟩
  | askedNobody refreshes =>
    rw [known]
    exact Nat.le_refl before.version
  | gaveUp signal same closed waits =>
    obtain rfl := Option.some.inj (known.symm.trans same)
    exact closed
  | ended number answered seen isOpen left refreshing more =>
    rw [refreshing] at heeds
    exact ⟨more, heeds.2⟩
  | endedLast number answered seen isOpen refreshing =>
    rw [refreshing] at heeds
    obtain ⟨_, version, rfl, le⟩ := heeds
    exact le

theorem Sound.move {follower : Follower} (sound : follower.Sound) (move : Move) :
    (follower.move move).1.Sound where
  hub := hubSound_move sound.hub move
  watched := sound.watched_move
  heeds := by
    intro signal followed
    obtain ⟨before, known, precedes⟩ := precedes_move followed
    exact (sound.heeds_move move known).later precedes

theorem Sound.run {follower : Follower} (sound : follower.Sound) (moves : List Move) :
    (stateAfter next follower moves).Sound :=
  holds_stateAfter Sound sound fun _ sound move _ => sound.move move

end Follower
end PrinterRoster
