import PrinterRoster.Proofs.Manual.Watching

/-! What the latest refresh has to do with what is visible. A refresh reports those who answer, and
hides nothing: a printer that was visible before and has fallen silent stays visible. Whatever else is
visible has answered since, or was added since. -/
namespace PrinterRoster

def Watcher.Unrefreshed (signal : Option Signal) : Watcher → Prop
  | .absent => True
  | .due => True
  | .refreshing _ _ => False
  | .waiting seen => ∃ given ∈ signal, given.version = seen → given.online = false
  | .done => ∃ given ∈ signal, given.online = false

private theorem Watcher.Unrefreshed.later {watcher : Watcher} {signal : Option Signal}
    {change : Signal → Signal} (unrefreshed : watcher.Unrefreshed signal)
    (heeds : ∀ given ∈ signal, watcher.Heeds given)
    (precedes : ∀ given : Signal, given.Precedes (change given)) :
    watcher.Unrefreshed (signal.map change) := by
  cases watcher with
  | absent => trivial
  | due => trivial
  | refreshing seen isOpen => exact unrefreshed
  | waiting seen =>
    obtain ⟨given, followed, down⟩ := unrefreshed
    refine ⟨change given, Option.mem_map_of_mem change followed, fun current => ?_⟩
    -- Versions only grow, so the signal was not set since if it is the version that was seen.
    have seenBefore : seen ≤ given.version := heeds given followed
    have same : given.version = (change given).version :=
      Nat.le_antisymm (precedes given).version (current ▸ seenBefore)
    rw [(precedes given).same same]
    exact down (same.trans current)
  | done =>
    obtain ⟨given, followed, down⟩ := unrefreshed
    refine ⟨change given, Option.mem_map_of_mem change followed, ?_⟩
    rw [(precedes given).closed (heeds given followed)]
    exact down

namespace Follower

theorem unrefreshed_move {follower : Follower} (sound : follower.Sound)
    (unrefreshed : follower.source.watcher.Unrefreshed follower.signal) {move : Move}
    (idle : ¬ follower.Refreshes move) :
    (follower.move move).1.source.watcher.Unrefreshed (follower.move move).1.signal := by
  obtain ⟨change, precedes, changed⟩ := follower.signal_move move
  rw [changed]
  refine Watcher.Unrefreshed.later ?_ (fun _ => sound.heeds_move move) precedes
  have becomes := follower.watcherChange_move move
  generalize (follower.move move).1.source.watcher = watcher at becomes
  cases becomes with
  | kept => exact unrefreshed
  | setOff => trivial
  | gone => trivial
  | sawDown signal attends followed down => exact ⟨signal, followed, fun _ => down⟩
  | began isOpen refreshes => exact absurd refreshes idle
  | askedNobody refreshes => exact absurd refreshes idle
  | gaveUp signal followed closed waits =>
    rw [waits] at unrefreshed
    obtain ⟨given, known, down⟩ := unrefreshed
    obtain rfl := Option.some.inj (followed.symm.trans known)
    exact ⟨signal, followed, down rfl⟩
  | ended number answered seen isOpen left refreshing =>
    rw [refreshing] at unrefreshed
    exact unrefreshed.elim
  | endedLast number answered seen isOpen refreshing =>
    rw [refreshing] at unrefreshed
    exact unrefreshed.elim

theorem unrefreshed_run {follower : Follower} (sound : follower.Sound)
    (unrefreshed : follower.source.watcher.Unrefreshed follower.signal) {moves : List Move}
    (idle : ¬ Happens next follower moves Refreshes) :
    (stateAfter next follower moves).source.watcher.Unrefreshed
      (stateAfter next follower moves).signal := by
  induction moves using List.reverseRecOn with
  | nil => exact unrefreshed
  | append_singleton earlier move ih =>
    rw [happens_snoc, not_or] at idle
    rw [stateAfter_snoc]
    exact unrefreshed_move (sound.run earlier) (ih idle.1) idle.2

/-- If somebody listens, the network is up and the watcher has nothing to look at, there was a
refresh. -/
theorem Sound.refreshed {follower : Follower} (sound : follower.Sound)
    (heard : follower.source.hub.hasListeners = true) (up : follower.isDown = false)
    (settled : follower.source.isDue follower.signal = false) :
    ¬ follower.source.watcher.Unrefreshed follower.signal := by
  intro unrefreshed
  have noSignalDown : ∀ given ∈ follower.signal, given.online = true := by
    intro given followed
    simpa [isDown, Option.mem_def.1 followed] using up
  cases watches : follower.source.watcher with
  | absent => exact sound.watched heard watches
  | due => simp [ManualSource.isDue, watches] at settled
  | refreshing seen isOpen =>
    rw [watches] at unrefreshed
    exact unrefreshed
  | waiting seen =>
    rw [watches] at unrefreshed
    obtain ⟨given, followed, down⟩ := unrefreshed
    have current : given.version = seen ∧ given.isOpen = true := by
      simpa [ManualSource.isDue, watches, Option.mem_def.1 followed, Signal.hasNews] using settled
    cases (down current.1).symm.trans (noSignalDown given followed)
  | done =>
    rw [watches] at unrefreshed
    obtain ⟨given, followed, down⟩ := unrefreshed
    cases down.symm.trans (noSignalDown given followed)

/-- The moves of a source part after the latest that began a refresh, and there is one if somebody
listens, the network is up and the watcher has nothing to look at. Every visible printer has answered
since then, or was added since then, or was visible when that refresh began and all the time since. -/
theorem visible_since_latest_refresh (file : StoredFile) (signal : Option Signal)
    (moves : List Move) :
    let start := begin file signal
    let final := stateAfter next start moves
    ∃ before after, moves = before ++ after ∧
      (before = [] ∨
        ∃ earlier move, before = earlier ++ [move] ∧ (stateAfter next start earlier).Refreshes move) ∧
      ¬ Happens next (stateAfter next start before) after Refreshes ∧
      (final.source.hub.hasListeners = true → final.isDown = false →
        final.source.isDue final.signal = false → before ≠ []) ∧
      ∀ path, ∀ printer ∈ final.visibleAt? path,
        Happens next (stateAfter next start before) after (fun state move => state.Answers move printer) ∨
          Happens next (stateAfter next start before) after (fun _ move => move.Adds printer) ∨
            before ≠ [] ∧
              Throughout next (stateAfter next start before) after
                fun state => state.visibleAt? path = some printer := by
  intro start final
  obtain ⟨before, after, rfl, latest, since⟩ := exists_latest next start moves Refreshes
  have sound : start.Sound := sound_begin file signal
  refine ⟨before, after, rfl, latest, since, fun heard up settled => ?_, fun path printer visible => ?_⟩
  · rintro rfl
    exact (sound.run after).refreshed heard up settled (unrefreshed_run sound trivial since)
  · have shown : (stateAfter next (stateAfter next start before) after).visibleAt? path = some printer :=
      (stateAfter_append ..) ▸ visible
    rcases visible_cases shown with always | added | answered
    · refine Or.inr (Or.inr ⟨?_, always⟩)
      rintro rfl
      cases always.first
    · exact Or.inr (Or.inl added)
    · exact Or.inl answered

/-- A printer is added and falls silent. The first listener sets off a refresh, which ends without an
answer. The network is up, nothing is asked, and the printer is still visible. -/
theorem silent_printer_stays_visible :
    let office := Printer.report none "Office" "ipp://h" none
    let earlier : List Move := [.add (.ok (.found office true)) default, .start 0]
    let after : List Move := [.queryEnded 0 false]
    let begun := stateAfter next (begin .vacant none) (earlier ++ [.look])
    let final := stateAfter next begun after
    (stateAfter next (begin .vacant none) earlier).Refreshes .look ∧ ¬ Happens next begun after Refreshes ∧
      final.source.hub.hasListeners = true ∧ final.isDown = false ∧ final.source.openQueries = [] ∧
        final.source.isDue final.signal = false ∧ final.visibleAt? office.path = some office ∧
          ¬ Happens next begun after (fun state move => state.Answers move office) ∧
            ¬ Happens next begun after fun _ move => move.Adds office := by
  intro office earlier after begun final
  have split : after = [] ++ [.queryEnded 0 false] := rfl
  have only : ∀ event : Follower → Move → Prop,
      Happens next begun after event → event begun (.queryEnded 0 false) := by
    intro event occurs
    rw [split, happens_snoc] at occurs
    exact occurs.resolve_left (not_happens_nil)
  refine ⟨⟨rfl, by decide +kernel, by decide +kernel⟩, fun refreshes => ?_, by decide +kernel,
    by decide +kernel, by decide +kernel, by decide +kernel, by decide +kernel, fun answers => ?_,
    fun adds => ?_⟩
  · cases (only _ refreshes).1
  · obtain ⟨_, made, _⟩ := only _ answers
    cases made
  · obtain ⟨_, made⟩ := only _ adds
    cases made

end Follower
end PrinterRoster
