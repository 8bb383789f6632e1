import PrinterRoster.Proofs.Session.Restart

/-! Found printers that are not visible any more. A hub keeps printers by path and a session
keeps them by id. A printer that takes over the path of one with another id is told of, but
that the other one is gone is told to nobody. So the other one stays found, until its id is
reported again or a start makes everything gone. All other printers that are found are
visible. -/
namespace PrinterRoster

def Hub.HasVisible (hub : Hub) (id : PrinterId) : Prop :=
  ∃ printer ∈ hub.visible.values, printer.id = id

namespace Hub

instance (hub : Hub) (id : PrinterId) : Decidable (hub.HasVisible id) :=
  inferInstanceAs (Decidable (∃ printer ∈ hub.visible.values, printer.id = id))

structure Displaces (hub : Hub) (newcomer : Printer) (id : PrinterId) : Prop where
  differs : newcomer.id ≠ id
  shown : hub.HasVisible id
  alone : ∀ printer ∈ hub.visible.values, printer.id = id → printer.path = newcomer.path

variable {hub : Hub} {id : PrinterId}

private theorem Sound.mem_values_found (sound : hub.Sound) {newcomer printer : Printer} :
    printer ∈ (hub.printerFound newcomer).1.visible.values ↔
      printer = newcomer ∨ printer ∈ hub.visible.values ∧ printer.path ≠ newcomer.path := by
  have after : (hub.printerFound newcomer).1.Sound := sound.take (.found newcomer)
  rw [after.mem_values, sound.mem_values, get?_printerFound]
  by_cases same : printer.path = newcomer.path
  · simp only [same, if_true, Option.some.injEq, ne_eq, not_true_eq_false, and_false, or_false]
    exact eq_comm
  · have other : printer ≠ newcomer := fun equal => same (congrArg Printer.path equal)
    simp [same, other]

/-- Only the id of a newcomer comes to be visible. -/
theorem Sound.hasVisible_found_iff (sound : hub.Sound) (newcomer : Printer) :
    (hub.printerFound newcomer).1.HasVisible id ↔
      newcomer.id = id ∨ ∃ printer ∈ hub.visible.values, printer.id = id ∧ printer.path ≠ newcomer.path := by
  simp only [HasVisible, sound.mem_values_found]
  constructor
  · rintro ⟨printer, rfl | ⟨member, elsewhere⟩, named⟩
    · exact Or.inl named
    · exact Or.inr ⟨printer, member, named, elsewhere⟩
  · rintro (named | ⟨printer, member, named, elsewhere⟩)
    · exact ⟨newcomer, Or.inl rfl, named⟩
    · exact ⟨printer, Or.inr ⟨member, elsewhere⟩, named⟩

theorem Sound.displaces_iff (sound : hub.Sound) (newcomer : Printer) :
    hub.Displaces newcomer id ↔ hub.HasVisible id ∧ ¬ (hub.printerFound newcomer).1.HasVisible id := by
  rw [sound.hasVisible_found_iff]
  constructor
  · rintro ⟨differs, shown, alone⟩
    refine ⟨shown, ?_⟩
    rintro (named | ⟨printer, member, named, elsewhere⟩)
    · exact differs named
    · exact elsewhere (alone printer member named)
  · rintro ⟨shown, hidden⟩
    rw [not_or] at hidden
    refine ⟨hidden.1, shown, fun printer member named => ?_⟩
    by_contra elsewhere
    exact hidden.2 ⟨printer, member, named, elsewhere⟩

/-- A report other than a sighting tells of each id that it hides. -/
theorem Sound.told_of_hidden (sound : hub.Sound) {report : Report} (seen : hub.HasVisible id)
    (hidden : ¬ (hub.take report).1.HasVisible id) (unseen : ∀ printer, report ≠ .found printer) :
    ∃ sighting ∈ hub.news report, sighting.printer.id = id := by
  obtain ⟨printer, member, named⟩ := seen
  cases report with
  | found newcomer => exact absurd rfl (unseen newcomer)
  | lost path =>
    have told : hub.visible.get? path = some printer := by
      by_contra elsewhere
      apply hidden
      refine ⟨printer, ?_, named⟩
      have kept : hub.visible.get? printer.path = some printer := sound.mem_values.1 member
      have apart : printer.path ≠ path := fun same => elsewhere (same ▸ kept)
      rw [(sound.take (.lost path)).mem_values, Hub.take, get?_printerLost, if_neg apart]
      exact kept
    simp [news, told, Sighting.printer, named]
  | allLost => exact ⟨.lost printer, List.mem_map_of_mem member, named⟩

/-- Only a sighting shows an id that was hidden. -/
theorem Sound.reported_of_shown (sound : hub.Sound) {report : Report} (hidden : ¬ hub.HasVisible id)
    (shown : (hub.take report).1.HasVisible id) :
    ∃ printer, printer.id = id ∧ report = .found printer := by
  cases report with
  | found newcomer =>
    rcases (sound.hasVisible_found_iff newcomer).1 shown with named | ⟨printer, member, named, _⟩
    · exact ⟨newcomer, named, rfl⟩
    · exact absurd ⟨printer, member, named⟩ hidden
  | lost path =>
    obtain ⟨printer, member, named⟩ := shown
    rw [(sound.take (.lost path)).mem_values, Hub.take, get?_printerLost,
      Option.ite_none_left_eq_some] at member
    exact absurd ⟨printer, sound.mem_values.2 member.2, named⟩ hidden
  | allLost =>
    obtain ⟨printer, member, _⟩ := shown
    cases member

end Hub

namespace Watch
open Session

def Move.follows : Move → Bool
  | .handle ⟨_, .stop⟩ => false
  | .handle ⟨_, .destroy⟩ => false
  | .handle ⟨_, .found _⟩ => false
  | .handle ⟨_, .lost _⟩ => false
  | .forget => false
  | _ => true

/-- The last visible printer of an id was displaced by another one, and none of the id was
reported since. -/
def LeftBehind (watch : Watch) (moves : List Move) (id : PrinterId) : Prop :=
  ∃ earlier newcomer later, moves = earlier ++ .report (.found newcomer) :: later ∧
    (stateAfter move watch earlier).hub.Displaces newcomer id ∧
      ∀ printer, printer.id = id → .report (.found printer) ∉ later

private theorem visible_handle (watch : Watch) (turn : Turn) :
    (watch.handle turn).hub.visible = watch.hub.visible := by
  have kept : ∀ (effects : List Effect) (other : Watch),
      (effects.foldl carryOut other).hub.visible = other.hub.visible := by
    intro effects
    induction effects with
    | nil => exact fun _ => rfl
    | cons effect others ih =>
      intro other
      rw [List.foldl_cons, ih]
      cases effect <;> simp [carryOut, tell, Hub.removeListener]
  exact kept _ _

theorem leftBehind_snoc {watch : Watch} {moves : List Move} {move : Move} {id : PrinterId}
    (left : watch.LeftBehind moves id)
    (unseen : ∀ printer, printer.id = id → move ≠ .report (.found printer)) :
    watch.LeftBehind (moves ++ [move]) id := by
  obtain ⟨earlier, newcomer, later, rfl, displaces, unreported⟩ := left
  refine ⟨earlier, newcomer, later ++ [move], by simp, displaces, ?_⟩
  intro printer named member
  rcases List.mem_append.1 member with before | last
  · exact unreported printer named before
  · exact unseen printer named (List.mem_singleton.1 last).symm

/-- Of the commands that follow only a start touches more than the session. -/
theorem quiet_of_follows {moment : Moment} {command : Command}
    (follows : (Move.handle ⟨moment, command⟩).follows = true)
    (unstarted : ¬ ∃ priority, command = .start priority) :
    (Move.handle ⟨moment, command⟩).allows PrinterId.text = true ∧
      (Move.handle ⟨moment, command⟩).switches = false := by
  cases command with
  | start priority => exact absurd ⟨priority, rfl⟩ unstarted
  | stop | destroy | found _ | lost _ => cases follows
  | track _ | untrack _ | answered _ _ | tick _ => exact ⟨rfl, rfl⟩

structure Registered (watch : Watch) : Prop where
  hub : watch.hub.Sound
  owned : watch.session.Owned
  lives : watch.session.destroyed = false
  listens : watch.listener ∈ watch.hub.listeners

section Step
variable {watch : Watch} (registered : watch.Registered)
include registered

theorem Registered.handle_start (moment : Moment) (priority : List PrinterId) :
    watch.handle ⟨moment, .start priority⟩ =
      { watch with session := (watch.session.start moment.now priority).1 } := by
  rw [Watch.handle_start, if_pos registered.listens, Hub.addListener_of_mem registered.listens,
    List.append_nil]

/-- A command changes nothing but the session. -/
theorem Registered.handle_eq {turn : Turn} (follows : (Move.handle turn).follows = true) :
    watch.handle turn =
      { watch with session := (watch.session.handle turn.moment turn.command).1 } := by
  obtain ⟨moment, command⟩ := turn
  by_cases starts : ∃ priority, command = .start priority
  · obtain ⟨priority, rfl⟩ := starts
    exact registered.handle_start moment priority
  · obtain ⟨allowed, stays⟩ := quiet_of_follows follows starts
    exact handle_of_allows allowed stays

/-- No command makes a printer be there. -/
theorem Registered.expects_of_handle {turn : Turn} (follows : (Move.handle turn).follows = true)
    {id : PrinterId} (expects : (watch.handle turn).Expects id) : watch.Expects id := by
  obtain ⟨moment, command⟩ := turn
  by_cases starts : ∃ priority, command = .start priority
  · obtain ⟨priority, rfl⟩ := starts
    rw [registered.handle_start, Expects] at expects
    rw [Expects]
    cases told : latest? watch.pending id with
    | some sighting =>
      rw [told] at expects
      exact expects
    | none =>
      rw [told, Option.elim_none] at expects
      exact absurd expects (not_here_start watch.session moment.now priority id)
  · obtain ⟨allowed, stays⟩ := quiet_of_follows follows starts
    exact (expects_handle registered.owned registered.lives allowed stays id).1 expects

private theorem Registered.handle {turn : Turn} (follows : (Move.handle turn).follows = true) :
    (watch.handle turn).Registered := by
  have goesOn : turn.command ≠ .destroy := by
    obtain ⟨moment, command⟩ := turn
    rintro rfl
    cases follows
  rw [registered.handle_eq follows]
  exact ⟨registered.hub, owned_handle registered.owned _ _,
    (handle_keeps watch.session turn.moment goesOn).2.trans registered.lives, registered.listens⟩

private theorem Registered.deliver (moment : Moment) : (watch.deliver moment).Registered := by
  rw [deliver_eq]
  obtain ⟨hub, owned, lives, listens⟩ := registered
  cases watch.pending with
  | nil => exact ⟨hub, owned, lives, listens⟩
  | cons first others =>
    have goesOn : Command.ofSighting first ≠ .destroy := by cases first <;> exact nofun
    exact ⟨hub, owned_handle owned _ _, (handle_keeps watch.session moment goesOn).2.trans lives, listens⟩

theorem Registered.move {move : Move} (follows : move.follows = true) : (watch.move move).Registered := by
  cases move with
  | handle turn => exact registered.handle follows
  | deliver moment => exact registered.deliver moment
  | report report =>
    refine ⟨registered.hub.take report, registered.owned, registered.lives, ?_⟩
    simpa [Watch.move, tell] using registered.listens
  | forget => cases follows

private theorem Registered.pending_report (report : Hub.Report) :
    (watch.move (.report report)).pending = watch.pending ++ watch.hub.news report := by
  rw [Watch.move, tell, Hub.told_take registered.hub, if_pos registered.listens]

/-- What a move of the source makes expected is visible. -/
theorem Registered.expects_report {report : Hub.Report} {id : PrinterId}
    (expects : (watch.move (.report report)).Expects id) :
    (watch.hub.take report).1.HasVisible id ∨
      watch.Expects id ∧ ∀ sighting ∈ watch.hub.news report, sighting.printer.id ≠ id := by
  rw [Expects, registered.pending_report, latest?_append] at expects
  cases told : latest? (watch.hub.news report) id with
  | none => exact Or.inr ⟨by rwa [told] at expects, latest?_eq_none.1 told⟩
  | some sighting =>
    rw [told] at expects
    obtain ⟨member, rfl⟩ := mem_of_latest? told
    cases sighting with
    | lost printer => cases expects
    | found printer =>
      left
      cases report with
      | found newcomer =>
        have same : newcomer = printer := by
          simp only [Hub.news] at member
          split at member
          · cases member
          · cases List.mem_singleton.1 member
            rfl
        subst same
        exact (registered.hub.hasVisible_found_iff newcomer).2 (Or.inl rfl)
      | lost path => simp [Hub.news] at member
      | allLost => simp [Hub.news] at member

end Step

def Accounted (origin : Watch) (moves : List Move) : Prop :=
  ∀ id, (stateAfter move origin moves).Expects id →
    (stateAfter move origin moves).hub.HasVisible id ∨ origin.LeftBehind moves id

section Run
variable {origin : Watch} {moves : List Move}

private theorem hasVisible_congr {hub other : Hub} (same : hub.visible = other.visible)
    (id : PrinterId) : hub.HasVisible id ↔ other.HasVisible id := by
  rw [Hub.HasVisible, Hub.HasVisible, same]

private theorem accounted_of_session {move : Move} (accounted : origin.Accounted moves)
    (visible : ((stateAfter Watch.move origin moves).move move).hub.visible =
      (stateAfter Watch.move origin moves).hub.visible)
    (expects : ∀ id, ((stateAfter Watch.move origin moves).move move).Expects id →
      (stateAfter Watch.move origin moves).Expects id)
    (unseen : ∀ printer, move ≠ .report (.found printer)) :
    origin.Accounted (moves ++ [move]) := by
  intro id expected
  rw [stateAfter_snoc] at expected ⊢
  rw [hasVisible_congr visible]
  rcases accounted id (expects id expected) with shown | left
  · exact Or.inl shown
  · exact Or.inr (leftBehind_snoc left fun printer _ => unseen printer)

/-- An id that a report hides is told to be lost, unless a newcomer displaces it. -/
theorem accounted_report (registered : (stateAfter move origin moves).Registered)
    (accounted : origin.Accounted moves) (report : Hub.Report) :
    origin.Accounted (moves ++ [.report report]) := by
  intro id expected
  rw [stateAfter_snoc] at expected ⊢
  rcases registered.expects_report expected with shown | ⟨before, untold⟩
  · exact Or.inl shown
  · by_cases shown : ((stateAfter move origin moves).hub.take report).1.HasVisible id
    · exact Or.inl shown
    · right
      rcases accounted id before with visible | left
      · by_cases sighting : ∃ newcomer, report = .found newcomer
        · obtain ⟨newcomer, rfl⟩ := sighting
          refine ⟨moves, newcomer, [], rfl, ?_, fun _ _ => List.not_mem_nil⟩
          exact (registered.hub.displaces_iff newcomer).2 ⟨visible, shown⟩
        · have unseen : ∀ printer, report ≠ .found printer := fun printer same => sighting ⟨printer, same⟩
          obtain ⟨told, member, named⟩ := registered.hub.told_of_hidden visible shown unseen
          exact absurd named (untold told member)
      · refine leftBehind_snoc left ?_
        rintro printer named same
        cases same
        exact shown ((registered.hub.hasVisible_found_iff printer).2 (Or.inl named))

theorem Registered.run (registered : origin.Registered)
    (follows : ∀ move ∈ moves, move.follows = true) :
    (stateAfter Watch.move origin moves).Registered :=
  holds_stateAfter Registered registered fun _ registered move made =>
    registered.move (follows move made)

theorem accounted_run (registered : origin.Registered) (accounted : origin.Accounted [])
    (follows : ∀ move ∈ moves, move.follows = true) : origin.Accounted moves := by
  induction moves using List.reverseRecOn with
  | nil => exact accounted
  | append_singleton earlier move ih =>
    obtain ⟨before, last⟩ := List.forall_mem_append.1 follows
    have step := last move (List.mem_singleton_self _)
    have running := registered.run before
    cases move with
    | handle turn =>
      exact accounted_of_session (ih before) (visible_handle _ turn)
        (fun _ => running.expects_of_handle step) nofun
    | deliver moment =>
      refine accounted_of_session (ih before) ?_ ?_ nofun
      · rw [Watch.move, deliver_eq]
      · exact fun id => (expects_deliver running.owned running.lives moment id).1
    | report report => exact accounted_report running (ih before) report
    | forget => cases step

/-- A printer that is hidden stays so as long as its id is not reported. -/
theorem not_hasVisible_run (registered : origin.Registered) {id : PrinterId}
    (hidden : ¬ origin.hub.HasVisible id) (follows : ∀ move ∈ moves, move.follows = true)
    (unreported : ∀ printer, printer.id = id → .report (.found printer) ∉ moves) :
    ¬ (stateAfter move origin moves).hub.HasVisible id := by
  refine (holds_stateAfter (fun watch : Watch => watch.Registered ∧ ¬ watch.hub.HasVisible id)
    ⟨registered, hidden⟩ ?_).2
  rintro watch ⟨running, still⟩ move made
  refine ⟨running.move (follows move made), ?_⟩
  cases move with
  | handle turn => rwa [Watch.move, hasVisible_congr (visible_handle _ turn)]
  | deliver moment => rwa [Watch.move, deliver_eq]
  | report report =>
    intro shown
    obtain ⟨printer, named, same⟩ := running.hub.reported_of_shown still shown
    exact unreported printer named (same ▸ made)
  | forget => cases follows _ made

private theorem not_hasVisible_of_leftBehind (registered : origin.Registered)
    (follows : ∀ move ∈ moves, move.follows = true) {id : PrinterId}
    (left : origin.LeftBehind moves id) : ¬ (stateAfter move origin moves).hub.HasVisible id := by
  obtain ⟨earlier, newcomer, later, rfl, displaces, unreported⟩ := left
  obtain ⟨before, last⟩ := List.forall_mem_append.1 follows
  obtain ⟨step, after⟩ := List.forall_mem_cons.1 last
  have running := registered.run before
  have displaced := ((running.hub.displaces_iff newcomer).1 displaces).2
  rw [stateAfter_append]
  exact not_hasVisible_run (running.move step) displaced after unreported

end Run

section Begin
variable (window : Nat) (known : KnownGood) (listener : Listener) (moment : Moment)
  (priority : List PrinterId)

theorem registered_begin :
    ((begin window known listener).handle ⟨moment, .start priority⟩).Registered := by
  have listens := registered_start (begin window known listener) moment priority
  have owned : (fresh window known).Owned := by simp [fresh, Owned]
  have goesOn : Command.start priority ≠ .destroy := by simp
  rw [Watch.handle_start] at listens ⊢
  exact ⟨Hub.sound_empty.addListener listener, owned_handle owned moment (.start priority),
    (handle_keeps (fresh window known) moment goesOn).2, listens⟩

theorem accounted_begin :
    ((begin window known listener).handle ⟨moment, .start priority⟩).Accounted [] := by
  intro id expected
  have silent : ((begin window known listener).handle ⟨moment, .start priority⟩).pending = [] := by
    simp [Watch.handle_start, begin, Hub.empty, Table.empty, Table.values]
  rw [stateAfter_nil, Expects, silent] at expected
  rw [Watch.handle_start] at expected
  exact absurd expected (not_here_start _ _ _ _)

end Begin

/-- While a session is registered with a hub and has handled all that the hub told, the id of
a printer that it found is visible, exactly if that printer was not left behind. -/
theorem visible_iff_not_leftBehind (window : Nat) (known : KnownGood) (listener : Listener)
    (moment : Moment) (priority : List PrinterId) (moves : List Move)
    (follows : ∀ move ∈ moves, move.follows = true)
    (delivered : (stateAfter move
      ((begin window known listener).handle ⟨moment, .start priority⟩) moves).pending = []) :
    let started := (begin window known listener).handle ⟨moment, .start priority⟩
    ∀ id, (stateAfter move started moves).Finds id →
      ((stateAfter move started moves).hub.HasVisible id ↔ ¬ started.LeftBehind moves id) := by
  intro started id found
  have registered := registered_begin window known listener moment priority
  have accounted := accounted_run registered (accounted_begin window known listener moment priority)
    follows
  constructor
  · intro visible left
    exact not_hasVisible_of_leftBehind registered follows left visible
  · intro kept
    have expected : (stateAfter move started moves).Expects id := by
      rw [Expects, delivered]
      exact (here_iff ..).2 found
    exact (accounted id expected).resolve_right kept

theorem visible_iff_not_leftBehind_at_two_paths :
    let office := Printer.report (some "urn:uuid:1") "Office" "ipp://h" none
    let secure := Printer.report (some "urn:uuid:1") "Office" "ipps://h" none
    let lobby := Printer.report none "Lobby" "ipp://h" none
    let moment : Moment := ⟨0, fun _ => none⟩
    let moves : List Move := [.report (.found office), .report (.found secure), .deliver moment,
      .report (.found lobby), .deliver moment, .deliver moment]
    let started := (begin 3000 (.empty 50) 0).handle ⟨moment, .start []⟩
    (∀ move ∈ moves, move.follows = true) ∧ (stateAfter move started moves).pending = [] ∧
      (stateAfter move started moves).Finds office.id ∧
        (stateAfter move started moves).hub.HasVisible office.id ∧
          ¬ started.LeftBehind moves office.id := by
  intro office secure lobby moment moves started
  have follows : ∀ move ∈ moves, move.follows = true := by decide +kernel
  have delivered : (stateAfter move started moves).pending = [] := by decide +kernel
  have found : (stateAfter move started moves).Finds office.id := by
    unfold Finds
    decide +kernel
  have visible : (stateAfter move started moves).hub.HasVisible office.id := by decide +kernel
  have settled := visible_iff_not_leftBehind 3000 (.empty 50) 0 moment [] moves follows delivered
    office.id found
  exact ⟨follows, delivered, found, visible, settled.1 visible⟩

/-- A printer is found without a uuid, and again with one. It is visible with it only, all
that was told is handled, and yet the first printer is still found. -/
theorem identified_printer_leaves_ghost :
    let plain := Printer.report none "Office" "ipp://h" none
    let identified := Printer.report (some "urn:uuid:1") "Office" "ipp://h" none
    let moment : Moment := ⟨0, fun _ => none⟩
    let started := (begin 3000 (.empty 50) 0).handle ⟨moment, .start []⟩
    let final := stateAfter move started
      [.report (.found plain), .deliver moment, .report (.found identified), .deliver moment]
    final.pending = [] ∧ (∃ record ∈ final.session.records.get? plain.id, record.isFound = true) ∧
      ∀ printer ∈ final.hub.visible.values, printer.id ≠ plain.id := by
  decide +kernel

end Watch
end PrinterRoster
