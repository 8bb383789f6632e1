import PrinterRoster.Proofs.Course
import PrinterRoster.Proofs.Hub.Operations
import PrinterRoster.Proofs.Session.Reports

/-! A session with one source, which keeps a hub. To start the session registers it with the
hub and to stop it unregisters it. What the hub tells it is pending until the session handles
it, in order, while time passes, queries are answered and the source goes on to report. -/
namespace PrinterRoster

namespace Session

def sourceCalls (effects : List Effect) : List Effect :=
  effects.filter fun effect => effect = .startSources || effect = .stopSources

theorem sourceCalls_append (earlier later : List Effect) :
    sourceCalls (earlier ++ later) = sourceCalls earlier ++ sourceCalls later :=
  List.filter_append ..

private theorem sourceCalls_evaluate (session : Session) (id : PrinterId) :
    sourceCalls (session.evaluate id).2 = [] := by
  have withdrawn : ∀ (other : Session) (record : Record),
      sourceCalls (other.withdraw record).2 = [] := by
    intro other record
    unfold withdraw
    split <;> rfl
  unfold evaluate
  split
  · rfl
  · dsimp only
    split
    · exact withdrawn ..
    · split
      · exact withdrawn ..
      · rfl

private theorem sourceCalls_request (session : Session) (id : PrinterId) (bypassCache : Bool) :
    sourceCalls (session.request id bypassCache).2 = [] := by
  unfold request
  split
  · rfl
  · split <;> rfl

private theorem sourceCalls_monitor (session : Session) (now : Nat) :
    sourceCalls (session.monitor now).2 = [] := by
  unfold monitor
  split <;> rfl

private theorem sourceCalls_sweep (session : Session) (now : Nat) :
    sourceCalls (session.sweep now).2 = [] := by
  have rearmed : sourceCalls ((session.swept now).rearm now).2 = [] := by
    unfold rearm
    split
    · exact sourceCalls_monitor ..
    · rfl
  simp only [sweep_eq, andThen, sourceCalls_append, rearmed]
  split <;> rfl

/-- Only a start, a stop and the end of a session call the sources, each once. -/
theorem sourceCalls_handle (session : Session) (moment : Moment) (command : Command) :
    sourceCalls (session.handle moment command).2 =
      match command with
      | .start _ => [.startSources]
      | .stop => [.stopSources]
      | .destroy => if session.destroyed then [] else [.stopSources]
      | _ => [] := by
  cases command with
  | start priority =>
    simp only [handle, start, andThen, sourceCalls_append, sourceCalls_monitor]
    rfl
  | stop =>
    dsimp only [handle, stop]
    split <;> rfl
  | track id =>
    dsimp only [handle, track]
    split
    · exact sourceCalls_request ..
    · rfl
  | untrack id => rfl
  | found printer =>
    dsimp only [handle, found]
    split
    · rfl
    · split
      · simp only [andThen, sourceCalls_append, sourceCalls_evaluate, sourceCalls_request,
          List.append_nil]
      · exact sourceCalls_evaluate ..
  | lost printer =>
    have silent : sourceCalls (if printer.id.isNetworkAddress then [.forget printer.uri] else []) =
        [] := by
      split <;> rfl
    dsimp only [handle, lost]
    split
    · rfl
    · split
      · exact silent
      · simp only [andThen, sourceCalls_append, sourceCalls_evaluate, sourceCalls_monitor, silent,
          List.append_nil]
  | answered id answer =>
    dsimp only [handle, answered]
    split
    · rfl
    · split
      · rfl
      · exact sourceCalls_evaluate ..
  | tick generation =>
    dsimp only [handle, tick]
    split
    · rfl
    · exact sourceCalls_sweep ..
  | destroy =>
    dsimp only [handle, teardown, stop]
    split
    · rfl
    · simp only [andThen, sourceCalls_append]
      split <;> rfl

end Session

open Session

structure Watch where
  session : Session
  hub : Hub
  listener : Listener
  /-- What the hub told and the session has not handled yet, the earliest first. -/
  pending : List Sighting

namespace Watch

def begin (window : Nat) (known : KnownGood) (listener : Listener) : Watch :=
  ⟨fresh window known, .empty, listener, []⟩

def tell (watch : Watch) (outcome : Hub × List Delivery) : Watch :=
  { watch with
    hub := outcome.1
    pending := watch.pending ++ Hub.told watch.listener outcome.2 }

def carryOut (watch : Watch) : Effect → Watch
  | .startSources =>
    let registration := watch.hub.addListener watch.listener
    watch.tell (registration.hub, registration.deliveries)
  | .stopSources =>
    let registration := watch.hub.removeListener watch.listener
    watch.tell (registration.hub, registration.deliveries)
  | _ => watch

def handle (watch : Watch) (turn : Turn) : Watch :=
  let outcome := watch.session.handle turn.moment turn.command
  outcome.2.foldl carryOut { watch with session := outcome.1 }

def deliver (watch : Watch) (moment : Moment) : Watch :=
  match watch.pending with
  | [] => watch
  | sighting :: others => handle { watch with pending := others } ⟨moment, .ofSighting sighting⟩

inductive Move
  | handle (turn : Turn)
  | deliver (moment : Moment)
  | report (report : Hub.Report)
  /-- The source forgets what it sees and tells the session, even one that has left. -/
  | forget

def move (watch : Watch) : Move → Watch
  | .handle turn => watch.handle turn
  | .deliver moment => watch.deliver moment
  | .report report => watch.tell (watch.hub.take report)
  | .forget => watch.tell (watch.hub.printersLostTo watch.listener)

/-- Whether a move is one that a session sees before its end, while each printer that is
reported stands at the path of its id. -/
def Move.allows (home : PrinterId → String) : Move → Bool
  | .handle ⟨_, .found _⟩ => false
  | .handle ⟨_, .lost _⟩ => false
  | .handle ⟨_, .destroy⟩ => false
  | .report (.found printer) => printer.path = home printer.id
  | _ => true

def Move.switches : Move → Bool
  | .handle ⟨_, .start _⟩ => true
  | .handle ⟨_, .stop⟩ => true
  | _ => false

theorem carryOut_all (watch : Watch) (effects : List Effect) :
    effects.foldl carryOut watch = (sourceCalls effects).foldl carryOut watch := by
  induction effects generalizing watch with
  | nil => rfl
  | cons effect others ih =>
    rw [List.foldl_cons, ih]
    cases effect <;> rfl

/-- A start replays what is visible, unless the session is registered already. -/
theorem handle_start (watch : Watch) (moment : Moment) (priority : List PrinterId) :
    watch.handle ⟨moment, .start priority⟩ =
      { watch with
        session := (watch.session.start moment.now priority).1
        hub := (watch.hub.addListener watch.listener).hub
        pending := watch.pending ++
          if watch.listener ∈ watch.hub.listeners then [] else watch.hub.visible.values.map .found } := by
  rw [handle, carryOut_all, sourceCalls_handle]
  simp [carryOut, tell, Hub.told_addListener, Session.handle]

theorem handle_stop (watch : Watch) (moment : Moment) :
    watch.handle ⟨moment, .stop⟩ =
      { watch with
        session := watch.session.stop.1
        hub := (watch.hub.removeListener watch.listener).hub } := by
  rw [handle, carryOut_all, sourceCalls_handle]
  simp [carryOut, tell, Hub.removeListener, Hub.told, Session.handle]

/-- The hub is not touched by other commands. -/
theorem handle_of_quiet (watch : Watch) (turn : Turn)
    (quiet : sourceCalls (watch.session.handle turn.moment turn.command).2 = []) :
    watch.handle turn =
      { watch with session := (watch.session.handle turn.moment turn.command).1 } := by
  rw [handle, carryOut_all, quiet]
  rfl

def latest? (sightings : List Sighting) (id : PrinterId) : Option Sighting :=
  sightings.reverse.find? fun sighting => sighting.printer.id = id

theorem latest?_append (earlier later : List Sighting) (id : PrinterId) :
    latest? (earlier ++ later) id = (latest? later id).or (latest? earlier id) := by
  simp [latest?, List.find?_append]

theorem latest?_cons (sighting : Sighting) (others : List Sighting) (id : PrinterId) :
    latest? (sighting :: others) id =
      (latest? others id).or (if sighting.printer.id = id then some sighting else none) := by
  rw [← List.singleton_append, latest?_append]
  by_cases same : sighting.printer.id = id <;> simp [latest?, same]

theorem latest?_eq_none {sightings : List Sighting} {id : PrinterId} :
    latest? sightings id = none ↔ ∀ sighting ∈ sightings, sighting.printer.id ≠ id := by
  simp [latest?]

theorem mem_of_latest? {sightings : List Sighting} {id : PrinterId} {sighting : Sighting}
    (told : latest? sightings id = some sighting) :
    sighting ∈ sightings ∧ sighting.printer.id = id := by
  rw [latest?] at told
  exact ⟨List.mem_reverse.1 (List.mem_of_find?_eq_some told), by simpa using List.find?_some told⟩

/-- Whether a printer will be there once all that is pending is handled. -/
def Expects (watch : Watch) (id : PrinterId) : Prop :=
  (latest? watch.pending id).elim (watch.session.Here id) fun sighting => sighting.isFound = true

def Right (watch : Watch) (path : String) : Prop :=
  ∀ printer ∈ watch.hub.visible.get? path, watch.Expects printer.id

structure Sound (home : PrinterId → String) (watch : Watch) : Prop where
  hub : watch.hub.Sound
  home : ∀ path, ∀ printer ∈ watch.hub.visible.get? path, path = home printer.id
  owned : watch.session.Owned
  lives : watch.session.destroyed = false
  timely : watch.listener ∈ watch.hub.listeners → ∀ path,
    ∀ printer ∈ watch.hub.visible.get? path, ∀ sighting ∈ latest? watch.pending printer.id,
      sighting.isFound = true

theorem sound_begin (home : PrinterId → String) (window : Nat) (known : KnownGood)
    (listener : Listener) : (begin window known listener).Sound home where
  hub := Hub.sound_empty
  home := by simp [begin, Hub.empty]
  owned := by simp [begin, fresh, Owned]
  lives := rfl
  timely := by simp [begin, Hub.empty]

private theorem here_ofSighting {session : Session} (owned : session.Owned)
    (lives : session.destroyed = false) (moment : Moment) (sighting : Sighting) (id : PrinterId) :
    (session.handle moment (.ofSighting sighting)).1.Here id ↔
      if sighting.printer.id = id then sighting.isFound = true else session.Here id := by
  have handled := here_handle owned lives ⟨moment, .ofSighting sighting⟩
    (by cases sighting <;> exact nofun) (by cases sighting <;> exact nofun) id
  dsimp only at handled
  rw [handled]
  by_cases same : sighting.printer.id = id
  · cases sighting <;>
      simp_all [Turn.FindsAt, Turn.LosesAt, Command.ofSighting, Sighting.printer, Sighting.isFound]
  · cases sighting <;>
      simp_all [Turn.FindsAt, Turn.LosesAt, Command.ofSighting, Sighting.printer]

/-- The session will have everything visible, if it is told all of it now. -/
theorem latest?_replay {hub : Hub} (sound : hub.Sound) (pending : List Sighting) {path : String}
    {printer : Printer} (visible : hub.visible.get? path = some printer) :
    ∃ sighting, latest? (pending ++ hub.visible.values.map .found) printer.id = some sighting ∧
      sighting.isFound = true := by
  have here : printer.path = path := sound.placed path printer visible
  have member : printer ∈ hub.visible.values := sound.mem_values.2 (here ▸ visible)
  cases told : latest? (hub.visible.values.map .found) printer.id with
  | none => exact absurd rfl (latest?_eq_none.1 told _ (List.mem_map_of_mem member))
  | some sighting =>
    obtain ⟨_, _, rfl⟩ := List.mem_map.1 (mem_of_latest? told).1
    exact ⟨_, by rw [latest?_append, told, Option.some_or], rfl⟩

structure Told (home : PrinterId → String) (before after : Watch) (news : List Sighting) : Prop where
  tells : before.hub.Tells after.hub news
  home : ∀ sighting ∈ news, sighting.printer.path = home sighting.printer.id
  sound : after.hub.Sound
  listeners : after.hub.listeners = before.hub.listeners
  listener : after.listener = before.listener
  session : after.session = before.session
  heard : before.listener ∈ before.hub.listeners → after.pending = before.pending ++ news

theorem told_report {home : PrinterId → String} {watch : Watch} (sound : watch.Sound home)
    {report : Hub.Report} (allowed : (Move.report report).allows home = true) :
    Told home watch (watch.move (.report report)) (watch.hub.news report) where
  tells := Hub.tells_take sound.hub report
  home := by
    intro sighting told
    rcases Hub.visible_or_reported_of_news sound.hub told with visible | rfl
    · exact sound.home _ _ visible
    · simpa [Move.allows] using allowed
  sound := sound.hub.take report
  listeners := Hub.listeners_take ..
  listener := rfl
  session := rfl
  heard := by
    intro registered
    rw [move, tell, Hub.told_take sound.hub, if_pos registered]

theorem told_forget {home : PrinterId → String} {watch : Watch} (sound : watch.Sound home) :
    Told home watch (watch.move .forget) (watch.hub.visible.values.map .lost) where
  tells := Hub.tells_of_nothing sound.hub rfl
  home := by
    intro sighting told
    obtain ⟨printer, member, rfl⟩ := List.mem_map.1 told
    exact sound.home _ _ (sound.hub.mem_values.1 member)
  sound := sound.hub.perform (.lostTo watch.listener)
  listeners := rfl
  listener := rfl
  session := rfl
  heard := by
    intro _
    rw [move, tell, Hub.told_printersLostTo]

section Told
variable {home : PrinterId → String} {before after : Watch} {news : List Sighting}
  (sound : before.Sound home) (told : Told home before after news) {path : String} {printer : Printer}
include told

private theorem latest?_news_of_appears (visible : after.hub.visible.get? path = some printer)
    (unseen : before.hub.visible.get? path ≠ some printer) :
    latest? news printer.id = some (.found printer) := by
  rw [told.tells.appears path printer visible unseen]
  simp [latest?, Sighting.printer]

include sound

/-- Where nothing changed, nothing is told of the printer that is visible. -/
theorem latest?_news_of_stays (visible : before.hub.visible.get? path = some printer)
    (stays : after.hub.visible.get? path = some printer) : latest? news printer.id = none := by
  rw [latest?_eq_none]
  intro sighting member same
  refine told.tells.changes sighting member ?_
  rw [told.home sighting member, same, ← sound.home path printer visible, visible, stays]

private theorem Sound.hears : after.Sound home where
  hub := told.sound
  home := by
    intro path printer visible
    by_cases unchanged : before.hub.visible.get? path = some printer
    · exact sound.home path printer unchanged
    · have news := told.tells.appears path printer visible unchanged
      have homely := told.home (.found printer) (news ▸ List.mem_singleton_self _)
      exact (told.sound.placed path printer visible).symm.trans homely
  owned := told.session ▸ sound.owned
  lives := told.session ▸ sound.lives
  timely := by
    rw [told.listener, told.listeners]
    intro registered path printer visible sighting latest
    rw [told.heard registered, latest?_append] at latest
    by_cases unchanged : before.hub.visible.get? path = some printer
    · rw [latest?_news_of_stays sound told unchanged visible, Option.none_or] at latest
      exact sound.timely registered path printer unchanged sighting latest
    · rw [latest?_news_of_appears told visible unchanged] at latest
      cases latest
      rfl

/-- What a registered session is told brings right what changed, and nothing else. -/
theorem right_told_iff (registered : before.listener ∈ before.hub.listeners) :
    after.Right path ↔
      before.Right path ∨ after.hub.visible.get? path ≠ before.hub.visible.get? path := by
  by_cases stays : after.hub.visible.get? path = before.hub.visible.get? path
  · have expected : ∀ printer ∈ before.hub.visible.get? path,
        (after.Expects printer.id ↔ before.Expects printer.id) := by
      intro printer visible
      have untold := latest?_news_of_stays sound told visible (stays.trans visible)
      simp only [Expects, told.heard registered, told.session, latest?_append, untold, Option.none_or]
    simp only [Right, stays, ne_eq, not_true_eq_false, or_false]
    exact forall₂_congr expected
  · refine iff_of_true ?_ (Or.inr stays)
    intro printer visible
    have unseen : before.hub.visible.get? path ≠ some printer :=
      fun unchanged => stays (Eq.trans visible unchanged.symm)
    simp only [Expects, told.heard registered, latest?_append,
      latest?_news_of_appears told visible unseen, Option.some_or, Option.elim_some, Sighting.isFound]

end Told

/-- To deliver a sighting touches neither the hub nor what is pending behind it. -/
theorem deliver_eq (watch : Watch) (moment : Moment) :
    watch.deliver moment =
      { watch with
        session := match watch.pending with
          | [] => watch.session
          | sighting :: _ => (watch.session.handle moment (.ofSighting sighting)).1
        pending := watch.pending.tail } := by
  obtain ⟨session, hub, listener, pending⟩ := watch
  cases pending with
  | nil => rfl
  | cons sighting others =>
    refine handle_of_quiet ⟨session, hub, listener, others⟩ ⟨moment, .ofSighting sighting⟩ ?_
    rw [sourceCalls_handle]
    cases sighting <;> rfl

theorem handle_of_allows {home : PrinterId → String} {watch : Watch} {turn : Turn}
    (allowed : (Move.handle turn).allows home = true)
    (stays : (Move.handle turn).switches = false) :
    watch.handle turn =
      { watch with session := (watch.session.handle turn.moment turn.command).1 } := by
  refine handle_of_quiet watch turn ?_
  rw [sourceCalls_handle]
  obtain ⟨moment, command⟩ := turn
  cases command <;> simp_all [Move.allows, Move.switches]

section Moves
variable {home : PrinterId → String} {watch : Watch} (sound : watch.Sound home)
include sound

private theorem Sound.withSession {session : Session} (owned : session.Owned)
    (lives : session.destroyed = false) : Sound home { watch with session } :=
  ⟨sound.hub, sound.home, owned, lives, sound.timely⟩

theorem Sound.handle {turn : Turn} (goesOn : turn.command ≠ .destroy) :
    (watch.handle turn).Sound home := by
  obtain ⟨moment, command⟩ := turn
  have owned := owned_handle sound.owned moment command
  have lives := (handle_keeps watch.session moment goesOn).2.trans sound.lives
  have same := sound.withSession owned lives
  have calls := sourceCalls_handle watch.session moment command
  cases command with
  | start priority =>
    rw [handle_start]
    refine ⟨sound.hub.addListener _, ?_, owned, lives, fun _ => ?_⟩
    · simpa using sound.home
    · intro path printer visible sighting latest
      rw [Hub.visible_addListener] at visible
      split at latest
      · rename_i registered
        rw [List.append_nil] at latest
        exact sound.timely registered path printer visible sighting latest
      · obtain ⟨replayed, told, found⟩ := latest?_replay sound.hub watch.pending visible
        cases told.symm.trans latest
        exact found
  | stop =>
    rw [handle_stop]
    refine ⟨sound.hub.removeListener _, sound.home, owned, lives, fun registered => ?_⟩
    exact absurd rfl (Hub.mem_listeners_removeListener.1 registered).2
  | destroy => exact absurd rfl goesOn
  | track _ | untrack _ | found _ | lost _ | answered _ _ | tick _ =>
    rw [handle_of_quiet watch _ calls]
    exact same

private theorem Sound.withoutFirst {first : Sighting} {others : List Sighting}
    (pending : watch.pending = first :: others) : Sound home { watch with pending := others } where
  hub := sound.hub
  home := sound.home
  owned := sound.owned
  lives := sound.lives
  timely := by
    intro registered path printer visible sighting latest
    refine sound.timely registered path printer visible sighting ?_
    rw [Option.mem_def] at latest
    rw [pending, latest?_cons, latest, Option.some_or, Option.mem_def]

theorem Sound.move {move : Move} (allowed : move.allows home = true) : (watch.move move).Sound home := by
  cases move with
  | handle turn =>
    refine sound.handle ?_
    intro destroys
    obtain ⟨moment, command⟩ := turn
    cases destroys
    cases allowed
  | deliver moment =>
    dsimp only [Watch.move, deliver]
    split
    · exact sound
    · rename_i first others pending
      exact (sound.withoutFirst pending).handle (by cases first <;> exact nofun)
  | report report => exact sound.hears (told_report sound allowed)
  | forget => exact sound.hears (told_forget sound)

theorem Sound.run {moves : List Move} (allowed : ∀ move ∈ moves, move.allows home = true) :
    (stateAfter Watch.move watch moves).Sound home :=
  holds_stateAfter (fun watch : Watch => watch.Sound home) sound fun _ sound move made =>
    sound.move (allowed move made)

end Moves

section Expects
variable {watch : Watch} (owned : watch.session.Owned) (lives : watch.session.destroyed = false)
include owned lives

/-- Nothing becomes expected or unexpected by being delivered. -/
theorem expects_deliver (moment : Moment) (id : PrinterId) :
    (watch.deliver moment).Expects id ↔ watch.Expects id := by
  rw [deliver_eq]
  obtain ⟨session, hub, listener, pending⟩ := watch
  cases pending with
  | nil => rfl
  | cons first others =>
    simp only [Expects, List.tail_cons, latest?_cons]
    -- What is pending behind the first sighting decides, if anything there is of the printer.
    cases latest? others id with
    | some sighting => rfl
    | none =>
      rw [Option.none_or, Option.elim_none, here_ofSighting owned lives]
      split <;> rfl

theorem expects_handle {home : PrinterId → String} {turn : Turn}
    (allowed : (Move.handle turn).allows home = true)
    (stays : (Move.handle turn).switches = false) (id : PrinterId) :
    (watch.handle turn).Expects id ↔ watch.Expects id := by
  have here : (watch.session.handle turn.moment turn.command).1.Here id ↔ watch.session.Here id := by
    obtain ⟨moment, command⟩ := turn
    have goesOn : command ≠ .destroy := by rintro rfl; cases allowed
    have unstarted : ∀ priority, command ≠ .start priority := by rintro priority rfl; cases stays
    rw [here_handle owned lives ⟨moment, command⟩ goesOn unstarted]
    cases command <;> simp_all [Move.allows, Move.switches, Turn.FindsAt, Turn.LosesAt]
  rw [handle_of_allows allowed stays, Expects, Expects]
  cases latest? watch.pending id with
  | some sighting => rfl
  | none => exact here

end Expects

end Watch
end PrinterRoster
