import PrinterRoster.Mdns.Browser
import PrinterRoster.Proofs.Course

/-! Which services are live, and which paths a search makes visible. A service is live at
the path of its latest resolution until it is removed. The search keeps that path of each
service, but a service that is resolved elsewhere leaves its old path visible, and one
that is removed takes its path from any other service there. Without such events the
visible paths are those of the live services. -/
namespace PrinterRoster.Mdns

def Service.path? (tls : Bool) (service : Service) : Option String :=
  (printer tls service).toOption.map Printer.path

def ServiceEvent.status? (tls : Bool) (name : String) : ServiceEvent → Option (Option String)
  | .resolved service => if service.fullName = name then (service.path? tls).map some else none
  | .removed other => if other = name then some none else none
  | _ => none

/-- An event says something of one service only. -/
theorem ServiceEvent.name_unique {tls : Bool} {event : ServiceEvent} {name other : String}
    {status : Option String} (spoken : event.status? tls name = some status)
    (different : other ≠ name) : event.status? tls other = none := by
  cases event with
  | resolved service =>
    have named : service.fullName = name := by
      by_contra unnamed
      simp [status?, unnamed] at spoken
    simp [status?, named, Ne.symm different]
  | removed gone =>
    have named : gone = name := by
      by_contra unnamed
      simp [status?, unnamed] at spoken
    simp [status?, named, Ne.symm different]
  | noticed => rfl
  | searchStarted => rfl
  | searchStopped => rfl

/-- Where a service is live. The latest event that says something of it decides. -/
def livePath? (tls : Bool) (events : List ServiceEvent) (name : String) : Option String :=
  (events.reverse.findSome? fun event => event.status? tls name).join

/-- An event after which the visible paths are wrong: a service moves from a path where no
other is live, or is removed from a path where another is. -/
inductive Misleads (tls : Bool) (live : String → Option String) (event : ServiceEvent) : Prop
  | moves (name old new : String) (resolved : event.status? tls name = some (some new))
      (was : live name = some old) (elsewhere : new ≠ old)
      (alone : ∀ other, live other = some old → other = name)
  | removes (name other path : String) (removed : event.status? tls name = some none)
      (was : live name = some path) (shared : live other = some path) (different : other ≠ name)

theorem misleads_resolved_iff {tls : Bool} {live : String → Option String} {service : Service} :
    Misleads tls live (.resolved service) ↔
      ∃ old new, live service.fullName = some old ∧ service.path? tls = some new ∧ new ≠ old ∧
        ∀ other, live other = some old → other = service.fullName := by
  constructor
  · rintro (⟨name, old, new, resolved, was, elsewhere, alone⟩ | ⟨name, other, path, removed, _⟩)
    · simp only [ServiceEvent.status?, Option.ite_none_right_eq_some, Option.map_eq_some_iff,
        Option.some.injEq, exists_eq_right] at resolved
      obtain ⟨rfl, resolved⟩ := resolved
      exact ⟨old, new, was, resolved, elsewhere, alone⟩
    · simp [ServiceEvent.status?] at removed
  · rintro ⟨old, new, was, resolved, elsewhere, alone⟩
    exact .moves service.fullName old new (by simp [ServiceEvent.status?, resolved]) was elsewhere alone

theorem misleads_removed_iff {tls : Bool} {live : String → Option String} {name : String} :
    Misleads tls live (.removed name) ↔
      ∃ other path, live name = some path ∧ live other = some path ∧ other ≠ name := by
  constructor
  · rintro (⟨gone, _, new, resolved, _⟩ | ⟨gone, other, path, removed, was, shared, different⟩)
    · simp [ServiceEvent.status?] at resolved
    · simp only [ServiceEvent.status?, Option.ite_none_right_eq_some] at removed
      obtain ⟨rfl, _⟩ := removed
      exact ⟨other, path, was, shared, different⟩
  · rintro ⟨other, path, was, shared, different⟩
    exact .removes name other path (if_pos rfl) was shared different

theorem livePath?_snoc (tls : Bool) (events : List ServiceEvent) (event : ServiceEvent)
    (name : String) :
    livePath? tls (events ++ [event]) name =
      (event.status? tls name).getD (livePath? tls events name) := by
  simp only [livePath?, List.reverse_append, List.reverse_singleton, List.singleton_append,
    List.findSome?_cons]
  cases event.status? tls name <;> rfl

namespace Browser

abbrev next (browser : Browser) (event : ServiceEvent) : Browser := (browser.handle event).1

def Agrees (browser : Browser) : Prop :=
  ∀ path, (browser.hub.visible.get? path).isSome = true ↔
    ∃ name, browser.paths.get? name = some path

section Open
variable {browser : Browser} (isOpen : browser.isOpen = true) {event : ServiceEvent}
  (goesOn : event ≠ .searchStopped)
include isOpen goesOn

private theorem handle_keeps :
    (browser.handle event).1.isOpen = true ∧ (browser.handle event).1.tls = browser.tls := by
  cases event with
  | searchStopped => exact absurd rfl goesOn
  | resolved service =>
    simp only [handle, isOpen, if_true]
    split <;> simp [isOpen]
  | removed name =>
    simp only [handle, isOpen, if_true]
    split <;> simp [isOpen]
  | noticed => simp [handle, isOpen]
  | searchStarted => simp [handle, isOpen]

private theorem paths_handle (name : String) :
    (browser.handle event).1.paths.get? name =
      (event.status? browser.tls name).getD (browser.paths.get? name) := by
  simp only [handle, isOpen, if_true]
  cases event with
  | searchStopped => exact absurd rfl goesOn
  | resolved service =>
    cases made : printer browser.tls service with
    | error failure => simp [ServiceEvent.status?, Service.path?, made, Except.toOption]
    | ok found =>
      simp only [ServiceEvent.status?, Service.path?, made, Except.toOption, Table.get?_insert]
      by_cases same : service.fullName = name
      · simp [same]
      · simp [same, Ne.symm same]
  | removed other =>
    simp only [ServiceEvent.status?]
    cases held : browser.paths.get? other with
    | none =>
      by_cases same : other = name
      · subst same
        simp [held]
      · simp [same]
    | some path =>
      simp only [Table.get?_erase]
      by_cases same : other = name
      · simp [same]
      · simp [same, Ne.symm same]
  | noticed => rfl
  | searchStarted => rfl

/-- An event makes the path visible at which it resolves a service, hides the one at
which the service was that it removes, and touches no other. -/
theorem visible_handle (path : String) :
    ((browser.handle event).1.hub.visible.get? path).isSome = true ↔
      (∃ name, event.status? browser.tls name = some (some path)) ∨
        (browser.hub.visible.get? path).isSome = true ∧
          ∀ name, event.status? browser.tls name = some none → browser.paths.get? name ≠ some path := by
  simp only [handle, isOpen, if_true]
  cases event with
  | searchStopped => exact absurd rfl goesOn
  | resolved service =>
    cases made : printer browser.tls service with
    | error failure => simp [ServiceEvent.status?, Service.path?, made, Except.toOption]
    | ok found =>
      simp only [ServiceEvent.status?, Service.path?, made, Except.toOption, Hub.get?_printerFound]
      by_cases same : path = found.path
      · simp [same]
      · simp [same, Ne.symm same]
  | removed name =>
    cases held : browser.paths.get? name with
    | none => simp [ServiceEvent.status?, held]
    | some old =>
      by_cases same : path = old
      · simp [ServiceEvent.status?, Hub.get?_printerLost, same, held]
      · simp [ServiceEvent.status?, Hub.get?_printerLost, same, held, Ne.symm same]
  | noticed => simp [ServiceEvent.status?]
  | searchStarted => simp [ServiceEvent.status?]

/-- From visible paths that are right an event leads to ones that are right, unless it
misleads. -/
theorem agrees_handle_iff (agrees : browser.Agrees) :
    (browser.handle event).1.Agrees ↔ ¬ Misleads browser.tls browser.paths.get? event := by
  constructor
  · rintro agreesAfter (⟨name, old, new, resolved, was, elsewhere, alone⟩ |
      ⟨name, other, path, removed, was, shared, different⟩)
    · have stays : ((browser.handle event).1.hub.visible.get? old).isSome = true := by
        refine (visible_handle isOpen goesOn old).2 (Or.inr ⟨(agrees old).2 ⟨name, was⟩, ?_⟩)
        intro gone removed _
        by_cases same : gone = name
        · rw [same, resolved] at removed
          cases removed
        · rw [ServiceEvent.name_unique resolved same] at removed
          cases removed
      obtain ⟨other, live⟩ := (agreesAfter old).1 stays
      rw [paths_handle isOpen goesOn] at live
      by_cases same : other = name
      · rw [same, resolved, Option.getD_some, Option.some.injEq] at live
        exact elsewhere live
      · rw [ServiceEvent.name_unique resolved same, Option.getD_none] at live
        exact same (alone other live)
    · have live : ∃ name, (browser.handle event).1.paths.get? name = some path := by
        refine ⟨other, ?_⟩
        rw [paths_handle isOpen goesOn, ServiceEvent.name_unique removed different]
        exact shared
      rcases (visible_handle isOpen goesOn path).1 ((agreesAfter path).2 live) with
        ⟨found, resolved⟩ | ⟨_, kept⟩
      · by_cases same : found = name
        · rw [same, removed] at resolved
          cases resolved
        · rw [ServiceEvent.name_unique removed same] at resolved
          cases resolved
      · exact kept name removed was
  · intro sincere path
    simp only [visible_handle isOpen goesOn, paths_handle isOpen goesOn, agrees path]
    constructor
    · rintro (⟨name, resolved⟩ | ⟨⟨name, was⟩, kept⟩)
      · exact ⟨name, by rw [resolved]; rfl⟩
      · cases spoken : event.status? browser.tls name with
        | none => exact ⟨name, by rw [spoken]; exact was⟩
        | some status =>
          cases status with
          | none => exact absurd was (kept name spoken)
          | some new =>
            by_cases elsewhere : new = path
            · exact ⟨name, by rw [spoken, elsewhere]; rfl⟩
            · -- Another service is at the path that this one leaves.
              by_contra nobody
              refine sincere (.moves name path new spoken was elsewhere fun other shared => ?_)
              by_contra different
              refine nobody ⟨other, ?_⟩
              rw [ServiceEvent.name_unique spoken different]
              exact shared
    · rintro ⟨name, live⟩
      cases spoken : event.status? browser.tls name with
      | some status =>
        rw [spoken, Option.getD_some] at live
        exact Or.inl ⟨name, by rw [spoken, live]⟩
      | none =>
        rw [spoken, Option.getD_none] at live
        refine Or.inr ⟨⟨name, live⟩, fun gone removed was => ?_⟩
        refine sincere (.removes gone name path removed was live ?_)
        rintro rfl
        cases spoken.symm.trans removed

end Open

structure Knows (tls : Bool) (events : List ServiceEvent) (browser : Browser) : Prop where
  isOpen : browser.isOpen = true
  secure : browser.tls = tls
  paths : ∀ name, browser.paths.get? name = livePath? tls events name

theorem knows_run (tls : Bool) (hub : Hub) {events : List ServiceEvent}
    (goesOn : .searchStopped ∉ events) :
    Knows tls events (stateAfter next (start tls hub) events) := by
  induction events using List.reverseRecOn with
  | nil => exact ⟨rfl, rfl, fun _ => rfl⟩
  | append_singleton events event ih =>
    rw [List.mem_append, not_or] at goesOn
    have knows := ih goesOn.1
    have notLast : event ≠ .searchStopped := fun last => goesOn.2 (last ▸ List.mem_singleton_self _)
    obtain ⟨isOpen, secure⟩ := handle_keeps knows.isOpen notLast
    rw [stateAfter_snoc]
    refine ⟨isOpen, secure.trans knows.secure, fun name => ?_⟩
    rw [paths_handle knows.isOpen notLast, knows.secure, knows.paths, livePath?_snoc]

theorem Knows.agrees_iff {tls : Bool} {events : List ServiceEvent} {browser : Browser}
    (knows : Knows tls events browser) :
    browser.Agrees ↔ ∀ path, (browser.hub.visible.get? path).isSome = true ↔
      ∃ name, livePath? tls events name = some path := by
  simp only [Agrees, knows.paths]

/-- At each moment of a search the visible paths are those of the live services, exactly
if no service moves from a path where no other is live and none is removed from a path
where another is. -/
theorem visible_iff_live (tls : Bool) (hub : Hub) (nothing : hub.visible = Table.empty)
    (events : List ServiceEvent) (goesOn : .searchStopped ∉ events) :
    (∀ earlier, earlier <+: events → ∀ path,
        ((stateAfter next (start tls hub) earlier).hub.visible.get? path).isSome = true ↔
          ∃ name, livePath? tls earlier name = some path) ↔
      ∀ earlier event, earlier ++ [event] <+: events →
        ¬ Misleads tls (livePath? tls earlier) event := by
  have step : ∀ earlier event, earlier ++ [event] <+: events →
      (stateAfter next (start tls hub) earlier).Agrees →
        ((stateAfter next (start tls hub) (earlier ++ [event])).Agrees ↔
          ¬ Misleads tls (livePath? tls earlier) event) := by
    intro earlier event part agrees
    have unstopped : .searchStopped ∉ earlier ++ [event] := mt (part.subset ·) goesOn
    have knows := knows_run tls hub fun member => unstopped (List.mem_append_left _ member)
    have notLast : event ≠ .searchStopped := by
      rintro rfl
      exact unstopped (List.mem_append_right _ (List.mem_singleton_self _))
    rw [stateAfter_snoc, agrees_handle_iff knows.isOpen notLast agrees, knows.secure,
      funext knows.paths]
  have right : ∀ earlier, earlier <+: events → ((stateAfter next (start tls hub) earlier).Agrees ↔
      ∀ path, ((stateAfter next (start tls hub) earlier).hub.visible.get? path).isSome = true ↔
        ∃ name, livePath? tls earlier name = some path) :=
    fun earlier part => (knows_run tls hub (mt (part.subset ·) goesOn)).agrees_iff
  constructor
  · intro always earlier event part
    have before : earlier <+: events := (List.prefix_append earlier [event]).trans part
    exact (step earlier event part ((right earlier before).2 (always earlier before))).1
      ((right _ part).2 (always _ part))
  · intro sincere earlier part
    refine (right earlier part).1 ?_
    induction earlier using List.reverseRecOn with
    | nil =>
      intro path
      have unseen : (stateAfter next (start tls hub) []).hub.visible.get? path = none := by
        rw [stateAfter_nil, start, nothing]
        rfl
      rw [unseen]
      exact iff_of_false nofun nofun
    | append_singleton earlier event ih =>
      have before : earlier <+: events := (List.prefix_append earlier [event]).trans part
      exact (step earlier event part (ih before)).2 (sincere earlier event part)

def officeAt (address : Address) : Service := ⟨"Office", "_ipp._tcp.local.", [address], 631, []⟩

def lobbyAt (address : Address) : Service := ⟨"Lobby", "_ipp._tcp.local.", [address], 631, []⟩

theorem visible_iff_live_without_moves :
    let five : Address := .v4 10 0 0 5
    let six : Address := .v4 10 0 0 6
    let events : List ServiceEvent := [.resolved (officeAt five), .resolved (lobbyAt six),
      .resolved (officeAt five), .removed (lobbyAt six).fullName]
    Hub.empty.visible = Table.empty ∧ .searchStopped ∉ events ∧
      ∀ earlier, earlier <+: events → ∀ path,
        ((stateAfter next (start false .empty) earlier).hub.visible.get? path).isSome = true ↔
          ∃ name, livePath? false earlier name = some path := by
  intro five six events
  have goesOn : .searchStopped ∉ events := by simp [events]
  refine ⟨rfl, goesOn, (visible_iff_live false .empty rfl events goesOn).2 ?_⟩
  rintro earlier event ⟨later, whole⟩ misleads
  rcases earlier with _ | ⟨first, _ | ⟨second, _ | ⟨third, _ | ⟨fourth, others⟩⟩⟩⟩ <;>
    dsimp only [events, List.cons_append, List.nil_append] at whole
  · cases whole
    obtain ⟨_, _, was, _⟩ := misleads_resolved_iff.1 misleads
    cases was
  · cases whole
    obtain ⟨_, _, was, _⟩ := misleads_resolved_iff.1 misleads
    have unknown : livePath? false (events.take 1) (lobbyAt six).fullName = none := by decide +kernel
    cases unknown.symm.trans was
  · cases whole
    obtain ⟨old, new, was, resolved, elsewhere, _⟩ := misleads_resolved_iff.1 misleads
    have same : livePath? false (events.take 2) (officeAt five).fullName =
        (officeAt five).path? false := by
      decide +kernel
    exact elsewhere (Option.some.inj (resolved.symm.trans (same.symm.trans was)))
  · cases whole
    obtain ⟨other, path, was, shared, different⟩ := misleads_removed_iff.1 misleads
    have unstopped : .searchStopped ∉ events.take 3 := by simp [events]
    have knows := knows_run false .empty unstopped
    have kept : (stateAfter next (start false .empty) (events.take 3)).paths.entries =
        [((lobbyAt six).fullName, "ipp://10.0.0.6:631/ipp/print"),
          ((officeAt five).fullName, "ipp://10.0.0.5:631/ipp/print")] := by decide +kernel
    have listed : ∀ name, livePath? false (events.take 3) name = some path →
        (name, path) ∈ (stateAfter next (start false .empty) (events.take 3)).paths.entries := by
      intro name live
      exact (Table.get?_eq_some_iff ..).1 ((knows.paths name).trans live)
    have apart : (lobbyAt six).fullName ≠ (officeAt five).fullName := by decide +kernel
    have first := listed _ was
    have second := listed other shared
    simp only [kept, List.mem_cons, Prod.mk.injEq, apart, different, true_and, false_and, false_or,
      List.not_mem_nil, or_false] at first second
    exact absurd (first.symm.trans second.2) (by decide)
  · cases others <;> cases whole

/-- A printer that moves leaves its old path visible, and of two at one path the removal of
either hides both. -/
theorem moved_and_shared_paths_mislead :
    let five : Address := .v4 10 0 0 5
    let nine : Address := .v4 10 0 0 9
    let shared := "ipp://10.0.0.5:631/ipp/print"
    let moves : List ServiceEvent := [.resolved (officeAt five), .resolved (officeAt nine)]
    let removes : List ServiceEvent :=
      [.resolved (officeAt five), .resolved (lobbyAt five), .removed (officeAt five).fullName]
    (((stateAfter next (start false .empty) moves).hub.visible.get? shared).isSome = true ∧
        ∀ name, livePath? false moves name ≠ some shared) ∧
      (stateAfter next (start false .empty) removes).hub.visible.get? shared = none ∧
        livePath? false removes (lobbyAt five).fullName = some shared := by
  intro five nine shared moves removes
  refine ⟨⟨by decide +kernel, ?_⟩, by decide +kernel, by decide +kernel⟩
  intro name live
  have goesOn : .searchStopped ∉ moves := by simp [moves]
  rw [← (knows_run false .empty goesOn).paths, Table.get?_eq_some_iff] at live
  have kept : (stateAfter next (start false .empty) moves).paths.entries =
      [((officeAt nine).fullName, "ipp://10.0.0.9:631/ipp/print")] := by decide +kernel
  rw [kept, List.mem_singleton, Prod.mk.injEq] at live
  exact absurd live.2 (by decide)

end Browser
end PrinterRoster.Mdns
