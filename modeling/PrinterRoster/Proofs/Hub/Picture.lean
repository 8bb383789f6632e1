import PrinterRoster.Proofs.Course
import PrinterRoster.Proofs.Hub.Operations

/-! What the listeners of a hub see. A listener may fold what it is told into a picture of
the printers by path. Whoever is registered has the picture of what is visible, however
late it came, and is told nothing that its picture shows already. -/
namespace PrinterRoster

abbrev Picture := Table String Printer

namespace Picture

def see (picture : Picture) : Sighting → Picture
  | .found printer => picture.insert printer.path printer
  | .lost printer => picture.erase printer.path

def seeAll (picture : Picture) (sightings : List Sighting) : Picture :=
  stateAfter see picture sightings

/-- A sighting tells of a printer that the picture does not show, or of the loss of one
that it shows. -/
def Changes (picture : Picture) : Sighting → Prop
  | .found printer => picture.get? printer.path ≠ some printer
  | .lost printer => picture.get? printer.path = some printer

def AllChange : Picture → List Sighting → Prop
  | _, [] => True
  | picture, sighting :: others => picture.Changes sighting ∧ AllChange (picture.see sighting) others

def Shows (picture : Picture) (hub : Hub) : Prop :=
  ∀ path, picture.get? path = hub.visible.get? path

theorem seeAll_append (picture : Picture) (earlier later : List Sighting) :
    picture.seeAll (earlier ++ later) = (picture.seeAll earlier).seeAll later :=
  stateAfter_append ..

theorem AllChange.append {picture : Picture} {earlier later : List Sighting}
    (first : picture.AllChange earlier) (second : (picture.seeAll earlier).AllChange later) :
    picture.AllChange (earlier ++ later) := by
  induction earlier generalizing picture with
  | nil => exact second
  | cons sighting others ih => exact ⟨first.1, ih first.2 second⟩

/-- Each of some printers at different paths is shown after it is found, and the rest of
the picture stays. -/
theorem get?_seeAll_found (picture : Picture) (printers : List Printer)
    (distinct : (printers.map Printer.path).Nodup) :
    (∀ printer ∈ printers,
        (picture.seeAll (printers.map .found)).get? printer.path = some printer) ∧
      ∀ path, path ∉ printers.map Printer.path →
        (picture.seeAll (printers.map .found)).get? path = picture.get? path := by
  induction printers generalizing picture with
  | nil => exact ⟨nofun, fun _ _ => rfl⟩
  | cons first others ih =>
    obtain ⟨fresh, distinct⟩ := List.nodup_cons.1 distinct
    obtain ⟨shown, kept⟩ := ih (picture.insert first.path first) distinct
    refine ⟨List.forall_mem_cons.2 ⟨?_, shown⟩, ?_⟩
    · exact (kept first.path fresh).trans ((Table.get?_insert ..).trans (if_pos rfl))
    · intro path elsewhere
      obtain ⟨different, elsewhere⟩ := not_or.1 (mt List.mem_cons.2 elsewhere)
      exact (kept path elsewhere).trans ((Table.get?_insert ..).trans (if_neg different))

private theorem allChange_found (picture : Picture) (printers : List Printer)
    (distinct : (printers.map Printer.path).Nodup)
    (unseen : ∀ printer ∈ printers, picture.get? printer.path = none) :
    picture.AllChange (printers.map .found) := by
  induction printers generalizing picture with
  | nil => trivial
  | cons first others ih =>
    obtain ⟨fresh, distinct⟩ := List.nodup_cons.1 distinct
    obtain ⟨unseenFirst, unseen⟩ := List.forall_mem_cons.1 unseen
    refine ⟨?_, ih _ distinct ?_⟩
    · rw [Changes, unseenFirst]
      exact nofun
    · intro printer member
      have different : printer.path ≠ first.path :=
        fun same => fresh (List.mem_map.2 ⟨printer, member, same⟩)
      rw [see, Table.get?_insert, if_neg different]
      exact unseen printer member

private theorem get?_seeAll_lost (picture : Picture) (printers : List Printer) (path : String) :
    (picture.seeAll (printers.map .lost)).get? path =
      if path ∈ printers.map Printer.path then none else picture.get? path := by
  induction printers generalizing picture with
  | nil => rfl
  | cons first others ih =>
    have erased : (picture.erase first.path).get? path =
        if path = first.path then none else picture.get? path := Table.get?_erase ..
    have rest := ih (picture.erase first.path)
    rw [erased] at rest
    refine rest.trans ?_
    simp only [List.map_cons, List.mem_cons]
    by_cases same : path = first.path
    · simp [same]
    · simp [same]

private theorem allChange_lost (picture : Picture) (printers : List Printer)
    (distinct : (printers.map Printer.path).Nodup)
    (seen : ∀ printer ∈ printers, picture.get? printer.path = some printer) :
    picture.AllChange (printers.map .lost) := by
  induction printers generalizing picture with
  | nil => trivial
  | cons first others ih =>
    obtain ⟨fresh, distinct⟩ := List.nodup_cons.1 distinct
    obtain ⟨seenFirst, seen⟩ := List.forall_mem_cons.1 seen
    refine ⟨seenFirst, ih _ distinct ?_⟩
    intro printer member
    have different : printer.path ≠ first.path :=
      fun same => fresh (List.mem_map.2 ⟨printer, member, same⟩)
    rw [see, Table.get?_erase, if_neg different]
    exact seen printer member

/-- Whoever is told everything visible sees it. -/
theorem shows_replay {hub : Hub} (sound : hub.Sound) :
    AllChange Table.empty (hub.visible.values.map .found) ∧
      (seeAll Table.empty (hub.visible.values.map .found)).Shows hub := by
  refine ⟨allChange_found _ _ sound.distinct_paths fun _ _ => rfl, ?_⟩
  intro path
  obtain ⟨shown, kept⟩ := get?_seeAll_found Table.empty hub.visible.values sound.distinct_paths
  cases held : hub.visible.get? path with
  | none =>
    refine kept path ?_
    rintro elsewhere
    obtain ⟨printer, member, rfl⟩ := List.mem_map.1 elsewhere
    cases held.symm.trans (sound.mem_values.1 member)
  | some printer =>
    have here : printer.path = path := sound.placed path printer held
    rw [← here]
    exact shown printer (sound.mem_values.2 (here ▸ held))

/-- The news of a report bring a picture of what was visible up to date. -/
theorem Shows.take {picture : Picture} {hub : Hub} (shows : picture.Shows hub) (sound : hub.Sound)
    (report : Hub.Report) :
    picture.AllChange (hub.news report) ∧
      (picture.seeAll (hub.news report)).Shows (hub.take report).1 := by
  cases report with
  | found printer =>
    dsimp only [Hub.news]
    split
    · rename_i known
      refine ⟨trivial, fun path => ?_⟩
      rw [Hub.take, Hub.get?_printerFound]
      split
      · rename_i same
        rw [same]
        exact (shows printer.path).trans known
      · exact shows path
    · rename_i unknown
      refine ⟨⟨?_, trivial⟩, fun path => ?_⟩
      · rw [Changes, shows]
        exact unknown
      · rw [Hub.take, Hub.get?_printerFound, ← shows path]
        exact Table.get?_insert ..
  | lost gone =>
    have after : ∀ path, (hub.take (.lost gone)).1.visible.get? path =
        if path = gone then none else picture.get? path := by
      intro path
      rw [shows path]
      exact Hub.get?_printerLost ..
    dsimp only [Hub.news]
    cases held : hub.visible.get? gone with
    | none =>
      refine ⟨trivial, fun path => ?_⟩
      rw [after]
      split
      · rename_i same
        rw [same]
        exact (shows gone).trans held
      · rfl
    | some printer =>
      have here : printer.path = gone := sound.placed gone printer held
      refine ⟨⟨?_, trivial⟩, fun path => ?_⟩
      · rw [Changes, here, shows]
        exact held
      · rw [after, ← here]
        exact Table.get?_erase ..
  | allLost =>
    refine ⟨allChange_lost _ _ sound.distinct_paths ?_, fun path => ?_⟩
    · intro printer member
      exact (shows printer.path).trans (sound.mem_values.1 member)
    · refine (get?_seeAll_lost ..).trans ?_
      split
      · rfl
      · rename_i nowhere
        cases held : picture.get? path with
        | none => rfl
        | some printer =>
          have visible : hub.visible.get? path = some printer := (shows path).symm.trans held
          have here : printer.path = path := sound.placed path printer visible
          have member : printer ∈ hub.visible.values := sound.mem_values.2 (here ▸ visible)
          exact absurd (List.mem_map.2 ⟨printer, member, here⟩) nowhere

end Picture

namespace Hub

def registers (hub : Hub) (listener : Listener) : Operation → Bool
  | .add other => other = listener && !hub.listeners.contains listener
  | _ => false

/-- A hub with what was told to each listener since it was registered last, and with the
operations that had the result true, the earliest first. -/
structure Course where
  hub : Hub
  heard : Listener → List Sighting
  edges : List Operation

namespace Course

def start : Course := ⟨.empty, fun _ => [], []⟩

def after (course : Course) (operation : Operation) : Course :=
  let outcome := course.hub.perform operation
  { hub := outcome.hub
    heard := fun listener =>
      (if course.hub.registers listener operation then [] else course.heard listener) ++
        told listener outcome.deliveries
    edges := if outcome.edge then course.edges ++ [operation] else course.edges }

/-- Whether a source may do an operation: it makes everything lost to one listener only
when nobody is registered. -/
def allows (course : Course) : Operation → Bool
  | .lostTo _ => !course.hub.hasListeners
  | _ => true

def allowsAll : Course → List Operation → Bool
  | _, [] => true
  | course, operation :: others => course.allows operation && (course.after operation).allowsAll others

/-- Registering and unregistering have the result true in turn, and it was registering
last if somebody is registered. -/
structure Alternates (edges : List Operation) (isHeard : Bool) : Prop where
  count : edges.length % 2 = if isHeard then 1 else 0
  kinds : ∀ i, ∀ operation ∈ edges[i]?, ∃ listener,
    operation = if i % 2 = 0 then .add listener else .remove listener

theorem Alternates.snoc {edges : List Operation} {isHeard : Bool}
    (alternates : Alternates edges isHeard) (listener : Listener) :
    Alternates (edges ++ [if isHeard then .remove listener else .add listener]) !isHeard := by
  have count := alternates.count
  constructor
  · rw [List.length_append, List.length_singleton]
    cases isHeard <;>
      simp only [Bool.not_true, Bool.not_false, Bool.false_eq_true, if_true, if_false] at count ⊢ <;>
      omega
  · intro i operation held
    rw [Option.mem_def, List.getElem?_append] at held
    split at held
    · exact alternates.kinds i operation held
    · rename_i beyond
      have last : i = edges.length := by
        have inside := (List.getElem?_eq_some_iff.1 held).1
        rw [List.length_singleton] at inside
        omega
      subst last
      rw [Nat.sub_self, List.getElem?_cons_zero, Option.some.injEq] at held
      refine ⟨listener, held.symm.trans ?_⟩
      rw [count]
      cases isHeard <;> rfl

structure Sound (course : Course) : Prop where
  hub : course.hub.Sound
  seen : ∀ listener ∈ course.hub.listeners,
    Picture.AllChange Table.empty (course.heard listener) ∧
      (Picture.seeAll Table.empty (course.heard listener)).Shows course.hub
  alternates : Alternates course.edges course.hub.hasListeners

theorem sound_start : Sound start where
  hub := sound_empty
  seen := nofun
  alternates := ⟨rfl, nofun⟩

private theorem Sound.edges {course : Course} (sound : course.Sound) (operation : Operation) :
    Alternates (course.after operation).edges (course.hub.perform operation).hub.hasListeners := by
  have alternates := sound.alternates
  have snoc := alternates.snoc
  cases operation with
  | add listener =>
    simp only [after, perform, edge_addListener, hasListeners_addListener]
    cases before : course.hub.hasListeners with
    | true => simpa [before] using alternates
    | false => simpa [before] using snoc listener
  | remove listener =>
    simp only [after, perform, edge_removeListener]
    cases before : course.hub.hasListeners with
    | true =>
      cases left : (course.hub.removeListener listener).hub.hasListeners with
      | true => simpa [before] using alternates
      | false => simpa [before] using snoc listener
    | false =>
      have nobody : (course.hub.removeListener listener).hub.hasListeners = false := by
        simp_all [hasListeners, removeListener]
      simpa [before, nobody] using alternates
  | report report => simpa [after, perform, hasListeners] using alternates
  | lostTo listener => simpa [after, perform, hasListeners, printersLostTo] using alternates

private theorem Sound.after {course : Course} (sound : course.Sound) {operation : Operation}
    (allowed : course.allows operation = true) : (course.after operation).Sound := by
  refine ⟨sound.hub.perform operation, ?_, sound.edges operation⟩
  intro listener registered
  cases operation with
  | add other =>
    have kept : (course.after (.add other)).hub.visible = course.hub.visible :=
      visible_addListener ..
    by_cases known : listener ∈ course.hub.listeners
    · have heard : (course.after (.add other)).heard listener = course.heard listener := by
        have nothing : ¬(listener = other ∧ other ∉ course.hub.listeners) :=
          fun fresh => fresh.2 (fresh.1 ▸ known)
        simp [Course.after, perform, told_addListener, nothing, Hub.registers, known]
      rw [heard, Picture.Shows, kept]
      exact sound.seen listener known
    · have same : listener = other :=
        (mem_listeners_addListener.1 registered).resolve_left known
      subst same
      have heard : (course.after (.add listener)).heard listener =
          course.hub.visible.values.map .found := by
        simp [Course.after, perform, told_addListener, Hub.registers, known]
      rw [heard, Picture.Shows, kept]
      exact Picture.shows_replay sound.hub
  | remove other =>
    have before := (mem_listeners_removeListener.1 registered).1
    have heard : (course.after (.remove other)).heard listener = course.heard listener :=
      List.append_nil _
    rw [heard]
    exact sound.seen listener before
  | report report =>
    have before : listener ∈ course.hub.listeners := by
      simpa [Course.after, perform] using registered
    have heard : (course.after (.report report)).heard listener =
        course.heard listener ++ course.hub.news report := by
      simp [Course.after, perform, told_take sound.hub, before, Hub.registers]
    obtain ⟨changes, shows⟩ := sound.seen listener before
    obtain ⟨anew, upToDate⟩ := shows.take sound.hub report
    rw [heard, Picture.seeAll_append]
    exact ⟨changes.append anew, upToDate⟩
  | lostTo other =>
    have nobody : course.hub.hasListeners = false := by simpa [allows] using allowed
    have before : listener ∈ course.hub.listeners := registered
    rw [hasListeners_of_mem before] at nobody
    cases nobody

theorem Sound.run {course : Course} (sound : course.Sound) {operations : List Operation}
    (allowed : course.allowsAll operations = true) :
    (stateAfter Course.after course operations).Sound := by
  induction operations generalizing course with
  | nil => exact sound
  | cons operation others ih =>
    rw [allowsAll, Bool.and_eq_true] at allowed
    exact ih (sound.after allowed.1) allowed.2

/-- Whoever is told something is registered then, except for the one listener to whom
everything is lost. -/
theorem registered_of_told (hub : Hub) (operation : Operation) :
    ∀ delivery ∈ (hub.perform operation).deliveries,
      delivery.listener ∈ (hub.perform operation).hub.listeners ∨
        operation = .lostTo delivery.listener := by
  intro delivery member
  cases operation with
  | add listener =>
    refine Or.inl (mem_listeners_addListener.2 (Or.inr ?_))
    dsimp only [perform, addListener] at member
    split at member
    · cases member
    · obtain ⟨printer, _, rfl⟩ := List.mem_map.1 member
      rfl
  | remove listener => cases member
  | report report =>
    left
    rw [perform, listeners_take]
    exact registered_of_take member
  | lostTo listener =>
    obtain ⟨printer, _, rfl⟩ := List.mem_map.1 member
    exact Or.inr rfl

/-- In any run of a hub the picture of each registered listener shows what is visible, and
each sighting it was told changed its picture. Nobody else is told anything but that
everything is lost. Registering and unregistering have the result true in turn. -/
theorem registered_listeners_see_visible (operations : List Operation)
    (allowed : start.allowsAll operations = true) :
    let course := stateAfter after start operations
    (∀ listener ∈ course.hub.listeners,
        (Picture.seeAll Table.empty (course.heard listener)).Shows course.hub ∧
          Picture.AllChange Table.empty (course.heard listener)) ∧
      (∀ earlier operation later, operations = earlier ++ operation :: later →
        let registration := (stateAfter after start earlier).hub.perform operation
        ∀ delivery ∈ registration.deliveries,
          delivery.listener ∈ registration.hub.listeners ∨ operation = .lostTo delivery.listener) ∧
      ∀ i, ∀ operation ∈ course.edges[i]?, ∃ listener,
        operation = if i % 2 = 0 then .add listener else .remove listener := by
  intro course
  have sound : course.Sound := sound_start.run allowed
  refine ⟨?_, ?_, sound.alternates.kinds⟩
  · intro listener registered
    exact (sound.seen listener registered).symm
  · intro earlier operation later _
    exact registered_of_told _ operation

theorem registered_listeners_see_visible_after_return :
    let office := Printer.report none "Office" "ipp://h" none
    let lobby := Printer.report none "Lobby" "ipp://l" none
    let operations : List Operation :=
      [.report (.found office), .add 0, .report (.found lobby), .add 1, .add 0, .remove 0,
        .report (.lost lobby.path), .remove 1, .lostTo 1, .report (.found lobby), .add 1]
    let course := stateAfter after start operations
    start.allowsAll operations = true ∧ 1 ∈ course.hub.listeners ∧
      (Picture.seeAll Table.empty (course.heard 1)).Shows course.hub ∧
        course.hub.visible.get? lobby.path = some lobby ∧
          course.edges = [.add 0, .remove 1, .add 1] := by
  intro office lobby operations course
  have allowed : start.allowsAll operations = true := by decide +kernel
  have registered : 1 ∈ course.hub.listeners := by decide +kernel
  obtain ⟨seen, _⟩ := registered_listeners_see_visible operations allowed
  exact ⟨allowed, registered, (seen 1 registered).1, by decide +kernel, by decide +kernel⟩

end Course
end Hub
end PrinterRoster
