import Mathlib.Data.List.Find
import Mathlib.Data.List.Nodup
import PrinterRoster.Hub

/-! What a source does with its hub: it registers and unregisters listeners, and reports
what it sees. Of each operation it is said here what it changes and what one listener is
told by it. No listener is registered twice, and every visible printer stands at its own
path. -/
namespace PrinterRoster

namespace Sighting

def printer : Sighting → Printer
  | found printer => printer
  | lost printer => printer

def isFound : Sighting → Bool
  | found _ => true
  | lost _ => false

end Sighting

namespace Hub

inductive Report
  | found (printer : Printer)
  | lost (path : String)
  | allLost
deriving DecidableEq

def take (hub : Hub) : Report → Hub × List Delivery
  | .found printer => hub.printerFound printer
  | .lost path => hub.printerLost path
  | .allLost => hub.allPrintersLost

inductive Operation
  | add (listener : Listener)
  | remove (listener : Listener)
  | report (report : Report)
  | lostTo (listener : Listener)
deriving DecidableEq

def perform (hub : Hub) : Operation → Registration
  | .add listener => hub.addListener listener
  | .remove listener => hub.removeListener listener
  | .report report => ⟨(hub.take report).1, (hub.take report).2, false⟩
  | .lostTo listener => ⟨(hub.printersLostTo listener).1, (hub.printersLostTo listener).2, false⟩

def told (listener : Listener) (deliveries : List Delivery) : List Sighting :=
  (deliveries.filter fun delivery => delivery.listener = listener).map Delivery.sighting

def news (hub : Hub) : Report → List Sighting
  | .found printer => if hub.visible.get? printer.path = some printer then [] else [.found printer]
  | .lost path => (hub.visible.get? path).toList.map .lost
  | .allLost => hub.visible.values.map .lost

structure Sound (hub : Hub) : Prop where
  distinct : hub.listeners.Nodup
  placed : ∀ path, ∀ printer ∈ hub.visible.get? path, printer.path = path

theorem sound_empty : Sound empty := ⟨List.nodup_nil, nofun⟩

@[simp] theorem listeners_take (hub : Hub) (report : Report) :
    (hub.take report).1.listeners = hub.listeners := by
  cases report with
  | found printer => exact listeners_printerFound hub printer
  | lost path => exact listeners_printerLost hub path
  | allLost => rfl

theorem Sound.take {hub : Hub} (sound : hub.Sound) (report : Report) :
    (hub.take report).1.Sound := by
  refine ⟨by rw [listeners_take]; exact sound.distinct, ?_⟩
  intro path printer held
  cases report with
  | found reported =>
    rw [Hub.take, get?_printerFound] at held
    split at held
    · rename_i same
      rw [← Option.some.inj held, same]
    · exact sound.placed path printer held
  | lost gone =>
    rw [Hub.take, get?_printerLost] at held
    split at held
    · cases held
    · exact sound.placed path printer held
  | allLost => cases held

theorem addListener_of_mem {hub : Hub} {listener : Listener} (registered : listener ∈ hub.listeners) :
    hub.addListener listener = ⟨hub, [], false⟩ := by
  simp [addListener, registered]

private theorem addListener_of_not_mem {hub : Hub} {listener : Listener}
    (fresh : listener ∉ hub.listeners) : hub.addListener listener =
      ⟨{ hub with listeners := hub.listeners ++ [listener] },
        hub.visible.values.map fun printer => ⟨listener, .found printer⟩, hub.listeners.isEmpty⟩ := by
  simp [addListener, fresh]

theorem Sound.addListener {hub : Hub} (sound : hub.Sound) (listener : Listener) :
    (hub.addListener listener).hub.Sound := by
  by_cases registered : listener ∈ hub.listeners
  · rw [addListener_of_mem registered]
    exact sound
  · rw [addListener_of_not_mem registered]
    refine ⟨?_, sound.placed⟩
    rw [List.nodup_append]
    refine ⟨sound.distinct, List.nodup_singleton listener, ?_⟩
    rintro other member last single rfl
    exact registered (List.mem_singleton.1 single ▸ member)

theorem Sound.removeListener {hub : Hub} (sound : hub.Sound) (listener : Listener) :
    (hub.removeListener listener).hub.Sound :=
  ⟨sound.distinct.filter _, sound.placed⟩

theorem Sound.perform {hub : Hub} (sound : hub.Sound) (operation : Operation) :
    (hub.perform operation).hub.Sound := by
  cases operation with
  | add listener => exact sound.addListener listener
  | remove listener => exact sound.removeListener listener
  | report report => exact sound.take report
  | lostTo listener => exact ⟨sound.distinct, nofun⟩

@[simp] theorem visible_addListener (hub : Hub) (listener : Listener) :
    (hub.addListener listener).hub.visible = hub.visible := by
  unfold addListener
  split <;> rfl

theorem mem_listeners_addListener {hub : Hub} {listener other : Listener} :
    other ∈ (hub.addListener listener).hub.listeners ↔ other ∈ hub.listeners ∨ other = listener := by
  by_cases registered : listener ∈ hub.listeners
  · rw [addListener_of_mem registered]
    exact ⟨Or.inl, fun known => known.elim id fun same => same ▸ registered⟩
  · rw [addListener_of_not_mem registered, List.mem_append, List.mem_singleton]

theorem mem_listeners_removeListener {hub : Hub} {listener other : Listener} :
    other ∈ (hub.removeListener listener).hub.listeners ↔
      other ∈ hub.listeners ∧ other ≠ listener := by
  rw [removeListener, List.mem_filter, decide_eq_true_eq]

theorem hasListeners_of_mem {hub : Hub} {listener : Listener} (registered : listener ∈ hub.listeners) :
    hub.hasListeners = true := by
  simp [hasListeners, List.ne_nil_of_mem registered]

theorem hasListeners_addListener (hub : Hub) (listener : Listener) :
    (hub.addListener listener).hub.hasListeners = true :=
  hasListeners_of_mem (mem_listeners_addListener.2 (Or.inr rfl))

theorem edge_addListener (hub : Hub) (listener : Listener) :
    (hub.addListener listener).edge = !hub.hasListeners := by
  by_cases registered : listener ∈ hub.listeners
  · rw [addListener_of_mem registered, hasListeners_of_mem registered]
    rfl
  · rw [addListener_of_not_mem registered]
    exact (Bool.not_not _).symm

theorem edge_removeListener (hub : Hub) (listener : Listener) :
    (hub.removeListener listener).edge =
      (hub.hasListeners && !(hub.removeListener listener).hub.hasListeners) := by
  have member : (hub.listeners.contains listener && (hub.listeners.filter (· ≠ listener)).isEmpty) =
      (!hub.listeners.isEmpty && (hub.listeners.filter (· ≠ listener)).isEmpty) := by
    cases hub.listeners with
    | nil => rfl
    | cons first others =>
      by_cases same : first = listener
      · simp [same]
      · simp [same]
  simpa [removeListener, hasListeners] using member

/-- The visible printers have different paths. -/
theorem Sound.distinct_paths {hub : Hub} (sound : hub.Sound) :
    (hub.visible.values.map Printer.path).Nodup := by
  have same : hub.visible.values.map Printer.path = hub.visible.entries.map Prod.fst := by
    rw [Table.values, List.map_map]
    refine List.map_congr_left ?_
    rintro ⟨path, printer⟩ member
    exact sound.placed path printer ((Table.get?_eq_some_iff ..).2 member)
  rw [same]
  exact hub.visible.distinct

theorem Sound.mem_values {hub : Hub} (sound : hub.Sound) {printer : Printer} :
    printer ∈ hub.visible.values ↔ hub.visible.get? printer.path = some printer := by
  rw [Table.mem_values_iff]
  refine ⟨?_, fun held => ⟨_, held⟩⟩
  rintro ⟨path, held⟩
  rw [sound.placed path printer held]
  exact held

theorem told_append (listener : Listener) (earlier later : List Delivery) :
    told listener (earlier ++ later) = told listener earlier ++ told listener later := by
  rw [told, List.filter_append, List.map_append]
  rfl

private theorem registered_of_toAll {hub : Hub} {sighting : Sighting} {delivery : Delivery}
    (member : delivery ∈ hub.toAll sighting) : delivery.listener ∈ hub.listeners := by
  obtain ⟨listener, registered, rfl⟩ := List.mem_map.1 member
  exact registered

theorem registered_of_take {hub : Hub} {report : Report} {delivery : Delivery}
    (member : delivery ∈ (hub.take report).2) : delivery.listener ∈ hub.listeners := by
  cases report with
  | found printer =>
    dsimp only [take, printerFound] at member
    split at member
    · cases member
    · exact registered_of_toAll member
  | lost path =>
    dsimp only [take, printerLost] at member
    split at member
    · cases member
    · exact registered_of_toAll member
  | allLost =>
    obtain ⟨printer, _, told⟩ := List.mem_flatMap.1 member
    exact registered_of_toAll told

/-- What is told to all is told to each listener once. -/
theorem told_toAll {hub : Hub} (sound : hub.Sound) (sighting : Sighting) (listener : Listener) :
    told listener (hub.toAll sighting) = if listener ∈ hub.listeners then [sighting] else [] := by
  have picked : told listener (hub.toAll sighting) =
      (hub.listeners.filter (· = listener)).map fun _ => sighting := by
    rw [told, toAll, List.filter_map, List.map_map]
    rfl
  rw [picked, List.filter_eq]
  split
  · rename_i registered
    rw [List.count_eq_one_of_mem sound.distinct registered]
    rfl
  · rename_i unregistered
    rw [List.count_eq_zero_of_not_mem unregistered]
    rfl

private theorem told_flatMap_toAll {hub : Hub} (sound : hub.Sound) (printers : List Printer)
    (listener : Listener) :
    told listener (printers.flatMap fun printer => hub.toAll (.lost printer)) =
      if listener ∈ hub.listeners then printers.map .lost else [] := by
  induction printers with
  | nil => split <;> rfl
  | cons printer others ih =>
    rw [List.flatMap_cons, told_append, told_toAll sound, ih]
    split <;> rfl

/-- Who listens hears all the news of a report, and nobody else hears any. -/
theorem told_take {hub : Hub} (sound : hub.Sound) (report : Report) (listener : Listener) :
    told listener (hub.take report).2 =
      if listener ∈ hub.listeners then hub.news report else [] := by
  cases report with
  | found printer =>
    dsimp only [take, printerFound, news]
    split
    · split <;> rfl
    · exact told_toAll sound (.found printer) listener
  | lost path =>
    dsimp only [take, printerLost, news]
    cases hub.visible.get? path with
    | none =>
      dsimp only
      split <;> rfl
    | some printer => exact told_toAll sound (.lost printer) listener
  | allLost => exact told_flatMap_toAll sound hub.visible.values listener

/-- What is told to one listener alone. -/
theorem told_map (listener other : Listener) (printers : List Printer)
    (sighting : Printer → Sighting) :
    told other (printers.map fun printer => ⟨listener, sighting printer⟩) =
      if other = listener then printers.map sighting else [] := by
  rw [told, List.filter_map, List.map_map]
  split
  · rename_i same
    subst same
    rw [List.filter_eq_self.2]
    · rfl
    · exact fun _ _ => decide_eq_true rfl
  · rename_i different
    rw [List.filter_eq_nil_iff.2]
    · rfl
    · exact fun _ _ same => different (of_decide_eq_true same).symm

/-- A listener that is new to the hub is told everything visible. -/
theorem told_addListener (hub : Hub) (listener other : Listener) :
    told other (hub.addListener listener).deliveries =
      if other = listener ∧ listener ∉ hub.listeners then hub.visible.values.map .found else [] := by
  by_cases registered : listener ∈ hub.listeners
  · simp [addListener_of_mem registered, registered, told]
  · simp [addListener_of_not_mem registered, registered, told_map]

theorem told_printersLostTo (hub : Hub) (listener : Listener) :
    told listener (hub.printersLostTo listener).2 = hub.visible.values.map .lost := by
  simp [printersLostTo, told_map]

structure Tells (before after : Hub) (news : List Sighting) : Prop where
  changes : ∀ sighting ∈ news, after.visible.get? sighting.printer.path ≠
    before.visible.get? sighting.printer.path
  appears : ∀ path printer, after.visible.get? path = some printer →
    before.visible.get? path ≠ some printer → news = [.found printer]

theorem tells_of_nothing {before after : Hub} (sound : before.Sound)
    (nothing : after.visible = Table.empty) :
    Tells before after (before.visible.values.map .lost) where
  changes := by
    intro sighting told
    obtain ⟨printer, member, rfl⟩ := List.mem_map.1 told
    have held : before.visible.get? printer.path = some printer := sound.mem_values.1 member
    simp [Sighting.printer, nothing, held]
  appears := by simp [nothing]

theorem tells_take {hub : Hub} (sound : hub.Sound) (report : Report) :
    Tells hub (hub.take report).1 (hub.news report) := by
  cases report with
  | allLost => exact tells_of_nothing sound rfl
  | found printer =>
    constructor
    · intro sighting told
      dsimp only [news] at told
      split at told
      · cases told
      · rename_i unknown
        cases List.mem_singleton.1 told
        simpa [take, get?_printerFound, Sighting.printer] using Ne.symm unknown
    · intro path shown visible unseen
      rw [take, get?_printerFound] at visible
      split at visible
      · rename_i same
        cases visible
        simp [news, ← same, unseen]
      · exact absurd visible unseen
  | lost path =>
    constructor
    · intro sighting told
      obtain ⟨printer, held, rfl⟩ := List.mem_map.1 told
      rw [Option.mem_toList] at held
      have placed : printer.path = path := sound.placed path printer held
      simp [take, get?_printerLost, Sighting.printer, placed, held]
    · intro other shown visible unseen
      rw [take, get?_printerLost] at visible
      split at visible
      · cases visible
      · exact absurd visible unseen

/-- A hub tells only of printers that are visible or that are reported to it. -/
theorem visible_or_reported_of_news {hub : Hub} (sound : hub.Sound) {report : Report}
    {sighting : Sighting} (told : sighting ∈ hub.news report) :
    hub.visible.get? sighting.printer.path = some sighting.printer ∨
      report = .found sighting.printer := by
  cases report with
  | found printer =>
    dsimp only [news] at told
    split at told
    · cases told
    · cases List.mem_singleton.1 told
      exact Or.inr rfl
  | lost path =>
    obtain ⟨printer, held, rfl⟩ := List.mem_map.1 told
    rw [Option.mem_toList] at held
    exact Or.inl (sound.placed path printer held ▸ held)
  | allLost =>
    obtain ⟨printer, member, rfl⟩ := List.mem_map.1 told
    exact Or.inl (sound.mem_values.1 member)

end Hub
end PrinterRoster
