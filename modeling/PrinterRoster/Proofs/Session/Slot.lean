import PrinterRoster.Proofs.Session.Presence

/-! Which printers a command queries. The place for the query of a printer is in its
record: a query is begun only when that place is free, and takes it. An answer of the
printer frees it, whichever query it answers, and a record that leaves takes the place
with it, though the query goes on. -/
namespace PrinterRoster.Session

def asked (effects : List Effect) : List PrinterId :=
  effects.filterMap fun
    | .query id .. => some id
    | _ => none

def slot? (session : Session) (id : PrinterId) : Option Bool :=
  (session.records.get? id).map Record.refreshing

theorem slot?_eq_none {session : Session} {id : PrinterId} :
    session.slot? id = none ↔ session.records.get? id = none :=
  Option.map_eq_none_iff

theorem asked_append (earlier later : List Effect) :
    asked (earlier ++ later) = asked earlier ++ asked later :=
  List.filterMap_append ..

private theorem asked_map_publish (events : List RosterEvent) :
    asked (events.map .publish) = [] := by
  rw [asked, List.filterMap_eq_nil_iff]
  intro effect member
  obtain ⟨event, _, rfl⟩ := List.mem_map.1 member
  rfl

theorem asked_monitor (session : Session) (now : Nat) : asked (session.monitor now).2 = [] := by
  unfold monitor
  split <;> rfl

private theorem slot?_request (session : Session) (id other : PrinterId) (bypassCache : Bool) :
    (session.request id bypassCache).1.slot? other =
      if other = id then (session.slot? id).map fun _ => true else session.slot? other := by
  rw [slot?, get?_request]
  split
  · rw [slot?, Option.map_map, Option.map_map]
    rfl
  · rfl

private theorem asked_request (session : Session) (id : PrinterId) (bypassCache : Bool) :
    asked (session.request id bypassCache).2 = if session.slot? id = some false then [id] else [] := by
  unfold request slot?
  split
  · rename_i absent
    rw [absent]
    rfl
  · rename_i record held
    rw [held, Option.map_some]
    split
    · rename_i busy
      rw [busy, if_neg (by simp)]
      rfl
    · rename_i free
      rw [Bool.not_eq_true] at free
      rw [free, if_pos rfl]
      rfl

/-- The place that a sighting finds. The record of a printer that is new to the roster
has a free one. -/
theorem refreshing_sighted (session : Session) (moment : Moment) (printer : Printer) :
    (session.sighted moment printer).refreshing = (session.slot? printer.id).getD false := by
  unfold sighted slot?
  cases session.records.get? printer.id with
  | none => rfl
  | some record => rfl

theorem slot?_found (session : Session) (moment : Moment) (printer : Printer) (other : PrinterId)
    (owned : session.Owned) :
    (session.found moment printer).1.slot? other =
      if other = printer.id then
        some (session.wantsAnswer moment printer || (session.slot? printer.id).getD false)
      else session.slot? other := by
  rw [slot?, get?_found session moment printer other owned]
  split
  · rw [← refreshing_sighted session moment printer, Option.map_some]
    split
    · rename_i wants
      rw [wants, Bool.true_or]
      rfl
    · rename_i unwanted
      rw [Bool.not_eq_true] at unwanted
      rw [unwanted, Bool.false_or]
      rfl
  · rfl

private theorem asked_found (session : Session) (moment : Moment) (printer : Printer)
    (owned : session.Owned) : asked (session.found moment printer).2 =
      if session.wantsAnswer moment printer && !(session.slot? printer.id).getD false
      then [printer.id] else [] := by
  have named := id_sighted moment printer owned
  let listed : Session := { session with
    records := session.records.insert printer.id (session.sighted moment printer) }
  have silent : asked (listed.evaluate printer.id).2 = [] := by
    rw [effects_evaluate_insert session _ printer.id named, asked_map_publish]
  have slot : (listed.evaluate printer.id).1.slot? printer.id =
      some ((session.slot? printer.id).getD false) := by
    rw [slot?, get?_evaluate_insert session _ printer.id printer.id named, if_pos rfl,
      ← refreshing_sighted session moment printer]
    rfl
  unfold found
  dsimp only
  cases wants : session.wantsAnswer moment printer with
  | false =>
    rw [wantsAnswer] at wants
    rw [wants, if_neg Bool.false_ne_true, silent]
    rfl
  | true =>
    rw [wantsAnswer] at wants
    rw [wants, if_pos rfl]
    dsimp only [andThen]
    rw [asked_append, silent, asked_request, slot]
    cases (session.slot? printer.id).getD false <;> rfl

private theorem slot?_lost (session : Session) (now : Nat) (printer : Printer) (other : PrinterId)
    (owned : session.Owned) : (session.lost now printer).1.slot? other = session.slot? other := by
  rw [slot?, get?_lost session now printer other owned]
  split
  · rename_i same
    rw [slot?, same, Option.map_map]
    rfl
  · rfl

theorem asked_lost (session : Session) (now : Nat) (printer : Printer) (owned : session.Owned) :
    asked (session.lost now printer).2 = [] := by
  have silent : asked (if printer.id.isNetworkAddress then [.forget printer.uri] else []) = [] := by
    split <;> rfl
  unfold lost
  cases held : session.records.get? printer.id with
  | none => exact silent
  | some record =>
    have named : record.notFound.id = printer.id := (owned _ _ held).1
    dsimp only [andThen]
    rw [asked_append, asked_append, silent, effects_evaluate_insert session _ _ named,
      asked_map_publish, asked_monitor]
    rfl

theorem slot?_answered (session : Session) (id other : PrinterId) (answer : Option Capabilities)
    (owned : session.Owned) :
    (session.answered id answer).1.slot? other =
      if other = id then (session.slot? id).map fun _ => false else session.slot? other := by
  rw [slot?, get?_answered session id other answer owned]
  split
  · rw [slot?, Option.map_map, Option.map_map]
    rfl
  · rfl

theorem asked_answered (session : Session) (id : PrinterId) (answer : Option Capabilities)
    (owned : session.Owned) : asked (session.answered id answer).2 = [] := by
  unfold answered
  cases held : session.records.get? id with
  | none => rfl
  | some record =>
    have named : (withAnswer record answer).id = id := (owned _ _ held).1
    have evaluated := effects_evaluate_insert session (withAnswer record answer) id named
    exact (congrArg asked evaluated).trans (asked_map_publish _)

private theorem slot?_sweep (session : Session) (now : Nat) (id : PrinterId) :
    (session.sweep now).1.slot? id = session.slot? id ∨ (session.sweep now).1.slot? id = none := by
  rw [slot?, get?_sweep, slot?]
  cases session.records.get? id with
  | none => exact Or.inl rfl
  | some record =>
    rw [Option.filter_some]
    split
    · exact Or.inl rfl
    · exact Or.inr rfl

theorem asked_sweep (session : Session) (now : Nat) : asked (session.sweep now).2 = [] := by
  have rearms : asked ((session.swept now).rearm now).2 = [] := by
    unfold rearm
    split
    · exact asked_monitor ..
    · rfl
  rw [sweep_eq, andThen, asked_append, rearms, List.append_nil]
  split <;> rfl

/-- What becomes of the place for the query of one printer. -/
inductive SlotChange (before : Session) (command : Command) (after : Session)
    (queried : List PrinterId) (id : PrinterId) : Prop
  | kept (same : after.slot? id = before.slot? id) (silent : id ∉ queried)
  | claimed (free : before.slot? id = some false) (taken : after.slot? id = some true)
      (once : queried = [id])
  | entered (finds : ∃ printer, command = .found printer ∧ printer.id = id)
      (lives : before.destroyed = false) (absent : before.slot? id = none)
      (asks : Bool) (listed : after.slot? id = some asks)
      (once : queried = if asks then [id] else [])
  | freed (answers : ∃ answer, command = .answered id answer)
      (free : after.slot? id = (before.slot? id).map fun _ => false) (silent : id ∉ queried)
  | left (gone : after.slot? id = none) (silent : id ∉ queried)

private theorem slotChange_request {before session : Session} {other : PrinterId}
    (alike : session.slot? other = before.slot? other) (id : PrinterId) (bypassCache : Bool)
    (command : Command) :
    SlotChange before command (session.request id bypassCache).1
      (asked (session.request id bypassCache).2) other := by
  have slot := slot?_request session id other bypassCache
  rw [asked_request]
  by_cases same : other = id
  · subst same
    rw [if_pos rfl] at slot
    cases held : session.slot? other with
    | none =>
      rw [held] at slot
      exact .kept (slot.trans (held.symm.trans alike)) List.not_mem_nil
    | some busy =>
      rw [held] at slot
      cases busy with
      | false => exact .claimed (alike.symm.trans held) slot rfl
      | true => exact .kept (slot.trans (held.symm.trans alike)) List.not_mem_nil
  · rw [if_neg same] at slot
    refine .kept (slot.trans alike) ?_
    split
    · exact fun member => same (List.mem_singleton.1 member)
    · exact List.not_mem_nil

private theorem slotChange_found {session : Session} (owned : session.Owned)
    (lives : session.destroyed = false) (moment : Moment) (printer : Printer) (id : PrinterId) :
    SlotChange session (.found printer) (session.found moment printer).1
      (asked (session.found moment printer).2) id := by
  have slot := slot?_found session moment printer id owned
  rw [asked_found session moment printer owned]
  by_cases same : id = printer.id
  · subst same
    rw [if_pos rfl] at slot
    cases held : session.slot? printer.id with
    | none =>
      rw [held, Option.getD_none, Bool.or_false] at slot
      exact .entered ⟨printer, rfl, rfl⟩ lives held _ slot (by rw [Option.getD_none]; simp)
    | some busy =>
      rw [held, Option.getD_some] at slot
      rw [Option.getD_some]
      cases busy with
      | true =>
        rw [Bool.or_true] at slot
        exact .kept (slot.trans held.symm) (by simp)
      | false =>
        cases wants : session.wantsAnswer moment printer with
        | true => exact .claimed held (slot.trans (by rw [wants]; rfl)) rfl
        | false => exact .kept (slot.trans (by rw [wants, held]; rfl)) List.not_mem_nil
  · rw [if_neg same] at slot
    refine .kept slot ?_
    split
    · exact fun member => same (List.mem_singleton.1 member)
    · exact List.not_mem_nil

theorem slotChange_handle {session : Session} (owned : session.Owned) (moment : Moment)
    (command : Command) (id : PrinterId) :
    SlotChange session command (session.handle moment command).1
      (asked (session.handle moment command).2) id := by
  cases command with
  | start priority =>
    have same : (session.start moment.now priority).1.slot? id = session.slot? id := by
      rw [slot?, get?_start, slot?, Option.map_map]
      rfl
    have silent : asked (session.start moment.now priority).2 = [] := by
      dsimp only [start, andThen]
      rw [asked_append, asked_monitor]
      rfl
    exact .kept same (silent ▸ List.not_mem_nil)
  | stop =>
    have silent : asked session.stop.2 = [] := by
      dsimp only [stop]
      split <;> rfl
    exact .kept rfl (silent ▸ List.not_mem_nil)
  | track other =>
    dsimp only [handle, track]
    split
    · exact slotChange_request (by rfl) other true (.track other)
    · exact .kept rfl List.not_mem_nil
  | untrack other => exact .kept rfl List.not_mem_nil
  | found printer =>
    dsimp only [handle]
    split
    · exact .kept rfl List.not_mem_nil
    · rename_i lives
      exact slotChange_found owned (Bool.not_eq_true _ ▸ lives) moment printer id
  | lost printer =>
    dsimp only [handle]
    split
    · exact .kept rfl List.not_mem_nil
    · refine .kept (slot?_lost session moment.now printer id owned) ?_
      rw [asked_lost session moment.now printer owned]
      exact List.not_mem_nil
  | answered other answer =>
    dsimp only [handle]
    split
    · exact .kept rfl List.not_mem_nil
    · have slot := slot?_answered session other id answer owned
      rw [asked_answered session other answer owned]
      split at slot
      · rename_i same
        exact .freed ⟨answer, by rw [same]⟩ (slot.trans (by rw [same])) List.not_mem_nil
      · exact .kept slot List.not_mem_nil
  | tick generation =>
    dsimp only [handle, tick]
    split
    · exact .kept rfl List.not_mem_nil
    · rw [asked_sweep]
      rcases slot?_sweep session moment.now id with same | gone
      · exact .kept same List.not_mem_nil
      · exact .left gone List.not_mem_nil
  | destroy =>
    have same : session.teardown.1.slot? id = session.slot? id := by
      rw [slot?, records_teardown, slot?]
    have silent : asked session.teardown.2 = [] := by
      unfold teardown stop
      dsimp only [andThen]
      split
      · rfl
      · rw [asked_append]
        split <;> rfl
    exact .kept same (silent ▸ List.not_mem_nil)

/-- A query takes the place of the printer, which was free or came with the record. -/
theorem SlotChange.of_asked {before after : Session} {command : Command}
    {queried : List PrinterId} {id : PrinterId}
    (change : SlotChange before command after queried id) (asks : id ∈ queried) :
    queried = [id] ∧ after.slot? id = some true ∧
      (before.slot? id = some false ∨ before.slot? id = none ∧ before.destroyed = false ∧
        ∃ printer, command = .found printer ∧ printer.id = id) := by
  cases change with
  | kept _ silent => exact absurd asks silent
  | claimed free taken once => exact ⟨once, taken, Or.inl free⟩
  | entered finds lives absent wants listed once =>
    cases wants with
    | true => exact ⟨once, listed, Or.inr ⟨absent, lives, finds⟩⟩
    | false =>
      rw [once] at asks
      exact absurd asks List.not_mem_nil
  | freed _ _ silent => exact absurd asks silent
  | left _ silent => exact absurd asks silent

end PrinterRoster.Session
