import PrinterRoster.Proofs.Session.Operations

/-! Which printers are gone, and when they were last sighted. Of a record only its
presence matters here. What a command makes of the presence of a printer is one of
four things, and the one that makes a printer gone leaves a deadline set. -/
namespace PrinterRoster

structure Presence where
  lastSeen : Nat
  isFound : Bool
deriving DecidableEq

namespace Presence

def leave (presence : Presence) : Presence := { presence with isFound := false }

def isExpired (presence : Presence) (now window : Nat) : Bool :=
  !presence.isFound && window ≤ now - presence.lastSeen

end Presence

def Record.presence (record : Record) : Presence := ⟨record.lastSeen, record.isFound⟩

namespace Session

def presence? (session : Session) (id : PrinterId) : Option Presence :=
  (session.records.get? id).map Record.presence

def Gone (session : Session) (id : PrinterId) : Prop :=
  ∃ presence, session.presence? id = some presence ∧ presence.isFound = false

private theorem presence?_request (session : Session) (id other : PrinterId) (bypassCache : Bool) :
    (session.request id bypassCache).1.presence? other = session.presence? other := by
  rw [presence?, get?_request]
  split
  · rename_i same
    rw [same, Option.map_map]
    rfl
  · rfl

private theorem presence?_found (session : Session) (moment : Moment) (printer : Printer)
    (other : PrinterId) (owned : session.Owned) : (session.found moment printer).1.presence? other =
      if other = printer.id then some ⟨moment.now, true⟩ else session.presence? other := by
  rw [presence?, get?_found session moment printer other owned]
  split
  · dsimp only
    split <;> rfl
  · rfl

theorem presence?_lost (session : Session) (now : Nat) (printer : Printer) (other : PrinterId)
    (owned : session.Owned) :
    (session.lost now printer).1.presence? other =
      if other = printer.id then (session.presence? other).map Presence.leave
      else session.presence? other := by
  rw [presence?, get?_lost session now printer other owned]
  split
  · rename_i same
    rw [same, presence?, Option.map_map, Option.map_map]
    rfl
  · rfl

private theorem presence?_answered (session : Session) (id other : PrinterId)
    (answer : Option Capabilities) (owned : session.Owned) :
    (session.answered id answer).1.presence? other = session.presence? other := by
  rw [presence?, get?_answered session id other answer owned]
  split
  · rename_i same
    rw [same, Option.map_map]
    rfl
  · rfl

private theorem presence?_sweep (session : Session) (now : Nat) (id : PrinterId) :
    (session.sweep now).1.presence? id =
      (session.presence? id).filter fun presence => !presence.isExpired now session.window := by
  rw [presence?, get?_sweep, presence?]
  cases session.records.get? id with
  | none => rfl
  | some record =>
    rw [Option.map_some, Option.filter_some, Option.filter_some]
    have same : record.isExpired now session.window =
        record.presence.isExpired now session.window := rfl
    rw [same]
    split <;> rfl

/-- What a command makes of the presence of one printer. -/
theorem presence?_handle {session : Session} (owned : session.Owned)
    (lives : session.destroyed = false) (moment : Moment) {command : Command}
    (goesOn : command ≠ .destroy) (id : PrinterId) :
    (session.handle moment command).1.presence? id =
      match command with
      | .start _ => (session.presence? id).map Presence.leave
      | .found printer =>
        if id = printer.id then some ⟨moment.now, true⟩ else session.presence? id
      | .lost printer =>
        if id = printer.id then (session.presence? id).map Presence.leave
        else session.presence? id
      | .tick generation =>
        if session.deadline.isNone || generation ≠ session.generation then session.presence? id
        else (session.presence? id).filter fun presence =>
          !presence.isExpired moment.now session.window
      | _ => session.presence? id := by
  cases command with
  | start priority =>
    simp only [handle, presence?, get?_start, Option.map_map]
    rfl
  | stop => rfl
  | track other =>
    simp only [handle, track]
    split
    · exact presence?_request ..
    · rfl
  | untrack other => rfl
  | found printer =>
    simp only [handle, lives, Bool.false_eq_true, if_false]
    exact presence?_found session moment printer id owned
  | lost printer =>
    simp only [handle, lives, Bool.false_eq_true, if_false]
    exact presence?_lost session moment.now printer id owned
  | answered other answer =>
    simp only [handle, lives, Bool.false_eq_true, if_false]
    exact presence?_answered session other id answer owned
  | tick generation =>
    simp only [handle, tick]
    split
    · rfl
    · exact presence?_sweep ..
  | destroy => exact absurd rfl goesOn

private theorem isSome_monitor {session : Session} {now : Nat} {id : PrinterId}
    {presence : Presence}
    (held : (session.monitor now).1.presence? id = some presence) :
    (session.monitor now).1.deadline.isSome = true := by
  rw [presence?, records_monitor] at held
  obtain ⟨record, listed, _⟩ := Option.map_eq_some_iff.1 held
  unfold monitor
  rw [Table.isEmpty_of_get? listed, Bool.or_false]
  split
  · assumption
  · rfl

theorem isSome_deadline_start {session : Session} {now : Nat} {priority : List PrinterId}
    {id : PrinterId} {presence : Presence}
    (held : (session.start now priority).1.presence? id = some presence) :
    (session.start now priority).1.deadline.isSome = true :=
  isSome_monitor held

theorem isSome_deadline_lost {session : Session} (owned : session.Owned) {now : Nat}
    {printer : Printer} {presence : Presence}
    (held : (session.lost now printer).1.presence? printer.id = some presence) :
    (session.lost now printer).1.deadline.isSome = true := by
  cases listed : session.records.get? printer.id with
  | none =>
    rw [presence?_lost session now printer printer.id owned, if_pos rfl, presence?, listed] at held
    cases held
  | some record =>
    obtain ⟨evaluated, _, same⟩ := lost_eq_monitor listed now
    rw [same] at held ⊢
    exact isSome_monitor held

inductive PresenceChange (before : Session) (now : Nat) (command : Command) (after : Session)
    (id : PrinterId) : Prop
  | stays (same : after.presence? id = before.presence? id)
  | leaves (left : after.presence? id = (before.presence? id).map Presence.leave)
      (watched : (after.presence? id).isSome = true → after.deadline.isSome = true)
  | sighted (here : after.presence? id = some ⟨now, true⟩)
  | swept (ticks : ∃ generation, command = .tick generation)
      (left : after.presence? id = (before.presence? id).filter fun presence =>
      !presence.isExpired now before.window)

theorem presenceChange_handle {session : Session} (owned : session.Owned)
    (lives : session.destroyed = false) (moment : Moment) {command : Command}
    (goesOn : command ≠ .destroy) (id : PrinterId) :
    PresenceChange session moment.now command (session.handle moment command).1 id := by
  have made := presence?_handle owned lives moment goesOn id
  cases command with
  | start priority =>
    refine .leaves made fun held => ?_
    obtain ⟨presence, held⟩ := Option.isSome_iff_exists.1 held
    exact isSome_deadline_start held
  | lost printer =>
    dsimp only at made
    split at made
    · rename_i same
      refine .leaves made fun held => ?_
      obtain ⟨presence, held⟩ := Option.isSome_iff_exists.1 held
      have handled : session.handle moment (.lost printer) = session.lost moment.now printer := by
        simp only [handle, lives, Bool.false_eq_true, if_false]
      rw [handled, same] at held
      rw [handled]
      exact isSome_deadline_lost owned held
    · exact .stays made
  | found printer =>
    dsimp only at made
    split at made
    · exact .sighted made
    · exact .stays made
  | tick generation =>
    dsimp only at made
    split at made
    · exact .stays made
    · exact .swept ⟨generation, rfl⟩ made
  | destroy => exact absurd rfl goesOn
  | stop => exact .stays made
  | track other => exact .stays made
  | untrack other => exact .stays made
  | answered other answer => exact .stays made

/-- Whatever makes a printer gone leaves a deadline set. -/
theorem PresenceChange.isSome_deadline {before after : Session} {now : Nat} {command : Command}
    {id : PrinterId} (change : PresenceChange before now command after id) (wasThere : ¬ before.Gone id)
    (gone : after.Gone id) : after.deadline.isSome = true := by
  obtain ⟨presence, held, absent⟩ := gone
  cases change with
  | stays same => exact absurd ⟨presence, same ▸ held, absent⟩ wasThere
  | leaves _ watched => exact watched (Option.isSome_iff_exists.2 ⟨presence, held⟩)
  | sighted here =>
    rw [here] at held
    cases held
    cases absent
  | swept _ left =>
    rw [left] at held
    exact absurd ⟨presence, (Option.filter_eq_some_iff.1 held).1, absent⟩ wasThere

/-- A printer that is and stays gone was last sighted when it was before. -/
theorem PresenceChange.eq_of_gone {before after : Session} {now : Nat} {command : Command}
    {id : PrinterId} (change : PresenceChange before now command after id) {old new : Presence}
    (held : before.presence? id = some old) (wasGone : old.isFound = false)
    (holds : after.presence? id = some new) (gone : new.isFound = false) : new = old := by
  cases change with
  | stays same =>
    rw [same, held] at holds
    exact (Option.some.inj holds).symm
  | leaves left _ =>
    rw [left, held] at holds
    cases holds
    cases old
    cases wasGone
    rfl
  | sighted here =>
    rw [here] at holds
    cases holds
    cases gone
  | swept _ left =>
    rw [left, held] at holds
    exact (Option.some.inj (Option.filter_eq_some_iff.1 holds).1).symm

/-- Nobody was sighted later than now. -/
theorem PresenceChange.lastSeen_le {before after : Session} {now : Nat} {command : Command}
    {id : PrinterId} (change : PresenceChange before now command after id)
    (past : ∀ presence ∈ before.presence? id, presence.lastSeen ≤ now) :
    ∀ presence ∈ after.presence? id, presence.lastSeen ≤ now := by
  intro presence held
  rw [Option.mem_def] at held
  cases change with
  | stays same => exact past presence (same ▸ held)
  | leaves left _ =>
    rw [left] at held
    obtain ⟨old, was, rfl⟩ := Option.map_eq_some_iff.1 held
    exact past old was
  | sighted here =>
    rw [here] at held
    cases held
    exact Nat.le_refl now
  | swept _ left =>
    rw [left] at held
    exact past presence (Option.filter_eq_some_iff.1 held).1

/-- A sighting is not forgotten as long as the printer stays on the roster. -/
theorem PresenceChange.le_lastSeen {before after : Session} {now instant : Nat}
    {command : Command} {id : PrinterId} (change : PresenceChange before now command after id)
    (past : instant ≤ now) (seen : ∀ presence ∈ before.presence? id, instant ≤ presence.lastSeen) :
    ∀ presence ∈ after.presence? id, instant ≤ presence.lastSeen := by
  intro presence held
  rw [Option.mem_def] at held
  cases change with
  | stays same => exact seen presence (same ▸ held)
  | leaves left _ =>
    rw [left] at held
    obtain ⟨old, was, rfl⟩ := Option.map_eq_some_iff.1 held
    exact seen old was
  | sighted here =>
    rw [here] at held
    cases held
    exact past
  | swept _ left =>
    rw [left] at held
    exact seen presence (Option.filter_eq_some_iff.1 held).1

/-- Who is still on the roster after a sweep has not expired. -/
theorem lt_of_sweep {session : Session} (owned : session.Owned)
    (lives : session.destroyed = false) (set : session.deadline.isSome = true) {moment : Moment}
    {id : PrinterId} {presence : Presence}
    (held : (session.handle moment (.tick session.generation)).1.presence? id = some presence)
    (gone : presence.isFound = false) : moment.now - presence.lastSeen < session.window := by
  have goesOn : Command.tick session.generation ≠ .destroy := nofun
  rw [presence?_handle owned lives moment goesOn id] at held
  dsimp only at held
  rw [Option.isNone_eq_false_iff.2 set, Bool.false_or, if_neg (by simp)] at held
  have unexpired := (Option.filter_eq_some_iff.1 held).2
  rw [Presence.isExpired, gone, Bool.not_false, Bool.true_and, Bool.not_eq_true',
    decide_eq_false_iff_not] at unexpired
  exact Nat.not_le.1 unexpired

private theorem owned_of_get? {before after : Session} (owned : before.Owned)
    (from_before : ∀ id, ∀ record ∈ after.records.get? id,
      (∃ old ∈ before.records.get? id, record.id = old.id ∧ record.printer = old.printer) ∨
        (record.id = id ∧ record.printer.id = id)) : after.Owned := by
  intro id record held
  rcases from_before id record held with ⟨old, was, named, same⟩ | fresh
  · rw [named, same]
    exact owned id old was
  · exact fresh

private theorem owned_request {session : Session} (owned : session.Owned) (id : PrinterId)
    (bypassCache : Bool) : (session.request id bypassCache).1.Owned := by
  apply owned_of_get? owned
  intro other record held
  rw [get?_request] at held
  split at held
  · rename_i same
    obtain ⟨old, was, rfl⟩ := Option.map_eq_some_iff.1 held
    exact Or.inl ⟨old, same ▸ was, rfl, rfl⟩
  · exact Or.inl ⟨record, held, rfl, rfl⟩

theorem owned_handle {session : Session} (owned : session.Owned) (moment : Moment)
    (command : Command) : (session.handle moment command).1.Owned := by
  cases command with
  | start priority =>
    apply owned_of_get? owned
    intro id record held
    rw [handle, get?_start] at held
    obtain ⟨old, was, rfl⟩ := Option.map_eq_some_iff.1 held
    exact Or.inl ⟨old, was, rfl, rfl⟩
  | stop => exact owned
  | track id =>
    let tracking : Session := { session with
      tracking := if session.tracking.contains id then session.tracking else session.tracking ++ [id] }
    have same : tracking.Owned := owned
    dsimp only [handle, track]
    split
    · exact owned_request same id true
    · exact same
  | untrack id => exact owned
  | found printer =>
    dsimp only [handle]
    split
    · exact owned
    apply owned_of_get? owned
    intro id record held
    rw [get?_found session moment printer id owned] at held
    split at held
    · rename_i same
      have named := id_sighted moment printer owned
      rw [Option.mem_some_iff] at held
      rw [← held, same]
      right
      split <;> exact ⟨named, rfl⟩
    · exact Or.inl ⟨record, held, rfl, rfl⟩
  | lost printer =>
    dsimp only [handle]
    split
    · exact owned
    apply owned_of_get? owned
    intro id record held
    rw [get?_lost session moment.now printer id owned] at held
    split at held
    · rename_i same
      obtain ⟨old, was, rfl⟩ := Option.map_eq_some_iff.1 held
      exact Or.inl ⟨old, same ▸ was, rfl, rfl⟩
    · exact Or.inl ⟨record, held, rfl, rfl⟩
  | answered other answer =>
    dsimp only [handle]
    split
    · exact owned
    apply owned_of_get? owned
    intro id record held
    rw [get?_answered session other id answer owned] at held
    split at held
    · rename_i same
      obtain ⟨old, was, rfl⟩ := Option.map_eq_some_iff.1 held
      exact Or.inl ⟨old, same ▸ was, rfl, rfl⟩
    · exact Or.inl ⟨record, held, rfl, rfl⟩
  | tick generation =>
    dsimp only [handle, tick]
    split
    · exact owned
    · apply owned_of_get? owned
      intro id record held
      rw [get?_sweep] at held
      exact Or.inl ⟨record, (Option.filter_eq_some_iff.1 held).1, rfl, rfl⟩
  | destroy =>
    apply owned_of_get? owned
    intro id record held
    rw [handle, records_teardown] at held
    exact Or.inl ⟨record, held, rfl, rfl⟩

end Session

end PrinterRoster
