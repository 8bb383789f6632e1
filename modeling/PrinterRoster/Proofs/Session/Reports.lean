import PrinterRoster.Proofs.Session.Presence
import PrinterRoster.Proofs.Session.Subscriber

/-! When a printer is there. Sources report printers by path, and the roster keeps them
by id, so one record may be reported at several paths. It follows the latest report,
whatever the path of that: it is there from a sighting on until any path is lost, and as
long as it is there no sweep touches it. -/
namespace PrinterRoster.Session

def Here (session : Session) (id : PrinterId) : Prop :=
  ∃ presence, session.presence? id = some presence ∧ presence.isFound = true

namespace Turn

def FindsAt (turn : Turn) (id : PrinterId) (path : String) : Prop :=
  ∃ printer, turn.command = .found printer ∧ printer.id = id ∧ printer.path = path

def LosesAt (turn : Turn) (id : PrinterId) (path : String) : Prop :=
  ∃ printer, turn.command = .lost printer ∧ printer.id = id ∧ printer.path = path

end Turn

/-- A path was reported found for an id, and was not reported lost since. -/
def StandsAt (turns : List Turn) (id : PrinterId) (path : String) : Prop :=
  ∃ earlier sighting later, turns = earlier ++ sighting :: later ∧ sighting.FindsAt id path ∧
    ∀ turn ∈ later, ¬ turn.LosesAt id path

/-- Some path was reported found for an id, and no path of it was reported lost since. -/
def Stands (turns : List Turn) (id : PrinterId) : Prop :=
  ∃ earlier sighting later path, turns = earlier ++ sighting :: later ∧
    sighting.FindsAt id path ∧ ∀ turn ∈ later, ∀ other, ¬ turn.LosesAt id other

theorem not_stands_nil (id : PrinterId) : ¬ Stands [] id := by
  rintro ⟨earlier, sighting, later, _, whole, _⟩
  exact absurd whole.symm (List.append_ne_nil_of_right_ne_nil earlier (List.cons_ne_nil _ later))

theorem stands_snoc (turns : List Turn) (turn : Turn) (id : PrinterId) :
    Stands (turns ++ [turn]) id ↔
      (∃ path, turn.FindsAt id path) ∨ Stands turns id ∧ ∀ path, ¬ turn.LosesAt id path := by
  constructor
  · rintro ⟨earlier, sighting, later, path, whole, finds, kept⟩
    rcases List.eq_nil_or_concat later with rfl | ⟨others, last, rfl⟩
    · obtain ⟨_, same⟩ := List.append_inj' whole rfl
      cases same
      exact Or.inl ⟨path, finds⟩
    · rw [List.concat_eq_append, ← List.cons_append, ← List.append_assoc] at whole
      obtain ⟨before, same⟩ := List.append_inj' whole rfl
      cases same
      rw [List.concat_eq_append] at kept
      refine Or.inr ⟨⟨earlier, sighting, others, path, before, finds, ?_⟩, ?_⟩
      · intro other member
        exact kept other (List.mem_append_left _ member)
      · exact kept turn (List.mem_append_right _ (List.mem_singleton_self _))
  · rintro (⟨path, finds⟩ | ⟨⟨earlier, sighting, later, path, rfl, finds, kept⟩, last⟩)
    · exact ⟨turns, turn, [], path, rfl, finds, fun _ member => absurd member List.not_mem_nil⟩
    · refine ⟨earlier, sighting, later ++ [turn], path, by simp, finds, ?_⟩
      intro other member
      rcases List.mem_append.1 member with before | same
      · exact kept other before
      · rw [List.mem_singleton.1 same]
        exact last

theorem not_here_start (session : Session) (now : Nat) (priority : List PrinterId)
    (id : PrinterId) : ¬ (session.start now priority).1.Here id := by
  rintro ⟨presence, held, here⟩
  rw [presence?, get?_start, Option.map_map] at held
  obtain ⟨record, _, rfl⟩ := Option.map_eq_some_iff.1 held
  cases here

/-- A command other than a start makes a printer be there by a sighting, and be gone by
a loss, and nothing else does either. -/
theorem here_handle {session : Session} (owned : session.Owned)
    (lives : session.destroyed = false) (turn : Turn) (goesOn : turn.command ≠ .destroy)
    (unstarted : ∀ priority, turn.command ≠ .start priority) (id : PrinterId) :
    (session.handle turn.moment turn.command).1.Here id ↔
      (∃ path, turn.FindsAt id path) ∨ session.Here id ∧ ∀ path, ¬ turn.LosesAt id path := by
  obtain ⟨moment, command⟩ := turn
  dsimp only [Turn.FindsAt, Turn.LosesAt] at goesOn unstarted ⊢
  have made := presence?_handle owned lives moment goesOn id
  rw [Here, made]
  cases command with
  | start priority => exact absurd rfl (unstarted priority)
  | destroy => exact absurd rfl goesOn
  | found printer =>
    dsimp only
    by_cases same : id = printer.id
    · subst same
      rw [if_pos rfl]
      exact iff_of_true ⟨_, rfl, rfl⟩ (Or.inl ⟨printer.path, printer, rfl, rfl, rfl⟩)
    · simp [Here, same, Ne.symm same]
  | lost printer =>
    by_cases same : id = printer.id
    · subst same
      simp [Presence.leave]
    · simp [Here, same, Ne.symm same]
  | tick generation =>
    dsimp only
    split
    · simp [Here]
    · simp only [Option.filter_eq_some_iff, Presence.isExpired]
      constructor
      · rintro ⟨presence, ⟨held, _⟩, here⟩
        refine Or.inr ⟨⟨presence, held, here⟩, ?_⟩
        rintro path ⟨_, told, _⟩
        cases told
      · rintro (⟨_, _, told, _⟩ | ⟨⟨presence, held, here⟩, _⟩)
        · cases told
        · exact ⟨presence, ⟨held, by simp [here]⟩, here⟩
  | stop => simp [Here]
  | track other => simp [Here]
  | untrack other => simp [Here]
  | answered other answer => simp [Here]

theorem here_iff (session : Session) (id : PrinterId) :
    session.Here id ↔ ∃ record ∈ session.records.get? id, record.isFound = true := by
  rw [Here, presence?]
  constructor
  · rintro ⟨presence, held, here⟩
    obtain ⟨record, listed, rfl⟩ := Option.map_eq_some_iff.1 held
    exact ⟨record, listed, here⟩
  · rintro ⟨record, listed, here⟩
    exact ⟨record.presence, Option.map_eq_some_iff.2 ⟨record, listed, rfl⟩, here⟩

private theorem get?_tick_of_here {session : Session} {id : PrinterId} (here : session.Here id)
    (now generation : Nat) :
    (session.tick now generation).1.records.get? id = session.records.get? id := by
  obtain ⟨presence, held, here⟩ := here
  obtain ⟨record, listed, rfl⟩ := Option.map_eq_some_iff.1 held
  have found : record.isFound = true := here
  unfold tick
  split
  · rfl
  · rw [get?_sweep, listed, Option.filter_some, Record.isExpired, found]
    rfl

private theorem here_handleAll (window : Nat) (known : KnownGood) (before : List Turn)
    (restart : Moment)
    (priority : List PrinterId) (turns : List Turn)
    (lives : ∀ turn ∈ before ++ turns, turn.command ≠ .destroy)
    (once : ∀ turn ∈ turns, ∀ other, turn.command ≠ .start other) (id : PrinterId) :
    ((fresh window known).handleAll (before ++ [⟨restart, .start priority⟩] ++ turns)).1.Here id ↔
      Stands turns id := by
  induction turns using List.reverseRecOn with
  | nil =>
    rw [List.append_nil, handleAll_snoc]
    exact iff_of_false (not_here_start _ _ _ _) (not_stands_nil id)
  | append_singleton earlier turn ih =>
    have live : ∀ other ∈ before ++ [⟨restart, .start priority⟩] ++ earlier,
        other.command ≠ .destroy := by
      intro other member
      rw [List.append_assoc, List.mem_append, List.mem_append, List.mem_singleton] at member
      rcases member with earliest | rfl | between
      · exact lives other (List.mem_append_left _ earliest)
      · exact nofun
      · exact lives other (by simp [between])
    have last : turn ∈ earlier ++ [turn] := List.mem_append_right _ (List.mem_singleton_self _)
    obtain ⟨running, agreement⟩ := agreement_handleAll window known _ live
    rw [← List.append_assoc, handleAll_snoc, stands_snoc, ← ih]
    · exact here_handle agreement.owned running turn (lives turn (List.mem_append_right _ last))
        (once turn last) id
    · intro other member
      rcases List.mem_append.1 member with earliest | between
      · exact lives other (List.mem_append_left _ earliest)
      · exact lives other (by simp [between])
    · intro other member
      exact once other (List.mem_append_left _ member)

/-- After a start, a printer is found exactly if some path was reported found for its id
and no path was reported lost for it since; and no sweep touches its record then. -/
theorem found_iff_stands (window : Nat) (known : KnownGood) (before : List Turn)
    (restart : Moment) (priority : List PrinterId) (turns : List Turn)
    (lives : ∀ turn ∈ before ++ turns, turn.command ≠ .destroy)
    (once : ∀ turn ∈ turns, ∀ other, turn.command ≠ .start other) (id : PrinterId) :
    let session :=
      ((fresh window known).handleAll (before ++ [⟨restart, .start priority⟩] ++ turns)).1
    ((∃ record ∈ session.records.get? id, record.isFound = true) ↔ Stands turns id) ∧
      (Stands turns id → ∀ now generation,
        (session.tick now generation).1.records.get? id = session.records.get? id) := by
  intro session
  have here : session.Here id ↔ Stands turns id :=
    here_handleAll window known before restart priority turns lives once id
  refine ⟨(here_iff session id).symm.trans here, ?_⟩
  intro stands
  exact get?_tick_of_here (here.2 stands)

theorem found_iff_stands_at_two_paths :
    let office := Printer.report (some "urn:uuid:1") "Office" "ipp://h" none
    let secure := Printer.report (some "urn:uuid:1") "Office" "ipps://h" none
    let turns : List Turn := [⟨⟨1, fun _ => none⟩, .found office⟩,
      ⟨⟨2, fun _ => none⟩, .lost office⟩, ⟨⟨3, fun _ => none⟩, .found secure⟩]
    let session :=
      ((fresh 10 (.empty 50)).handleAll ([] ++ [⟨⟨0, fun _ => none⟩, .start []⟩] ++ turns)).1
    (∀ turn ∈ turns, turn.command ≠ .destroy) ∧
      (∀ turn ∈ turns, ∀ other, turn.command ≠ .start other) ∧ Stands turns office.id ∧
        (∃ record ∈ session.records.get? office.id, record.isFound = true) ∧
          (session.tick 12 1).1.records.get? office.id = session.records.get? office.id := by
  intro office secure turns
  have lives : ∀ turn ∈ turns, turn.command ≠ .destroy := by decide
  have once : ∀ turn ∈ turns, ∀ other, turn.command ≠ .start other := by simp [turns]
  have same : secure.id = office.id := by decide +kernel
  have stands : Stands turns office.id :=
    ⟨turns.take 2, ⟨⟨3, fun _ => none⟩, .found secure⟩, [], secure.path, rfl,
      ⟨secure, rfl, same, rfl⟩, fun _ member => absurd member List.not_mem_nil⟩
  have settled :=
    found_iff_stands 10 (.empty 50) [] ⟨0, fun _ => none⟩ [] turns lives once office.id
  exact ⟨lives, once, stands, settled.1.2 stands, settled.2 stands 12 1⟩

/-- A printer is reported at two paths and lost at one of them. It is still reported at
the other, and yet it is gone, and the next sweep removes it. -/
theorem gone_though_one_path_stands :
    let office := Printer.report (some "urn:uuid:1") "Office" "ipp://h" none
    let secure := Printer.report (some "urn:uuid:1") "Office" "ipps://h" none
    let turns : List Turn := [⟨⟨0, fun _ => none⟩, .found office⟩,
      ⟨⟨0, fun _ => none⟩, .found secure⟩, ⟨⟨0, fun _ => none⟩, .lost office⟩]
    let session :=
      ((fresh 3000 (.empty 50)).handleAll ([⟨⟨0, fun _ => none⟩, .start []⟩] ++ turns)).1
    StandsAt turns secure.id secure.path ∧
      (∃ record ∈ session.records.get? secure.id, record.isFound = false) ∧
        (session.handle ⟨3000, fun _ => none⟩ (.tick session.generation)).1.records.get? secure.id =
          none := by
  intro office secure turns session
  refine ⟨⟨[⟨⟨0, fun _ => none⟩, .found office⟩], _, [⟨⟨0, fun _ => none⟩, .lost office⟩], rfl,
    ⟨secure, rfl, rfl, rfl⟩, ?_⟩, by decide +kernel, by decide +kernel⟩
  intro turn member
  cases List.mem_singleton.1 member
  rintro ⟨printer, told, _, path⟩
  cases told
  exact absurd path (by decide)

end PrinterRoster.Session
