import PrinterRoster.Proofs.Course
import PrinterRoster.Proofs.Session.Dialogue
import PrinterRoster.Proofs.Session.RecordChange

/-! Printers that refuse to answer. A printer without capabilities is queried when a sighting of it
begins, at the path where it is then, unless a query of it is under way. It may be elsewhere when it
is answered, as a sighting at another path is not a new one. -/
namespace PrinterRoster.Session

/-- A printer is there of which nothing is known, and it is not being queried. -/
structure Silent (session : Session) (id : PrinterId) (record : Record) : Prop where
  held : session.records.get? id = some record
  there : record.isFound = true
  unknown : record.capabilities = none
  idle : record.refreshing = false

/-- A query of a printer, with the path of the printer then and with the number of the command that
began it. -/
structure Question where
  id : PrinterId
  path : String
  begun : Nat
deriving DecidableEq

structure Pursuit where
  session : Session
  count : Nat
  since : PrinterId → Nat
  /-- The queries that were under way when the latest sighting of a printer began. -/
  inherited : PrinterId → List Question
  unanswered : List Question
  refused : List Question

namespace Pursuit

inductive Move
  | told (moment : Moment) (command : Command)
  | heard (moment : Moment) (question : Question) (answer : Option Capabilities)

def start (window : Nat) (known : KnownGood) : Pursuit :=
  ⟨fresh window known, 0, fun _ => 0, fun _ => [], [], []⟩

def questions (number : Nat) (effects : List Effect) : List Question :=
  effects.filterMap fun
    | .query id printer _ => some ⟨id, printer.path, number⟩
    | _ => none

def begins (pursuit : Pursuit) (after : Session) (id : PrinterId) : Bool :=
  !pursuit.session.isThere id && after.isThere id

def handled (pursuit : Pursuit) (moment : Moment) (command : Command) : Pursuit :=
  let outcome := pursuit.session.handle moment command
  { pursuit with
    session := outcome.1
    count := pursuit.count + 1
    since := fun id => if pursuit.begins outcome.1 id then pursuit.count + 1 else pursuit.since id
    inherited := fun id =>
      if pursuit.begins outcome.1 id then pursuit.unanswered else pursuit.inherited id
    unanswered := pursuit.unanswered ++ questions (pursuit.count + 1) outcome.2 }

def closed (pursuit : Pursuit) (question : Question) (answer : Option Capabilities) : Pursuit :=
  { pursuit with
    unanswered := pursuit.unanswered.erase question
    refused := if answer.isNone then pursuit.refused ++ [question] else pursuit.refused }

def move (pursuit : Pursuit) : Move → Pursuit
  | .told moment command =>
    if command.isAnswer || pursuit.session.destroyed then pursuit else pursuit.handled moment command
  | .heard moment question answer =>
    if question ∈ pursuit.unanswered ∧ pursuit.session.destroyed = false then
      (pursuit.closed question answer).handled moment (.answered question.id answer)
    else pursuit

/-- A printer that is there is sighted at another path than it is asked at, which leads to no query of
that path: the printer has no priority, or the query is still under way. -/
def Elsewhere (question : Question) (pursuit : Pursuit) (move : Move) : Prop :=
  ∃ moment printer, move = .told moment (.found printer) ∧ printer.id = question.id ∧
    printer.path ≠ question.path ∧ question.begun ≤ pursuit.count ∧
      pursuit.session.isThere question.id = true ∧
        (pursuit.session.isPriority question.id = false ∨ question ∈ pursuit.unanswered)

/-- A query that the latest sighting of its printer has found under way, or one begun since, of the
path where the printer is or of one from which it has strayed. -/
def Concerns (pursuit : Pursuit) (strayed : Question → Prop) (question : Question)
    (record : Record) : Prop :=
  question ∈ pursuit.inherited question.id ∨
    pursuit.since question.id ≤ question.begun ∧
      (question.path = record.printer.path ∨ strayed question)

structure Counted (pursuit : Pursuit) : Prop where
  owned : pursuit.session.Owned
  past : ∀ id, pursuit.since id ≤ pursuit.count
  numbered : ∀ question, question ∈ pursuit.unanswered ∨ question ∈ pursuit.refused →
    question.begun ≤ pursuit.count

structure Sound (pursuit : Pursuit) (strayed : Question → Prop) (id : PrinterId) : Prop where
  asking : ∀ record ∈ pursuit.session.records.get? id, record.isFound = true →
    ∀ question ∈ pursuit.unanswered, question.id = id → pursuit.Concerns strayed question record
  asked : ∀ record, Silent pursuit.session id record →
    ∃ question ∈ pursuit.refused, question.id = id ∧ pursuit.Concerns strayed question record

def Occupied (pursuit : Pursuit) : Prop :=
  ∀ id, pursuit.session.slot? id = some true → ∃ question ∈ pursuit.unanswered, question.id = id

private theorem mem_questions {number : Nat} {effects : List Effect} {question : Question} :
    question ∈ questions number effects ↔
      question.begun = number ∧ question.path ∈ inquired question.id effects := by
  simp only [questions, inquired, List.mem_filterMap]
  constructor
  · rintro ⟨effect, member, same⟩
    cases effect with
    | query id printer bypassCache =>
      cases same
      exact ⟨rfl, _, member, if_pos rfl⟩
    | _ => cases same
  · rintro ⟨rfl, effect, member, same⟩
    cases effect with
    | query id printer bypassCache =>
      dsimp only at same
      split at same
      · rename_i about
        refine ⟨_, member, ?_⟩
        dsimp only
        rw [about, Option.some.inj same]
      · cases same
    | _ => cases same

section Handled
variable {pursuit : Pursuit} {moment : Moment} {command : Command} {id : PrinterId}

theorem mem_unanswered_handled {question : Question} :
    question ∈ (pursuit.handled moment command).unanswered ↔
      question ∈ pursuit.unanswered ∨ question.begun = pursuit.count + 1 ∧
        question.path ∈ inquired question.id (pursuit.session.handle moment command).2 := by
  rw [handled, List.mem_append, mem_questions]

private theorem begins_of_same (same : (pursuit.handled moment command).session.isThere id =
      pursuit.session.isThere id) :
    (pursuit.handled moment command).since id = pursuit.since id ∧
      (pursuit.handled moment command).inherited id = pursuit.inherited id := by
  have goesOn : pursuit.begins (pursuit.handled moment command).session id = false := by
    rw [begins, same, Bool.not_and_self]
  constructor
  · exact if_neg (Bool.not_eq_true _ ▸ goesOn)
  · exact if_neg (Bool.not_eq_true _ ▸ goesOn)

/-- A query keeps what it concerns while the sighting goes on and the printer stays where it is. -/
theorem Concerns.kept {later : Pursuit} {strayed strays : Question → Prop} {question : Question}
    {old record : Record} (concerns : pursuit.Concerns strayed question old)
    (since : later.since question.id = pursuit.since question.id)
    (inherited : later.inherited question.id = pursuit.inherited question.id)
    (placed : record.printer = old.printer) (more : ∀ other, strayed other → strays other) :
    later.Concerns strays question record := by
  rw [Concerns, since, inherited, placed]
  exact concerns.imp_right fun ⟨recent, place⟩ => ⟨recent, place.imp_right (more question)⟩

theorem Counted.handled (counted : Counted pursuit) (moment : Moment) (command : Command) :
    Counted (pursuit.handled moment command) where
  owned := owned_handle counted.owned moment command
  past := by
    intro id
    dsimp only [Pursuit.handled]
    split
    · exact Nat.le_refl _
    · exact (counted.past id).trans (Nat.le_succ _)
  numbered := by
    rintro question (asking | refused)
    · rcases mem_unanswered_handled.1 asking with old | ⟨begun, _⟩
      · exact (counted.numbered question (Or.inl old)).trans (Nat.le_succ _)
      · exact Nat.le_of_eq begun
    · exact (counted.numbered question (Or.inr refused)).trans (Nat.le_succ _)

variable {strayed strays : Question → Prop}

/-- A command that leaves a printer where it is, and there or not there. -/
theorem Sound.of_same (counted : Counted pursuit) (sound : Sound pursuit strayed id)
    (more : ∀ question, strayed question → strays question)
    (there : (pursuit.handled moment command).session.isThere id = pursuit.session.isThere id)
    (placed : ∀ record ∈ (pursuit.handled moment command).session.records.get? id,
      ∃ old ∈ pursuit.session.records.get? id, record.isFound = old.isFound ∧
        record.printer = old.printer)
    (asks : ∀ record ∈ (pursuit.handled moment command).session.records.get? id,
      ∀ path ∈ inquired id (pursuit.session.handle moment command).2, path = record.printer.path)
    (asked : ∀ record, Silent (pursuit.handled moment command).session id record →
      ∃ question ∈ pursuit.refused, question.id = id ∧
        ∃ old, record.printer = old.printer ∧ pursuit.Concerns strayed question old) :
    Sound (pursuit.handled moment command) strays id := by
  obtain ⟨since, inherited⟩ := begins_of_same there
  constructor
  · rintro record held here question member rfl
    obtain ⟨old, was, alike, same⟩ := placed record held
    rcases mem_unanswered_handled.1 member with before | ⟨begun, path⟩
    · exact (sound.asking old was (alike ▸ here) question before rfl).kept since inherited same more
    · refine Or.inr ⟨?_, Or.inl (asks record held _ path)⟩
      rw [since, begun]
      exact (counted.past _).trans (Nat.le_succ _)
  · intro record silent
    obtain ⟨question, refused, rfl, old, same, concerns⟩ := asked record silent
    exact ⟨question, refused, rfl, concerns.kept since inherited same more⟩

/-- With the sighting of a printer that was not there a new account of it begins. -/
theorem sound_of_begins {record : Record}
    (begins : pursuit.begins (pursuit.handled moment command).session id = true)
    (holds : (pursuit.handled moment command).session.records.get? id = some record)
    (asks : ∀ path ∈ inquired id (pursuit.session.handle moment command).2,
      path = record.printer.path)
    (busy : record.capabilities = none → record.refreshing = true) :
    Sound (pursuit.handled moment command) strays id := by
  have since : (pursuit.handled moment command).since id = pursuit.count + 1 := if_pos begins
  have inherited : (pursuit.handled moment command).inherited id = pursuit.unanswered :=
    if_pos begins
  constructor
  · rintro other held here question member rfl
    cases holds.symm.trans held
    rcases mem_unanswered_handled.1 member with before | ⟨begun, path⟩
    · exact Or.inl (inherited ▸ before)
    · exact Or.inr ⟨by rw [since, begun], Or.inl (asks _ path)⟩
  · intro other silent
    cases holds.symm.trans silent.held
    cases (busy silent.unknown).symm.trans silent.idle

/-- The sighting of a printer that is there moves it, and nothing else that was asked of it counts
less. -/
theorem Sound.of_sighted_again (counted : Counted pursuit) (sound : Sound pursuit strayed id)
    {old record : Record} (held : pursuit.session.records.get? id = some old)
    (was : old.isFound = true)
    (holds : (pursuit.handled moment command).session.records.get? id = some record)
    (here : record.isFound = true)
    (asks : ∀ path ∈ inquired id (pursuit.session.handle moment command).2,
      path = record.printer.path)
    (idle : record.capabilities = none → record.refreshing = false →
      Silent pursuit.session id old ∧ pursuit.session.isPriority id = false)
    (moved : ∀ question, question.id = id → question.path ≠ record.printer.path →
      question.begun ≤ pursuit.count →
        pursuit.session.isPriority id = false ∨ question ∈ pursuit.unanswered → strays question) :
    Sound (pursuit.handled moment command) strays id := by
  have there : (pursuit.handled moment command).session.isThere id = pursuit.session.isThere id := by
    rw [isThere_of_get? holds, isThere_of_get? held, was, here]
  obtain ⟨since, inherited⟩ := begins_of_same there
  have concerns (question : Question) (about : question.id = id)
      (past : question.begun ≤ pursuit.count) (before : pursuit.Concerns strayed question old)
      (excused : pursuit.session.isPriority id = false ∨ question ∈ pursuit.unanswered) :
      (pursuit.handled moment command).Concerns strays question record := by
    subst about
    rw [Concerns, since, inherited]
    refine before.imp_right fun ⟨recent, _⟩ => ⟨recent, ?_⟩
    by_cases same : question.path = record.printer.path
    · exact Or.inl same
    · exact Or.inr (moved question rfl same past excused)
  constructor
  · intro other stands _ question member about
    cases holds.symm.trans stands
    rcases mem_unanswered_handled.1 member with before | ⟨begun, path⟩
    · exact concerns question about (counted.numbered question (Or.inl before))
        (sound.asking old held was question before about) (Or.inr before)
    · subst about
      refine Or.inr ⟨?_, Or.inl (asks _ path)⟩
      rw [since, begun]
      exact (counted.past _).trans (Nat.le_succ _)
  · intro other silent
    cases holds.symm.trans silent.held
    obtain ⟨wasSilent, ordinary⟩ := idle silent.unknown silent.idle
    obtain ⟨question, refused, about, before⟩ := sound.asked old wasSilent
    exact ⟨question, refused, about, concerns question about
      (counted.numbered question (Or.inr refused)) before (Or.inl ordinary)⟩

theorem Sound.handled (counted : Counted pursuit) (lives : pursuit.session.destroyed = false)
    (sound : Sound pursuit strayed id) (more : ∀ question, strayed question → strays question)
    (moved : ∀ printer, command = .found printer → ∀ question : Question,
      printer.id = question.id → printer.path ≠ question.path → question.begun ≤ pursuit.count →
        pursuit.session.isThere question.id = true →
          pursuit.session.isPriority question.id = false ∨ question ∈ pursuit.unanswered →
            strays question)
    (refused : command = .answered id none → ∀ record ∈ pursuit.session.records.get? id,
      record.isFound = true → ∃ question ∈ pursuit.refused, question.id = id ∧
        pursuit.Concerns strayed question record) :
    Sound (pursuit.handled moment command) strays id := by
  have change := recordChange_handle counted.owned moment id lives command
  cases change with
  | kept same silent =>
    refine sound.of_same counted more ?_ ?_ ?_ ?_
    · exact congrArg (Option.any (·.isFound)) same
    · intro record held
      exact ⟨record, same ▸ held, rfl, rfl⟩
    · rw [silent]
      exact fun _ _ path member => absurd member List.not_mem_nil
    · intro record silent
      obtain ⟨question, member, about, concerns⟩ :=
        sound.asked record ⟨same ▸ silent.held, silent.there, silent.unknown, silent.idle⟩
      exact ⟨question, member, about, record, rfl, concerns⟩
  | gone absent silent =>
    constructor
    · intro record held here
      cases here.symm.trans (absent record held)
    · intro record silent
      cases silent.there.symm.trans (absent record silent.held)
  | tracked record held holds asks =>
    refine sound.of_same counted more ?_ ?_ ?_ ?_
    · exact (isThere_of_get? holds).trans (isThere_of_get? held).symm
    · intro other stands
      cases holds.symm.trans stands
      exact ⟨record, held, rfl, rfl⟩
    · rw [asks]
      intro other stands path member
      cases holds.symm.trans stands
      exact List.mem_singleton.1 member
    · intro other silent
      cases holds.symm.trans silent.held
      cases silent.idle
  | sighted printer finds named record holds here placed unanswered wants wanted slot asks =>
    have asksThere : ∀ path ∈ inquired id (pursuit.session.handle moment command).2,
        path = record.printer.path := by
      rw [asks, placed]
      intro path member
      split at member
      · exact List.mem_singleton.1 member
      · cases member
    -- Only a sighting that begins claims the place for a query whatever the priority.
    cases there : pursuit.session.isThere id with
    | false =>
      refine sound_of_begins ?_ holds asksThere ?_
      · rw [begins, there]
        exact (isThere_of_get? holds).trans here
      · intro unknown
        rw [slot, wanted, unknown, there, Bool.not_false, Bool.or_true]
        rfl
    | true =>
      obtain ⟨old, held, was⟩ := exists_of_isThere there
      refine sound.of_sighted_again counted held was holds here asksThere ?_ ?_
      · intro unknown idle
        rw [slot, Bool.or_eq_false_iff, wanted, unknown, there] at idle
        obtain ⟨ordinary, free⟩ := idle
        rw [slot?, held] at free
        refine ⟨⟨held, was, unanswered unknown old held, free⟩, ?_⟩
        simpa using ordinary
      · rintro question rfl elsewhere past excused
        exact moved printer finds question named (placed ▸ Ne.symm elsewhere) past there excused
  | answered answer answers old record held holds same placed told silent =>
    refine sound.of_same counted more ?_ ?_ ?_ ?_
    · exact (isThere_of_get? holds).trans (same.trans (isThere_of_get? held).symm)
    · intro other stands
      cases holds.symm.trans stands
      exact ⟨old, held, same, placed⟩
    · rw [silent]
      exact fun _ _ path member => absurd member List.not_mem_nil
    · intro other stays
      cases holds.symm.trans stays.held
      rw [stays.unknown] at told
      subst told
      obtain ⟨question, member, about, concerns⟩ :=
        refused answers old held (same ▸ stays.there)
      exact ⟨question, member, about, old, placed, concerns⟩

end Handled

theorem Sound.mono {pursuit : Pursuit} {strayed strays : Question → Prop} {id : PrinterId}
    (sound : Sound pursuit strayed id) (more : ∀ question, strayed question → strays question) :
    Sound pursuit strays id where
  asking record held here question member about :=
    (sound.asking record held here question member about).kept rfl rfl rfl more
  asked record silent := by
    obtain ⟨question, refused, about, concerns⟩ := sound.asked record silent
    exact ⟨question, refused, about, concerns.kept rfl rfl rfl more⟩

section Closed
variable {pursuit : Pursuit} {question : Question} (answer : Option Capabilities)

private theorem mem_refused_closed {other : Question} (refused : other ∈ pursuit.refused) :
    other ∈ (pursuit.closed question answer).refused := by
  dsimp only [closed]
  split
  · exact List.mem_append_left _ refused
  · exact refused

theorem Counted.closed (counted : Counted pursuit) (waits : question ∈ pursuit.unanswered) :
    Counted (pursuit.closed question answer) where
  owned := counted.owned
  past := counted.past
  numbered := by
    rintro other (asking | refused)
    · exact counted.numbered other (Or.inl (List.mem_of_mem_erase asking))
    · dsimp only [Pursuit.closed] at refused
      split at refused
      · rcases List.mem_append.1 refused with before | now
        · exact counted.numbered other (Or.inr before)
        · exact List.mem_singleton.1 now ▸ counted.numbered question (Or.inl waits)
      · exact counted.numbered other (Or.inr refused)

theorem Sound.closed {strayed : Question → Prop} {id : PrinterId}
    (sound : Sound pursuit strayed id) : Sound (pursuit.closed question answer) strayed id where
  asking record held here other member :=
    sound.asking record held here other (List.mem_of_mem_erase member)
  asked record silent := by
    obtain ⟨other, refused, concerns⟩ := sound.asked record silent
    exact ⟨other, mem_refused_closed answer refused, concerns⟩

end Closed

end Pursuit

end PrinterRoster.Session
