import Mathlib.Data.List.Nodup
import PrinterRoster.Proofs.Course
import PrinterRoster.Proofs.Session.Slot

/-! Queries and their answers. A query may take any time, so it may outlive the record it
was begun for, and then its answer finds the next record of the printer. Unless a printer
is sighted anew while such a query is under way, there is at most one query of a printer at
a time, and its answer goes to the record that asked. -/
namespace PrinterRoster.Session

/-- A query that was begun, with the record it was begun for: the records of one printer
are counted as they enter the roster. -/
structure Inquiry where
  id : PrinterId
  record : Nat
deriving DecidableEq

structure Dialogue where
  session : Session
  entered : PrinterId → Nat
  unanswered : List Inquiry

inductive Move
  | told (moment : Moment) (command : Command)
  | heard (moment : Moment) (inquiry : Inquiry) (answer : Option Capabilities)
  | failed (inquiry : Inquiry)

def Command.isAnswer : Command → Bool
  | .answered .. => true
  | _ => false

namespace Dialogue

def start (window : Nat) (known : KnownGood) : Dialogue := ⟨fresh window known, fun _ => 0, []⟩

def entering (dialogue : Dialogue) (after : Session) (id : PrinterId) : Nat :=
  if dialogue.session.slot? id = none ∧ after.slot? id ≠ none then dialogue.entered id + 1
  else dialogue.entered id

def handled (dialogue : Dialogue) (moment : Moment) (command : Command) : Dialogue :=
  let outcome := dialogue.session.handle moment command
  let entered := dialogue.entering outcome.1
  ⟨outcome.1, entered,
    dialogue.unanswered ++ (asked outcome.2).map fun id => ⟨id, entered id⟩⟩

def without (dialogue : Dialogue) (inquiry : Inquiry) : Dialogue :=
  { dialogue with unanswered := dialogue.unanswered.erase inquiry }

def move (dialogue : Dialogue) : Move → Dialogue
  | .told moment command =>
    if command.isAnswer then dialogue else dialogue.handled moment command
  | .heard moment inquiry answer =>
    if inquiry ∈ dialogue.unanswered then
      (dialogue.without inquiry).handled moment (.answered inquiry.id answer)
    else dialogue
  | .failed inquiry => dialogue.without inquiry

/-- At most one query of a printer is under way, and an answer changes no record but the
one that asked. -/
def Sound (dialogue : Dialogue) : Prop :=
  (dialogue.unanswered.map Inquiry.id).Nodup ∧
    ∀ inquiry ∈ dialogue.unanswered, ∀ moment answer id,
      (dialogue.session.handle moment (.answered inquiry.id answer)).1.records.get? id ≠
          dialogue.session.records.get? id →
        inquiry.id = id ∧ inquiry.record = dialogue.entered id

/-- A query is under way whose record has left the roster. -/
def Outlived (dialogue : Dialogue) (id : PrinterId) : Prop :=
  dialogue.session.destroyed = false ∧ dialogue.session.records.get? id = none ∧
    ∃ inquiry ∈ dialogue.unanswered, inquiry.id = id

structure Counted (dialogue : Dialogue) : Prop where
  owned : dialogue.session.Owned
  counted : ∀ inquiry ∈ dialogue.unanswered, inquiry.record ≤ dialogue.entered inquiry.id

structure Ordered (dialogue : Dialogue) : Prop where
  single : (dialogue.unanswered.map Inquiry.id).Nodup
  placed : ∀ inquiry ∈ dialogue.unanswered, ∀ taken ∈ dialogue.session.slot? inquiry.id,
    taken = true ∧ inquiry.record = dialogue.entered inquiry.id

private theorem entered_le (dialogue : Dialogue) (after : Session) (id : PrinterId) :
    dialogue.entered id ≤ dialogue.entering after id := by
  unfold entering
  split
  · exact Nat.le_succ _
  · exact Nat.le_refl _

private theorem entering_of_listed {dialogue : Dialogue} {id : PrinterId}
    (listed : dialogue.session.slot? id ≠ none) (after : Session) :
    dialogue.entering after id = dialogue.entered id :=
  if_neg fun enters => listed enters.1

private theorem mem_handled {dialogue : Dialogue} {moment : Moment} {command : Command}
    {inquiry : Inquiry} : inquiry ∈ (dialogue.handled moment command).unanswered ↔
      inquiry ∈ dialogue.unanswered ∨
        inquiry.id ∈ asked (dialogue.session.handle moment command).2 ∧
          inquiry.record = (dialogue.handled moment command).entered inquiry.id := by
  constructor
  · intro member
    rcases List.mem_append.1 member with old | new
    · exact Or.inl old
    · obtain ⟨id, asks, rfl⟩ := List.mem_map.1 new
      exact Or.inr ⟨asks, rfl⟩
  · rintro (old | ⟨asks, counts⟩)
    · exact List.mem_append_left _ old
    · refine List.mem_append_right _ (List.mem_map.2 ⟨inquiry.id, asks, ?_⟩)
      exact congrArg (Inquiry.mk inquiry.id) counts.symm

private theorem Counted.handled {dialogue : Dialogue} (counted : Counted dialogue) (moment : Moment)
    (command : Command) : Counted (dialogue.handled moment command) where
  owned := owned_handle counted.owned moment command
  counted := by
    intro inquiry member
    rcases mem_handled.1 member with old | ⟨_, counts⟩
    · exact Nat.le_trans (counted.counted inquiry old) (entered_le ..)
    · exact Nat.le_of_eq counts

private theorem Counted.without {dialogue : Dialogue} (counted : Counted dialogue)
    (inquiry : Inquiry) : Counted (dialogue.without inquiry) where
  owned := counted.owned
  counted := fun other member => counted.counted other (List.mem_of_mem_erase member)

theorem Counted.move {dialogue : Dialogue} (counted : Counted dialogue) (move : Move) :
    Counted (dialogue.move move) := by
  cases move with
  | told moment command =>
    dsimp only [Dialogue.move]
    split
    · exact counted
    · exact counted.handled moment command
  | heard moment inquiry answer =>
    dsimp only [Dialogue.move]
    split
    · exact (counted.without inquiry).handled moment (.answered inquiry.id answer)
    · exact counted
  | failed inquiry => exact counted.without inquiry

theorem counted_run (window : Nat) (known : KnownGood) (moves : List Move) :
    Counted (stateAfter move (start window known) moves) := by
  refine holds_stateAfter Counted ?_ fun _ counted move _ => counted.move move
  constructor
  · intro id record held
    cases held
  · intro inquiry member
    cases member

private theorem Ordered.without {dialogue : Dialogue} (ordered : Ordered dialogue)
    (inquiry : Inquiry) : Ordered (dialogue.without inquiry) where
  single := ((List.erase_sublist).map Inquiry.id).nodup ordered.single
  placed := fun other member => ordered.placed other (List.mem_of_mem_erase member)

/-- After an answer no query of the printer is under way. -/
theorem Ordered.unasked {dialogue : Dialogue} (ordered : Ordered dialogue) {inquiry : Inquiry}
    (waits : inquiry ∈ dialogue.unanswered) :
    ∀ other ∈ (dialogue.without inquiry).unanswered, other.id ≠ inquiry.id := by
  intro other member same
  have distinct : dialogue.unanswered.Nodup := List.Nodup.of_map Inquiry.id ordered.single
  have kept := List.mem_of_mem_erase member
  have differs : other ≠ inquiry := (distinct.mem_erase_iff.1 member).1
  exact differs (List.inj_on_of_nodup_map ordered.single kept waits same)

section Handled
variable {dialogue : Dialogue} (counted : Counted dialogue) (ordered : Ordered dialogue)
  (moment : Moment) {command : Command}
  (met : ∀ printer, command = .found printer → ¬ dialogue.Outlived printer.id)
include counted ordered met

/-- A query is begun only when none is under way. -/
theorem Ordered.idle_of_asked {id : PrinterId}
    (asks : id ∈ asked (dialogue.session.handle moment command).2) :
    ∀ inquiry ∈ dialogue.unanswered, inquiry.id ≠ id := by
  rintro inquiry member rfl
  have change := slotChange_handle counted.owned moment command inquiry.id
  obtain ⟨_, _, free | ⟨absent, lives, printer, finds, same⟩⟩ := change.of_asked asks
  · cases (ordered.placed inquiry member false free).1
  · apply met printer finds
    rw [same]
    exact ⟨lives, slot?_eq_none.1 absent, inquiry, member, rfl⟩

private theorem Ordered.handled
    (last : ∀ id answer, command = .answered id answer →
      ∀ inquiry ∈ dialogue.unanswered, inquiry.id ≠ id) :
    Ordered (dialogue.handled moment command) := by
  have change := slotChange_handle counted.owned moment command
  constructor
  · have ids : (dialogue.handled moment command).unanswered.map Inquiry.id =
        dialogue.unanswered.map Inquiry.id ++ asked (dialogue.session.handle moment command).2 := by
      dsimp only [Dialogue.handled]
      rw [List.map_append, List.map_map]
      exact congrArg _ (List.map_id _)
    rw [ids, List.nodup_append]
    refine ⟨ordered.single, ?_, ?_⟩
    · cases queried : asked (dialogue.session.handle moment command).2 with
      | nil => exact List.nodup_nil
      | cons id others =>
        have asks : id ∈ asked (dialogue.session.handle moment command).2 := by
          rw [queried]
          exact List.mem_cons_self
        rw [← queried, ((change id).of_asked asks).1]
        exact List.nodup_singleton id
    · intro id member other asks same
      obtain ⟨inquiry, waits, rfl⟩ := List.mem_map.1 member
      exact ordered.idle_of_asked counted moment met asks inquiry waits same
  · intro inquiry member taken held
    rcases mem_handled.1 member with old | ⟨asks, counts⟩
    · have listed : dialogue.session.slot? inquiry.id ≠ none →
          (dialogue.handled moment command).entered inquiry.id = dialogue.entered inquiry.id :=
        fun listed => entering_of_listed listed _
      cases change inquiry.id with
      | kept same _ =>
        have was : taken ∈ dialogue.session.slot? inquiry.id := same ▸ held
        rw [listed (Option.ne_none_iff_exists'.2 ⟨taken, was⟩)]
        exact ordered.placed inquiry old taken was
      | claimed free _ _ => cases (ordered.placed inquiry old false free).1
      | entered finds lives absent _ _ _ =>
        obtain ⟨printer, finds, same⟩ := finds
        refine absurd ?_ (met printer finds)
        rw [same]
        exact ⟨lives, slot?_eq_none.1 absent, inquiry, old, rfl⟩
      | freed answers _ _ =>
        obtain ⟨answer, answers⟩ := answers
        exact absurd rfl (last inquiry.id answer answers inquiry old)
      | left gone _ => cases gone.symm.trans held
    · obtain ⟨_, busy, _⟩ := (change inquiry.id).of_asked asks
      cases busy.symm.trans held
      exact ⟨rfl, counts⟩

end Handled

theorem Ordered.move {dialogue : Dialogue} (counted : Counted dialogue)
    (ordered : Ordered dialogue) {move : Move}
    (met : ∀ moment printer, move = .told moment (.found printer) →
      ¬ dialogue.Outlived printer.id) : Ordered (dialogue.move move) := by
  cases move with
  | told moment command =>
    dsimp only [Dialogue.move]
    split
    · exact ordered
    · rename_i unasked
      refine ordered.handled counted moment ?_ ?_
      · rintro printer rfl
        exact met moment printer rfl
      · rintro id answer rfl
        exact absurd rfl unasked
  | heard moment inquiry answer =>
    dsimp only [Dialogue.move]
    split
    · rename_i waits
      refine (ordered.without inquiry).handled (counted.without inquiry) moment nofun ?_
      rintro id other same
      cases same
      exact ordered.unasked waits
    · exact ordered
  | failed inquiry => exact ordered.without inquiry

theorem ordered_run (window : Nat) (known : KnownGood) (moves : List Move)
    (met : ∀ earlier moment printer, earlier ++ [.told moment (.found printer)] <+: moves →
      ¬ (stateAfter move (start window known) earlier).Outlived printer.id) :
    Ordered (stateAfter move (start window known) moves) := by
  induction moves using List.reverseRecOn with
  | nil =>
    constructor
    · exact List.nodup_nil
    · intro inquiry member
      cases member
  | append_singleton moves last ih =>
    rw [stateAfter_snoc]
    refine Ordered.move (counted_run window known moves) (ih ?_) ?_
    · intro earlier moment printer part
      exact met earlier moment printer (part.trans (List.prefix_append moves [last]))
    · rintro moment printer rfl
      exact met moves moment printer (List.prefix_refl _)

private theorem Ordered.sound {dialogue : Dialogue} (counted : Counted dialogue)
    (ordered : Ordered dialogue) : dialogue.Sound := by
  refine ⟨ordered.single, ?_⟩
  intro inquiry member moment answer id changes
  dsimp only [handle] at changes
  split at changes
  · exact absurd rfl changes
  · rw [get?_answered dialogue.session inquiry.id id answer counted.owned] at changes
    split at changes
    · rename_i same
      subst same
      refine ⟨rfl, ?_⟩
      cases held : dialogue.session.records.get? inquiry.id with
      | none =>
        rw [held] at changes
        exact absurd rfl changes
      | some record =>
        have slot : dialogue.session.slot? inquiry.id = some record.refreshing := by
          rw [slot?, held]
          rfl
        exact (ordered.placed inquiry member _ slot).2
    · exact absurd rfl changes

/-- Some answer changes a record, whatever it holds. -/
theorem exists_changing_answer {session : Session} (owned : session.Owned)
    (lives : session.destroyed = false) {id : PrinterId} {record : Record}
    (held : session.records.get? id = some record) (moment : Moment) :
    ∃ answer, (session.handle moment (.answered id answer)).1.records.get? id ≠
      session.records.get? id := by
  obtain ⟨answer, differs⟩ : ∃ answer, answer ≠ record.capabilities := by
    cases record.capabilities with
    | none => exact ⟨some default, nofun⟩
    | some capabilities => exact ⟨none, nofun⟩
  refine ⟨answer, ?_⟩
  simp only [handle, lives, Bool.false_eq_true, if_false]
  rw [get?_answered session id id answer owned, if_pos rfl, held, Option.map_some]
  intro same
  exact differs (congrArg Record.capabilities (Option.some.inj same))

/-- The answer to a query that has outlived its record finds the record that is sighted
next, which has not asked. -/
theorem Outlived.not_sound {dialogue : Dialogue} (counted : Counted dialogue) (moment : Moment)
    {printer : Printer} (outlived : dialogue.Outlived printer.id) :
    ¬ (dialogue.handled moment (.found printer)).Sound := by
  obtain ⟨lives, absent, inquiry, waits, same⟩ := outlived
  have goesOn : Command.found printer ≠ .destroy := nofun
  have owned := (counted.handled moment (.found printer)).owned
  have livesOn : (dialogue.handled moment (.found printer)).session.destroyed = false :=
    (handle_keeps dialogue.session moment goesOn).2.trans lives
  have enters : (dialogue.handled moment (.found printer)).session.slot? printer.id ≠ none := by
    have found : (dialogue.handled moment (.found printer)).session =
        (dialogue.session.found moment printer).1 := by
      dsimp only [Dialogue.handled, handle]
      rw [lives, if_neg Bool.false_ne_true]
    rw [found, slot?_found dialogue.session moment printer printer.id counted.owned, if_pos rfl]
    exact Option.some_ne_none _
  have counts : (dialogue.handled moment (.found printer)).entered printer.id =
      dialogue.entered printer.id + 1 := if_pos ⟨slot?_eq_none.2 absent, enters⟩
  obtain ⟨record, held⟩ := Option.ne_none_iff_exists'.1 (mt slot?_eq_none.2 enters)
  obtain ⟨answer, changes⟩ := exists_changing_answer owned livesOn held moment
  intro sound
  have still : inquiry ∈ (dialogue.handled moment (.found printer)).unanswered :=
    mem_handled.2 (Or.inl waits)
  have asked : inquiry.record = (dialogue.handled moment (.found printer)).entered printer.id :=
    (sound.2 inquiry still moment answer printer.id (same ▸ changes)).2
  have before : inquiry.record ≤ dialogue.entered printer.id := same ▸ counted.counted inquiry waits
  rw [asked, counts] at before
  exact Nat.not_succ_le_self _ before

/-- At most one query of a printer is under way at any time, and an answer changes only the
record that asked, exactly if no printer is sighted anew while a query outlives its record. -/
theorem sound_iff (window : Nat) (known : KnownGood) (moves : List Move) :
    Throughout move (start window known) moves Sound ↔
      ∀ earlier moment printer, earlier ++ [.told moment (.found printer)] <+: moves →
        ¬ (stateAfter move (start window known) earlier).Outlived printer.id := by
  constructor
  · intro sound earlier moment printer part outlived
    have after := sound _ part
    rw [stateAfter_snoc] at after
    exact outlived.not_sound (counted_run window known earlier) moment after
  · intro met earlier part
    refine Ordered.sound (counted_run window known earlier) (ordered_run window known earlier ?_)
    intro first moment printer before
    exact met first moment printer (before.trans part)

theorem sound_iff_of_answer_in_time :
    let office := Printer.report none "Office" "ipp://h" none
    let moves : List Move :=
      [.told ⟨0, fun _ => none⟩ (.found office), .heard ⟨1, fun _ => none⟩ ⟨office.id, 1⟩ none,
        .told ⟨1, fun _ => none⟩ (.lost office), .told ⟨3001, fun _ => none⟩ (.tick 1),
        .told ⟨4000, fun _ => none⟩ (.found office)]
    Throughout move (start 3000 (.empty 50)) moves Sound := by
  intro office moves
  refine (sound_iff 3000 (.empty 50) moves).2 ?_
  rintro earlier moment printer ⟨later, whole⟩ ⟨_, _, inquiry, waits, _⟩
  have answered : (stateAfter move (start 3000 (.empty 50)) (moves.take 4)).unanswered = [] := by
    decide +kernel
  rcases earlier with _ | ⟨first, _ | ⟨second, _ | ⟨third, _ | ⟨fourth, _ | ⟨fifth, others⟩⟩⟩⟩⟩ <;>
    dsimp only [moves, List.cons_append, List.nil_append] at whole
  · cases waits
  · cases whole
  · cases whole
  · cases whole
  · cases whole
    have waits : inquiry ∈ (stateAfter move (start 3000 (.empty 50)) (moves.take 4)).unanswered := waits
    rw [answered] at waits
    cases waits
  · cases others <;> cases whole

/-- A query of a printer is slow, and the printer is sighted anew once its record has left.
Now two queries of it are under way, and the answer to the first changes the second record. -/
theorem answer_changes_later_record :
    let office := Printer.report none "Office" "ipp://h" none
    let moves : List Move :=
      [.told ⟨0, fun _ => none⟩ (.found office), .told ⟨0, fun _ => none⟩ (.lost office),
        .told ⟨3000, fun _ => none⟩ (.tick 1), .told ⟨4000, fun _ => none⟩ (.found office)]
    let dialogue := stateAfter move (start 3000 (.empty 50)) moves
    dialogue.unanswered = [⟨office.id, 1⟩, ⟨office.id, 2⟩] ∧ dialogue.entered office.id = 2 ∧
      (dialogue.session.handle ⟨5000, fun _ => none⟩
          (.answered office.id (some default))).1.records.get? office.id ≠
        dialogue.session.records.get? office.id ∧
      ¬ dialogue.Sound := by
  intro office moves dialogue
  have begun : dialogue.unanswered = [⟨office.id, 1⟩, ⟨office.id, 2⟩] := by decide +kernel
  refine ⟨begun, by decide +kernel, by decide +kernel, ?_⟩
  rintro ⟨single, _⟩
  rw [begun] at single
  exact (List.nodup_cons.1 single).1 List.mem_cons_self

end Dialogue

end PrinterRoster.Session
