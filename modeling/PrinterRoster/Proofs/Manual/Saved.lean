import PrinterRoster.Manual
import PrinterRoster.Proofs.Manual.File
import Mathlib.Data.List.Nodup

/-! The saved printers of a source. An added printer takes the place of those with its id or at
its path and stands last; it stays until it is replaced or removed. The file follows the list, so
a source that is opened again has the same printers, and a file that cannot be written makes no
difference to those who add and remove. -/
namespace PrinterRoster.ManualSource

inductive Turn
  | start (listener : Listener)
  | stop (listener : Listener)
  | look (signal : Option Signal)
  | queryEnded (number : Nat) (answered : Bool)

def take (source : ManualSource) : Turn → ManualSource × List Delivery
  | .start listener => source.start listener
  | .stop listener => source.stop listener
  | .look signal => source.look signal
  | .queryEnded number answered => source.queryEnded number answered

inductive Operation
  | add (probed : Except Failure ProbeOutcome) (now : Stamp)
  | remove (id : PrinterId)
  | reopen
  | turn (turn : Turn)

inductive Answer
  | probed (result : Except Failure ProbeOutcome)
  | removed (any : Bool)
  | done

structure Reply where
  deliveries : List Delivery
  answer : Answer

def attempt (source : ManualSource) (probed : Except Failure ProbeOutcome) (now : Stamp) :
    ManualSource × List Delivery :=
  match probed with
  | .ok outcome => source.add outcome now
  | .error _ => (source, [])

def perform (source : ManualSource) : Operation → ManualSource × Reply
  | .add probed now =>
    let (source, deliveries) := source.attempt probed now
    (source, ⟨deliveries, .probed probed⟩)
  | .remove id =>
    let (source, deliveries, any) := source.remove id
    (source, ⟨deliveries, .removed any⟩)
  | .reopen => (openFile source.file, ⟨[], .done⟩)
  | .turn turn =>
    let (source, deliveries) := source.take turn
    (source, ⟨deliveries, .done⟩)

def performAll (source : ManualSource) : List Operation → ManualSource × List Reply
  | [] => (source, [])
  | operation :: later =>
    let (source, reply) := source.perform operation
    let (source, replies) := performAll source later
    (source, reply :: replies)

def Operation.newcomer? : Operation → Option SavedPrinter
  | .add (.ok (.found printer true)) now => some ⟨printer, now⟩
  | _ => none

def Operation.displaces (operation : Operation) (saved : SavedPrinter) : Bool :=
  match operation with
  | .remove id => saved.printer.id = id
  | operation => operation.newcomer?.any fun entry =>
      saved.printer.id = entry.printer.id || saved.printer.path = entry.printer.path

/-- The printers that operations save, in order, without those that give way to a later one. -/
def standing : List Operation → List SavedPrinter
  | [] => []
  | operation :: later =>
    (operation.newcomer?.filter fun entry => !later.any (·.displaces entry)).toList ++ standing later

/-- The list and the file of a source agree, and no two saved printers share an id or a path. -/
structure Consistent (source : ManualSource) : Prop where
  ids : (source.saved.map (·.printer.id)).Nodup
  paths : (source.saved.map (·.printer.path)).Nodup
  stored : source.file = .vacant ∧ source.saved = [] ∨
    source.file = .text (SavedPrinter.fileText source.saved)

private theorem Consistent.load {source : ManualSource} (consistent : source.Consistent) :
    SavedPrinter.load source.file = source.saved := by
  rcases consistent.stored with ⟨vacant, empty⟩ | written
  · rw [vacant, empty]
    rfl
  · rw [written, SavedPrinter.load_fileText]

private theorem Consistent.canWrite {source : ManualSource} (consistent : source.Consistent) :
    source.file.canWrite = true := by
  rcases consistent.stored with ⟨vacant, _⟩ | written
  · rw [vacant]
    rfl
  · rw [written]
    rfl

theorem saved_stop (source : ManualSource) (listener : Listener) :
    (source.stop listener).1.saved = source.saved ∧ (source.stop listener).1.file = source.file := by
  unfold stop
  dsimp only
  split <;> exact ⟨rfl, rfl⟩

private theorem saved_attend (source : ManualSource) (signal : Option Signal) :
    (source.attend signal).1.saved = source.saved ∧ (source.attend signal).1.file = source.file := by
  unfold attend
  split
  · exact ⟨rfl, rfl⟩
  · split <;> exact ⟨rfl, rfl⟩

theorem saved_look (source : ManualSource) (signal : Option Signal) :
    (source.look signal).1.saved = source.saved ∧ (source.look signal).1.file = source.file := by
  unfold look
  split
  · exact saved_attend source _
  · split
    · exact saved_attend source _
    · split <;> exact ⟨rfl, rfl⟩
  · exact ⟨rfl, rfl⟩

theorem saved_queryEnded (source : ManualSource) (number : Nat) (answered : Bool) :
    (source.queryEnded number answered).1.saved = source.saved ∧
      (source.queryEnded number answered).1.file = source.file := by
  unfold queryEnded
  split
  · split
    · exact ⟨rfl, rfl⟩
    · dsimp only
      split <;> exact ⟨rfl, rfl⟩
  · exact ⟨rfl, rfl⟩

private theorem saved_take (source : ManualSource) (turn : Turn) :
    (source.take turn).1.saved = source.saved ∧ (source.take turn).1.file = source.file := by
  cases turn with
  | start listener => exact ⟨rfl, rfl⟩
  | stop listener => exact saved_stop source listener
  | look signal => exact saved_look source signal
  | queryEnded number answered => exact saved_queryEnded source number answered

private theorem attempt_of_no_newcomer {probed : Except Failure ProbeOutcome} {now : Stamp}
    (none : (Operation.add probed now).newcomer? = none) (source : ManualSource) :
    source.attempt probed now = (source, []) := by
  unfold attempt
  split
  · unfold add
    split
    · cases none
    · rfl
  · rfl

/-- The printers that share no id are left when one with an id is taken out. -/
theorem remove_eq_filter {saved : List SavedPrinter} (ids : (saved.map (·.printer.id)).Nodup)
    (id : PrinterId) : SavedPrinter.remove saved id = saved.filter (·.printer.id ≠ id) := by
  rw [SavedPrinter.remove]
  induction saved with
  | nil => rfl
  | cons entry others ih =>
    obtain ⟨absent, inner⟩ := List.nodup_cons.1 ids
    by_cases same : entry.printer.id = id
    · have kept : others.filter (·.printer.id ≠ id) = others := by
        refine List.filter_eq_self.2 fun other member => ?_
        have different : other.printer.id ≠ id := by
          intro alike
          have again : other.printer.id ∈ others.map (·.printer.id) := List.mem_map_of_mem member
          rw [alike, ← same] at again
          exact absent again
        simpa using different
      rw [List.eraseP_cons_of_pos (by simpa using same), List.filter_cons_of_neg (by simpa using same),
        kept]
    · rw [List.eraseP_cons_of_neg (by simpa using same), List.filter_cons_of_pos (by simpa using same),
        ih inner]

private theorem file_persist {source : ManualSource} (writable : source.file.canWrite = true) :
    source.persist.file = .text (SavedPrinter.fileText source.saved) := by
  rw [persist, StoredFile.write, if_pos writable]

/-- An operation either leaves the list and the file alone or changes the list and writes it. -/
theorem perform_cases {source : ManualSource} (consistent : source.Consistent)
    (operation : Operation) :
    ((source.perform operation).1.saved = source.saved ∧
      (source.perform operation).1.file = source.file ∧ operation.newcomer? = none ∧
        ∀ entry ∈ source.saved, operation.displaces entry = false) ∨
    ((source.perform operation).1.saved =
        (source.saved.filter fun entry => !operation.displaces entry) ++ operation.newcomer?.toList ∧
      (source.perform operation).1.file =
        .text (SavedPrinter.fileText (source.perform operation).1.saved) ∧
      (operation.newcomer?.isSome = true ∨ source.saved ≠ [])) := by
  cases operation with
  | add probed now =>
    cases saves : (Operation.add probed now).newcomer? with
    | none =>
      left
      simp [perform, attempt_of_no_newcomer saves, Operation.displaces, saves]
    | some entry =>
      right
      unfold Operation.newcomer? at saves
      split at saves
      · rename_i printer now found
        cases found
        obtain rfl := Option.some.inj saves
        have writable := consistent.canWrite
        refine ⟨?_, file_persist writable, Or.inl rfl⟩
        have kept : ∀ other ∈ source.saved,
            (decide (other.printer.id ≠ printer.id) && decide (other.printer.path ≠ printer.path)) =
              !(Operation.add (.ok (.found printer true)) now).displaces other := by
          intro other _
          simp [Operation.displaces, Operation.newcomer?]
        exact congrArg (· ++ [⟨printer, now⟩]) (List.filter_congr kept)
      · cases saves
  | remove id =>
    cases listed : SavedPrinter.find? source.saved id with
    | none =>
      left
      have unlisted : ∀ entry ∈ source.saved, entry.printer.id ≠ id := by
        simpa [SavedPrinter.find?] using listed
      refine ⟨?_, ?_, rfl, fun entry member => decide_eq_false (unlisted entry member)⟩
      · simp only [perform, remove, listed]
      · simp only [perform, remove, listed]
    | some entry =>
      right
      have left : (source.perform (.remove id)).1.saved = SavedPrinter.remove source.saved id := by
        simp only [perform, remove, listed, persist]
      have file : (source.perform (.remove id)).1.file =
          .text (SavedPrinter.fileText (source.perform (.remove id)).1.saved) := by
        rw [left]
        simp only [perform, remove, listed]
        exact file_persist consistent.canWrite
      refine ⟨?_, file, Or.inr (List.ne_nil_of_mem (List.mem_of_find?_eq_some listed))⟩
      rw [left, remove_eq_filter consistent.ids]
      simp [Operation.displaces, Operation.newcomer?]
  | reopen =>
    left
    exact ⟨consistent.load, rfl, rfl, fun _ _ => rfl⟩
  | turn turn =>
    left
    obtain ⟨saved, file⟩ := saved_take source turn
    exact ⟨saved, file, rfl, fun _ _ => rfl⟩

theorem saved_perform {source : ManualSource} (consistent : source.Consistent)
    (operation : Operation) :
    (source.perform operation).1.saved =
      (source.saved.filter fun entry => !operation.displaces entry) ++
        operation.newcomer?.toList := by
  rcases perform_cases consistent operation with ⟨saved, _, nothing, kept⟩ | ⟨saved, _⟩
  · have all : (source.saved.filter fun entry => !operation.displaces entry) = source.saved := by
      refine List.filter_eq_self.2 fun entry member => ?_
      rw [kept entry member]
      rfl
    rw [saved, all, nothing, Option.toList_none, List.append_nil]
  · exact saved

/-- A saved printer takes the place of those that share something with it. -/
theorem displaces_of_newcomer {operation : Operation} {entry other : SavedPrinter}
    (saves : operation.newcomer? = some entry) (kept : operation.displaces other = false) :
    other.printer.id ≠ entry.printer.id ∧ other.printer.path ≠ entry.printer.path := by
  cases operation with
  | remove id => cases saves
  | _ => simpa [Operation.displaces, saves] using kept

theorem nodup_perform {α : Type} {source : ManualSource} (consistent : source.Consistent)
    (operation : Operation) {key : SavedPrinter → α} (distinct : (source.saved.map key).Nodup)
    (displaced : ∀ entry other, operation.newcomer? = some entry → operation.displaces other = false →
      key other ≠ key entry) :
    ((source.perform operation).1.saved.map key).Nodup := by
  rw [saved_perform consistent, List.map_append]
  have left : ((source.saved.filter fun entry => !operation.displaces entry).map key).Nodup :=
    distinct.sublist (List.filter_sublist.map key)
  cases saves : operation.newcomer? with
  | none => simpa using left
  | some entry =>
    refine List.nodup_append.2 ⟨left, List.nodup_singleton (key entry), ?_⟩
    intro old listed new added
    obtain ⟨other, member, rfl⟩ := List.mem_map.1 listed
    obtain rfl := List.mem_singleton.1 added
    have kept : operation.displaces other = false := by
      simpa using (List.mem_filter.1 member).2
    exact displaced entry other saves kept

theorem Consistent.perform {source : ManualSource} (consistent : source.Consistent)
    (operation : Operation) : (source.perform operation).1.Consistent where
  ids := nodup_perform consistent operation consistent.ids
    fun _ _ saves kept => (displaces_of_newcomer saves kept).1
  paths := nodup_perform consistent operation consistent.paths
    fun _ _ saves kept => (displaces_of_newcomer saves kept).2
  stored := by
    rcases perform_cases consistent operation with ⟨saved, file, _⟩ | ⟨_, file, _⟩
    · rw [saved, file]
      exact consistent.stored
    · exact Or.inr file

theorem performAll_cons (source : ManualSource) (operation : Operation) (later : List Operation) :
    (source.performAll (operation :: later)).1 =
      ((source.perform operation).1.performAll later).1 := rfl

theorem Consistent.performAll {source : ManualSource} (consistent : source.Consistent)
    (operations : List Operation) : (source.performAll operations).1.Consistent := by
  induction operations generalizing source with
  | nil => exact consistent
  | cons operation later ih => exact ih (consistent.perform operation)

private theorem saved_performAll {source : ManualSource} (consistent : source.Consistent)
    (operations : List Operation) : (source.performAll operations).1.saved =
      (source.saved.filter fun entry => !operations.any (·.displaces entry)) ++
        standing operations := by
  induction operations generalizing source with
  | nil => simp [performAll, standing]
  | cons operation later ih =>
    rw [performAll_cons, ih (consistent.perform operation), saved_perform consistent, standing,
      List.filter_append, List.filter_filter, List.append_assoc]
    simp only [List.any_cons, Bool.not_or, Bool.and_comm, Option.toList_filter]

theorem hasContent_perform {source : ManualSource} (consistent : source.Consistent)
    (operation : Operation) :
    (source.perform operation).1.file.content?.isSome =
      (source.file.content?.isSome || operation.newcomer?.isSome) := by
  rcases perform_cases consistent operation with ⟨_, file, nothing, _⟩ | ⟨_, file, changed⟩
  · rw [file, nothing, Option.isSome_none, Bool.or_false]
  · have before : (source.file.content?.isSome || operation.newcomer?.isSome) = true := by
      rcases changed with saves | listed
      · rw [saves, Bool.or_true]
      · rcases consistent.stored with ⟨_, empty⟩ | written
        · exact absurd empty listed
        · rw [written]
          rfl
    rw [file, before]
    rfl

/-- The file holds something once any printer was saved, and before that it does not. -/
theorem hasContent_performAll {source : ManualSource} (consistent : source.Consistent)
    (operations : List Operation) :
    (source.performAll operations).1.file.content?.isSome =
      (source.file.content?.isSome || operations.any (·.newcomer?.isSome)) := by
  induction operations generalizing source with
  | nil => simp [performAll]
  | cons operation later ih =>
    rw [performAll_cons, ih (consistent.perform operation), hasContent_perform consistent,
      List.any_cons, Bool.or_assoc]

private theorem consistent_vacant : (openFile .vacant).Consistent :=
  ⟨List.nodup_nil, List.nodup_nil, Or.inl ⟨rfl, rfl⟩⟩

def withFile (source : ManualSource) (file : StoredFile) : ManualSource := { source with file }

section WithFile
variable (source : ManualSource) (file : StoredFile)

private theorem stop_withFile (listener : Listener) :
    (source.withFile file).stop listener =
      ((source.stop listener).1.withFile file, (source.stop listener).2) := by
  cases edge : (source.hub.removeListener listener).edge <;> simp [stop, withFile, edge]

private theorem attend_withFile (signal : Option Signal) :
    (source.withFile file).attend signal =
      ((source.attend signal).1.withFile file, (source.attend signal).2) := by
  cases signal with
  | none => rfl
  | some given => cases up : given.online <;> simp [attend, withFile, refresh, up]

private theorem look_withFile (signal : Option Signal) :
    (source.withFile file).look signal =
      ((source.look signal).1.withFile file, (source.look signal).2) := by
  have watches : (source.withFile file).watcher = source.watcher := rfl
  unfold look
  rw [watches]
  split
  · exact attend_withFile source file _
  · split
    · exact attend_withFile source file _
    · split <;> rfl
  · rfl

private theorem queryEnded_withFile (number : Nat) (answered : Bool) :
    (source.withFile file).queryEnded number answered =
      ((source.queryEnded number answered).1.withFile file,
        (source.queryEnded number answered).2) := by
  have watches : (source.withFile file).watcher = source.watcher := rfl
  unfold queryEnded
  rw [watches]
  split
  · split
    · rfl
    · dsimp only
      split <;> rfl
  · rfl

/-- What a source does for its listeners does not depend on its file. -/
theorem take_withFile (turn : Turn) :
    (source.withFile file).take turn = ((source.take turn).1.withFile file, (source.take turn).2) := by
  cases turn with
  | start listener => rfl
  | stop listener => exact stop_withFile source file listener
  | look signal => exact look_withFile source file signal
  | queryEnded number answered => exact queryEnded_withFile source file number answered

private theorem remove_withFile (id : PrinterId) :
    ∃ left, (source.withFile file).remove id =
      ((source.remove id).1.withFile left, (source.remove id).2) := by
  unfold remove
  have lists : (source.withFile file).saved = source.saved := rfl
  rw [lists]
  split
  · exact ⟨file, rfl⟩
  · exact ⟨_, rfl⟩

private theorem attempt_withFile (probed : Except Failure ProbeOutcome) (now : Stamp) :
    ∃ left, (source.withFile file).attempt probed now =
      ((source.attempt probed now).1.withFile left, (source.attempt probed now).2) := by
  unfold attempt
  split
  · unfold add
    split
    · exact ⟨_, rfl⟩
    · exact ⟨file, rfl⟩
  · exact ⟨file, rfl⟩

end WithFile

/-- Whether a file can be written makes no difference but to what the file holds. -/
theorem perform_withFile (source : ManualSource) (file : StoredFile) {operation : Operation}
    (goesOn : operation ≠ .reopen) :
    ∃ left, (source.withFile file).perform operation =
      ((source.perform operation).1.withFile left, (source.perform operation).2) := by
  cases operation with
  | add probed now =>
    obtain ⟨left, same⟩ := attempt_withFile source file probed now
    exact ⟨left, by simp only [perform, same]⟩
  | remove id =>
    obtain ⟨left, same⟩ := remove_withFile source file id
    exact ⟨left, by simp only [perform, same]⟩
  | reopen => exact absurd rfl goesOn
  | turn turn => exact ⟨file, by simp only [perform, take_withFile]⟩

private theorem performAll_withFile (source : ManualSource) (file : StoredFile)
    {operations : List Operation}
    (goesOn : ∀ operation ∈ operations, operation ≠ .reopen) :
    ∃ left, (source.withFile file).performAll operations =
      ((source.performAll operations).1.withFile left, (source.performAll operations).2) := by
  induction operations generalizing source file with
  | nil => exact ⟨file, rfl⟩
  | cons operation later ih =>
    obtain ⟨between, step⟩ := perform_withFile source file (goesOn operation List.mem_cons_self)
    obtain ⟨left, run⟩ := ih (source.perform operation).1 between
      fun other member => goesOn other (List.mem_cons_of_mem operation member)
    refine ⟨left, ?_⟩
    simp only [performAll, step, run]

theorem removed_iff {source : ManualSource} (consistent : source.Consistent) (id : PrinterId) :
    ((source.remove id).2.2 = true ↔ ∃ entry ∈ source.saved, entry.printer.id = id) ∧
      (source.remove id).1.saved = source.saved.filter (·.printer.id ≠ id) := by
  have left := saved_perform consistent (.remove id)
  constructor
  · unfold remove
    split
    · rename_i unlisted
      simpa [SavedPrinter.find?] using unlisted
    · rename_i removed listed
      have same : removed.printer.id = id := by simpa using List.find?_some listed
      exact iff_of_true rfl ⟨removed, List.mem_of_find?_eq_some listed, same⟩
  · simpa [perform, Operation.displaces, Operation.newcomer?] using left

private theorem no_newcomer_of_unusable {probed : Except Failure ProbeOutcome} (now : Stamp)
    (unusable : ∀ printer, probed ≠ .ok (.found printer true)) :
    (Operation.add probed now).newcomer? = none := by
  unfold Operation.newcomer?
  split
  · rename_i printer _ found
    cases found
    exact absurd rfl (unusable printer)
  · rfl

/-- From the outset, when there is no file: the list is what stands of the operations, the file
follows it, removing tells who was there, and neither an add that gives no usable printer nor a file
that cannot be written makes a difference to the list. -/
theorem saved_printers_stand (operations : List Operation) :
    let source := ((openFile .vacant).performAll operations).1
    source.saved = standing operations ∧
    (source.saved.map (·.printer.id)).Nodup ∧ (source.saved.map (·.printer.path)).Nodup ∧
    source.file.content?.isSome = operations.any (·.newcomer?.isSome) ∧
    (∀ content, source.file.content? = some content →
      SavedPrinter.parse? content = some source.saved) ∧
    (openFile source.file).saved = source.saved ∧ (openFile source.file).file = source.file ∧
    (∀ id, ((source.remove id).2.2 = true ↔ ∃ entry ∈ source.saved, entry.printer.id = id) ∧
      (source.remove id).1.saved = source.saved.filter (·.printer.id ≠ id)) ∧
    (∀ probed now, (∀ printer, probed ≠ .ok (.found printer true)) →
      source.attempt probed now = (source, [])) ∧
    ∀ file later, (∀ operation ∈ later, operation ≠ .reopen) →
      ((source.withFile file).performAll later).1.saved = (source.performAll later).1.saved ∧
        ((source.withFile file).performAll later).2 = (source.performAll later).2 := by
  intro source
  have consistent : source.Consistent := consistent_vacant.performAll operations
  have stands := saved_performAll consistent_vacant operations
  have content := hasContent_performAll consistent_vacant operations
  refine ⟨stands, consistent.ids, consistent.paths, content, ?_, consistent.load, rfl,
    removed_iff consistent, ?_, ?_⟩
  · intro content holds
    rcases consistent.stored with ⟨vacant, _⟩ | written
    · rw [vacant] at holds
      cases holds
    · rw [written] at holds
      obtain rfl := Option.some.inj holds
      exact SavedPrinter.parse?_fileText source.saved
  · intro probed now unusable
    exact attempt_of_no_newcomer (no_newcomer_of_unusable now unusable) source
  · intro file later goesOn
    obtain ⟨left, same⟩ := performAll_withFile source file goesOn
    rw [same]
    exact ⟨rfl, rfl⟩

/-- A printer that has the id of one saved printer and the path of another takes the place of both,
and is removed although the file has become a directory. -/
theorem printer_replaces_two_saved_ones :
    let one := Printer.report (some "urn:uuid:1") "One" "ipp://a" none
    let two := Printer.report (some "urn:uuid:2") "Two" "ipp://b" none
    let both := Printer.report (some "urn:uuid:1") "Both" "ipp://b" none
    let add (printer : Printer) : Operation := .add (.ok (.found printer true)) default
    let missing : Except Failure ProbeOutcome := .ok .notFound
    let operations := [add one, add two, .reopen, add both]
    let source := ((openFile .vacant).performAll operations).1
    source.saved = [⟨both, default⟩] ∧
      (∃ content, source.file.content? = some content ∧
        SavedPrinter.parse? content = some source.saved) ∧
      (∀ printer, missing ≠ .ok (.found printer true)) ∧
      source.attempt missing default = (source, []) ∧
      (∀ operation ∈ [Operation.remove both.id], operation ≠ .reopen) ∧
      ((source.withFile .directory).performAll [.remove both.id]).1.saved =
        (source.performAll [.remove both.id]).1.saved := by
  intro one two both add missing operations
  obtain ⟨stands, _, _, content, reads, _, _, _, unusable, unaffected⟩ :=
    saved_printers_stand operations
  have isMissing : ∀ printer, missing ≠ .ok (.found printer true) := by simp [missing]
  have goesOn : ∀ operation ∈ [Operation.remove both.id], operation ≠ .reopen := by simp
  have left : standing operations = [⟨both, default⟩] := by decide +kernel
  obtain ⟨text, holds⟩ := Option.isSome_iff_exists.1 (content.trans rfl)
  exact ⟨stands.trans left, ⟨text, holds, reads text holds⟩, isMissing,
    unusable missing default isMissing, goesOn, (unaffected .directory _ goesOn).1⟩

end PrinterRoster.ManualSource
