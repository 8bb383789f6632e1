import PrinterRoster.Proofs.Session.Supply

/-! A network address that another device may take over. Once it is lost nothing is cached of it, and
whatever capabilities its printer is shown with as healthy come from a fetch that began after the loss
or have been in its record ever since, unless a query of the address was under way at the loss or its
answer was still waiting. -/
namespace PrinterRoster.Session.Supply

/-- Capabilities of a printer have been fetched since its loss by a fetch that began after it. -/
def FetchedSince (lost : Supply) (id : PrinterId) (moves : List Move) (answer : Capabilities) :
    Prop :=
  Happens move lost moves
    (Answered id.text fun number given => lost.fetches.begun ≤ number ∧ given = answer)

/-- Capabilities of a printer came late: a query that was under way at its loss was answered with
them afterwards, or they waited to be handled. -/
def CameLate (lost : Supply) (id : PrinterId) (moves : List Move) (answer : Capabilities) : Prop :=
  (id, some answer) ∈ lost.due ∨
    Happens move lost moves
      (Answered id.text fun number given => number < lost.fetches.begun ∧ given = answer)

/-- The record of a printer has been on the roster since its loss, always with the same
capabilities. -/
def Keeps (lost : Supply) (id : PrinterId) (moves : List Move) (answer : Capabilities) : Prop :=
  Throughout move lost moves fun supply =>
    ∃ record, supply.session.records.get? id = some record ∧ record.capabilities = some answer

section Loss
variable {lost : Supply} {id : PrinterId} {answer : Capabilities}

def Arrived (lost : Supply) (id : PrinterId) (moves : List Move) (answer : Capabilities) : Prop :=
  FetchedSince lost id moves answer ∨ CameLate lost id moves answer

theorem Arrived.snoc {moves : List Move} (arrived : Arrived lost id moves answer) (last : Move) :
    Arrived lost id (moves ++ [last]) answer := by
  rcases arrived with later | waiting | underWay
  · exact Or.inl (later.append [last])
  · exact Or.inr (Or.inl waiting)
  · exact Or.inr (Or.inr (underWay.append [last]))

private theorem arrived_of_answered {moves : List Move} {last : Move}
    (answered : Answered id.text (fun _ given => given = answer) (stateAfter move lost moves)
      last) :
    Arrived lost id (moves ++ [last]) answer := by
  obtain ⟨step, fetches, query, isOpen, at_path, given, ends, same⟩ := answered
  by_cases later : lost.fetches.begun ≤ query.number
  · exact Or.inl (.last moves ⟨step, fetches, query, isOpen, at_path, given, ends, later, same⟩)
  · have earlier := Nat.lt_of_not_le later
    exact Or.inr (Or.inr (.last moves
      ⟨step, fetches, query, isOpen, at_path, given, ends, earlier, same⟩))

theorem Keeps.snoc {moves : List Move} (keeps : Keeps lost id moves answer) {last : Move}
    {record : Record}
    (held : ((stateAfter move lost moves).move last).session.records.get? id = some record)
    (told : record.capabilities = some answer) : Keeps lost id (moves ++ [last]) answer :=
  throughout_snoc.2 ⟨keeps, record, held, told⟩

/-- Some moves after a loss: whatever is cached of the printer or waits to be handled arrived since,
and so did what is in its record, unless that was there all the time. -/
structure Traced (lost : Supply) (id : PrinterId) (moves : List Move) : Prop where
  cached : ∀ answer, (stateAfter move lost moves).fetches.cache.cached id.text = some answer →
    Arrived lost id moves answer
  due : ∀ answer, (id, some answer) ∈ (stateAfter move lost moves).due → Arrived lost id moves answer
  record : ∀ record, (stateAfter move lost moves).session.records.get? id = some record →
    ∀ answer, record.capabilities = some answer →
      Arrived lost id moves answer ∨ Keeps lost id moves answer

theorem traced_nil (absent : lost.fetches.cache.cached id.text = none) : Traced lost id [] where
  cached := by
    intro answer cached
    cases absent.symm.trans cached
  due := fun _ waits => Or.inr (Or.inl waits)
  record := by
    intro record held answer told
    exact Or.inr (throughout_nil.2 ⟨record, held, told⟩)

theorem Traced.snoc {moves : List Move} (traced : Traced lost id moves)
    (owned : (stateAfter move lost moves).session.Owned)
    (addressed : (stateAfter move lost moves).Addressed id)
    {last : Move} (placed : ¬ last.Misplaces id) : Traced lost id (moves ++ [last]) where
  cached := by
    intro answer cached
    rw [stateAfter_snoc] at cached
    rcases cached_move cached with before | answered
    · exact (traced.cached answer before).snoc last
    · exact arrived_of_answered answered
  due := by
    intro answer due
    rw [stateAfter_snoc] at due
    rcases due_move addressed due with before | cached | answered
    · exact (traced.due answer before).snoc last
    · exact (traced.cached answer cached).snoc last
    · exact arrived_of_answered answered
  record := by
    intro record held answer told
    rw [stateAfter_snoc] at held
    rcases record_move owned placed held told with ⟨old, was, had⟩ | cached | waits
    · rcases traced.record old was answer had with arrived | keeps
      · exact Or.inl (arrived.snoc last)
      · exact Or.inr (keeps.snoc held told)
    · exact Or.inl ((traced.cached answer cached).snoc last)
    · exact Or.inl ((traced.due answer waits).snoc last)

theorem traced_run (owned : lost.session.Owned) (addressed : lost.Addressed id)
    (absent : lost.fetches.cache.cached id.text = none) {moves : List Move}
    (placed : ∀ move ∈ moves, ¬ move.Misplaces id) : Traced lost id moves := by
  induction moves using List.reverseRecOn with
  | nil => exact traced_nil absent
  | append_singleton moves last ih =>
    have before : ∀ move ∈ moves, ¬ move.Misplaces id :=
      fun move member => placed move (List.mem_append_left _ member)
    exact (ih before).snoc (owned_run owned moves) (addressed_run owned addressed before)
      (placed last (by simp))

end Loss

theorem owned_start (window : Nat) (known : KnownGood) (others : List Fetches.Step) :
    (start window known others).session.Owned := by
  intro id record held
  cases held

theorem addressed_start (window : Nat) (known : KnownGood) (others : List Fetches.Step)
    (id : PrinterId) : (start window known others).Addressed id where
  placed := by
    intro record held
    cases held
  wanted := nofun
  awaited := nofun

private theorem cached_lost {supply : Supply} (lives : supply.session.destroyed = false) (now : Nat)
    {printer : Printer} (network : printer.id.isNetworkAddress = true) :
    (supply.move (.told now (.lost printer))).fetches.cache.cached printer.id.text = none := by
  have drops := forgotten_lost lives (supply.moment now) network
  show (supply.handled now (.lost printer)).fetches.cache.cached printer.uri = none
  rw [handled, Fetches.cached_removes, if_pos drops]

private theorem answered_of_idle {record : Record} {info : PrinterInfo}
    (tells : record.info? = some info)
    (idle : info.status = .idle) :
    ∃ answer, info.capabilities = some answer ∧ record.capabilities = some answer := by
  unfold Record.info? at tells
  split at tells
  · cases tells
  · cases tells
    cases told : record.capabilities with
    | some answer => exact ⟨answer, rfl, rfl⟩
    | none => simp [Record.status, told] at idle

/-- Whoever is shown by a move has a record afterwards that tells what is shown. -/
theorem record_of_shown {supply : Supply} (owned : supply.session.Owned) {move : Move}
    {info : PrinterInfo} (shown : .added info ∈ supply.events move) :
    supply.session.destroyed = false ∧
      ∃ record, (supply.move move).session.records.get? info.id = some record ∧
        record.info? = some info := by
  unfold events at shown
  rw [session_move]
  split at shown
  · exact record_of_added owned shown
  · cases shown

/-- A printer at a network address that is shown as idle after its loss is shown with capabilities
that were fetched since, or that its record has kept all the time, unless they came late or the id
is that of a printer reported at another path. -/
theorem origin_of_shown_after_loss (window : Nat) (known : KnownGood) (others : List Fetches.Step)
    (before : List Move) (now : Nat) (printer : Printer) (between : List Move) (last : Move)
    (info : PrinterInfo) (network : printer.id.isNetworkAddress = true)
    (named : info.id = printer.id) (idle : info.status = .idle) :
    let loss := Move.told now (.lost printer)
    let lost := (stateAfter move (start window known others) before).move loss
    let after := between ++ [last]
    .added info ∈ (stateAfter move lost between).events last →
    ∃ answer, info.capabilities = some answer ∧
      (FetchedSince lost printer.id after answer ∨ Keeps lost printer.id after answer ∨
        CameLate lost printer.id after answer ∨
        ∃ move ∈ before ++ loss :: after, move.Misplaces printer.id) := by
  intro loss lost after shown
  have ownedBefore := owned_run (owned_start window known others) before
  have owned : lost.session.Owned := owned_move ownedBefore loss
  obtain ⟨lives, record, held, tells⟩ := record_of_shown (owned_run owned between) shown
  obtain ⟨answer, told, had⟩ := answered_of_idle tells idle
  refine ⟨answer, told, ?_⟩
  by_cases elsewhere : ∃ move ∈ before ++ loss :: after, move.Misplaces printer.id
  · exact Or.inr (Or.inr (Or.inr elsewhere))
  · have placed : ∀ move ∈ before ++ loss :: after, ¬ move.Misplaces printer.id :=
      fun move member misplaces => elsewhere ⟨move, member, misplaces⟩
    -- A session that has ended shows nobody, so this one lived at the loss and dropped the address.
    have livedThen :
        (stateAfter move (start window known others) before).session.destroyed = false := by
      by_contra ended
      have endedSince := destroyed_run (Bool.not_eq_false _ ▸ ended) (loss :: between)
      exact Bool.false_ne_true (lives.symm.trans endedSince)
    have addressed : lost.Addressed printer.id := by
      refine Addressed.move ownedBefore ?_ (placed loss (by simp))
      refine addressed_run (owned_start window known others) (addressed_start ..) ?_
      exact fun move member => placed move (List.mem_append_left _ member)
    have traced : Traced lost printer.id after := by
      refine traced_run owned addressed (cached_lost livedThen now network) fun move member => ?_
      exact placed move (List.mem_append_right _ (List.mem_cons_of_mem _ member))
    rw [named, ← stateAfter_snoc move] at held
    rcases traced.record record held answer had with (later | late) | keeps
    · exact Or.inl later
    · exact Or.inr (Or.inr (Or.inl late))
    · exact Or.inr (Or.inl keeps)

/-- A printer that is found again soon after its loss is shown at once with what its record has
kept. -/
theorem kept_capabilities_shown_again :
    let office := Printer.report none "Office" "ipp://h" none
    let healthy : Capabilities := ⟨true, "Office", "", none, none, .idle, [], [], false, false⟩
    let before : List Move :=
      [.told 0 (.found office), .asks ⟨office.id, "ipp://h", false⟩,
        .fetches (.ends ⟨0, "ipp://h"⟩ (some healthy)), .heard 0 office.id (some healthy)]
    let loss := Move.told 1 (.lost office)
    let lost := (stateAfter move (start 3000 (.empty 50) []) before).move loss
    let last := Move.told 2 (.found office)
    let info : PrinterInfo := ⟨office.id, "Office", "h", none, .idle, some healthy⟩
    office.id.isNetworkAddress = true ∧ info.id = office.id ∧ info.status = .idle ∧
      .added info ∈ (stateAfter move lost []).events last ∧
      ∃ answer, info.capabilities = some answer ∧
        (FetchedSince lost office.id [last] answer ∨ Keeps lost office.id [last] answer ∨
          CameLate lost office.id [last] answer ∨
          ∃ move ∈ before ++ loss :: [last], move.Misplaces office.id) := by
  intro office healthy before loss lost last info
  have network : office.id.isNetworkAddress = true := by decide +kernel
  have shown : .added info ∈ (stateAfter move lost []).events last := by decide +kernel
  exact ⟨network, rfl, rfl, shown, origin_of_shown_after_loss 3000 (.empty 50) [] before 1 office []
    last info network rfl rfl shown⟩

/-- What is shown then was fetched before the loss only. -/
theorem lost_capabilities_shown_as_idle :
    let office := Printer.report none "Office" "ipp://h" none
    let healthy : Capabilities := ⟨true, "Office", "", none, none, .idle, [], [], false, false⟩
    let before : List Move :=
      [.told 0 (.found office), .asks ⟨office.id, "ipp://h", false⟩,
        .fetches (.ends ⟨0, "ipp://h"⟩ (some healthy)), .heard 0 office.id (some healthy)]
    let lost := (stateAfter move (start 3000 (.empty 50) []) before).move (.told 1 (.lost office))
    let last := Move.told 2 (.found office)
    office.id.isNetworkAddress = true ∧
      ∃ info, .added info ∈ lost.events last ∧ info.id = office.id ∧ info.status = .idle ∧
        ¬ ∃ answer, info.capabilities = some answer ∧ FetchedSince lost office.id [last] answer := by
  intro office healthy before lost last
  refine ⟨by decide +kernel, ⟨office.id, "Office", "h", none, .idle, some healthy⟩,
    by decide +kernel, rfl, rfl, ?_⟩
  rintro ⟨answer, _, since⟩
  rcases happens_snoc.1 (show FetchedSince lost office.id ([] ++ [last]) answer from since) with
    never | ⟨step, differs, _⟩
  · exact not_happens_nil never
  · exact absurd (show Move.told 2 (.found office) = .fetches step from differs) nofun

end PrinterRoster.Session.Supply
