import Mathlib.Data.List.Induction

/-! Runs of a system that takes one step after another: the state they lead to, what happens in
their course and what holds all the time. -/
namespace PrinterRoster

section
variable {State Step : Type} {perform : State → Step → State} {start : State}
  {event : State → Step → Prop} {holds : State → Prop}

def stateAfter (perform : State → Step → State) (start : State) (steps : List Step) : State :=
  steps.foldl perform start

@[simp] theorem stateAfter_nil : stateAfter perform start [] = start := rfl

@[simp] theorem stateAfter_cons (first : Step) (later : List Step) :
    stateAfter perform start (first :: later) = stateAfter perform (perform start first) later :=
  rfl

theorem stateAfter_append (perform : State → Step → State) (start : State)
    (earlier later : List Step) :
    stateAfter perform start (earlier ++ later) =
      stateAfter perform (stateAfter perform start earlier) later :=
  List.foldl_append ..

theorem stateAfter_snoc (perform : State → Step → State) (start : State) (steps : List Step)
    (last : Step) :
    stateAfter perform start (steps ++ [last]) = perform (stateAfter perform start steps) last :=
  stateAfter_append perform start steps [last]

/-- What each step of a run preserves holds after it. -/
theorem holds_stateAfter (holds : State → Prop) (initially : holds start) {steps : List Step}
    (preserved : ∀ state, holds state → ∀ step ∈ steps, holds (perform state step)) :
    holds (stateAfter perform start steps) :=
  steps.foldlRecOn perform initially preserved

/-- Some step of a run meets a state in which it makes an event. -/
def Happens (perform : State → Step → State) (start : State) (steps : List Step)
    (event : State → Step → Prop) : Prop :=
  ∃ earlier now later, steps = earlier ++ now :: later ∧
    event (stateAfter perform start earlier) now

theorem not_happens_nil : ¬ Happens perform start [] event := by
  rintro ⟨earlier, now, later, same, _⟩
  cases earlier <;> cases same

theorem Happens.append {steps : List Step} (happens : Happens perform start steps event)
    (others : List Step) : Happens perform start (steps ++ others) event := by
  obtain ⟨earlier, now, later, rfl, occurs⟩ := happens
  exact ⟨earlier, now, later ++ others, by simp, occurs⟩

theorem Happens.prepend {earlier later : List Step}
    (happens : Happens perform (stateAfter perform start earlier) later event) :
    Happens perform start (earlier ++ later) event := by
  obtain ⟨between, now, others, rfl, occurs⟩ := happens
  rw [← stateAfter_append] at occurs
  exact ⟨earlier ++ between, now, others, by simp, occurs⟩

theorem Happens.last {now : Step} (steps : List Step)
    (occurs : event (stateAfter perform start steps) now) :
    Happens perform start (steps ++ [now]) event :=
  ⟨steps, now, [], rfl, occurs⟩

theorem happens_snoc {steps : List Step} {now : Step} :
    Happens perform start (steps ++ [now]) event ↔
      Happens perform start steps event ∨ event (stateAfter perform start steps) now := by
  constructor
  · rintro ⟨earlier, step, later, same, occurs⟩
    rcases List.eq_nil_or_concat later with rfl | ⟨later, last, rfl⟩
    · obtain ⟨rfl, final⟩ := List.append_inj' same rfl
      cases final
      exact Or.inr occurs
    · rw [List.concat_eq_append, ← List.cons_append, ← List.append_assoc] at same
      obtain ⟨rfl, _⟩ := List.append_inj' same rfl
      exact Or.inl ⟨earlier, step, later, rfl, occurs⟩
  · rintro (happens | occurs)
    · exact happens.append [now]
    · exact .last steps occurs

/-- Every run is split by the latest step that makes an event, if there is one. -/
theorem exists_latest (perform : State → Step → State) (start : State) (steps : List Step)
    (event : State → Step → Prop) :
    ∃ before after, steps = before ++ after ∧
      (before = [] ∨ ∃ earlier step, before = earlier ++ [step] ∧
        event (stateAfter perform start earlier) step) ∧
        ¬ Happens perform (stateAfter perform start before) after event := by
  induction steps using List.reverseRecOn with
  | nil => exact ⟨[], [], rfl, Or.inl rfl, not_happens_nil⟩
  | append_singleton earlier step ih =>
    by_cases last : event (stateAfter perform start earlier) step
    · exact ⟨earlier ++ [step], [], (List.append_nil _).symm, Or.inr ⟨earlier, step, rfl, last⟩,
        not_happens_nil⟩
    · obtain ⟨before, after, rfl, latest, since⟩ := ih
      refine ⟨before, after ++ [step], List.append_assoc .., latest, ?_⟩
      rw [happens_snoc, ← stateAfter_append]
      exact not_or.2 ⟨since, last⟩

/-- Something holds from before the first step of a run until after the last. -/
def Throughout (perform : State → Step → State) (start : State) (steps : List Step)
    (holds : State → Prop) : Prop :=
  ∀ earlier, earlier <+: steps → holds (stateAfter perform start earlier)

theorem throughout_nil : Throughout perform start [] holds ↔ holds start := by
  simp only [Throughout, List.prefix_nil, forall_eq]
  rfl

theorem throughout_snoc {steps : List Step} {last : Step} :
    Throughout perform start (steps ++ [last]) holds ↔
      Throughout perform start steps holds ∧ holds (perform (stateAfter perform start steps) last) := by
  simp only [Throughout, List.prefix_concat_iff, forall_eq_or_imp, stateAfter_snoc]
  exact and_comm

namespace Throughout
variable {steps earlier later : List Step}

theorem first (throughout : Throughout perform start steps holds) : holds start :=
  throughout [] List.nil_prefix

theorem last (throughout : Throughout perform start steps holds) :
    holds (stateAfter perform start steps) :=
  throughout steps List.prefix_rfl

theorem left (throughout : Throughout perform start (earlier ++ later) holds) :
    Throughout perform start earlier holds :=
  fun part before => throughout part (before.trans (List.prefix_append earlier later))

theorem right (throughout : Throughout perform start (earlier ++ later) holds) :
    Throughout perform (stateAfter perform start earlier) later holds := by
  intro part before
  rw [← stateAfter_append]
  exact throughout _ ((List.prefix_append_right_inj earlier).2 before)

end Throughout

end

end PrinterRoster
