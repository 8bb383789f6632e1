import PrinterRoster.Proofs.Probe.Rounds

/-! A race from instant to instant. It ends at the earliest success, and of several
at one instant the one whose task comes first counts. Without a success it ends
with the last of its queries. -/
namespace PrinterRoster
namespace Probe
namespace Race

/-- A task that brings capabilities before any other does, or at the same instant
as others that come after it. -/
structure Leads (tasks : List Task) (uri : String) (delay : Nat) (answer : Capabilities) :
    Prop where
  split : ∃ ahead leader behind, tasks = ahead ++ leader :: behind ∧ leader.uri = uri ∧
    leader.behaviour = .answers delay (some answer) ∧
    ∀ other ∈ ahead, ∀ later told, other.behaviour = .answers later (some told) → delay < later
  least : ∀ other ∈ tasks, ∀ later told,
    other.behaviour = .answers later (some told) → delay ≤ later

private theorem Task.finding?_of_late {task : Task} {now : Nat} (waits : task.isCancelled = false)
    (late : ∀ delay answer, task.behaviour = .answers delay (some answer) → now < delay)
    (host : String) : ((task.report? now).bind (Report.finding? host)) = none := by
  unfold Task.report?
  rw [waits, if_neg Bool.false_ne_true]
  cases stated : task.behaviour with
  | answers delay answer =>
    cases answer with
    | none => dsimp only; split <;> rfl
    | some answer =>
      have early := late delay answer stated
      dsimp only
      rw [if_neg (Nat.not_le.2 early)]
      rfl
  | silent => rfl
  | breaksDown => rfl

private theorem Waiting.quietAt {race : Race} (waiting : race.Waiting) {now : Nat}
    (late : ∀ task ∈ race.tasks, ∀ delay answer,
      task.behaviour = .answers delay (some answer) → now < delay) : race.QuietAt now := by
  intro report reported
  obtain ⟨task, member, ends⟩ := List.mem_filterMap.1 reported
  have none := Task.finding?_of_late (waiting.uncancelled task member) (late task member) race.host
  rw [ends] at none
  exact none

private theorem Waiting.finding_of_leads {race : Race} (waiting : race.Waiting) {uri : String}
    {delay : Nat} {answer : Capabilities} (leads : Leads race.tasks uri delay answer) :
    (race.tasks.filterMap (·.report? delay)).findSome? (Report.finding? race.host) =
      some (.found (resolved race.host uri answer) answer.isSupported) := by
  obtain ⟨ahead, leader, behind, tasks, named, stated, later⟩ := leads.split
  have before : ahead.findSome? (fun task =>
      (task.report? delay).bind (Report.finding? race.host)) = none := by
    rw [List.findSome?_eq_none_iff]
    intro task member
    have held : task ∈ race.tasks := by rw [tasks]; simp [member]
    exact Task.finding?_of_late (waiting.uncancelled task held) (later task member) race.host
  have leaderHeld : leader ∈ race.tasks := by rw [tasks]; simp
  have report : leader.report? delay = some (.answered leader.index uri (some answer)) := by
    rw [Task.report?, waiting.uncancelled leader leaderHeld, if_neg Bool.false_ne_true, stated]
    dsimp only
    rw [if_pos (Nat.le_refl delay), named]
  rw [← List.head?_filterMap, List.filterMap_filterMap, List.head?_filterMap, tasks,
    List.findSome?_append, before, Option.none_or, List.findSome?_cons, report]
  rfl

private theorem Leads.left {race : Race} {uri : String} {delay now : Nat} {answer : Capabilities}
    (leads : Leads race.tasks uri delay answer) (early : now < delay) :
    Leads (race.left now) uri delay answer := by
  obtain ⟨ahead, leader, behind, tasks, named, stated, later⟩ := leads.split
  have stays : leader.behaviour.endsBy now = false := by
    rw [stated]
    exact decide_eq_false (Nat.not_le.2 early)
  constructor
  · refine ⟨(ahead.filter fun task => !task.behaviour.endsBy now).map Task.begin, leader.begin,
      (behind.filter fun task => !task.behaviour.endsBy now).map Task.begin, ?_, named, stated, ?_⟩
    · rw [Race.left, tasks, List.filter_append, List.map_append,
        List.filter_cons_of_pos (by rw [stays]; rfl), List.map_cons]
    · intro other member
      obtain ⟨source, held, rfl⟩ := List.mem_map.1 member
      exact later source (List.mem_filter.1 held).1
  · intro other member
    obtain ⟨source, held, rfl, _⟩ := mem_left member
    exact leads.least source held

private theorem left_isEmpty {race : Race} {now : Nat}
    (opened : ∃ task ∈ race.tasks, task.behaviour.endsBy now = false) :
    (race.left now).isEmpty = false := by
  obtain ⟨task, member, stays⟩ := opened
  have held : task.begin ∈ race.left now := by
    apply List.mem_map_of_mem
    exact List.mem_filter.2 ⟨member, by rw [stays]; rfl⟩
  rw [List.isEmpty_eq_false_iff]
  exact List.ne_nil_of_mem held

theorem left_eq_nil {race : Race} {now : Nat}
    (ended : ∀ task ∈ race.tasks, task.behaviour.endsBy now = true) : race.left now = [] := by
  rw [left, List.map_eq_nil_iff, List.filter_eq_nil_iff]
  intro task member
  rw [ended task member]
  exact Bool.false_ne_true

private theorem Leads.opened {race : Race} {uri : String} {delay now : Nat} {answer : Capabilities}
    (leads : Leads race.tasks uri delay answer) (early : now < delay) :
    ∃ task ∈ race.tasks, task.behaviour.endsBy now = false := by
  obtain ⟨ahead, leader, behind, tasks, _, stated, _⟩ := leads.split
  refine ⟨leader, by rw [tasks]; simp, ?_⟩
  rw [stated]
  exact decide_eq_false (Nat.not_le.2 early)

private theorem opened_of_le {race : Race} {now later : Nat} (rises : now ≤ later)
    (opened : ∃ task ∈ race.tasks, task.behaviour.endsBy later = false) :
    ∃ task ∈ race.tasks, task.behaviour.endsBy now = false := by
  obtain ⟨task, held, stays⟩ := opened
  refine ⟨task, held, ?_⟩
  rw [← Bool.not_eq_true] at stays ⊢
  exact mt (Behaviour.endsBy_of_le rises) stays

private theorem Waiting.follow_of_open {race : Race} (waiting : race.Waiting) {now limit : Nat}
    (early : now ≤ limit)
    (late : ∀ task ∈ race.tasks, ∀ delay answer,
      task.behaviour = .answers delay (some answer) → limit < delay)
    (opened : ∃ task ∈ race.tasks, task.behaviour.endsBy limit = false) (later : List Nat) :
    ∃ flying, race.follow (now :: later) = (race.waited now flying).follow later ∧
      (race.waited now flying).Waiting := by
  have quiet : race.QuietAt now := by
    apply waiting.quietAt
    intro task held delay answer stated
    exact Nat.lt_of_le_of_lt early (late task held delay answer stated)
  obtain ⟨flying, settled, waits⟩ := waiting.settle_of_quiet quiet
  have goesOn : (race.waited now flying).tasks.isEmpty = false :=
    left_isEmpty (opened_of_le early opened)
  refine ⟨flying, ?_, waits⟩
  rw [follow, settled, goesOn, if_neg Bool.false_ne_true]

/-- A race with a successful answer is over at the instant of the first. -/
theorem Waiting.follow_of_leads {race : Race} (waiting : race.Waiting) {uri : String}
    {delay : Nat} {answer : Capabilities} (leads : Leads race.tasks uri delay answer)
    {instants : List Nat} (rising : instants.Pairwise (· ≤ ·)) (member : delay ∈ instants) :
    ∃ flying, race.follow instants =
      ({ race with
          tasks := []
          inFlight := flying
          outcome := some (.found (resolved race.host uri answer) answer.isSupported)
          fetches := race.due
          dropped := (race.left delay).map (·.uri) }, some delay) := by
  induction instants generalizing race with
  | nil => cases member
  | cons now later ih =>
    by_cases same : now = delay
    · obtain ⟨flying, settled⟩ := waiting.settle_of_finding (waiting.finding_of_leads leads)
      rw [follow, same, settled]
      exact ⟨flying, rfl⟩
    · have after : delay ∈ later := (List.mem_cons.1 member).resolve_left (Ne.symm same)
      have early : now < delay := Nat.lt_of_le_of_ne (List.rel_of_pairwise_cons rising after) same
      have late : ∀ task ∈ race.tasks, ∀ other told,
          task.behaviour = .answers other (some told) → now < other := by
        intro task held other told stated
        exact Nat.lt_of_lt_of_le early (leads.least task held other told stated)
      obtain ⟨flying, goesOn, waits⟩ := waiting.follow_of_open (Nat.le_refl now) late
        (leads.opened early) later
      have leadsOn : Leads (race.waited now flying).tasks uri delay answer := leads.left early
      obtain ⟨again, followed⟩ := ih waits leadsOn rising.of_cons after
      rw [goesOn, followed, due_waited, left_waited (Nat.le_of_lt early)]
      exact ⟨again, rfl⟩

private theorem opened_waited {race : Race} {now later : Nat} (rises : now ≤ later)
    (flying : Table Nat String)
    (opened : ∃ task ∈ race.tasks, task.behaviour.endsBy later = false) :
    ∃ task ∈ (race.waited now flying).tasks, task.behaviour.endsBy later = false := by
  obtain ⟨task, held, stays⟩ := opened
  have staysNow : task.behaviour.endsBy now = false := by
    rw [← Bool.not_eq_true] at stays ⊢
    exact mt (Behaviour.endsBy_of_le rises) stays
  refine ⟨task.begin, List.mem_map_of_mem (List.mem_filter.2 ⟨held, ?_⟩), stays⟩
  rw [staysNow]
  rfl

private theorem behaviours_waited {race : Race} (now : Nat) (flying : Table Nat String)
    (Holds : Behaviour → Prop) (all : ∀ task ∈ race.tasks, Holds task.behaviour) :
    ∀ task ∈ (race.waited now flying).tasks, Holds task.behaviour := by
  intro task member
  obtain ⟨source, held, rfl, _⟩ := mem_left member
  exact all source held

/-- A race in which all queries end without a success is over with the last. -/
theorem Waiting.follow_of_silence {race : Race} (waiting : race.Waiting) {last : Nat}
    (fails : ∀ task ∈ race.tasks, task.behaviour.answer? = none)
    (ended : ∀ task ∈ race.tasks, task.behaviour.endsBy last = true)
    {instants : List Nat} (rising : instants.Pairwise (· ≤ ·)) (member : last ∈ instants)
    (opened : ∀ now ∈ instants, now < last →
      ∃ task ∈ race.tasks, task.behaviour.endsBy now = false) :
    ∃ flying, race.follow instants = (race.waited last flying, some last) := by
  induction instants generalizing race with
  | nil => cases member
  | cons now later ih =>
    have late : ∀ task ∈ race.tasks, ∀ delay answer,
        task.behaviour = .answers delay (some answer) → now < delay := by
      intro task held delay answer stated
      exact Behaviour.late_of_fails (fails task held) stated
    by_cases same : now = last
    · obtain ⟨flying, settled, _⟩ := waiting.settle_of_quiet (waiting.quietAt late)
      have finished : (race.waited now flying).tasks = [] := left_eq_nil (same ▸ ended)
      rw [follow, settled, finished, if_pos List.isEmpty_nil, same]
      exact ⟨flying, rfl⟩
    · have after : last ∈ later := (List.mem_cons.1 member).resolve_left (Ne.symm same)
      have early : now < last := Nat.lt_of_le_of_ne (List.rel_of_pairwise_cons rising after) same
      obtain ⟨flying, goesOn, waits⟩ := waiting.follow_of_open (Nat.le_refl now) late
        (opened now List.mem_cons_self early) later
      have stillOpen : ∀ next ∈ later, next < last →
          ∃ task ∈ (race.waited now flying).tasks, task.behaviour.endsBy next = false := by
        intro next soon before
        exact opened_waited (List.rel_of_pairwise_cons rising soon) flying
          (opened next (List.mem_cons_of_mem now soon) before)
      have stillFails := behaviours_waited now flying (·.answer? = none) fails
      have stillEnded := behaviours_waited now flying (·.endsBy last = true) ended
      obtain ⟨again, followed⟩ := ih waits stillFails stillEnded rising.of_cons after stillOpen
      rw [goesOn, followed, waited_waited (Nat.le_of_lt early)]
      exact ⟨again, rfl⟩

theorem Waiting.follow_of_pending {race : Race} (waiting : race.Waiting) {now limit : Nat}
    {later : List Nat} (rising : (now :: later).Pairwise (· ≤ ·))
    (within : ∀ instant ∈ now :: later, instant ≤ limit)
    (late : ∀ task ∈ race.tasks, ∀ delay answer,
      task.behaviour = .answers delay (some answer) → limit < delay)
    (opened : ∃ task ∈ race.tasks, task.behaviour.endsBy limit = false) :
    ∃ flying last, now ≤ last ∧ race.follow (now :: later) = (race.waited last flying, none) := by
  induction later generalizing race now with
  | nil =>
    have early : now ≤ limit := within now List.mem_cons_self
    obtain ⟨flying, goesOn, _⟩ := waiting.follow_of_open early late opened []
    exact ⟨flying, now, Nat.le_refl now, goesOn⟩
  | cons next others ih =>
    have early : now ≤ limit := within now List.mem_cons_self
    obtain ⟨flying, goesOn, waits⟩ := waiting.follow_of_open early late opened (next :: others)
    have stillLate := behaviours_waited now flying (fun behaviour => ∀ delay answer,
      behaviour = .answers delay (some answer) → limit < delay) late
    have stillOpen := opened_waited early flying opened
    obtain ⟨again, last, rises, followed⟩ := ih waits rising.of_cons
      (fun instant soon => within instant (List.mem_cons_of_mem now soon)) stillLate stillOpen
    have after : now ≤ last :=
      Nat.le_trans (List.rel_of_pairwise_cons rising List.mem_cons_self) rises
    refine ⟨again, last, after, ?_⟩
    rw [goesOn, followed, waited_waited after]

theorem rising_instants (race : Race) : race.instants.Pairwise (· ≤ ·) := by
  have sorted := List.pairwise_mergeSort
    (fun a b c (below : decide (a ≤ b) = true) (above : decide (b ≤ c) = true) =>
      decide_eq_true (Nat.le_trans (of_decide_eq_true below) (of_decide_eq_true above)))
    (fun a b => by simpa using Nat.le_total a b)
    (0 :: race.tasks.filterMap (·.behaviour.endsAfter?))
  exact sorted.imp of_decide_eq_true

theorem zero_mem_instants (race : Race) : 0 ∈ race.instants := by
  rw [instants, List.mem_mergeSort]
  exact List.mem_cons_self

theorem mem_instants {race : Race} {task : Task} {now : Nat} (member : task ∈ race.tasks)
    (ends : task.behaviour.endsAfter? = some now) : now ∈ race.instants := by
  rw [instants, List.mem_mergeSort]
  exact List.mem_cons_of_mem 0 (List.mem_filterMap.2 ⟨task, member, ends⟩)

end Race

end Probe

end PrinterRoster
