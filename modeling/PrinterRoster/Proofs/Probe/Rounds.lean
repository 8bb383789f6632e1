import Mathlib.Data.List.Nodup
import PrinterRoster.Probe

/-! What one look at the tasks of a race does. A race in which nothing is decided
waits: its tasks are those whose queries have not ended, none is cancelled, and the
request of each is in flight under a number of its own. So the report that decides
a race cancels every task that is left, and no later report changes the outcome. -/
namespace PrinterRoster

def Behaviour.endsBy (behaviour : Behaviour) (now : Nat) : Bool :=
  behaviour.endsAfter?.any (· ≤ now)

theorem Behaviour.endsBy_of_le {behaviour : Behaviour} {now later : Nat} (rises : now ≤ later)
    (past : behaviour.endsBy now = true) : behaviour.endsBy later = true := by
  unfold endsBy at past ⊢
  rw [Option.any_eq_true] at past ⊢
  obtain ⟨instant, ends, early⟩ := past
  rw [decide_eq_true_eq] at early
  exact ⟨instant, ends, decide_eq_true (Nat.le_trans early rises)⟩

/-- A query that brings nothing succeeds at no time, so any success is later. -/
theorem Behaviour.late_of_fails {behaviour : Behaviour} (fails : behaviour.answer? = none)
    {delay now : Nat} {answer : Capabilities} (stated : behaviour = .answers delay (some answer)) :
    now < delay := by
  rw [stated] at fails
  cases fails

namespace Probe

def Report.finding? (host : String) : Report → Option ProbeOutcome
  | .answered _ uri (some answer) => some (.found (resolved host uri answer) answer.isSupported)
  | _ => none

def Report.index? : Report → Option Nat
  | .answered index _ _ => some index
  | .cancelled index => some index
  | .failed => none

private theorem Task.index?_report {task : Task} {now index : Nat} {report : Report}
    (ends : task.report? now = some report) (numbered : report.index? = some index) :
    task.index = index := by
  unfold Task.report? at ends
  split at ends
  · cases ends
    exact Option.some.inj numbered
  · split at ends
    · split at ends
      · cases ends
        exact Option.some.inj numbered
      · cases ends
    · cases ends
    · cases ends
      cases numbered

private theorem Task.report?_isNone {task : Task} (waits : task.isCancelled = false) (now : Nat) :
    (task.report? now).isNone = !task.behaviour.endsBy now := by
  unfold Task.report? Behaviour.endsBy Behaviour.endsAfter?
  rw [waits, if_neg Bool.false_ne_true]
  cases task.behaviour with
  | answers delay answer =>
    by_cases past : delay ≤ now
    · simp [past]
    · simp [past]
  | silent => rfl
  | breaksDown => simp

namespace Race

def Covered (race : Race) : Prop :=
  ∀ task ∈ race.tasks, race.inFlight.contains task.index = true

def Apart (race : Race) (reports : List Report) : Prop :=
  ∀ report ∈ reports, ∀ task ∈ race.tasks, report.index? ≠ some task.index

structure Waiting (race : Race) : Prop where
  undecided : race.outcome = none
  kept : race.dropped = []
  uncancelled : ∀ task ∈ race.tasks, task.isCancelled = false
  covered : race.Covered
  distinct : (race.tasks.map Task.index).Nodup

private theorem contains_erase {flying : Table Nat String} {index other : Nat}
    (different : other ≠ index)
    (held : flying.contains other = true) : (flying.erase index).contains other = true := by
  unfold Table.contains at held ⊢
  rw [Table.get?_erase, if_neg different]
  exact held

private theorem hear_of_quiet (race : Race) {report : Report}
    (quiet : report.finding? race.host = none) :
    ∃ flying, race.hear report = { race with inFlight := flying } ∧
      ∀ index, report.index? ≠ some index → race.inFlight.contains index = true →
        flying.contains index = true := by
  cases report with
  | answered index uri answer =>
    cases answer with
    | none =>
      exact ⟨_, rfl, fun other apart => contains_erase fun same => apart (congrArg some same.symm)⟩
    | some answer => cases quiet
  | cancelled index =>
    exact ⟨_, rfl, fun other apart => contains_erase fun same => apart (congrArg some same.symm)⟩
  | failed => exact ⟨_, rfl, fun _ _ held => held⟩

private theorem hear_of_decided {race : Race} (decided : race.outcome.isNone = false)
    (report : Report) : ∃ flying, race.hear report = { race with inFlight := flying } := by
  cases report with
  | answered index uri answer =>
    cases answer with
    | none => exact ⟨_, rfl⟩
    | some answer =>
      unfold hear
      rw [decided]
      exact ⟨_, rfl⟩
  | cancelled index => exact ⟨_, rfl⟩
  | failed => exact ⟨_, rfl⟩

private theorem hear_of_finding {race : Race} {report : Report} {outcome : ProbeOutcome}
    (undecided : race.outcome = none) (covered : race.Covered) (apart : race.Apart [report])
    (finding : report.finding? race.host = some outcome) :
    ∃ flying, race.hear report =
      { race with
        tasks := race.tasks.map Task.cancel
        inFlight := flying
        outcome := some outcome } := by
  cases report with
  | answered index uri answer =>
    cases answer with
    | none => cases finding
    | some answer =>
      cases finding
      have all : (race.land index).cancelInFlight.tasks = race.tasks.map Task.cancel := by
        apply List.map_congr_left
        intro task member
        have different : task.index ≠ index := by
          intro same
          exact apart _ (List.mem_singleton_self _) task member (congrArg some same.symm)
        exact if_pos (contains_erase different (covered task member))
      simp only [hear, undecided, Option.isNone_none, if_true, all]
      exact ⟨_, rfl⟩
  | cancelled index => cases finding
  | failed => cases finding

private theorem hearAll_of_decided {race : Race} (decided : race.outcome.isNone = false)
    (reports : List Report) :
    ∃ flying, reports.foldl hear race = { race with inFlight := flying } := by
  induction reports generalizing race with
  | nil => exact ⟨race.inFlight, rfl⟩
  | cons report others ih =>
    obtain ⟨flying, heard⟩ := hear_of_decided decided report
    rw [List.foldl_cons, heard]
    exact ih decided

private theorem hearAll_of_quiet {race : Race} {reports : List Report} (covered : race.Covered)
    (apart : race.Apart reports) (quiet : ∀ report ∈ reports, report.finding? race.host = none) :
    ∃ flying, reports.foldl hear race = { race with inFlight := flying } ∧
      Covered { race with inFlight := flying } := by
  induction reports generalizing race with
  | nil => exact ⟨race.inFlight, rfl, covered⟩
  | cons report others ih =>
    obtain ⟨flying, heard, kept⟩ := hear_of_quiet race (quiet report (by simp))
    have still : Covered { race with inFlight := flying } := by
      intro task member
      exact kept task.index (apart report (by simp) task member) (covered task member)
    rw [List.foldl_cons, heard]
    exact ih still (fun other member => apart other (by simp [member]))
      fun other member => quiet other (by simp [member])

/-- The first report of capabilities decides, whatever is reported before or
after it. -/
theorem hearAll_of_finding {race : Race} {reports : List Report} {outcome : ProbeOutcome}
    (undecided : race.outcome = none) (covered : race.Covered) (apart : race.Apart reports)
    (finding : reports.findSome? (Report.finding? race.host) = some outcome) :
    ∃ flying, reports.foldl hear race =
      { race with
        tasks := race.tasks.map Task.cancel
        inFlight := flying
        outcome := some outcome } := by
  induction reports generalizing race with
  | nil => cases finding
  | cons report others ih =>
    have apartFirst : race.Apart [report] := by
      intro other member
      rw [List.mem_singleton.1 member]
      exact apart report (by simp)
    rw [List.findSome?_cons] at finding
    rw [List.foldl_cons]
    cases first : report.finding? race.host with
    | some found =>
      rw [first] at finding
      cases finding
      obtain ⟨flying, heard⟩ := hear_of_finding undecided covered apartFirst first
      rw [heard]
      exact hearAll_of_decided rfl others
    | none =>
      rw [first] at finding
      obtain ⟨flying, heard, kept⟩ := hear_of_quiet race first
      have still : Covered { race with inFlight := flying } := by
        intro task member
        exact kept task.index (apart report (by simp) task member) (covered task member)
      rw [heard]
      exact ih undecided still (fun other member => apart other (by simp [member])) finding

private theorem apart_of_distinct {race : Race} (distinct : (race.tasks.map Task.index).Nodup)
    (now : Nat) : ∀ report ∈ race.tasks.filterMap (·.report? now),
      ∀ task ∈ race.tasks.filter fun task => (task.report? now).isNone,
        report.index? ≠ some task.index := by
  intro report reported task left numbered
  obtain ⟨source, member, ends⟩ := List.mem_filterMap.1 reported
  obtain ⟨stays, waits⟩ := List.mem_filter.1 left
  have same : source.index = task.index := Task.index?_report ends numbered
  have one : source = task := List.inj_on_of_nodup_map distinct member stays same
  rw [← one, ends] at waits
  cases waits

def left (race : Race) (now : Nat) : List Task :=
  (race.tasks.filter fun task => !task.behaviour.endsBy now).map Task.begin

def due (race : Race) : List Fetch := race.fetches ++ race.tasks.filterMap Task.fetch?

def waited (race : Race) (now : Nat) (flying : Table Nat String) : Race :=
  { race with tasks := race.left now, inFlight := flying, fetches := race.due }

theorem mem_left {race : Race} {now : Nat} {task : Task} (member : task ∈ race.left now) :
    ∃ source ∈ race.tasks, task = source.begin ∧ source.behaviour.endsBy now = false := by
  obtain ⟨source, stays, rfl⟩ := List.mem_map.1 member
  obtain ⟨held, waits⟩ := List.mem_filter.1 stays
  exact ⟨source, held, rfl, by simpa using waits⟩

private theorem Waiting.filter_eq {race : Race} (waiting : race.Waiting) (now : Nat) :
    (race.tasks.filter fun task => (task.report? now).isNone).map Task.begin = race.left now := by
  have same : ∀ task ∈ race.tasks,
      (task.report? now).isNone = !task.behaviour.endsBy now := by
    intro task member
    exact Task.report?_isNone (waiting.uncancelled task member) now
  rw [List.filter_congr same]
  rfl

private theorem Waiting.dropped_eq {race : Race} (waiting : race.Waiting) :
    race.dropped ++ race.tasks.filterMap Task.dropped? = [] := by
  rw [waiting.kept, List.nil_append, List.filterMap_eq_nil_iff]
  intro task member
  unfold Task.dropped?
  rw [waiting.uncancelled task member]
  rfl

/-- Nothing that ends by an instant brings capabilities. -/
def QuietAt (race : Race) (now : Nat) : Prop :=
  ∀ report ∈ race.tasks.filterMap (·.report? now), report.finding? race.host = none

private theorem Waiting.covers_left {race : Race} (waiting : race.Waiting) (now : Nat) :
    Covered { race with tasks := race.left now } := by
  intro task member
  obtain ⟨source, held, rfl, _⟩ := mem_left member
  exact waiting.covered source held

private theorem Waiting.apart_left {race : Race} (waiting : race.Waiting) (now : Nat) :
    Apart { race with tasks := race.left now } (race.tasks.filterMap (·.report? now)) := by
  intro report reported task member
  obtain ⟨stays, held, begun⟩ := List.mem_map.1 (waiting.filter_eq now ▸ member)
  rw [← begun]
  exact apart_of_distinct waiting.distinct now report reported stays held

private theorem Waiting.distinct_left {race : Race} (waiting : race.Waiting) (now : Nat) :
    ((race.left now).map Task.index).Nodup := by
  have same : (race.left now).map Task.index =
      (race.tasks.filter fun task => !task.behaviour.endsBy now).map Task.index := by
    rw [left, List.map_map]
    rfl
  rw [same]
  exact waiting.distinct.sublist (List.filter_sublist.map _)

/-- What a waiting race is before the reports of a look are taken. -/
theorem Waiting.round_eq {race : Race} (waiting : race.Waiting) (now : Nat) :
    race.round now = (race.tasks.filterMap (·.report? now)).foldl hear
      { race with tasks := race.left now, fetches := race.due } := by
  unfold round
  rw [waiting.filter_eq now, waiting.dropped_eq, ← waiting.kept]
  rfl

private theorem Waiting.round_of_quiet {race : Race} (waiting : race.Waiting) {now : Nat}
    (quiet : race.QuietAt now) :
    ∃ flying, race.round now = race.waited now flying ∧ (race.waited now flying).Waiting := by
  let begun : Race := { race with tasks := race.left now, fetches := race.due }
  have covers : begun.Covered := waiting.covers_left now
  have apart : begun.Apart (race.tasks.filterMap (·.report? now)) := waiting.apart_left now
  obtain ⟨flying, looked, covered⟩ := hearAll_of_quiet covers apart quiet
  refine ⟨flying, (waiting.round_eq now).trans looked, ?_⟩
  refine ⟨waiting.undecided, waiting.kept, ?_, covered, waiting.distinct_left now⟩
  intro task member
  obtain ⟨source, held, rfl, _⟩ := mem_left member
  exact waiting.uncancelled source held

private theorem Waiting.round_of_finding {race : Race} (waiting : race.Waiting) {now : Nat}
    {outcome : ProbeOutcome}
    (finding : (race.tasks.filterMap (·.report? now)).findSome? (Report.finding? race.host) =
      some outcome) :
    ∃ flying, race.round now =
      { race with
        tasks := (race.left now).map Task.cancel
        inFlight := flying
        outcome := some outcome
        fetches := race.due } := by
  rw [waiting.round_eq now]
  exact hearAll_of_finding waiting.undecided (waiting.covers_left now) (waiting.apart_left now)
    finding

private theorem report?_of_left {race : Race} (waiting : race.Waiting) {now : Nat} :
    (race.left now).filterMap (·.report? now) = [] := by
  rw [List.filterMap_eq_nil_iff]
  intro task member
  obtain ⟨source, held, rfl, waits⟩ := mem_left member
  have uncancelled : source.begin.isCancelled = false := waiting.uncancelled source held
  rw [← Option.isNone_iff_eq_none, Task.report?_isNone uncancelled now]
  exact congrArg not waits

private theorem fetch?_of_left (race : Race) (now : Nat) : (race.left now).filterMap Task.fetch? =
    [] := by
  rw [List.filterMap_eq_nil_iff]
  intro task member
  obtain ⟨source, _, rfl, _⟩ := mem_left member
  unfold Task.fetch? Task.begin
  rw [Bool.or_true, if_pos rfl]

theorem left_waited {race : Race} {now later : Nat} (rises : now ≤ later)
    (flying : Table Nat String) : (race.waited now flying).left later = race.left later := by
  have kept : ∀ task ∈ race.tasks,
      (!task.behaviour.endsBy later && !task.behaviour.endsBy now) =
        !task.behaviour.endsBy later := by
    intro task _
    cases past : task.behaviour.endsBy now with
    | false => exact Bool.and_true _
    | true => rw [Behaviour.endsBy_of_le rises past]; rfl
  have fused : (fun task : Task => !task.behaviour.endsBy later) ∘ Task.begin =
      fun task : Task => !task.behaviour.endsBy later := rfl
  have twice : Task.begin ∘ Task.begin = Task.begin := rfl
  unfold left waited
  rw [left, List.filter_map, List.map_map, List.filter_filter, fused, twice,
    List.filter_congr kept]

theorem due_waited (race : Race) (now : Nat) (flying : Table Nat String) :
    (race.waited now flying).due = race.due := by
  unfold due waited
  rw [fetch?_of_left, List.append_nil]
  rfl

theorem waited_waited {race : Race} {now later : Nat} (rises : now ≤ later)
    (flying again : Table Nat String) :
    (race.waited now flying).waited later again = race.waited later again := by
  rw [waited, left_waited rises, due_waited]
  rfl

/-- A look at tasks none of which brings capabilities settles a race at once: the
next look changes nothing. -/
theorem Waiting.settle_of_quiet {race : Race} (waiting : race.Waiting) {now : Nat}
    (quiet : race.QuietAt now) :
    ∃ flying, race.settle now = race.waited now flying ∧ (race.waited now flying).Waiting := by
  obtain ⟨flying, looked, still⟩ := waiting.round_of_quiet quiet
  rw [settle, looked]
  split
  · have silent : (race.waited now flying).QuietAt now := by
      intro report reported
      rw [waited, report?_of_left waiting] at reported
      cases reported
    obtain ⟨again, relooked, waits⟩ := still.round_of_quiet silent
    rw [waited_waited (Nat.le_refl now)] at relooked waits
    have finished : ¬ (race.waited now again).tasks.length < (race.waited now flying).tasks.length :=
      Nat.lt_irrefl _
    rw [settle, relooked, if_neg finished]
    exact ⟨again, rfl, waits⟩
  · exact ⟨flying, rfl, still⟩

private theorem round_of_cancelled {race : Race}
    (cancelled : ∀ task ∈ race.tasks, task.isCancelled = true ∧ task.hasBegun = true)
    (decided : race.outcome.isNone = false) (now : Nat) :
    ∃ flying, race.round now =
      { race with
        tasks := []
        inFlight := flying
        dropped := race.dropped ++ race.tasks.map (·.uri) } := by
  have ended : (race.tasks.filter fun task => (task.report? now).isNone) = [] := by
    rw [List.filter_eq_nil_iff]
    intro task member
    rw [Task.report?, if_pos (cancelled task member).1]
    exact Bool.false_ne_true
  have unbegun : race.tasks.filterMap Task.fetch? = [] := by
    rw [List.filterMap_eq_nil_iff]
    intro task member
    rw [Task.fetch?, (cancelled task member).1]
    rfl
  have drops : race.tasks.filterMap Task.dropped? = race.tasks.map (·.uri) := by
    rw [← List.filterMap_eq_map]
    apply List.filterMap_congr
    intro task member
    rw [Task.dropped?, (cancelled task member).1, (cancelled task member).2]
    rfl
  unfold round
  rw [ended, unbegun, drops, List.append_nil]
  let silenced : Race :=
    { race with tasks := [], dropped := race.dropped ++ race.tasks.map (·.uri) }
  have settled : silenced.outcome.isNone = false := decided
  exact hearAll_of_decided settled _

/-- Cancelled tasks end, and drop their queries. -/
theorem settle_of_cancelled {race : Race}
    (cancelled : ∀ task ∈ race.tasks, task.isCancelled = true ∧ task.hasBegun = true)
    (decided : race.outcome.isNone = false) (now : Nat) :
    ∃ flying, race.settle now =
      { race with
        tasks := []
        inFlight := flying
        dropped := race.dropped ++ race.tasks.map (·.uri) } := by
  obtain ⟨flying, looked⟩ := round_of_cancelled cancelled decided now
  rw [settle]
  split
  · have empty : ∀ task ∈ (race.round now).tasks, task.isCancelled = true ∧ task.hasBegun = true := by
      rw [looked]
      intro task member
      cases member
    have settled : (race.round now).outcome.isNone = false := by
      rw [looked]
      exact decided
    obtain ⟨again, relooked⟩ := round_of_cancelled empty settled now
    have finished : ¬ ((race.round now).round now).tasks.length < (race.round now).tasks.length := by
      rw [looked]
      exact Nat.not_lt_zero _
    rw [settle, if_neg finished, relooked, looked]
    exact ⟨again, by simp⟩
  · exact ⟨flying, looked⟩

private theorem length_left_lt {race : Race} (waiting : race.Waiting) {now : Nat} {task : Task}
    (member : task ∈ race.tasks) {report : Report} (ends : task.report? now = some report) :
    (race.left now).length < race.tasks.length := by
  rw [left, List.length_map]
  apply List.length_filter_lt_length_iff_exists.2
  refine ⟨task, member, ?_⟩
  rw [← Task.report?_isNone (waiting.uncancelled task member) now, ends]
  exact Bool.false_ne_true

/-- Once a task brings capabilities the race is over at that instant, and exactly
the queries that have not ended are dropped. -/
theorem Waiting.settle_of_finding {race : Race} (waiting : race.Waiting) {now : Nat}
    {outcome : ProbeOutcome}
    (finding : (race.tasks.filterMap (·.report? now)).findSome? (Report.finding? race.host) =
      some outcome) :
    ∃ flying, race.settle now =
      { race with
        tasks := []
        inFlight := flying
        outcome := some outcome
        fetches := race.due
        dropped := (race.left now).map (·.uri) } := by
  obtain ⟨report, reported, _⟩ := List.exists_of_findSome?_eq_some finding
  obtain ⟨task, member, ends⟩ := List.mem_filterMap.1 reported
  obtain ⟨flying, looked⟩ := waiting.round_of_finding finding
  have fewer : (race.round now).tasks.length < race.tasks.length := by
    rw [looked, List.length_map]
    exact length_left_lt waiting member ends
  have cancelled : ∀ task ∈ (race.round now).tasks,
      task.isCancelled = true ∧ task.hasBegun = true := by
    intro task member
    rw [looked] at member
    obtain ⟨begun, stays, rfl⟩ := List.mem_map.1 member
    obtain ⟨source, _, rfl, _⟩ := mem_left stays
    exact ⟨rfl, rfl⟩
  have decided : (race.round now).outcome.isNone = false := by rw [looked]; rfl
  obtain ⟨again, settled⟩ := settle_of_cancelled cancelled decided now
  rw [settle, if_pos fewer, settled, looked]
  refine ⟨again, ?_⟩
  simp only [waiting.kept, List.nil_append, List.map_map]
  rfl

end Race

end Probe

end PrinterRoster
