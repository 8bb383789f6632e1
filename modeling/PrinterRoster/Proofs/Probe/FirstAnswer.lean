import Mathlib.Data.Nat.Find
import PrinterRoster.Proofs.Probe.Follow

/-! The first answer wins. A run queries all candidates at once and ends with the
successful answer that is earliest in time, or, at equal instants, in the order of
the candidates. It drops the queries that are open then. A run without such an
answer ends with the last of its queries. -/
namespace PrinterRoster
namespace Probe

/-- The success that comes first among the candidates: the earliest, and of several
at one instant the one that is listed first. -/
structure FirstSuccess (behave : String → Behaviour) (uris : List String) (place : Nat)
    (uri : String) (delay : Nat) (answer : Capabilities) : Prop where
  listed : uris[place]? = some uri
  succeeds : behave uri = .answers delay (some answer)
  first : ∀ (other : Nat) rival later told, uris[other]? = some rival →
    behave rival = .answers later (some told) → delay < later ∨ delay = later ∧ place ≤ other

/-- When the last of the queries ends. Those that never end do not count. -/
def lastEnd (behave : String → Behaviour) (uris : List String) : Nat :=
  uris.foldr (fun uri last => max ((behave uri).endsAfter?.getD 0) last) 0

def SucceedsAt (behave : String → Behaviour) (uris : List String) (delay place : Nat) : Prop :=
  ∃ uri answer, uris[place]? = some uri ∧ behave uri = .answers delay (some answer)

private theorem exists_firstSuccess {behave : String → Behaviour} {uris : List String}
    (succeeds : ∃ uri ∈ uris, (behave uri).answer? ≠ none) :
    ∃ place uri delay answer, FirstSuccess behave uris place uri delay answer := by
  classical
  have timed : ∃ delay place, SucceedsAt behave uris delay place := by
    obtain ⟨uri, member, brings⟩ := succeeds
    obtain ⟨place, listed⟩ := List.getElem?_of_mem member
    cases stated : behave uri with
    | answers delay answer =>
      rw [stated] at brings
      obtain ⟨told, rfl⟩ := Option.ne_none_iff_exists'.1 brings
      exact ⟨delay, place, uri, told, listed, stated⟩
    | silent => rw [stated] at brings; exact absurd rfl brings
    | breaksDown => rw [stated] at brings; exact absurd rfl brings
  have placed := Nat.find_spec timed
  obtain ⟨uri, answer, listed, stated⟩ := Nat.find_spec placed
  refine ⟨Nat.find placed, uri, Nat.find timed, answer, listed, stated, ?_⟩
  intro other rival later told elsewhere rivals
  have least : Nat.find timed ≤ later := Nat.find_min' timed ⟨other, rival, told, elsewhere, rivals⟩
  rcases Nat.lt_or_eq_of_le least with earlier | same
  · exact Or.inl earlier
  · refine Or.inr ⟨same, Nat.find_min' placed ⟨rival, told, elsewhere, ?_⟩⟩
    rw [same]
    exact rivals

theorem lastEnd_cons (behave : String → Behaviour) (uri : String) (others : List String) :
    lastEnd behave (uri :: others) =
      max ((behave uri).endsAfter?.getD 0) (lastEnd behave others) := rfl

theorem lastEnd_le_iff {behave : String → Behaviour} {uris : List String}
    (ends : ∀ uri ∈ uris, (behave uri).endsAfter? ≠ none) (now : Nat) :
    lastEnd behave uris ≤ now ↔ ∀ uri ∈ uris, (behave uri).endsBy now = true := by
  induction uris with
  | nil => simp [lastEnd]
  | cons uri others ih =>
    obtain ⟨instant, ended⟩ := Option.ne_none_iff_exists'.1 (ends uri List.mem_cons_self)
    rw [lastEnd_cons, Nat.max_le, ih fun other member => ends other (List.mem_cons_of_mem uri member),
      List.forall_mem_cons, Behaviour.endsBy, ended, Option.any_some, decide_eq_true_eq]
    rfl

private theorem exists_open_of_lt {behave : String → Behaviour} {uris : List String} {now : Nat}
    (ends : ∀ uri ∈ uris, (behave uri).endsAfter? ≠ none) (before : now < lastEnd behave uris) :
    ∃ uri ∈ uris, (behave uri).endsBy now = false := by
  by_contra closed
  apply Nat.not_le.2 before
  rw [lastEnd_le_iff ends]
  intro uri listed
  rw [← Bool.not_eq_false]
  exact fun stays => closed ⟨uri, listed, stays⟩

private theorem lastEnd_eq (behave : String → Behaviour) (uris : List String) :
    lastEnd behave uris = 0 ∨ ∃ uri ∈ uris, (behave uri).endsAfter? = some (lastEnd behave uris) := by
  induction uris with
  | nil => exact Or.inl rfl
  | cons uri others ih =>
    rw [lastEnd_cons]
    rcases Nat.le_total (lastEnd behave others) ((behave uri).endsAfter?.getD 0) with below | above
    · rw [Nat.max_eq_left below]
      cases ended : (behave uri).endsAfter? with
      | none => exact Or.inl rfl
      | some instant => exact Or.inr ⟨uri, List.mem_cons_self, ended⟩
    · rw [Nat.max_eq_right above]
      exact ih.imp_right fun ⟨other, member, last⟩ =>
        ⟨other, List.mem_cons_of_mem uri member, last⟩

namespace Race

section Start
variable (host : String) (uris : List String) (behave : String → Behaviour)

theorem uris_start : (start host uris behave).tasks.map (·.uri) = uris := by
  apply List.ext_getElem (by simp [start])
  intro place _ _
  simp only [start, List.getElem_map, List.getElem_mapIdx]

theorem indices_start :
    (start host uris behave).tasks.map (·.index) = List.range uris.length := by
  apply List.ext_getElem (by simp [start])
  intro place _ _
  simp only [start, List.getElem_map, List.getElem_mapIdx, List.getElem_range]

theorem mem_start {task : Task} (member : task ∈ (start host uris behave).tasks) :
    task.uri ∈ uris ∧ task.behaviour = behave task.uri ∧ task.hasBegun = false ∧
      task.isCancelled = false := by
  obtain ⟨index, bound, rfl⟩ := List.mem_mapIdx.1 member
  exact ⟨List.getElem_mem bound, rfl, rfl, rfl⟩

theorem waiting_start : (start host uris behave).Waiting := by
  refine ⟨rfl, rfl, ?_, ?_, ?_⟩
  · intro task member
    exact (mem_start host uris behave member).2.2.2
  · intro task member
    have listed : ((start host uris behave).tasks.map fun (task : Task) =>
        (task.index, task.uri)).any (fun entry => entry.1 = task.index) = true :=
      List.any_eq_true.2 ⟨_, List.mem_map_of_mem member, decide_eq_true rfl⟩
    exact (Table.contains_ofList _ _).trans listed
  · rw [indices_start]
    exact List.nodup_range

theorem due_start : (start host uris behave).due = uris.map (⟨·, true⟩) := by
  have begins : ∀ task ∈ (start host uris behave).tasks,
      task.fetch? = some ⟨task.uri, true⟩ := by
    intro task member
    obtain ⟨_, _, unbegun, uncancelled⟩ := mem_start host uris behave member
    rw [Task.fetch?, unbegun, uncancelled]
    rfl
  calc (start host uris behave).due
    _ = (start host uris behave).tasks.filterMap Task.fetch? := rfl
    _ = (start host uris behave).tasks.map fun task => ⟨task.uri, true⟩ := by
      rw [List.filterMap_congr begins, List.filterMap_eq_map']
    _ = ((start host uris behave).tasks.map (·.uri)).map (⟨·, true⟩) := by
      rw [List.map_map]
      rfl
    _ = uris.map (⟨·, true⟩) := by rw [uris_start]

theorem left_start (now : Nat) :
    ((start host uris behave).left now).map (·.uri) =
      uris.filter fun uri => !(behave uri).endsBy now := by
  have same : ∀ task ∈ (start host uris behave).tasks,
      (!task.behaviour.endsBy now) = !(behave task.uri).endsBy now := by
    intro task member
    rw [(mem_start host uris behave member).2.1]
  rw [left, List.filter_congr same, List.map_map]
  conv_rhs => rw [← uris_start host uris behave]
  rw [List.filter_map]
  rfl

theorem forall_start (Holds : Behaviour → Prop) (all : ∀ uri ∈ uris, Holds (behave uri)) :
    ∀ task ∈ (start host uris behave).tasks, Holds task.behaviour := by
  intro task member
  obtain ⟨listed, behaves, _⟩ := mem_start host uris behave member
  rw [behaves]
  exact all task.uri listed

theorem exists_start (Holds : Behaviour → Prop) (some : ∃ uri ∈ uris, Holds (behave uri)) :
    ∃ task ∈ (start host uris behave).tasks, Holds task.behaviour := by
  obtain ⟨uri, listed, holds⟩ := some
  rw [← uris_start host uris behave] at listed
  obtain ⟨task, member, rfl⟩ := List.mem_map.1 listed
  refine ⟨task, member, ?_⟩
  rw [(mem_start host uris behave member).2.1]
  exact holds

end Start

end Race

theorem Race.getElem?_start (host : String) (uris : List String) (behave : String → Behaviour)
    (place : Nat) : (Race.start host uris behave).tasks[place]? =
      uris[place]?.map fun uri => ⟨place, uri, behave uri, false, false⟩ :=
  List.getElem?_mapIdx

private theorem FirstSuccess.leads {behave : String → Behaviour} {uris : List String} {place : Nat}
    {uri : String} {delay : Nat} {answer : Capabilities}
    (first : FirstSuccess behave uris place uri delay answer) (host : String) :
    Race.Leads (Race.start host uris behave).tasks uri delay answer := by
  let tasks := (Race.start host uris behave).tasks
  have placed : ∀ (other : Nat) task, tasks[other]? = some task →
      uris[other]? = some task.uri ∧ task.behaviour = behave task.uri := by
    intro other task stands
    rw [Race.getElem?_start, Option.map_eq_some_iff] at stands
    obtain ⟨rival, listed, rfl⟩ := stands
    exact ⟨listed, rfl⟩
  have leader : tasks[place]? = some ⟨place, uri, behave uri, false, false⟩ := by
    rw [Race.getElem?_start, first.listed]
    rfl
  obtain ⟨bound, stands⟩ := List.getElem?_eq_some_iff.1 leader
  constructor
  · refine ⟨tasks.take place, ⟨place, uri, behave uri, false, false⟩, tasks.drop (place + 1), ?_, rfl, first.succeeds, ?_⟩
    · rw [← stands, ← List.drop_eq_getElem_cons bound, List.take_append_drop]
    · intro other member later told stated
      obtain ⟨ahead, within, here⟩ := List.mem_take_iff_getElem.1 member
      obtain ⟨listed, behaves⟩ := placed ahead other (List.getElem?_eq_some_iff.2 ⟨_, here⟩)
      have order := first.first ahead other.uri later told listed (behaves ▸ stated)
      exact order.resolve_right fun ⟨_, behind⟩ => by omega
  · intro other member later told stated
    obtain ⟨elsewhere, here⟩ := List.getElem?_of_mem member
    obtain ⟨listed, behaves⟩ := placed elsewhere other here
    rcases first.first elsewhere other.uri later told listed (behaves ▸ stated) with early | ⟨same, _⟩
    · exact Nat.le_of_lt early
    · exact Nat.le_of_eq same

def watched (race : Race) (moment : Nat) : List Nat :=
  race.instants.filter (· < moment + 1)

private theorem mem_watched {race : Race} {moment now : Nat} (member : now ∈ race.instants)
    (early : now ≤ moment) : now ∈ watched race moment :=
  List.mem_filter.2 ⟨member, decide_eq_true (Nat.lt_succ_of_le early)⟩

private theorem le_of_mem_watched {race : Race} {moment now : Nat}
    (member : now ∈ watched race moment) : now ≤ moment :=
  Nat.le_of_lt_succ (of_decide_eq_true (List.mem_filter.1 member).2)

private theorem rising_watched (race : Race) (moment : Nat) : (watched race moment).Pairwise
    (· ≤ ·) :=
  race.rising_instants.filter _

section Seen
variable (host : String) (uris : List String) (behave : String → Behaviour) (moment : Nat)

def seen : Probe :=
  let race := Race.start host uris behave
  ofRace (moment + 1) (race.follow (watched race moment))

variable {uris behave moment}

theorem seen_of_first {place : Nat} {uri : String} {delay : Nat} {answer : Capabilities}
    (first : FirstSuccess behave uris place uri delay answer) (early : delay ≤ moment) :
    seen host uris behave moment =
      { fetches := uris.map (⟨·, true⟩)
        outcome := some (.found (resolved host uri answer) answer.isSupported)
        elapsed := delay
        dropped := uris.filter fun other => !(behave other).endsBy delay
        abandoned := [] } := by
  have leads := first.leads host
  obtain ⟨ahead, leader, behind, tasks, _, stated, _⟩ := leads.split
  have held : leader ∈ (Race.start host uris behave).tasks := by rw [tasks]; simp
  have ends : leader.behaviour.endsAfter? = some delay := by rw [stated]; rfl
  obtain ⟨flying, followed⟩ := (Race.waiting_start host uris behave).follow_of_leads leads
    (rising_watched _ moment) (mem_watched (Race.mem_instants held ends) early)
  rw [seen, followed, Race.due_start, Race.left_start]
  rfl

private theorem seen_of_silence (fails : ∀ uri ∈ uris, (behave uri).answer? = none)
    (ends : ∀ uri ∈ uris, (behave uri).endsAfter? ≠ none) (past : lastEnd behave uris ≤ moment) :
    seen host uris behave moment =
      { fetches := uris.map (⟨·, true⟩)
        outcome := some .notFound
        elapsed := lastEnd behave uris
        dropped := []
        abandoned := [] } := by
  have ended := (lastEnd_le_iff ends (lastEnd behave uris)).1 (Nat.le_refl _)
  have member : lastEnd behave uris ∈ (Race.start host uris behave).instants := by
    rcases lastEnd_eq behave uris with none | ⟨uri, listed, last⟩
    · rw [none]
      exact Race.zero_mem_instants _
    · obtain ⟨task, held, last⟩ := Race.exists_start host uris behave
        (·.endsAfter? = some (lastEnd behave uris)) ⟨uri, listed, last⟩
      exact Race.mem_instants held last
  have opened : ∀ now ∈ watched (Race.start host uris behave) moment, now < lastEnd behave uris →
      ∃ task ∈ (Race.start host uris behave).tasks, task.behaviour.endsBy now = false := by
    intro now _ before
    exact Race.exists_start host uris behave (·.endsBy now = false)
      (exists_open_of_lt ends before)
  obtain ⟨flying, followed⟩ := (Race.waiting_start host uris behave).follow_of_silence
    (Race.forall_start host uris behave (·.answer? = none) fails)
    (Race.forall_start host uris behave (·.endsBy (lastEnd behave uris) = true) ended)
    (rising_watched _ moment) (mem_watched member past) opened
  rw [seen, followed, Race.waited, Race.due_start]
  rfl

private theorem seen_of_pending
    (late : ∀ uri ∈ uris, ∀ delay answer, behave uri = .answers delay (some answer) →
      moment < delay) (opened : ∃ uri ∈ uris, (behave uri).endsBy moment = false) :
    (seen host uris behave moment).fetches = uris.map (⟨·, true⟩) ∧
      (seen host uris behave moment).outcome = none := by
  have start : 0 ∈ watched (Race.start host uris behave) moment :=
    mem_watched (Race.zero_mem_instants _) (Nat.zero_le moment)
  obtain ⟨now, later, watches⟩ := List.exists_cons_of_ne_nil (List.ne_nil_of_mem start)
  have rising := rising_watched (Race.start host uris behave) moment
  have within : ∀ instant ∈ watched (Race.start host uris behave) moment, instant ≤ moment :=
    fun instant => le_of_mem_watched
  rw [watches] at rising within
  obtain ⟨flying, last, _, followed⟩ := (Race.waiting_start host uris behave).follow_of_pending
    rising within
    (Race.forall_start host uris behave
      (fun behaviour => ∀ delay answer, behaviour = .answers delay (some answer) → moment < delay)
      late)
    (Race.exists_start host uris behave (·.endsBy moment = false) opened)
  rw [seen, watches, followed, Race.waited, Race.due_start]
  exact ⟨rfl, rfl⟩

private theorem FirstSuccess.pending {place : Nat} {uri : String} {delay : Nat}
    {answer : Capabilities}
    (first : FirstSuccess behave uris place uri delay answer) (late : moment < delay) :
    (∀ uri ∈ uris, ∀ later told, behave uri = .answers later (some told) → moment < later) ∧
      ∃ uri ∈ uris, (behave uri).endsBy moment = false := by
  constructor
  · intro rival listed later told stated
    obtain ⟨other, stands⟩ := List.getElem?_of_mem listed
    rcases first.first other rival later told stands stated with after | ⟨same, _⟩
    · exact Nat.lt_trans late after
    · exact same ▸ late
  · refine ⟨uri, List.mem_of_getElem? first.listed, ?_⟩
    rw [first.succeeds]
    exact decide_eq_false (Nat.not_le.2 late)

/-- By a moment a first success has been there, or all queries have ended without one, or a query is
open and nothing has succeeded. -/
theorem first_or_silence_or_pending (behave : String → Behaviour) (uris : List String)
    (moment : Nat) :
    (∃ place uri delay answer, FirstSuccess behave uris place uri delay answer ∧ delay ≤ moment) ∨
      ((∀ uri ∈ uris, (behave uri).answer? = none) ∧
        (∀ uri ∈ uris, (behave uri).endsAfter? ≠ none) ∧ lastEnd behave uris ≤ moment) ∨
      (∀ uri ∈ uris, ∀ delay answer, behave uri = .answers delay (some answer) → moment < delay) ∧
        ∃ uri ∈ uris, (behave uri).endsBy moment = false := by
  by_cases succeeds : ∃ uri ∈ uris, (behave uri).answer? ≠ none
  · obtain ⟨place, uri, delay, answer, first⟩ := exists_firstSuccess succeeds
    rcases Nat.lt_or_ge moment delay with late | early
    · exact Or.inr (Or.inr (first.pending late))
    · exact Or.inl ⟨place, uri, delay, answer, first, early⟩
  · have fails : ∀ uri ∈ uris, (behave uri).answer? = none := by
      intro uri listed
      by_contra brings
      exact succeeds ⟨uri, listed, brings⟩
    by_cases opened : ∃ uri ∈ uris, (behave uri).endsBy moment = false
    · refine Or.inr (Or.inr ⟨?_, opened⟩)
      intro uri listed later told stated
      exact Behaviour.late_of_fails (fails uri listed) stated
    · have ended : ∀ uri ∈ uris, (behave uri).endsBy moment = true := by
        intro uri listed
        rw [← Bool.not_eq_false]
        exact fun stays => opened ⟨uri, listed, stays⟩
      have ends : ∀ uri ∈ uris, (behave uri).endsAfter? ≠ none := by
        intro uri listed never
        have past := ended uri listed
        rw [Behaviour.endsBy, never] at past
        cases past
      exact Or.inr (Or.inl ⟨fails, ends, (lastEnd_le_iff ends moment).2 ended⟩)

/-- Whatever printer is seen has answered at one of the candidates. -/
theorem outcome_seen {found : Printer} {supported : Bool}
    (ended : (seen host uris behave moment).outcome = some (.found found supported)) :
    ∃ uri ∈ uris, ∃ delay answer, behave uri = .answers delay (some answer) ∧
      found = resolved host uri answer ∧ supported = answer.isSupported := by
  obtain ⟨place, uri, delay, answer, first, early⟩ | ⟨fails, ends, past⟩ | ⟨late, opened⟩ :=
    first_or_silence_or_pending behave uris moment
  · rw [seen_of_first host first early] at ended
    cases ended
    exact ⟨uri, List.mem_of_getElem? first.listed, delay, answer, first.succeeds, rfl, rfl⟩
  · rw [seen_of_silence host fails ends past] at ended
    cases ended
  · rw [(seen_of_pending host late opened).2] at ended
    cases ended

end Seen

theorem run_eq (templates : List EndpointTemplate) (behave : String → Behaviour)
    {hostname : String} (named : Text.trimmed hostname ≠ "") (moment : Nat) :
    Probe.run templates behave (moment + 1) hostname =
      .ok (seen (Text.trimmed hostname)
        (EndpointTemplate.candidates templates (Text.trimmed hostname)) behave moment) := by
  have accepted : hostname? hostname = .ok (Text.trimmed hostname) := by
    unfold hostname?
    exact if_neg (mt String.isEmpty_iff.1 named)
  rw [Probe.run, accepted]
  rfl

end Probe

end PrinterRoster
