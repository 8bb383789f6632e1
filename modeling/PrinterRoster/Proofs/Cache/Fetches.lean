import PrinterRoster.CapabilityCache
import PrinterRoster.Proofs.Course

/-! Fetches that share a cache. A fetch begins by looking for a kept answer and ends by
storing what came of its query; in between other fetches begin and end, and paths are
removed. What is removed stays away until a later fetch is answered, except for the answer
to a query that was under way at the removal: it is stored all the same. -/
namespace PrinterRoster

/-- A query of a path, by the fetch with the given number in the count of fetches. -/
structure OpenQuery where
  number : Nat
  path : String
deriving DecidableEq

structure Fetches where
  cache : CapabilityCache
  begun : Nat
  queries : List OpenQuery

namespace Fetches

def idle : Fetches := ⟨.empty, 0, []⟩

inductive Step
  | begins (path : String) (bypass : Bool)
  | ends (query : OpenQuery) (answer : Option Capabilities)
  | drops (query : OpenQuery)
  | removes (path : String)

def without (fetches : Fetches) (query : OpenQuery) : Fetches :=
  { fetches with queries := fetches.queries.erase query }

def begin (fetches : Fetches) (path : String) (bypass : Bool) : Fetches :=
  { fetches with
    begun := fetches.begun + 1
    queries :=
      if (fetches.cache.lookup path bypass).isSome then fetches.queries
      else fetches.queries ++ [⟨fetches.begun, path⟩] }

def perform (fetches : Fetches) : Step → Fetches
  | .begins path bypass => fetches.begin path bypass
  | .ends query answer =>
    if query ∈ fetches.queries then
      { fetches.without query with cache := fetches.cache.store query.path answer }
    else fetches
  | .drops query => fetches.without query
  | .removes path => { fetches with cache := fetches.cache.remove path }

theorem cached_removes (fetches : Fetches) (paths : List String) (path : String) :
    (stateAfter perform fetches (paths.map .removes)).cache.cached path =
      if path ∈ paths then none else fetches.cache.cached path := by
  induction paths generalizing fetches with
  | nil => simp
  | cons first others ih =>
    have next : stateAfter perform fetches ((first :: others).map .removes) =
        stateAfter perform (fetches.perform (.removes first)) (others.map .removes) := rfl
    rw [next, ih]
    simp only [perform, CapabilityCache.cached_remove, List.mem_cons]
    by_cases removed : path = first <;> simp [removed]

/-- A query of a path is answered with capabilities, where its fetch and the capabilities
are some of those that count. -/
def Answers (path : String) (counts : Nat → Capabilities → Prop) (fetches : Fetches)
    (step : Step) : Prop :=
  ∃ query ∈ fetches.queries, query.path = path ∧
    ∃ answer, step = .ends query (some answer) ∧ counts query.number answer

/-- What is cached after a step was cached before it or answers a query that ends. -/
theorem cached_perform {fetches : Fetches} {step : Step} {path : String} {kept : Capabilities}
    (cached : (fetches.perform step).cache.cached path = some kept) :
    fetches.cache.cached path = some kept ∨
      Answers path (fun _ answer => answer = kept) fetches step := by
  cases step with
  | begins other bypass => exact Or.inl cached
  | ends query answer =>
    by_cases isOpen : query ∈ fetches.queries
    · simp only [perform, if_pos isOpen, CapabilityCache.cached_store] at cached
      split at cached
      · rename_i same
        subst cached
        exact Or.inr ⟨query, isOpen, same.symm, kept, rfl, rfl⟩
      · exact Or.inl cached
    · simp only [perform, if_neg isOpen] at cached
      exact Or.inl cached
  | drops query => exact Or.inl cached
  | removes other =>
    simp only [perform, CapabilityCache.cached_remove] at cached
    split at cached
    · cases cached
    · exact Or.inl cached

/-- What is cached after a run was cached before it or has answered a query since. -/
theorem cached_run {fetches : Fetches} {path : String} {kept : Capabilities} (steps : List Step)
    (cached : (stateAfter perform fetches steps).cache.cached path = some kept) :
    fetches.cache.cached path = some kept ∨
      Happens perform fetches steps (Answers path fun _ answer => answer = kept) := by
  induction steps using List.reverseRecOn with
  | nil => exact Or.inl cached
  | append_singleton steps last ih =>
    rw [stateAfter_snoc] at cached
    rcases cached_perform cached with before | answers
    · exact (ih before).imp_right fun happens => happens.append [last]
    · exact Or.inr (.last steps answers)

private theorem cached_of_answers {fetches : Fetches} {step : Step} {path : String}
    {counts : Nat → Capabilities → Prop} (answers : Answers path counts fetches step) :
    (fetches.perform step).cache.cached path ≠ none := by
  obtain ⟨query, isOpen, rfl, answer, rfl, _⟩ := answers
  simp [perform, isOpen, CapabilityCache.cached_store]

/-- The queries under way were under way before a step or belong to the fetch that begins. -/
theorem queries_perform {fetches : Fetches} {step : Step} {query : OpenQuery}
    (isOpen : query ∈ (fetches.perform step).queries) :
    query ∈ fetches.queries ∨ query.number = fetches.begun := by
  cases step with
  | begins path bypass =>
    dsimp only [perform, begin] at isOpen
    split at isOpen
    · exact Or.inl isOpen
    · refine (List.mem_append.1 isOpen).imp_right fun new => ?_
      rw [List.mem_singleton.1 new]
  | ends other answer =>
    dsimp only [perform] at isOpen
    split at isOpen
    · exact Or.inl (List.mem_of_mem_erase isOpen)
    · exact Or.inl isOpen
  | drops other => exact Or.inl (List.mem_of_mem_erase isOpen)
  | removes path => exact Or.inl isOpen

theorem begun_perform (fetches : Fetches) (step : Step) :
    fetches.begun ≤ (fetches.perform step).begun := by
  cases step with
  | begins path bypass => exact Nat.le_succ _
  | ends query answer =>
    dsimp only [perform]
    split <;> exact Nat.le_refl _
  | drops query => exact Nat.le_refl _
  | removes path => exact Nat.le_refl _

theorem begun_run (fetches : Fetches) (steps : List Step) :
    fetches.begun ≤ (stateAfter perform fetches steps).begun :=
  holds_stateAfter (fun state : Fetches => fetches.begun ≤ state.begun) (Nat.le_refl _)
    fun state before step _ => Nat.le_trans before (begun_perform state step)

/-- A query of an earlier fetch that is under way after a run was under way before it. -/
theorem queries_run {fetches : Fetches} {query : OpenQuery} (steps : List Step)
    (isOpen : query ∈ (stateAfter perform fetches steps).queries)
    (earlier : query.number < fetches.begun) :
    query ∈ fetches.queries := by
  induction steps using List.reverseRecOn with
  | nil => exact isOpen
  | append_singleton steps last ih =>
    rw [stateAfter_snoc] at isOpen
    rcases queries_perform isOpen with before | new
    · exact ih before
    · have := begun_run fetches steps
      omega

/-- The fetches are numbered as they begin. -/
theorem number_lt_begun (steps : List Step) :
    ∀ query ∈ (stateAfter perform idle steps).queries,
      query.number < (stateAfter perform idle steps).begun := by
  induction steps using List.reverseRecOn with
  | nil => simp [idle]
  | append_singleton steps last ih =>
    rw [stateAfter_snoc]
    intro query isOpen
    cases last with
    | begins path bypass =>
      rcases queries_perform isOpen with before | new
      · exact Nat.lt_succ_of_lt (ih query before)
      · exact Nat.lt_succ_of_le (Nat.le_of_eq new)
    | ends other answer =>
      dsimp only [perform] at isOpen ⊢
      split at isOpen
      · rename_i ended
        rw [if_pos ended]
        exact ih query (List.mem_of_mem_erase isOpen)
      · rename_i unknown
        rw [if_neg unknown]
        exact ih query isOpen
    | drops other => exact ih query (List.mem_of_mem_erase isOpen)
    | removes path => exact ih query isOpen

/-- A fetch that nothing comes between is its beginning and the end of its query. -/
theorem fetch_eq (before : List Step) (query : String → Option Capabilities) (path : String)
    (bypass : Bool) :
    let fetches := stateAfter perform idle before
    (stateAfter perform fetches
        [.begins path bypass, .ends ⟨fetches.begun, path⟩ (query path)]).cache =
      (fetches.cache.fetch query path bypass).1 := by
  intro fetches
  cases found : fetches.cache.lookup path bypass with
  | none => simp [perform, begin, CapabilityCache.fetch, found]
  | some answer =>
    have unknown : (⟨fetches.begun, path⟩ : OpenQuery) ∉ fetches.queries :=
      fun isOpen => Nat.lt_irrefl _ (number_lt_begun before _ isOpen)
    simp [perform, begin, CapabilityCache.fetch, found, unknown]

/-- From the given state on, nothing is cached of a path until a fetch begun in that state or
later has answered with capabilities. -/
def StaysAway (fetches : Fetches) (path : String) (steps : List Step) : Prop :=
  ∀ part, part <+: steps → (stateAfter perform fetches part).cache.cached path ≠ none →
    Happens perform fetches part (Answers path fun number _ => fetches.begun ≤ number)

/-- A path that is not cached stays away exactly if no answer of an earlier fetch comes before
one of a later fetch. -/
theorem staysAway_iff {fetches : Fetches} {path : String}
    (absent : fetches.cache.cached path = none) (steps : List Step) :
    fetches.StaysAway path steps ↔
      ∀ first late rest, steps = first ++ late :: rest →
        Answers path (fun number _ => number < fetches.begun) (stateAfter perform fetches first) late →
        Happens perform fetches first (Answers path fun number _ => fetches.begun ≤ number) := by
  constructor
  · intro away first late rest same answers
    have cached := cached_of_answers answers
    rw [← stateAfter_snoc perform] at cached
    -- The late answer is kept, so a later fetch has been answered by then, and not in this step.
    have part : first ++ [late] <+: steps := ⟨rest, by simp [same]⟩
    rcases happens_snoc.1 (away _ part cached) with happens | ⟨query, _, _, _, ends, later⟩
    · exact happens
    · obtain ⟨other, _, _, _, also, earlier⟩ := answers
      rw [ends] at also
      cases also
      omega
  · rintro preceded part ⟨rest, rfl⟩ cached
    obtain ⟨kept, cached⟩ := Option.ne_none_iff_exists'.1 cached
    rcases cached_run part cached with before | ⟨first, late, others, rfl, answers⟩
    · cases absent.symm.trans before
    · obtain ⟨query, isOpen, at_path, answer, ends, _⟩ := answers
      by_cases later : fetches.begun ≤ query.number
      · exact ⟨first, late, others, rfl, query, isOpen, at_path, answer, ends, later⟩
      · have outdated := Nat.lt_of_not_le later
        have happens := preceded first late (others ++ rest) (by simp)
          ⟨query, isOpen, at_path, answer, ends, outdated⟩
        exact happens.append (late :: others)

def removed (before : List Step) (path : String) : Fetches :=
  (stateAfter perform idle before).perform (.removes path)

private theorem cached_removed (before : List Step) (path : String) :
    (removed before path).cache.cached path = none := by
  show ((stateAfter perform idle before).cache.remove path).cached path = none
  rw [CapabilityCache.cached_remove, if_pos rfl]

/-- After a removal a path stays away exactly if no query of it that was under way is
answered before one of a later fetch is. -/
theorem removed_staysAway_iff (before : List Step) (path : String) (after : List Step) :
    (removed before path).StaysAway path after ↔
      ∀ first late rest, after = first ++ late :: rest →
        Answers path (fun number _ => number < (removed before path).begun)
          (stateAfter perform (removed before path) first) late →
        Happens perform (removed before path) first
          (Answers path fun number _ => (removed before path).begun ≤ number) :=
  staysAway_iff (cached_removed before path) after

/-- What is removed while no query of it is under way stays away. -/
theorem staysAway_of_not_asked {before : List Step} {path : String}
    (unasked : ∀ query ∈ (stateAfter perform idle before).queries, query.path ≠ path)
    (after : List Step) :
    (removed before path).StaysAway path after := by
  rw [staysAway_iff (cached_removed before path)]
  rintro first late rest - ⟨query, isOpen, at_path, _, _, earlier⟩
  have wasOpen : query ∈ (removed before path).queries := queries_run first isOpen earlier
  exact absurd at_path (unasked query wasOpen)

/-- A query under way at a removal brings the path back. -/
theorem late_answer_is_kept :
    ¬ (removed [.begins "ipp://10.0.0.7/ipp/print" true] "ipp://10.0.0.7/ipp/print").StaysAway
      "ipp://10.0.0.7/ipp/print" [.ends ⟨0, "ipp://10.0.0.7/ipp/print"⟩ (some default)] := by
  rw [staysAway_iff (cached_removed ..)]
  intro preceded
  refine not_happens_nil (preceded [] _ [] rfl ?_)
  exact ⟨⟨0, "ipp://10.0.0.7/ipp/print"⟩, by decide, rfl, default, rfl, by decide⟩

end Fetches

end PrinterRoster
