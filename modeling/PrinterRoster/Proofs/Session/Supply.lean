import PrinterRoster.Proofs.Cache.Fetches
import PrinterRoster.Proofs.Session.Dialogue
import PrinterRoster.Proofs.Session.Heritage

/-! A session and the fetches that supply it with capabilities. The session tells of queries, whose
fetches begin some time later; they share the cache with those of others, and their answers wait
until the session handles them. So what is in a record, in the cache or waiting was there before a
move, or a query that ended has brought it. -/
namespace PrinterRoster.Session

structure Request where
  id : PrinterId
  path : String
  bypass : Bool
deriving DecidableEq

def requests (effects : List Effect) : List Request :=
  effects.filterMap fun
    | .query id printer bypass => some ⟨id, printer.path, bypass⟩
    | _ => none

/-- A session, a cache and the fetches over that, those of others included. -/
structure Supply where
  session : Session
  fetches : Fetches
  wanted : List Request
  awaited : List (PrinterId × OpenQuery)
  due : List (PrinterId × Option Capabilities)

namespace Supply

inductive Move
  | told (now : Nat) (command : Command)
  | asks (request : Request)
  | fetches (step : Fetches.Step)
  | heard (now : Nat) (id : PrinterId) (answer : Option Capabilities)

def start (window : Nat) (known : KnownGood) (others : List Fetches.Step) : Supply :=
  ⟨fresh window known, stateAfter Fetches.perform .idle others, [], [], []⟩

def moment (supply : Supply) (now : Nat) : Moment :=
  ⟨now, fun printer => supply.fetches.cache.cached printer.path⟩

def handled (supply : Supply) (now : Nat) (command : Command) : Supply :=
  let outcome := supply.session.handle (supply.moment now) command
  { supply with
    session := outcome.1
    fetches := stateAfter Fetches.perform supply.fetches ((forgotten outcome.2).map .removes)
    wanted := supply.wanted ++ requests outcome.2 }

def ask (supply : Supply) (request : Request) : Supply :=
  let supply := { supply with wanted := supply.wanted.erase request }
  let fetches := supply.fetches.begin request.path request.bypass
  match supply.fetches.cache.lookup request.path request.bypass with
  | some answer => { supply with fetches, due := supply.due ++ [(request.id, some answer)] }
  | none =>
    { supply with
      fetches, awaited := supply.awaited ++ [(request.id, ⟨supply.fetches.begun, request.path⟩)] }

def answers (supply : Supply) : Fetches.Step → List (PrinterId × Option Capabilities)
  | .ends query answer =>
    if query ∈ supply.fetches.queries then
      (supply.awaited.filter (·.2 = query)).map fun awaited => (awaited.1, answer)
    else []
  | _ => []

/-- The command that a move hands to the session, with its time. Only an answer that waits is
handled. -/
def command? (supply : Supply) : Move → Option (Nat × Command)
  | .told now command => if command.isAnswer then none else some (now, command)
  | .heard now id answer =>
    if (id, answer) ∈ supply.due then some (now, .answered id answer) else none
  | _ => none

private theorem command?_eq_some {supply : Supply} {move : Move} {now : Nat} {command : Command}
    (hands : supply.command? move = some (now, command)) : move = .told now command ∨
      ∃ id answer, command = .answered id answer ∧ (id, answer) ∈ supply.due := by
  cases move with
  | told time given =>
    dsimp only [command?] at hands
    split at hands
    · cases hands
    · cases hands
      exact Or.inl rfl
  | asks request => cases hands
  | fetches step => cases hands
  | heard time id answer =>
    dsimp only [command?] at hands
    split at hands
    · rename_i waits
      cases hands
      exact Or.inr ⟨id, answer, rfl, waits⟩
    · cases hands

def events (supply : Supply) (move : Move) : List RosterEvent :=
  match supply.command? move with
  | some (now, command) => published (supply.session.handle (supply.moment now) command).2
  | none => []

def move (supply : Supply) : Move → Supply
  | .told now command => if command.isAnswer then supply else supply.handled now command
  | .asks request => if request ∈ supply.wanted then supply.ask request else supply
  | .fetches step =>
    { supply with
      fetches := supply.fetches.perform step, due := supply.due ++ supply.answers step }
  | .heard now id answer =>
    if (id, answer) ∈ supply.due then
      { supply.handled now (.answered id answer) with due := supply.due.erase (id, answer) }
    else supply

theorem session_move (supply : Supply) (move : Move) :
    (supply.move move).session =
      match supply.command? move with
      | some (now, command) => (supply.session.handle (supply.moment now) command).1
      | none => supply.session := by
  cases move with
  | told now command =>
    dsimp only [Supply.move, command?]
    split <;> rfl
  | asks request =>
    dsimp only [Supply.move, command?]
    split
    · dsimp only [ask]
      split <;> rfl
    · rfl
  | fetches step => rfl
  | heard now id answer =>
    dsimp only [Supply.move, command?]
    split <;> rfl

theorem owned_move {supply : Supply} (owned : supply.session.Owned) (move : Move) :
    (supply.move move).session.Owned := by
  rw [session_move]
  split
  · exact owned_handle owned _ _
  · exact owned

theorem owned_run {supply : Supply} (owned : supply.session.Owned) (moves : List Move) :
    (stateAfter move supply moves).session.Owned :=
  holds_stateAfter (fun supply : Supply => supply.session.Owned) owned
    fun _ owned move _ => owned_move owned move

theorem destroyed_run {supply : Supply} (ended : supply.session.destroyed = true)
    (moves : List Move) : (stateAfter move supply moves).session.destroyed = true := by
  refine holds_stateAfter (fun supply : Supply => supply.session.destroyed = true) ended
    fun _ ended move _ => ?_
  rw [session_move]
  split
  · exact destroyed_handle ended _ _
  · exact ended

structure Addressed (supply : Supply) (id : PrinterId) : Prop where
  placed : supply.session.Placed id
  wanted : ∀ request ∈ supply.wanted, request.id = id → request.path = id.text
  awaited : ∀ entry ∈ supply.awaited, entry.1 = id → entry.2.path = id.text

/-- Whether a move reports a printer with the given id at another path. -/
def Move.Misplaces (move : Move) (id : PrinterId) : Prop :=
  ∃ now printer, move = .told now (.found printer) ∧ printer.id = id ∧ printer.path ≠ id.text

section Step
variable {supply : Supply} {id : PrinterId}

private theorem Addressed.handled (owned : supply.session.Owned) (addressed : supply.Addressed id)
    (now : Nat) {command : Command}
    (placed : ∀ printer, command = .found printer → printer.id = id → printer.path = id.text) :
    (supply.handled now command).Addressed id := by
  have placedAfter := placed_handle owned addressed.placed (supply.moment now) placed
  refine ⟨placedAfter, ?_, addressed.awaited⟩
  intro request member named
  rcases List.mem_append.1 member with old | new
  · exact addressed.wanted request old named
  · obtain ⟨effect, queries, same⟩ := List.mem_filterMap.1 new
    cases effect with
    | query other printer bypass =>
      cases same
      obtain ⟨record, held, at_printer⟩ := queried_handle owned queries
      subst named
      exact at_printer ▸ placedAfter record held
    | _ => cases same

private theorem Addressed.ask (addressed : supply.Addressed id) {request : Request}
    (wants : request ∈ supply.wanted) : (supply.ask request).Addressed id := by
  have wanted : ∀ other ∈ supply.wanted.erase request, other.id = id → other.path = id.text :=
    fun other member => addressed.wanted other (List.mem_of_mem_erase member)
  dsimp only [Supply.ask]
  split
  · exact ⟨addressed.placed, wanted, addressed.awaited⟩
  · refine ⟨addressed.placed, wanted, ?_⟩
    intro entry member named
    rcases List.mem_append.1 member with old | new
    · exact addressed.awaited entry old named
    · cases List.mem_singleton.1 new
      exact addressed.wanted request wants named

theorem Addressed.move (owned : supply.session.Owned) (addressed : supply.Addressed id)
    {move : Move} (placed : ¬ move.Misplaces id) : (supply.move move).Addressed id := by
  cases move with
  | told now command =>
    dsimp only [Supply.move]
    split
    · exact addressed
    · refine addressed.handled owned now ?_
      rintro printer rfl named
      by_contra elsewhere
      exact placed ⟨now, printer, rfl, named, elsewhere⟩
  | asks request =>
    dsimp only [Supply.move]
    split
    · rename_i wants
      exact addressed.ask wants
    · exact addressed
  | fetches step => exact ⟨addressed.placed, addressed.wanted, addressed.awaited⟩
  | heard now other answer =>
    dsimp only [Supply.move]
    split
    · have handled : (supply.handled now (.answered other answer)).Addressed id :=
        addressed.handled owned now nofun
      exact ⟨handled.placed, handled.wanted, handled.awaited⟩
    · exact addressed

end Step

theorem addressed_run {supply : Supply} (owned : supply.session.Owned) {id : PrinterId}
    (addressed : supply.Addressed id) {moves : List Move}
    (placed : ∀ move ∈ moves, ¬ move.Misplaces id) : (stateAfter move supply moves).Addressed id :=
  (holds_stateAfter (fun supply : Supply => supply.session.Owned ∧ supply.Addressed id)
    ⟨owned, addressed⟩ fun _ held move member =>
      ⟨owned_move held.1 move, held.2.move held.1 (placed move member)⟩).2

/-- A query of a path is answered with capabilities in a move, where its fetch and the
capabilities are some of those that count. -/
def Answered (path : String) (counts : Nat → Capabilities → Prop) (supply : Supply) (move : Move) :
    Prop :=
  ∃ step, move = .fetches step ∧ Fetches.Answers path counts supply.fetches step

section Provenance
variable {supply : Supply} {id : PrinterId} {answer : Capabilities}

/-- Handling a command brings nothing into the cache. -/
theorem cached_handled {now : Nat} {command : Command} {path : String}
    (cached : (supply.handled now command).fetches.cache.cached path = some answer) :
    supply.fetches.cache.cached path = some answer := by
  rw [handled, Fetches.cached_removes] at cached
  split at cached
  · cases cached
  · exact cached

theorem cached_move {move : Move} {path : String}
    (cached : (supply.move move).fetches.cache.cached path = some answer) :
    supply.fetches.cache.cached path = some answer ∨
      Answered path (fun _ given => given = answer) supply move := by
  cases move with
  | told now command =>
    dsimp only [Supply.move] at cached
    split at cached
    · exact Or.inl cached
    · exact Or.inl (cached_handled cached)
  | asks request =>
    have same : ((supply.ask request).fetches.cache) = supply.fetches.cache := by
      dsimp only [ask]
      split <;> rfl
    dsimp only [Supply.move] at cached
    split at cached
    · exact Or.inl (same ▸ cached)
    · exact Or.inl cached
  | fetches step =>
    exact (Fetches.cached_perform cached).imp_right fun answers => ⟨step, rfl, answers⟩
  | heard now other given =>
    dsimp only [Supply.move] at cached
    split at cached
    · exact Or.inl (cached_handled cached)
    · exact Or.inl cached

/-- An answer that waits after a move waited before it, was kept in the cache or answers a query
that ends. -/
theorem due_move (addressed : supply.Addressed id) {move : Move}
    (due : (id, some answer) ∈ (supply.move move).due) :
    (id, some answer) ∈ supply.due ∨ supply.fetches.cache.cached id.text = some answer ∨
      Answered id.text (fun _ given => given = answer) supply move := by
  cases move with
  | told now command =>
    dsimp only [Supply.move] at due
    split at due
    · exact Or.inl due
    · exact Or.inl due
  | asks request =>
    dsimp only [Supply.move] at due
    split at due
    · rename_i wants
      dsimp only [ask] at due
      split at due
      · rename_i kept found
        rcases List.mem_append.1 due with old | new
        · exact Or.inl old
        · cases List.mem_singleton.1 new
          -- The kept answer was looked up at the path of the request, which is the id.
          rw [addressed.wanted request wants rfl, CapabilityCache.lookup] at found
          split at found
          · cases found
          · exact Or.inr (Or.inl found)
      · exact Or.inl due
    · exact Or.inl due
  | fetches step =>
    rcases List.mem_append.1 due with old | new
    · exact Or.inl old
    · unfold answers at new
      split at new
      · rename_i query given
        split at new
        · rename_i isOpen
          obtain ⟨entry, member, same⟩ := List.mem_map.1 new
          obtain ⟨awaited, ends⟩ := List.mem_filter.1 member
          cases same
          have at_path := addressed.awaited entry awaited rfl
          rw [of_decide_eq_true ends] at at_path
          exact Or.inr (Or.inr ⟨_, rfl, query, isOpen, at_path, answer, rfl, rfl⟩)
        · cases new
      · cases new
  | heard now other given =>
    dsimp only [Supply.move] at due
    split at due
    · exact Or.inl (List.mem_of_mem_erase due)
    · exact Or.inl due

/-- The capabilities in a record after a move were in it before, in the cache, or waited. -/
theorem record_move (owned : supply.session.Owned) {move : Move} (placed : ¬ move.Misplaces id)
    {record : Record} (held : (supply.move move).session.records.get? id = some record)
    (told : record.capabilities = some answer) :
    (∃ old, supply.session.records.get? id = some old ∧ old.capabilities = some answer) ∨
      supply.fetches.cache.cached id.text = some answer ∨ (id, some answer) ∈ supply.due := by
  rw [session_move] at held
  split at held
  · rename_i now command hands
    rcases (heritage_handle owned _ command held).capabilities_cases told with
      old | ⟨printer, rfl, named, cached⟩ | rfl
    · exact Or.inl old
    · rcases command?_eq_some hands with rfl | ⟨_, _, differs, _⟩
      · have at_path : printer.path = id.text := by
          by_contra elsewhere
          exact placed ⟨now, printer, rfl, named, elsewhere⟩
        exact Or.inr (Or.inl (at_path ▸ cached))
      · cases differs
    · rcases command?_eq_some hands with rfl | ⟨_, _, same, waits⟩
      · cases hands
      · cases same
        exact Or.inr (Or.inr waits)
  · exact Or.inl ⟨record, held, told⟩

end Provenance

end Supply
end PrinterRoster.Session
