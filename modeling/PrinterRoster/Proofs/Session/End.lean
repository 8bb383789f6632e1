import Mathlib.Data.List.TakeWhile
import PrinterRoster.Proofs.Course
import PrinterRoster.Session.Run
import PrinterRoster.Proofs.Session.Operations

/-! The end of a session that runs by itself. A run ends when it comes to a command to destroy the
session, or when nobody holds it and nothing is queued. All that was sent before is handled first,
then the known-good list is saved as it stands, once, and nothing that comes later counts. -/
namespace PrinterRoster.Session

def saved (effects : List Effect) : List KnownGood :=
  effects.filterMap fun
    | .save known => some known
    | _ => none

theorem saved_append (earlier later : List Effect) :
    saved (earlier ++ later) = saved earlier ++ saved later :=
  List.filterMap_append ..

private theorem saved_withdraw (session : Session) (record : Record) :
    saved (session.withdraw record).2 = [] := by
  unfold withdraw
  split <;> rfl

private theorem saved_evaluate (session : Session) (id : PrinterId) :
    saved (session.evaluate id).2 = [] := by
  unfold evaluate
  split
  · rfl
  · dsimp only
    split
    · exact saved_withdraw ..
    · split
      · exact saved_withdraw ..
      · rfl

private theorem saved_request (session : Session) (id : PrinterId) (bypassCache : Bool) :
    saved (session.request id bypassCache).2 = [] := by
  unfold request
  split
  · rfl
  · split <;> rfl

private theorem saved_monitor (session : Session) (now : Nat) : saved (session.monitor now).2 =
    [] := by
  unfold monitor
  split <;> rfl

private theorem saved_sweep (session : Session) (now : Nat) : saved (session.sweep now).2 = [] := by
  have rearmed : saved ((session.swept now).rearm now).2 = [] := by
    unfold rearm
    split
    · exact saved_monitor ..
    · rfl
  rw [sweep_eq, andThen, saved_append, rearmed]
  split <;> rfl

private theorem saved_stop (session : Session) : saved session.stop.2 = [] := by
  unfold stop
  dsimp only
  split <;> rfl

/-- Nothing is saved before the end. -/
theorem saved_handle (session : Session) (moment : Moment) {command : Command}
    (goesOn : command ≠ .destroy) : saved (session.handle moment command).2 = [] := by
  cases command with
  | start priority =>
    dsimp only [handle, start, andThen]
    rw [saved_append, saved_monitor]
    rfl
  | stop => exact saved_stop session
  | track id =>
    dsimp only [handle, track]
    split
    · exact saved_request ..
    · rfl
  | untrack id => rfl
  | found printer =>
    dsimp only [handle, found]
    split
    · rfl
    · split
      · dsimp only [andThen]
        rw [saved_append, saved_evaluate, saved_request]
        rfl
      · exact saved_evaluate ..
  | lost printer =>
    have silent : saved (if printer.id.isNetworkAddress then [.forget printer.uri] else []) = [] := by
      split <;> rfl
    dsimp only [handle, lost]
    split
    · rfl
    · split
      · exact silent
      · dsimp only [andThen]
        rw [saved_append, saved_append, silent, saved_evaluate, saved_monitor]
        rfl
  | answered id answer =>
    dsimp only [handle, answered]
    split
    · rfl
    · split
      · rfl
      · exact saved_evaluate ..
  | tick generation =>
    dsimp only [handle, tick]
    split
    · rfl
    · exact saved_sweep ..
  | destroy => exact absurd rfl goesOn

private theorem saved_handleAll (session : Session) {turns : List Turn}
    (goOn : ∀ turn ∈ turns, turn.command ≠ .destroy) : saved (session.handleAll turns).2 = [] :=
  holds_stateAfter (fun outcome : Outcome => saved outcome.2 = []) rfl
    fun outcome unsaved turn member => by
      rw [andThen, saved_append, saved_handle _ _ (goOn turn member), unsaved, List.append_nil]

private theorem destroyed_handleAll (session : Session) {turns : List Turn}
    (goOn : ∀ turn ∈ turns, turn.command ≠ .destroy) :
    (session.handleAll turns).1.destroyed = session.destroyed :=
  holds_stateAfter (fun outcome : Outcome => outcome.1.destroyed = session.destroyed) rfl
    fun _ same turn member => (handle_keeps _ turn.moment (goOn turn member)).2.trans same

/-- A session at its end stops the search and is saved as it stands. -/
theorem teardown_of_lives {session : Session} (lives : session.destroyed = false) :
    session.teardown.1 = { session with deadline := none, destroyed := true } ∧
      saved session.teardown.2 = [session.knownGood] ∧ published session.teardown.2 = [] := by
  unfold teardown stop
  rw [lives]
  refine ⟨rfl, ?_, ?_⟩ <;> cases session.deadline <;> rfl

def Command.comesLate : Command → Bool
  | .found _ | .lost _ | .answered .. | .tick _ => true
  | _ => false

structure Over (session : Session) : Prop where
  destroyed : session.destroyed = true
  untimed : session.deadline = none

theorem Over.handle {session : Session} (finished : session.Over) (moment : Moment) {command : Command}
    (late : command.comesLate = true) : session.handle moment command = (session, []) := by
  cases command with
  | found printer => rw [Session.handle, if_pos finished.destroyed]
  | lost printer => rw [Session.handle, if_pos finished.destroyed]
  | answered id answer => rw [Session.handle, if_pos finished.destroyed]
  | tick generation => simp [Session.handle, tick, finished.untimed]
  | _ => cases late

/-- Whatever comes after the end, in whatever order, leaves a session as it is and has no
effects. -/
theorem Over.handleAll {session : Session} (finished : session.Over) {turns : List Turn}
    (late : ∀ turn ∈ turns, turn.command.comesLate = true) :
    session.handleAll turns = (session, []) :=
  holds_stateAfter (fun outcome : Outcome => outcome = (session, [])) rfl
    fun _ same turn member => by
      rw [same, andThen, finished.handle turn.moment (late turn member)]
      rfl

/-- A run, with the commands that have reached its queue and the effects it has had so far. -/
structure Life where
  run : SessionRun
  accepted : List Command
  effects : List Effect

namespace Life

inductive Move
  | sends (command : Command)
  | letsGo
  | turns (moment : Moment)

def begin (window : Nat) (known : KnownGood) : Life := ⟨.start (fresh window known), [], []⟩

def accepts (life : Life) : Bool := life.run.phase = .running && life.run.isHeld

def move (life : Life) : Move → Life
  | .sends command =>
    { life with
      run := life.run.send command
      accepted := if life.accepts then life.accepted ++ [command] else life.accepted }
  | .letsGo => { life with run := life.run.letGo }
  | .turns moment =>
    match life.run.next? moment with
    | some (run, effects) => { life with run, effects := life.effects ++ effects }
    | none => life

/-- A run that goes on has handled what it accepted, up to its queue. One that has ended has handled
what it accepted before it was to be destroyed. -/
inductive Stage (window : Nat) (known : KnownGood) (life : Life) : Prop
  | running (turns : List Turn) (going : life.run.phase = .running)
      (accepted : life.accepted = turns.map Turn.command ++ life.run.queue)
      (goOn : ∀ turn ∈ turns, turn.command ≠ .destroy)
      (outcome : (fresh window known).handleAll turns = (life.run.session, life.effects))
  | ended (turns : List Turn) (finished : life.run.phase = .ended)
      (accepted : turns.map Turn.command = life.accepted.takeWhile (· ≠ .destroy))
      (goOn : ∀ turn ∈ turns, turn.command ≠ .destroy)
      (outcome : andThen ((fresh window known).handleAll turns) teardown =
        (life.run.session, life.effects))

section Step
variable {window : Nat} {known : KnownGood} {life : Life}

private theorem takeWhile_handled {turns : List Turn}
    (goOn : ∀ turn ∈ turns, turn.command ≠ .destroy)
    (others : List Command) :
    (turns.map Turn.command ++ others).takeWhile (· ≠ .destroy) =
      turns.map Turn.command ++ others.takeWhile (· ≠ .destroy) := by
  rw [List.takeWhile_append_of_pos]
  intro command member
  obtain ⟨turn, handled, rfl⟩ := List.mem_map.1 member
  exact decide_eq_true (goOn turn handled)

private theorem Stage.sends (stage : Stage window known life) (command : Command) :
    Stage window known (life.move (.sends command)) := by
  cases stage with
  | running turns going accepted goOn outcome =>
    cases held : life.run.isHeld with
    | true =>
      have sent : life.run.send command = { life.run with queue := life.run.queue ++ [command] } := by
        simp [SessionRun.send, going, held]
      have accepts : life.accepts = true := by simp [Life.accepts, going, held]
      refine .running turns ?_ ?_ goOn ?_
      · rw [move, sent, going]
      · rw [move, sent, if_pos accepts, accepted, List.append_assoc]
      · rw [move, sent, outcome]
    | false =>
      have unsent : life.run.send command = life.run := by simp [SessionRun.send, held]
      have refuses : life.accepts = false := by simp [Life.accepts, held]
      rw [move, unsent, refuses]
      exact .running turns going accepted goOn outcome
  | ended turns finished accepted goOn outcome =>
    have stopped : life.run.phase ≠ .running := by simp [finished]
    have refuses : life.accepts = false := by simp [Life.accepts, finished]
    rw [move, SessionRun.send_of_not_running stopped, refuses]
    exact .ended turns finished accepted goOn outcome

private theorem move_of_destroy (going : life.run.phase = .running) {others : List Command}
    (queued : life.run.queue = .destroy :: others) (moment : Moment) : life.move (.turns moment) =
      { life with
        run := { life.run with session := life.run.session.teardown.1, queue := [], phase := .ended }
        effects := life.effects ++ life.run.session.teardown.2 } := by
  simp [move, SessionRun.next?, going, queued, SessionRun.handle, SessionRun.finish,
    Command.continues, Session.handle]

private theorem move_of_queued (going : life.run.phase = .running) {command : Command}
    {others : List Command} (queued : life.run.queue = command :: others)
    (goesOn : command ≠ .destroy) (moment : Moment) :
    life.move (.turns moment) =
      { life with
        run := { life.run with
          session := (life.run.session.handle moment command).1, queue := others }
        effects := life.effects ++ (life.run.session.handle moment command).2 } := by
  have continues : command.continues = true := by
    cases command with
    | destroy => exact absurd rfl goesOn
    | _ => rfl
  simp [move, SessionRun.next?, going, queued, SessionRun.handle, continues]

private theorem move_of_unheld (going : life.run.phase = .running) (queued : life.run.queue = [])
    (unheld : life.run.isHeld = false) (moment : Moment) : life.move (.turns moment) =
      { life with
        run := { life.run with session := life.run.session.teardown.1, queue := [], phase := .ended }
        effects := life.effects ++ life.run.session.teardown.2 } := by
  simp [move, SessionRun.next?, going, queued, unheld, SessionRun.finish]

private theorem move_of_idle (going : life.run.phase = .running) (queued : life.run.queue = [])
    (held : life.run.isHeld = true) (moment : Moment) : life.move (.turns moment) = life := by
  simp [move, SessionRun.next?, going, queued, held]

private theorem Stage.turns (stage : Stage window known life) (moment : Moment) :
    Stage window known (life.move (.turns moment)) := by
  cases stage with
  | running turns going accepted goOn outcome =>
    cases queued : life.run.queue with
    | nil =>
      -- All that was accepted has been handled, and none of it was to destroy the session.
      rw [queued, List.append_nil] at accepted
      cases held : life.run.isHeld with
      | true =>
        rw [move_of_idle going queued held]
        exact .running turns going (by rw [queued, accepted, List.append_nil]) goOn outcome
      | false =>
        rw [move_of_unheld going queued held]
        refine .ended turns rfl ?_ goOn (by rw [outcome]; rfl)
        have handled := takeWhile_handled goOn []
        rw [List.append_nil, List.takeWhile_nil, List.append_nil] at handled
        rw [accepted, handled]
    | cons command others =>
      rw [queued] at accepted
      by_cases destroys : command = .destroy
      · subst destroys
        rw [move_of_destroy going queued]
        refine .ended turns rfl ?_ goOn (by rw [outcome]; rfl)
        rw [accepted, takeWhile_handled goOn]
        simp
      · rw [move_of_queued going queued destroys]
        refine .running (turns ++ [⟨moment, command⟩]) going ?_ ?_ ?_
        · simp [accepted]
        · intro turn member
          rcases List.mem_append.1 member with earlier | last
          · exact goOn turn earlier
          · rw [List.mem_singleton.1 last]
            exact destroys
        · rw [handleAll_snoc, outcome]
          rfl
  | ended turns finished accepted goOn outcome =>
    have stopped : life.run.phase ≠ .running := by simp [finished]
    rw [move, SessionRun.next?_of_not_running stopped]
    exact .ended turns finished accepted goOn outcome

theorem Stage.move (stage : Stage window known life) (move : Move) :
    Stage window known (life.move move) := by
  cases move with
  | sends command => exact stage.sends command
  | letsGo =>
    cases stage with
    | running turns going accepted goOn outcome => exact .running turns going accepted goOn outcome
    | ended turns finished accepted goOn outcome => exact .ended turns finished accepted goOn outcome
  | turns moment => exact stage.turns moment

/-- A run comes to its end once it is to be destroyed or nobody holds it. -/
def Ending (life : Life) : Prop := .destroy ∈ life.run.queue ∨ life.run.isHeld = false

def ahead (life : Life) : Nat := (life.run.queue.takeWhile (· ≠ .destroy)).length

def Move.isTurn : Move → Bool
  | .turns _ => true
  | _ => false

private theorem takeWhile_send {queue : List Command} (ends : .destroy ∈ queue)
    (command : Command) :
    (queue ++ [command]).takeWhile (· ≠ .destroy) = queue.takeWhile (· ≠ .destroy) := by
  rw [List.takeWhile_append, if_neg]
  intro all
  -- Were nothing cut off, the command to destroy would have to be one that goes on.
  have whole := (List.takeWhile_sublist _).eq_of_length all
  have goesOn := List.takeWhile_eq_self_iff.1 whole .destroy ends
  exact absurd rfl (of_decide_eq_true goesOn)

private theorem Ending.sends (ending : life.Ending) (going : life.run.phase = .running)
    (command : Command) :
    (life.move (.sends command)).run.phase = .running ∧ (life.move (.sends command)).Ending ∧
      (life.move (.sends command)).ahead = life.ahead := by
  dsimp only [Life.move, SessionRun.send]
  split
  · rename_i accepts
    have held : life.run.isHeld = true := (Bool.and_eq_true_iff.1 accepts).2
    rcases ending with ends | unheld
    · exact ⟨going, Or.inl (List.mem_append_left _ ends),
        congrArg List.length (takeWhile_send ends command)⟩
    · cases held.symm.trans unheld
  · exact ⟨going, ending, rfl⟩

/-- A run that comes to its end needs a turn for each command before that, and one more. -/
theorem Ending.turns (ending : life.Ending) (going : life.run.phase = .running) (moment : Moment) :
    (life.move (.turns moment)).run.phase = .ended ∨
      (life.move (.turns moment)).run.phase = .running ∧ (life.move (.turns moment)).Ending ∧
        (life.move (.turns moment)).ahead + 1 = life.ahead := by
  cases queued : life.run.queue with
  | nil =>
    rcases ending with ends | unheld
    · rw [queued] at ends
      cases ends
    · rw [move_of_unheld going queued unheld]
      exact Or.inl rfl
  | cons command others =>
    by_cases destroys : command = .destroy
    · rw [move_of_destroy going (destroys ▸ queued)]
      exact Or.inl rfl
    · rw [move_of_queued going queued destroys]
      refine Or.inr ⟨going, ?_, ?_⟩
      · refine ending.imp_left fun ends => ?_
        rw [queued] at ends
        exact List.mem_of_ne_of_mem (Ne.symm destroys) ends
      · simp [ahead, queued, destroys]

private theorem phase_of_ended (finished : life.run.phase = .ended) (move : Move) :
    (life.move move).run.phase = .ended := by
  have stopped : life.run.phase ≠ .running := by simp [finished]
  cases move with
  | sends command => rw [Life.move, SessionRun.send_of_not_running stopped, finished]
  | letsGo => exact finished
  | turns moment => rw [Life.move, SessionRun.next?_of_not_running stopped, finished]

end Step

private theorem phase_goOn_of_ended {life : Life} (finished : life.run.phase = .ended)
    (moves : List Move) : (stateAfter move life moves).run.phase = .ended :=
  holds_stateAfter (fun life : Life => life.run.phase = .ended) finished
    fun _ finished last _ => phase_of_ended finished last

private theorem Ending.goOn {life : Life} (ending : life.Ending) (going : life.run.phase = .running)
    {moves : List Move} (enough : life.ahead < moves.countP Move.isTurn) :
    (stateAfter Life.move life moves).run.phase = .ended := by
  induction moves generalizing life with
  | nil => cases enough
  | cons first later ih =>
    show (stateAfter Life.move (life.move first) later).run.phase = .ended
    cases first with
    | sends command =>
      obtain ⟨stillGoing, stillEnding, same⟩ := ending.sends going command
      exact ih stillEnding stillGoing (same ▸ enough)
    | letsGo => exact ih (ending.imp_right fun _ => rfl) going enough
    | turns moment =>
      rcases ending.turns going moment with finished | ⟨stillGoing, stillEnding, fewer⟩
      · exact phase_goOn_of_ended finished later
      · refine ih stillEnding stillGoing ?_
        rw [List.countP_cons_of_pos (by rfl)] at enough
        omega

private theorem stage_goOn (window : Nat) (known : KnownGood) (moves : List Move) :
    Stage window known (stateAfter move (begin window known) moves) :=
  holds_stateAfter (Stage window known) (.running [] rfl rfl nofun rfl)
    fun _ stage last _ => stage.move last

theorem isHeld_move (life : Life) {move : Move} (holds : move ≠ .letsGo) :
    (life.move move).run.isHeld = life.run.isHeld := by
  cases move with
  | sends command =>
    dsimp only [Life.move, SessionRun.send]
    split <;> rfl
  | letsGo => exact absurd rfl holds
  | turns moment =>
    by_cases going : life.run.phase = .running
    · cases queued : life.run.queue with
      | nil =>
        cases held : life.run.isHeld with
        | true => rw [move_of_idle going queued held, held]
        | false =>
          rw [move_of_unheld going queued held]
          exact held
      | cons command others =>
        by_cases destroys : command = .destroy
        · rw [move_of_destroy going (destroys ▸ queued)]
        · rw [move_of_queued going queued destroys]
    · rw [Life.move, SessionRun.next?_of_not_running going]

/-- A run is held until it is let go. -/
theorem isHeld_iff (window : Nat) (known : KnownGood) (moves : List Move) :
    (stateAfter move (begin window known) moves).run.isHeld = true ↔ .letsGo ∉ moves := by
  induction moves using List.reverseRecOn with
  | nil => exact iff_of_true rfl List.not_mem_nil
  | append_singleton moves last ih =>
    rw [stateAfter_snoc, List.mem_append, not_or, ← ih, List.mem_singleton]
    by_cases lets : last = .letsGo
    · subst lets
      exact iff_of_false nofun fun holds => holds.2 rfl
    · rw [isHeld_move _ lets]
      exact (and_iff_left (Ne.symm lets)).symm

/-- A run comes to its end once a command to destroy the session is queued or it was let go. -/
theorem ending_iff (window : Nat) (known : KnownGood) (moves : List Move) :
    (stateAfter move (begin window known) moves).Ending ↔
      .destroy ∈ (stateAfter move (begin window known) moves).run.queue ∨ .letsGo ∈ moves := by
  rw [Ending, ← Bool.not_eq_true, isHeld_iff, not_not]

/-- However a run ends, it has handled exactly what was sent before its end. It then saves the
known-good list once, as all that has left it, and nothing that comes later changes the list or
the roster or has an effect. Until then it saves nothing, and once a command to destroy the session
is queued or the run was let go, it ends within a turn for each queued command and one more. -/
theorem saves_once_at_end (window : Nat) (known : KnownGood) (moves : List Move) :
    let life := stateAfter move (begin window known) moves
    life.run.phase = .running ∧ saved life.effects = [] ∧
        (.destroy ∈ life.run.queue ∨ .letsGo ∈ moves →
          ∀ later : List Move, life.run.queue.length < later.countP Move.isTurn →
            (stateAfter move life later).run.phase = .ended) ∨
      life.run.phase = .ended ∧ ∃ turns : List Turn,
        turns.map Turn.command = life.accepted.takeWhile (· ≠ .destroy) ∧
        let reached := (fresh window known).handleAll turns
        life.effects = reached.2 ++ reached.1.teardown.2 ∧
        saved reached.2 = [] ∧ saved reached.1.teardown.2 = [reached.1.knownGood] ∧
        published reached.1.teardown.2 = [] ∧
        life.run.session = { reached.1 with deadline := none, destroyed := true } ∧
        ∀ late : List Turn, (∀ turn ∈ late, turn.command.comesLate = true) →
          life.run.session.handleAll late = (life.run.session, []) := by
  intro life
  cases stage_goOn window known moves with
  | running turns going accepted goOn outcome =>
    refine Or.inl ⟨going, ?_, ?_⟩
    · have nothing := saved_handleAll (fresh window known) goOn
      rw [outcome] at nothing
      exact nothing
    · intro ends later enough
      refine Ending.goOn ((ending_iff window known moves).2 ends) going (Nat.lt_of_le_of_lt ?_ enough)
      exact (List.takeWhile_sublist _).length_le
  | ended turns finished accepted goOn outcome =>
    have lives : ((fresh window known).handleAll turns).1.destroyed = false :=
      destroyed_handleAll (fresh window known) goOn
    obtain ⟨ends, saves, silent⟩ := teardown_of_lives lives
    have session : ((fresh window known).handleAll turns).1.teardown.1 = life.run.session :=
      congrArg Prod.fst outcome
    have effects : ((fresh window known).handleAll turns).2 ++
        ((fresh window known).handleAll turns).1.teardown.2 = life.effects :=
      congrArg Prod.snd outcome
    rw [ends] at session
    refine Or.inr ⟨finished, turns, accepted, effects.symm, saved_handleAll _ goOn, saves, silent,
      session.symm, ?_⟩
    intro late quiet
    have finished : life.run.session.Over := session ▸ ⟨rfl, rfl⟩
    exact finished.handleAll quiet

end Life

end PrinterRoster.Session
