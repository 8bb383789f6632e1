import PrinterRoster.Session

/-! How a session handles a command. A record is evaluated again whenever it is
sighted, lost or answered: it is shown if it has an answer that it takes some
usable format, or no answer but a place in the known-good list; and it is in
that list afterwards exactly if it is healthy and has a uuid. -/
namespace PrinterRoster.Session

abbrev Outcome := Session × List Effect

def andThen (outcome : Outcome) (next : Session → Outcome) : Outcome :=
  let (session, effects) := next outcome.1
  (session, outcome.2 ++ effects)

def withdraw (session : Session) (record : Record) : Outcome :=
  if record.published then
    ({ session with records := session.records.insert record.id { record with published := false } },
      [.publish (.removed [record.id])])
  else (session, [])

def present (session : Session) (record : Record) (info : PrinterInfo) : Outcome :=
  let known := session.knownGood
  ({ session with
      knownGood := if info.status = .idle && record.printer.uuid.isSome then known.promote record.id
        else known
      records := session.records.insert record.id { record with published := true } },
    [.publish (.added info)])

/-- Evaluates a record. One without an answer is shown only if it is known good,
and loses that place by being shown. -/
def evaluate (session : Session) (id : PrinterId) : Outcome :=
  match session.records.get? id with
  | none => (session, [])
  | some record =>
    if record.capabilities.isNone && !session.knownGood.contains id then session.withdraw record
    else
      let session := { session with knownGood := session.knownGood.remove id }
      match record.info? with
      | none => session.withdraw record
      | some info => session.present record info

def request (session : Session) (id : PrinterId) (bypassCache : Bool) : Outcome :=
  match session.records.get? id with
  | none => (session, [])
  | some record =>
    if record.refreshing then (session, [])
    else
      ({ session with records := session.records.insert id record.beginRefresh },
        [.query id record.printer bypassCache])

/-- Sets a deadline for the next search for expired records, unless one is set or
there are no records. -/
def monitor (session : Session) (now : Nat) : Outcome :=
  if session.deadline.isSome || session.records.isEmpty then (session, [])
  else
    ({ session with generation := session.generation + 1, deadline := some (now + session.window) },
      [.arm (session.generation + 1) (now + session.window)])

/-- All printers have to be sighted again; those that are not will expire. -/
def start (session : Session) (now : Nat) (priority : List PrinterId) : Outcome :=
  andThen
    (monitor
      { session with
        priority := priority.eraseDups
        records := session.records.mapValues Record.notFound }
      now)
    fun session => (session, [.startSources])

def stop (session : Session) : Outcome :=
  ({ session with deadline := none },
    .stopSources :: if session.deadline.isSome then [.disarm] else [])

def track (session : Session) (id : PrinterId) : Outcome :=
  let session := { session with
    tracking := if session.tracking.contains id then session.tracking else session.tracking ++ [id] }
  if (session.records.get? id).any (·.isFound) then session.request id true else (session, [])

def untrack (session : Session) (id : PrinterId) : Outcome :=
  ({ session with tracking := session.tracking.filter (· ≠ id) }, [])

def sighted (session : Session) (moment : Moment) (printer : Printer) : Record :=
  let record := ((session.records.get? printer.id).getD (.ofPrinter printer moment.now)).found
    printer moment.now
  { record with capabilities := record.capabilities.or (moment.cached printer) }

/-- A printer without an answer is queried when it was not there before, and
otherwise only if it has priority. -/
def found (session : Session) (moment : Moment) (printer : Printer) : Outcome :=
  let id := printer.id
  let isNew := !(session.records.get? id).any (·.isFound)
  let record := session.sighted moment printer
  let outcome := evaluate { session with records := session.records.insert id record } id
  if record.capabilities.isNone && (session.isPriority id || isNew) then
    andThen outcome fun session => session.request id false
  else outcome

/-- What is cached of a printer that is known by its address only is dropped,
since another device may answer there later. -/
def lost (session : Session) (now : Nat) (printer : Printer) : Outcome :=
  let forgotten := if printer.id.isNetworkAddress then [Effect.forget printer.uri] else []
  match session.records.get? printer.id with
  | none => (session, forgotten)
  | some record =>
    andThen
      (andThen
        ({ session with records := session.records.insert printer.id record.notFound }, forgotten)
        fun session => session.evaluate printer.id)
      fun session => session.monitor now

/-- Takes the answer to a query, unless the record has expired meanwhile. -/
def answered (session : Session) (id : PrinterId) (answer : Option Capabilities) : Outcome :=
  match session.records.get? id with
  | none => (session, [])
  | some record =>
    evaluate
      { session with
        records := session.records.insert id { record.endRefresh with capabilities := answer } }
      id

def sweep (session : Session) (now : Nat) : Outcome :=
  let expired := session.records.values.filter fun record => record.isExpired now session.window
  let left := { session with
    deadline := none
    records := session.records.filterValues fun record => !record.isExpired now session.window }
  andThen
    (left, if expired.isEmpty then [] else [.publish (.removed (expired.map Record.id))])
    fun session =>
      if session.records.values.any fun record => !record.isFound then session.monitor now
      else (session, [])

/-- Only the tick of the latest deadline counts, and only while that is set. -/
def tick (session : Session) (now generation : Nat) : Outcome :=
  if session.deadline.isNone || generation ≠ session.generation then (session, [])
  else session.sweep now

def teardown (session : Session) : Outcome :=
  if session.destroyed then (session, [])
  else
    andThen session.stop fun session =>
      ({ session with destroyed := true }, [.save session.knownGood])

/-- Handles a command. A destroyed session ignores sightings and answers. -/
def handle (session : Session) (moment : Moment) : Command → Outcome
  | .start priority => session.start moment.now priority
  | .stop => session.stop
  | .track id => session.track id
  | .untrack id => session.untrack id
  | .found printer => if session.destroyed then (session, []) else session.found moment printer
  | .lost printer => if session.destroyed then (session, []) else session.lost moment.now printer
  | .answered id answer => if session.destroyed then (session, []) else session.answered id answer
  | .tick generation => session.tick moment.now generation
  | .destroy => session.teardown

def Command.continues : Command → Bool
  | destroy => false
  | _ => true

end PrinterRoster.Session
