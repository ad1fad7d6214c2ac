import ComputeTopology.Survey

/-! # Sessions

A session owns a platform that was started. Closing it shuts the platform down
and reports a shutdown that fails. A session that goes out of scope shuts its
platform down too, unless closing it already did, and reports nothing. At most
one session is open at a time. Opening another replaces it once the new platform
has started, and a platform that does not start changes nothing.

A journal records what happened to each platform, known by its serial number:
that it was started, queried, and stopped. What is written about a platform is
recorded in the same journal, so that the order of all of it can be told. A log
also keeps the platforms that were shut down, in the state that this left them in.
-/

namespace ComputeTopology.Session

inductive Event where
  | started (serial : Nat)
  | queried (serial : Nat)
  | written (bytes : Nat)
  | flushed
  /-- The shutdown was called, whatever came of it. -/
  | stopped (serial : Nat)
deriving DecidableEq

/-- How many platforms were shut down. -/
def shutdowns (journal : List Event) : Nat :=
  journal.countP (fun event => match event with
    | .stopped _ => true
    | _ => false)

structure Log (σ : Type) where
  /-- How many platforms were started. -/
  count : Nat
  journal : List Event
  /-- What every shutdown left of its platform. -/
  remains : List (Nat × σ)

namespace Log

variable {σ : Type}

def empty : Log σ := ⟨0, [], []⟩

def record (log : Log σ) (event : Event) : Log σ :=
  { log with journal := log.journal ++ [event] }

/-- One more platform was started. Its serial number is the count so far. -/
def startNext (log : Log σ) : Log σ :=
  { log with count := log.count + 1, journal := log.journal ++ [.started log.count] }

/-- A platform was shut down, and this is what was left of it. -/
def stop (log : Log σ) (serial : Nat) (platform : σ) : Log σ :=
  { log with journal := log.journal ++ [.stopped serial], remains := log.remains ++ [(serial, platform)] }

end Log

/-- A session, as the owner of its platform. -/
structure Owner (σ : Type) where
  serial : Nat
  platform : σ
  /-- Whether it is being closed, so that going out of scope does nothing more. -/
  closed : Bool

namespace Owner

variable {σ : Type} [Platform σ] {α : Type}

def acquire (start : Except PlatformError σ) (log : Log σ) : Except Failure (Owner σ) × Log σ :=
  match start with
  | .error cause => (.error (.initialization "runtime initialization" cause), log)
  | .ok platform => (.ok { serial := log.count, platform, closed := false }, log.startNext)

def ask (owner : Owner σ) (question : Queries → α) (log : Log σ) : α × Log σ :=
  (question (Platform.queries owner.platform), log.record (.queried owner.serial))

def shutDown (owner : Owner σ) (log : Log σ) : Except PlatformError Unit × Owner σ × Log σ :=
  let (outcome, platform) := Platform.shutDown owner.platform
  (outcome, { owner with platform }, log.stop owner.serial platform)

/-- Go out of scope. What the shutdown says is lost. -/
def drop (owner : Owner σ) (log : Log σ) : Log σ :=
  if owner.closed then log
  else
    let (_, _, stopped) := owner.shutDown log
    stopped

def close (owner : Owner σ) (log : Log σ) : Except Failure Unit × Log σ :=
  let (outcome, last, stopped) := { owner with closed := true }.shutDown log
  (outcome.mapError (.shutdown "runtime shutdown"), last.drop stopped)

end Owner

structure State (σ : Type) extends Log σ where
  live : Option (Owner σ)

namespace State

variable {σ : Type} [Platform σ] {α : Type}

def initial : State σ where
  toLog := .empty
  live := none

/-- Let the open session, if any, go out of scope. -/
def release (session : State σ) : State σ :=
  match session.live with
  | none => session
  | some owner => { toLog := owner.drop session.toLog, live := none }

/-- Open a session on a platform that was started, or did not start. -/
def openWith (session : State σ) (start : Except PlatformError σ) :
    Except Failure Unit × State σ :=
  match Owner.acquire start session.toLog with
  | (.error failure, log) => (.error failure, { session with toLog := log })
  | (.ok owner, log) =>
      let replaced := { session with toLog := log }.release
      (.ok (), { replaced with live := some owner })

def close (session : State σ) : Option (Except Failure Unit) × State σ :=
  match session.live with
  | none => (none, session)
  | some owner =>
      let (outcome, log) := owner.close session.toLog
      (some outcome, { toLog := log, live := none })

def ask (session : State σ) (question : Queries → α) : Option α × State σ :=
  match session.live with
  | none => (none, session)
  | some owner =>
      let (answer, log) := owner.ask question session.toLog
      (some answer, { session with toLog := log })

end State

inductive Step (σ : Type) where
  | openWith (start : Except PlatformError σ)
  | facts
  | inventory (policy : Survey.Policy)
  | agents
  | close
  | release

inductive Reply where
  /-- The step needs an open session. -/
  | noSession
  | done (outcome : Except Failure Unit)
  | facts (outcome : Except Failure SystemFacts)
  | inventory (outcome : Except Failure Inventory)
  | agents (outcome : Except PlatformError (List AgentHandle))

variable {σ : Type} [Platform σ]

/-- The reply to a question that may not have been asked. -/
def Reply.ofAnswer {α : Type} (wrap : α → Reply) : Option α → Reply
  | none => .noSession
  | some answer => wrap answer

def step (session : State σ) : Step σ → Reply × State σ
  | .openWith start =>
      let (outcome, next) := session.openWith start
      (.done outcome, next)
  | .facts =>
      let (answer, next) := session.ask Survey.systemFacts
      (.ofAnswer .facts answer, next)
  | .inventory policy =>
      let (answer, next) := session.ask (Survey.inventory · policy)
      (.ofAnswer .inventory answer, next)
  | .agents =>
      let (answer, next) := session.ask Queries.agents
      (.ofAnswer .agents answer, next)
  | .close =>
      let (outcome, next) := session.close
      (.ofAnswer .done outcome, next)
  | .release => (.ofAnswer (fun _ => .done (.ok ())) session.live, session.release)

def steps (session : State σ) : List (Step σ) → List Reply × State σ
  | [] => ([], session)
  | first :: rest =>
      let (reply, next) := step session first
      let (replies, last) := steps next rest
      (reply :: replies, last)

/-- Take steps from no session at all, and release what is left open. -/
def run (program : List (Step σ)) : List Reply × State σ :=
  let (replies, last) := steps State.initial program
  (replies, last.release)

end ComputeTopology.Session
