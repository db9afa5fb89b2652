import Precis.Dispatch.Request
import Precis.Rate.Limiter

/-!
# Dispatch

Requests are sent under a cap on concurrent calls. Each call has a deadline; a call that fails in a
way worth another attempt is made again after a delay, and when the destination asked for fewer
calls its limiter is paused for everybody. Each request ends with a result of its own, whatever
becomes of the others, and the results stand in the order of the requests. Only an overflow in the
limiter stops them all.

One request is a task of a `Schedule`; `act` is one step of it. The world that the tasks share holds
the limiter, the state of the provider, and a log of what happened.
-/

namespace Precis.Dispatch

open Time

/-- A call to the provider. -/
structure Call where
  /-- The number of the request in its list. -/
  request : Nat
  ids : List Int64
  start : Nat
  finish : Nat
  /-- Given up at its deadline. -/
  cut : Bool
  deriving DecidableEq, Repr

/-- What can happen in a run. -/
inductive Event where
  | started (request : Nat) (time : Nat)
  | ended (call : Call)
  /-- The limiter was paused; `called` when the error came from a call. -/
  | paused (request : Nat) (time : Nat) (span : Nat) (called : Bool)
  deriving DecidableEq, Repr

/-- What the requests of a run share. -/
structure World (α σ : Type) where
  limiter : Option (Limiter α)
  provider : σ
  log : List Event := []

/-- What a request waits for. -/
inductive Phase where
  /-- To make its next attempt. -/
  | idle
  /-- For a permit. -/
  | asking (caller : Caller)
  /-- For the end of a call. -/
  | calling (start : Nat) (result : CallEnd) (cut : Bool)

/-- A request under way. -/
structure Task where
  request : Request
  /-- The attempts made, the present one included. -/
  attempts : Nat := 0
  phase : Phase := .idle

/-- What a step of a request gives. -/
abbrev Step (α σ : Type) := World α σ × Move Task Result

namespace Task

/-- The error of a call that is over, or its response. -/
def outcome (settings : DispatchSettings) (result : CallEnd) (cut : Bool) :
    Except CallError Response :=
  if cut then
    .error
      { kind := .timeout
        message := "summarization call exceeded " ++ Text.numeral settings.timeout.toNat ++ "ms" }
  else
    match result with
    | .answered response => .ok response
    | .failed error => .error error
    | .crashed message =>
      .error
        { kind := .unknown, message := "summarizer panicked: " ++ message.getD "unknown panic" }

/-- Another attempt follows an error. -/
def triesAgain (settings : DispatchSettings) (task : Task) (e : CallError) : Bool :=
  e.retryable && task.attempts < max 1 settings.maxAttempts.toNat

/-- The delay after the present attempt failed. -/
def delay (settings : DispatchSettings) (task : Task) (e : CallError) : Nat :=
  settings.backoff.delay e.kind (UInt32.ofNat (task.attempts - 1)) e.retryAfter

/-- The world after an error that is tried again: a limiter is paused when there were too many
calls. -/
def pause [Quantity α] (now index : Nat) (w : World α σ) (e : CallError) (span : Nat)
    (called : Bool) : World α σ :=
  match e.kind, w.limiter with
  | .rateLimit, some l =>
    { w with
      limiter := some { l with bucket := l.bucket.pauseFor span now }
      log := w.log ++ [.paused index now span called] }
  | _, _ => w

/-- An attempt failed. -/
def failed [Quantity α] (settings : DispatchSettings) (now index : Nat) (w : World α σ)
    (task : Task) (e : CallError) (called : Bool) : Step α σ :=
  if task.triesAgain settings e then
    let span := task.delay settings e
    (pause now index w e span called, .sleep (now + span) { task with phase := .idle })
  else (w, .done (task.request.result task.attempts (task.request.failed e)))

/-- The call starts. -/
def call (settings : DispatchSettings) (provider : Provider σ) (now index : Nat) (w : World α σ)
    (task : Task) : Step α σ :=
  let (reply, state) := provider now w.provider task.request.items
  let w := { w with provider := state, log := w.log ++ [.started index now] }
  let cut := settings.timeout.toNat < reply.millis
  let wait := min reply.millis settings.timeout.toNat
  (w, .sleep (now + Span.ofMillis wait) { task with phase := .calling now reply.result cut })

/-- Asks the limiter for a permit. -/
def ask [Quantity α] (settings : DispatchSettings) (provider : Provider σ) (now index : Nat)
    (w : World α σ) (l : Limiter α) (caller : Caller) (task : Task) : Step α σ :=
  let (answer, l) := l.ask caller now
  let w := { w with limiter := some l }
  match answer with
  | .granted => call settings provider now index w task
  | .refused =>
    let e : CallError := { kind := .rateLimit, message := l.noPermit.message }
    failed settings now index w task e false
  | .later time =>
    let task := { task with phase := .asking caller }
    (w, if time = now then .again task else .sleep time task)
  | .overflowed overflow => (w, .stop overflow { task with phase := .asking caller })

/-- The call is over. -/
def finish [Quantity α] (settings : DispatchSettings) (now index : Nat) (w : World α σ)
    (task : Task) (start : Nat) (result : CallEnd) (cut : Bool) : Step α σ :=
  let ids := task.request.items.map (·.id)
  let w := { w with log := w.log ++ [.ended ⟨index, ids, start, now, cut⟩] }
  match outcome settings result cut with
  | .ok response =>
    (w, .done (task.request.result task.attempts (task.request.answered response)))
  | .error e => failed settings now index w task e true

/-- The next attempt begins. -/
def attempt [Quantity α] (settings : DispatchSettings) (provider : Provider σ) (now index : Nat)
    (w : World α σ) (task : Task) : Step α σ :=
  let task := { task with attempts := task.attempts + 1 }
  match w.limiter with
  | none => call settings provider now index w task
  | some l => ask settings provider now index w l (l.caller now) task

/-- One step of a request. A request without items is done at once. -/
def act [Quantity α] (settings : DispatchSettings) (provider : Provider σ) :
    Schedule.Act (World α σ) Task Result :=
  fun now index w task =>
    if task.request.items.isEmpty then (w, .done (task.request.result 0 {}))
    else
      match task.phase, w.limiter with
      | .idle, _ => attempt settings provider now index w task
      | .asking caller, some l => ask settings provider now index w l caller task
      | .asking _, none => call settings provider now index w task
      | .calling start result cut, _ => finish settings now index w task start result cut

end Task

/-- The run of these requests before its first step. -/
def start (settings : DispatchSettings) (w : World α σ) (now : Nat) (requests : List Request) :
    Schedule (World α σ) Task Result :=
  Schedule.start now w (max 1 settings.concurrency.toNat) (requests.map fun request => { request })

/-- Results in the order of their requests. -/
def inOrder (finished : List (Nat × Result)) : List Result :=
  (finished.mergeSort fun a b => a.1 ≤ b.1).map (·.2)

/-- What a run leaves: the time, the world, and the results in the order of the requests. -/
structure Report (α σ : Type) where
  now : Nat
  world : World α σ
  results : List Result

/-- Sends the requests, in at most `fuel` steps. -/
def run [Quantity α] (settings : DispatchSettings) (provider : Provider σ) (fuel : Nat)
    (w : World α σ) (now : Nat) (requests : List Request) :
    Option (Except Overflow (Report α σ)) :=
  ((start settings w now requests).run (Task.act settings provider) fuel).map fun s =>
    s.outcome.map fun s => { now := s.now, world := s.world, results := inOrder s.finished }

/-- The calls of a log. -/
def calls (log : List Event) : List Call :=
  log.filterMap fun e => match e with
    | .ended call => some call
    | _ => none

end Precis.Dispatch
