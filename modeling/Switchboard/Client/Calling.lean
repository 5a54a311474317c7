/-
# Switchboard.Client.Calling -- calls from their beginning to their end

A call is refused before anything is registered if its path is empty or holds a
wildcard, or if the table is full.  Otherwise it is registered and its request
handed to the link; under the failing policy a request that is neither sent nor
held fails the call at once.  Then the caller waits until the table says how the
call ended (`Client.collect`), its deadline passes (`Client.expire`), or it goes
away (`Client.abandon`).  Each of these ends releases the call's entry and any
queued request (`Client.releaseCall`).

* `Client.call_wildcard`: a path with a wildcard is refused without a trace;
* `Client.deadlineError_isTimeout`: a passed deadline is reported as such.
-/
import Switchboard.Client.Sending

namespace Switchboard.Client

set_option autoImplicit false

variable {κ ω : Type}

/-- What starting a call did. -/
inductive CallStart where
  | failed (error : ClientError)
  /-- No identifier could be drawn for it. -/
  | exhausted
  | waiting (awaited : Awaited)

/-- The failure of a call with an empty path. -/
def emptyPath : ClientError := .invalidTopic "call path must not be empty"

/-- The failure of a call with a wildcard in its path. -/
def wildcardPath (path : Topic) : ClientError :=
  .invalidTopic ("call path must not contain wildcards: " ++ path.wire)

/-- The client with one more waiting call, and what became of it; nothing is sent. -/
def enroll (path : Topic) (client : Client κ ω) : Client κ ω × Admission :=
  let (calls, admission) := client.calls.register client.candidates path
  match admission with
  | .admitted call => ({ client with calls, idsDrawn := client.idsDrawn + 1 }, .admitted call)
  | other => ({ client with calls }, other)

/-- The client without a call's entry and queued request. -/
def releaseCall (id : CorrelationId) (client : Client κ ω) : Client κ ω :=
  let client := { client with calls := (client.calls.remove id).1 }
  (client.discard id).1

/-- The client after a caller was told something, or went away; `ticket` and `id` are those of its
call. -/
def depart (ticket : Nat) (id : CorrelationId) (told : Option Outcome) (client : Client κ ω) :
    Client κ ω :=
  ({ client with
      awaited := client.awaited.filter (fun other => other.ticket ≠ ticket)
      departed := (ticket, told) :: client.departed } : Client κ ω).releaseCall id

/-- The client after a call was started, and what became of it. -/
def call (path : Topic) (data : Json) (limit : Option Span) (client : Client κ ω) :
    Client κ ω × CallStart :=
  if path.isEmpty then (client, .failed emptyPath)
  else if path.hasWildcard then (client, .failed (wildcardPath path))
  else
    match client.enroll path with
    | (client, .refused pending capacity) => (client, .failed (.tooManyPending pending capacity))
    | (client, .exhausted) => (client, .exhausted)
    | (client, .admitted entry) =>
        let issued : Issued := ⟨entry, data, client.token⟩
        let client := { client with issued := client.issued ++ [issued] }
        let (client, sent) := client.send issued.request
        if !sent && client.options.pendingPolicy = .fail then
          (client.depart entry.ticket entry.id (some (.error .connectionClosed)),
           .failed .connectionClosed)
        else
          let awaited : Awaited := ⟨entry.ticket, entry.id, limit⟩
          ({ client with awaited := client.awaited ++ [awaited] }, .waiting awaited)

/-- The outcome that the end of a call gives its caller. -/
def outcomeOf : CallEnd → Outcome
  | .resolved outcome => outcome
  | .closed => .error .channelClosed

/-- The call of a ticket, if its caller still waits. -/
def awaited? (ticket : Nat) (client : Client κ ω) : Option Awaited :=
  client.awaited.find? (fun awaited => awaited.ticket = ticket)

/-- The client after a caller was told how its call ended, if it has, and the outcome. -/
def conclude (ticket : Nat) (client : Client κ ω) : Client κ ω × Option Outcome :=
  match client.awaited? ticket, client.calls.ending? ticket with
  | some awaited, some ending =>
      (client.depart ticket awaited.id (some (outcomeOf ending)), some (outcomeOf ending))
  | _, _ => (client, none)

/-- The client after the callers of calls were told how these ended, where they have, and the
outcomes by ticket. -/
def concludeAll (client : Client κ ω) : List Nat → Client κ ω × List (Nat × Outcome)
  | [] => (client, [])
  | ticket :: tickets =>
      let (client, outcome) := client.conclude ticket
      let (client, outcomes) := client.concludeAll tickets
      (client, (outcome.toList.map (fun outcome => (ticket, outcome))) ++ outcomes)

/-- The client after every caller whose call has ended was told so, and the outcomes by
ticket, oldest call first. -/
def collect (client : Client κ ω) : Client κ ω × List (Nat × Outcome) :=
  client.concludeAll (client.awaited.map (·.ticket))

/-- The failure of a call whose deadline has passed. -/
def deadlineError (id : CorrelationId) (limit : Span) : ClientError :=
  .requestTimeout id limit.millis

/-- What the caller of a call is told when its deadline passes; nothing if it has none. -/
def deadlineOutcome (awaited : Awaited) : Option Outcome :=
  awaited.limit.map (fun limit => .error (deadlineError awaited.id limit))

/-- The client after the deadline of a call passed, and what its caller is told: a call that
has ended keeps its outcome, one without deadline has none. -/
def expire (ticket : Nat) (client : Client κ ω) : Client κ ω × Option Outcome :=
  match client.awaited? ticket, client.calls.ending? ticket with
  | some awaited, none =>
      match deadlineOutcome awaited with
      | some outcome => (client.depart ticket awaited.id (some outcome), some outcome)
      | none => (client, none)
  | _, _ => (client, none)

/-- The client after a caller went away, and whether it was waiting. -/
def abandon (ticket : Nat) (client : Client κ ω) : Client κ ω × Bool :=
  match client.awaited? ticket with
  | some awaited => (client.depart ticket awaited.id none, true)
  | none => (client, false)

/-- The client after a call was cancelled, and whether it was waiting. -/
def cancel (id : CorrelationId) (client : Client κ ω) : Client κ ω × Bool :=
  let (calls, found) := client.calls.reject id (.cancelled id)
  ((({ client with calls } : Client κ ω).discard id).1, found)

/-- The client with a token for its later requests, or without. -/
def setToken (token : Option Json) (client : Client κ ω) : Client κ ω := { client with token }

theorem call_wildcard (path : Topic) (data : Json) (limit : Option Span) (client : Client κ ω)
    (nonempty : path.isEmpty = false) (wild : path.hasWildcard = true) :
    client.call path data limit = (client, .failed (wildcardPath path)) := by
  simp [call, nonempty, wild]

theorem deadlineError_isTimeout (id : CorrelationId) (limit : Span) :
    (deadlineError id limit).isTimeout = true := rfl

end Switchboard.Client
