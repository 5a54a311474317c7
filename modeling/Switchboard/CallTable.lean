/-
# Switchboard.CallTable -- calls that wait for their reply

Registering a call draws an identifier that no waiting call has, and hands out a
ticket, the number of the registration, which stays the call's own even if its
identifier is drawn again.  A waiting call ends once: it is resolved with an
outcome, or closed without one.  The table keeps the waiting calls and how each
ticket ended.

* `CallTable.settle` ends the call of an identifier with what a reply carries,
  `reject` with an error, `remove` without outcome; each says whether the call
  was waiting;
* `CallTable.rejectAll` ends all of them;
* `CallTable.snapshot` shows the waiting calls by the instants at which they were
  registered.  A registration reads the clock once, so that the reading goes with
  its number (`Clock`).

Statements: `CallTable.length_pending_register`, `CallTable.finish_unknown`,
`CallTable.pending_rejectAll`, `CallTable.snapshot_perm`, `CallTable.snapshot_ascending`.
-/
import Switchboard.ClientError
import Switchboard.Json.Value
import Switchboard.Topic

namespace Switchboard

set_option autoImplicit false

/-- A call that waits for its reply. -/
structure PendingCall where
  /-- The number of its registration. -/
  ticket : Nat
  id : CorrelationId
  path : Topic
deriving DecidableEq

/-- What a call comes to. -/
abbrev Outcome := Except ClientError Json

/-- How a call ended. -/
inductive CallEnd where
  | resolved (outcome : Outcome)
  | closed

/-- Whether a call ended with an outcome. -/
def CallEnd.isResolved : CallEnd → Bool
  | .resolved _ => true
  | .closed => false

/-- What a clock shows: the instant that each registration reads, by its number. -/
abbrev Clock := Nat → Nat

/-- A waiting call as a snapshot shows it. -/
structure CallInfo where
  id : CorrelationId
  path : Topic
  /-- The instant of its registration. -/
  created : Nat
deriving DecidableEq

/-- What a snapshot shows of a waiting call. -/
def PendingCall.info (clock : Clock) (call : PendingCall) : CallInfo :=
  ⟨call.id, call.path, clock call.ticket⟩

/-- Calls that wait for their reply, and how the others ended. -/
structure CallTable where
  capacity : Nat
  /-- The waiting calls, in the order of their registration.  They are kept by identifier, in an
  order that is nobody's concern (`CallTable.snapshot`). -/
  pending : List PendingCall := []
  registrations : Nat := 0
  /-- How the calls that no longer wait ended, latest first. -/
  endings : List (Nat × CallEnd) := []

/-- What registering a call did. -/
inductive Admission where
  /-- As many calls wait as may. -/
  | refused (pending capacity : Nat)
  /-- Every candidate for the identifier names a waiting call. -/
  | exhausted
  | admitted (call : PendingCall)
deriving DecidableEq

namespace CallTable

/-- How many calls wait. -/
def size (table : CallTable) : Nat := table.pending.length

/-- The waiting call of an identifier. -/
def find? (table : CallTable) (id : CorrelationId) : Option PendingCall :=
  table.pending.find? (fun call => call.id = id)

/-- Whether a call of an identifier waits. -/
def contains (table : CallTable) (id : CorrelationId) : Bool := (table.find? id).isSome

/-- How the call of a ticket ended, if it has. -/
def ending? (table : CallTable) (ticket : Nat) : Option CallEnd :=
  (table.endings.find? (fun ending => ending.1 = ticket)).map (·.2)

/-- The first candidate that names no waiting call. -/
def mint? (table : CallTable) (candidates : List CorrelationId) : Option CorrelationId :=
  candidates.find? (fun id => !table.contains id)

/-- The table with one more waiting call, identified by the first fitting candidate. -/
def register (table : CallTable) (candidates : List CorrelationId) (path : Topic) :
    CallTable × Admission :=
  if table.capacity ≤ table.size then (table, .refused table.size table.capacity)
  else
    match table.mint? candidates with
    | none => (table, .exhausted)
    | some id =>
        let call : PendingCall := ⟨table.registrations, id, path⟩
        ({ table with
            pending := table.pending ++ [call]
            registrations := table.registrations + 1 },
         .admitted call)

/-- The table in which the waiting call of an identifier has ended, and whether there was one;
how it ends may depend on the call. -/
def finish (table : CallTable) (id : CorrelationId) (ending : PendingCall → CallEnd) :
    CallTable × Bool :=
  match table.find? id with
  | none => (table, false)
  | some call =>
      ({ table with
          pending := table.pending.filter (fun other => other.id ≠ id)
          endings := (call.ticket, ending call) :: table.endings },
       true)

/-- What a reply to a call means: a refusal names the call's own path. -/
def replyOutcome (reply : Except String Json) (call : PendingCall) : Outcome :=
  match reply with
  | .ok data => .ok data
  | .error message => .error (.remote call.path.wire message)

/-- Ends a call with what a reply carries. -/
def settle (table : CallTable) (id : CorrelationId) (reply : Except String Json) :
    CallTable × Bool :=
  table.finish id (fun call => .resolved (replyOutcome reply call))

/-- Ends a call with an error. -/
def reject (table : CallTable) (id : CorrelationId) (error : ClientError) : CallTable × Bool :=
  table.finish id (fun _ => .resolved (.error error))

/-- Ends a call without outcome. -/
def remove (table : CallTable) (id : CorrelationId) : CallTable × Bool :=
  table.finish id (fun _ => .closed)

/-- Ends every waiting call with an error, and says how many there were. -/
def rejectAll (table : CallTable) (error : ClientError) : CallTable × Nat :=
  ({ table with
      pending := []
      endings :=
        table.pending.map (fun call => (call.ticket, .resolved (.error error))) ++ table.endings },
   table.size)

/-- What is shown of the waiting calls: `visit` is the order in which a pass over the table meets
them, and those that were registered at one instant stay in that order. -/
def snapshot (table : CallTable) (clock : Clock) (visit : List PendingCall → List PendingCall) :
    List CallInfo :=
  ((visit table.pending).map (PendingCall.info clock)).mergeSort
    (fun first second => first.created ≤ second.created)

theorem finish_unknown (table : CallTable) (id : CorrelationId) (ending : PendingCall → CallEnd)
    (absent : table.contains id = false) : table.finish id ending = (table, false) := by
  have nothing : table.find? id = none := by simpa [contains] using absent
  simp [finish, nothing]

theorem length_pending_register (table : CallTable) (candidates : List CorrelationId)
    (path : Topic) : (table.register candidates path).1.size ≤ max table.size table.capacity := by
  unfold register
  split
  · exact Nat.le_max_left _ _
  · split
    · exact Nat.le_max_left _ _
    · simp only [size, List.length_append, List.length_singleton] at *
      omega

theorem pending_rejectAll (table : CallTable) (error : ClientError) :
    (table.rejectAll error).1.pending = [] ∧ (table.rejectAll error).2 = table.size := ⟨rfl, rfl⟩

section Snapshot

variable (table : CallTable) (clock : Clock) {visit : List PendingCall → List PendingCall}

/-- However a pass goes, a snapshot shows each waiting call, once. -/
theorem snapshot_perm (all : ∀ calls, (visit calls).Perm calls) :
    (table.snapshot clock visit).Perm (table.pending.map (PendingCall.info clock)) :=
  (List.mergeSort_perm _ _).trans ((all table.pending).map _)

/-- A snapshot goes from the oldest call to the latest. -/
theorem snapshot_ascending :
    (table.snapshot clock visit).Pairwise (fun first second => first.created ≤ second.created) := by
  have transitive : ∀ first second third : CallInfo,
      decide (first.created ≤ second.created) = true →
      decide (second.created ≤ third.created) = true →
      decide (first.created ≤ third.created) = true := by
    intro first second third
    simp only [decide_eq_true_eq]
    exact Nat.le_trans
  have total : ∀ first second : CallInfo, (decide (first.created ≤ second.created) ||
      decide (second.created ≤ first.created)) = true := by
    intro first second
    simp only [Bool.or_eq_true, decide_eq_true_eq]
    exact Nat.le_total _ _
  have sorted := List.pairwise_mergeSort transitive total
    ((visit table.pending).map (PendingCall.info clock))
  simpa [snapshot] using sorted

end Snapshot

end CallTable

end Switchboard
