/-
# Switchboard.Link -- the connection to the server

A link is driven through phases: an attempt is made, an open socket settles, a
session runs until it ends, and after a wait the next attempt follows.  A session
begins with a prologue: every topic is announced, then the requests in the backlog
are written.  During a session frames are handed to its channel, from which they
are written once the prologue is over; requests made while there is none may wait
in the backlog.  The link keeps what has been written, session by session, and how
many more writes the socket takes.

* `Link.write_closed`: a socket that takes no more writes writes nothing;
* `Link.write_open`: any other appends the frame to the current session.
-/
import Switchboard.Backoff
import Switchboard.Endpoint
import Switchboard.Outbound

namespace Switchboard

set_option autoImplicit false

/-- What drives a link, and how far it has come. -/
inductive Phase where
  /-- Nothing drives the link. -/
  | idle
  /-- A driver has been started and has not run yet. -/
  | starting
  /-- An attempt to connect is being made. -/
  | attempting
  /-- A socket is open and left alone for a while. -/
  | settling
  | live
  /-- The driver waits before the next attempt. -/
  | waiting
deriving DecidableEq

/-- What a session still has to write before the frames of its channel. -/
inductive Prologue where
  /-- The topics have not been read yet. -/
  | unread
  /-- These topics, then the backlog. -/
  | announcing (left : List Topic)
  /-- These requests from the backlog. -/
  | flushing (left : List Outbound)
  /-- Nothing; so it is also without a session. -/
  | complete

/-- A frame that has been written. -/
structure Sent where
  session : Nat
  frame : Outbound

/-- The connection to the server. -/
structure Link where
  phase : Phase := .idle
  endpoint : Option Endpoint := none
  backoff : Backoff
  delay : Span := Span.zero
  /-- What the current session still has to write before the frames of its channel. -/
  prologue : Prologue := .complete
  /-- The frames handed to the current session and not yet written; none without a session. -/
  channel : Option (List Outbound) := none
  /-- The requests that wait for a session. -/
  backlog : List Outbound := []
  sessions : Nat := 0
  /-- How many more writes the socket takes; none if there is no limit. -/
  room : Option Nat := none
  /-- What has been written, in order. -/
  written : List Sent := []

namespace Link

/-- Whether something drives the link. -/
def isRunning (link : Link) : Bool := link.phase ≠ .idle

/-- The link whose current session has written a frame. -/
def put (frame : Outbound) (link : Link) : Link :=
  { link with
    room := link.room.map (· - 1)
    written := link.written ++ [⟨link.sessions, frame⟩] }

/-- The link after an attempt to write a frame, and whether it was written. -/
def write (link : Link) (frame : Outbound) : Link × Bool :=
  if link.room = some 0 then (link, false) else (link.put frame, true)

/-- The link without the queued requests of a call. -/
def discard (link : Link) (id : CorrelationId) : Link × Bool :=
  let backlog := link.backlog.filter (fun frame => frame.requestId ≠ some id)
  ({ link with backlog }, backlog.length != link.backlog.length)

theorem write_closed (link : Link) (frame : Outbound) (full : link.room = some 0) :
    link.write frame = (link, false) := by
  simp [write, full]

theorem write_open (link : Link) (frame : Outbound) (unlimited : link.room = none) :
    (link.write frame).1.written = link.written ++ [⟨link.sessions, frame⟩] := by
  simp [write, put, unlimited]

end Link

end Switchboard
