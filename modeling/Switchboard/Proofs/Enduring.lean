/-
# Switchboard.Proofs.Enduring -- what the driver's work keeps

Some of what relates a client to what has become of it may be said of any two moments, whatever
state the client is in at the first.  Then it is enough to look at what the driver does at once, and
at callbacks (`Client.Endures`): what each of these keeps, everything keeps that the driver does.

* `Endures.endSession`, `Endures.attemptFailed`: the end of a session and of an attempt;
* `Endures.proceed`, `Endures.emit`: the steps of a session;
* `Endures.stop`, `Endures.close`: the end of the driver.
-/
import Switchboard.Proofs.Paths

namespace Switchboard.Client

set_option autoImplicit false

variable {κ ω : Type} {behave : Behaviour κ ω}

/-- Whatever the driver does at once, and each callback, keeps a client so related to what it was. -/
structure Endures (behave : Behaviour κ ω) (related : Client κ ω → Client κ ω → Prop) : Prop where
  refl : ∀ client, related client client
  trans : ∀ {before middle after}, related before middle → related middle after →
    related before after
  callback : ∀ callback signal client, related client (behave callback signal client).1
  moveTo : ∀ state client, related client (client.moveTo state)
  /-- The link changes, but for its channel, and its backlog may go. -/
  link : ∀ client (link : Link), link.channel = client.link.channel →
    link.backlog = client.link.backlog ∨ link.backlog = [] → related client { client with link }
  /-- A frame is taken from the channel. -/
  taken : ∀ {client frame queue}, client.link.channel = some (frame :: queue) →
    related client (client.setChannel queue)
  unplugged : ∀ client, related client client.unplugged
  hold : ∀ frame client, related client (client.hold frame).1
  failAll : ∀ client, related client (client.rejectAll .connectionClosed).1

namespace Endures

variable {related : Client κ ω → Client κ ω → Prop} (endures : Endures behave related)
include endures

theorem notifyAll (signal : Signal) (client : Client κ ω) (entries : List (HandleId × κ)) :
    related client (Client.notifyAll behave signal client entries) := by
  induction entries generalizing client with
  | nil => exact endures.refl client
  | cons entry entries ih => exact endures.trans (endures.callback entry.2 signal client) (ih _)

theorem transition (next : LinkState) (client : Client κ ω) :
    related client (client.transition behave next).1 := by
  have moved := endures.moveTo next client
  unfold Client.transition
  split
  · exact moved
  · exact endures.trans moved (endures.notifyAll _ _ _)

theorem holdAll (left : List Outbound) (client : Client κ ω) :
    related client (client.holdAll left) := by
  induction left generalizing client with
  | nil => exact endures.refl client
  | cons frame left ih => exact endures.trans (endures.hold frame client) (ih _)

/-! ## The end of a session or an attempt -/

theorem wentDown (why : SessionEnd) (client : Client κ ω) :
    related client (client.wentDown behave why) := by
  have told := endures.transition .disconnected client
  unfold Client.wentDown
  split <;> rename_i result <;> rw [result] at told
  · exact told
  · split
    · exact endures.trans told (endures.failAll _)
    · exact told

theorem enter (phase : Phase) (client : Client κ ω) : related client (client.enter phase) :=
  endures.link client _ rfl (.inl rfl)

theorem awaitRetry (client : Client κ ω) : related client client.awaitRetry :=
  endures.link client _ rfl (.inl rfl)

theorem attemptFailed (client : Client κ ω) : related client (client.attemptFailed behave) :=
  endures.trans (endures.wentDown .dropped client) (endures.awaitRetry _)

theorem endSession (why : SessionEnd) (client : Client κ ω) :
    related client (client.endSession behave why) := by
  have detached : related client client.detach :=
    endures.trans (endures.unplugged client) (endures.holdAll _ _)
  have down := endures.trans detached (endures.wentDown why _)
  unfold Client.endSession
  cases why with
  | dropped => exact endures.trans down (endures.awaitRetry _)
  | stopped => exact endures.trans down (endures.enter .idle _)

/-! ## A session -/

theorem write (frame : Outbound) (client : Client κ ω) :
    related client (client.write behave frame) := by
  rcases client.write_cases behave frame with ⟨-, wrote⟩ | ⟨-, ended⟩
  · exact wrote ▸ endures.link client _ rfl (.inl rfl)
  · exact ended ▸ endures.endSession .dropped client

theorem proceed (client : Client κ ω) : related client (client.proceed behave) := by
  have begun : ∀ prologue, related client (client.setPrologue prologue) :=
    fun _ => endures.link client _ rfl (.inl rfl)
  unfold Client.proceed
  split
  · exact begun _
  · exact endures.trans (begun _) (endures.write _ _)
  · exact endures.link client _ rfl (.inr rfl)
  · exact endures.trans (begun _) (endures.write _ _)
  · exact begun _
  · exact endures.refl client

theorem finish (client : Client κ ω) : related client (client.finish behave) := by
  unfold Client.finish
  generalize client.prologueSteps = steps
  induction steps generalizing client with
  | zero => exact endures.refl client
  | succ steps ih => exact endures.trans (endures.proceed client) (ih _)

theorem emit (client : Client κ ω) : related client (client.emit behave) := by
  unfold Client.emit
  split
  · rename_i channel
    exact endures.trans (endures.taken channel) (endures.write _ _)
  · exact endures.refl client

/-! ## The end of the driver -/

theorem stop (client : Client κ ω) : related client (client.stop behave) := by
  have finished := endures.finish client
  unfold Client.stop
  dsimp only
  split
  · exact finished
  · exact endures.trans finished (endures.endSession .stopped _)
  · have down := endures.trans finished (endures.wentDown .stopped _)
    exact endures.trans down (endures.enter .idle _)

theorem close (client : Client κ ω) : related client (client.close behave) := by
  have cleared : related client { client.stop behave with
      link := { (client.stop behave).link with backlog := [] } } :=
    endures.trans (endures.stop client) (endures.link _ _ rfl (.inr rfl))
  have down := endures.trans cleared (endures.transition .disconnected _)
  exact endures.trans down (endures.failAll _)

end Endures

end Switchboard.Client
