/-
# Switchboard.Proofs.Endings -- a call that has ended stays ended

Whatever is done to a client, its table stays sound (`Path.calls_sound`): every call that
was registered waits or has ended, once.  So a call that waits now waits later or has
ended then (`Path.waits_or_ended`), and one that has ended has ended in that way only, in
the whole of what follows (`ended_run`).  None of this asks where identifiers come from.

When a link goes down its observers are told first (`Client.Tells`).  If the calls that
wait then fail, each call that waited before ends once (`Tells.ends_once`): its connection
was closed, unless an observer has ended it, as one may (`retracting`).
-/
import Switchboard.Proofs.CallVerdicts
import Switchboard.Proofs.Teardown

namespace Switchboard

set_option autoImplicit false

/-- In a list with distinct keys an entry is the only one of its key. -/
theorem filter_key_eq_singleton {α β : Type} [DecidableEq β] (key : α → β) {entries : List α}
    (nodup : (entries.map key).Nodup) {entry : α} (member : entry ∈ entries) :
    entries.filter (fun other => key other = key entry) = [entry] := by
  induction entries with
  | nil => simp at member
  | cons first rest ih =>
      obtain ⟨fresh, nodup⟩ := List.nodup_cons.1 nodup
      rcases List.mem_cons.1 member with rfl | later
      · have none : rest.filter (fun other => key other = key entry) = [] := by
          rw [List.filter_eq_nil_iff]
          intro other inside same
          exact fresh (of_decide_eq_true same ▸ List.mem_map_of_mem inside)
        rw [List.filter_cons_of_pos (by simp), none]
      · have other : key first ≠ key entry := fun same => fresh (same ▸ List.mem_map_of_mem later)
        rw [List.filter_cons_of_neg (by simpa using other), ih nodup later]

/-- A call ends once. -/
theorem CallTable.Sound.endings_of {table : CallTable} (sound : table.Sound) {ticket : Nat}
    {ending : CallEnd} (ended : (ticket, ending) ∈ table.endings) :
    table.endings.filter (fun other => other.1 = ticket) = [(ticket, ending)] :=
  filter_key_eq_singleton Prod.fst (List.nodup_append.1 sound.nodup_tickets).2.1 ended

namespace Client

variable {κ ω : Type} {licence : Licence κ ω} {behave : Behaviour κ ω} {client after : Client κ ω}

/-! ## Moves -/

/-- A call that was registered waits, or has ended. -/
def Settles (client : Client κ ω) (call : PendingCall) : Prop :=
  ∃ condition, client.calls.Stands call condition

theorem calls_sound_move (sound : client.calls.Sound) {move : Move κ ω}
    (fits : move.Fits licence client) : (move.apply client).calls.Sound := by
  have booked : ∀ {issued : Issued}, (client.book issued).calls.Sound :=
    sound.register client.candidates _
  cases move with
  | aside act => exact (perform_bystander fits.2 client).calls.symm ▸ sound
  | call issued limit =>
      rw [Move.apply, handOver_calls]
      exact booked
  | unsent issued => exact booked.finish issued.call.id _
  | cancel id | settle id reply => exact sound.finish id _
  | depart awaited farewell => exact sound.finish awaited.id _
  | failAll | clear => exact sound.rejectAll _
  | detach queue =>
      rw [apply_detach]
      exact sound
  | _ => exact sound

/-- A call that has ended or waits does so still after a move. -/
theorem settles_move (sound : client.calls.Sound) {move : Move κ ω}
    (fits : move.Fits licence client) {call : PendingCall} (settles : client.Settles call) :
    (move.apply client).Settles call := by
  obtain ⟨_ | ending, stands⟩ := settles
  · -- a call that waits
    have waits : call ∈ client.calls.pending := stands
    have finishes : ∀ (id : CorrelationId) (ending : PendingCall → CallEnd),
        ∃ condition, (client.calls.finish id ending).1.Stands call condition :=
      fun id ending => ⟨_, CallTable.stands_finish sound stands id ending⟩
    have fails : ∀ error, (client.calls.rejectAll error).1.Stands call
        (some (.resolved (.error error))) := fun error =>
      List.mem_append_left _ (List.mem_map.2 ⟨call, waits, rfl⟩)
    cases move with
    | aside act =>
        refine ⟨none, ?_⟩
        rw [Move.apply, (perform_bystander fits.2 client).calls]
        exact waits
    | call issued limit =>
        refine ⟨none, ?_⟩
        rw [Move.apply, handOver_calls, CallTable.Stands, fits.2.pending]
        exact List.mem_append_left _ waits
    | unsent issued =>
        have still : (client.book issued).calls.Stands call none := by
          rw [CallTable.Stands, fits.1.pending]
          exact List.mem_append_left _ waits
        exact ⟨_, CallTable.stands_finish (sound.register client.candidates _) still
          issued.call.id _⟩
    | cancel id | settle id reply => exact finishes id _
    | depart awaited farewell => exact finishes awaited.id _
    | failAll | clear => exact ⟨_, fails _⟩
    | detach queue =>
        rw [apply_detach]
        exact ⟨none, waits⟩
    | _ => exact ⟨none, waits⟩
  · exact ⟨some ending, endings_move fits stands⟩

/-! ## Paths and runs -/

namespace Path

variable {first last : Client κ ω} {moves : List (Move κ ω)}

theorem calls_sound (path : first.Path licence moves last) (sound : first.calls.Sound) :
    last.calls.Sound := by
  induction path with
  | still => exact sound
  | move _ _ fits ih => exact calls_sound_move ih fits

theorem endings_subset (path : first.Path licence moves last) :
    first.calls.endings ⊆ last.calls.endings := by
  induction path with
  | still => exact List.Subset.refl _
  | move _ _ fits ih => exact List.Subset.trans ih (endings_move fits)

/-- **A call that waits now waits later, or has ended then.** -/
theorem waits_or_ended (path : first.Path licence moves last) (sound : first.calls.Sound)
    {call : PendingCall} (waits : call ∈ first.calls.pending) :
    call ∈ last.calls.pending ∨ ∃ ending, (call.ticket, ending) ∈ last.calls.endings := by
  have settles : last.Settles call := by
    induction path with
    | still => exact ⟨none, waits⟩
    | move path _ fits ih => exact settles_move (path.calls_sound sound) fits ih
  obtain ⟨_ | ending, stands⟩ := settles
  · exact .inl stands
  · exact .inr ⟨ending, stands⟩

end Path

/-- **What has ended has ended in that way only**, whatever comes. -/
theorem ended_run (within : behave.Within fun _ => True) (poised : client.Poised)
    (sound : client.calls.Sound) {ticket : Nat} {ending : CallEnd}
    (ended : (ticket, ending) ∈ client.calls.endings) (later : List (Event κ ω)) :
    (client.run behave later).calls.endings.filter (fun other => other.1 = ticket) =
      [(ticket, ending)] := by
  have free : behave.Within Licence.free.act := within
  obtain ⟨moves, path⟩ := (run_arrives free poised
    fun event (_ : event ∈ later) => within_free event).reaches
  exact (path.calls_sound sound).endings_of (path.endings_subset ended)

/-- Callbacks that are told something leave a call waiting, or have ended it. -/
theorem waits_or_ended_notifyAll (within : behave.Within fun _ => True)
    (sound : client.calls.Sound) (signal : Signal) (entries : List (HandleId × κ))
    {call : PendingCall} (waits : call ∈ client.calls.pending) :
    call ∈ (notifyAll behave signal client entries).calls.pending ∨
      ∃ ending, (call.ticket, ending) ∈
        (notifyAll behave signal client entries).calls.endings := by
  have free : behave.Within Licence.free.act := within
  obtain ⟨moves, path⟩ := (notifyAll_acted free signal client entries).reaches
  exact path.waits_or_ended sound waits

/-- Callbacks that leave calls alone leave them as they are, and their queued requests too. -/
theorem notifyAll_aside (leaves : behave.Within fun act => act.isAside = true) (signal : Signal)
    (client : Client κ ω) (entries : List (HandleId × κ)) :
    (notifyAll behave signal client entries).calls = client.calls ∧
      (notifyAll behave signal client entries).link.backlog = client.link.backlog := by
  have acts : ∀ {acts : List (Act κ ω)}, (∀ act ∈ acts, act.isAside = true) →
      ∀ client : Client κ ω, (client.performAll acts).calls = client.calls ∧
        (client.performAll acts).link.backlog = client.link.backlog := by
    intro acts aside
    induction acts with
    | nil => exact fun _ => ⟨rfl, rfl⟩
    | cons act acts ih =>
        intro client
        have bystander := perform_bystander (aside act List.mem_cons_self) client
        obtain ⟨calls, backlog⟩ :=
          ih (fun other member => aside other (List.mem_cons_of_mem _ member)) (act.perform client)
        exact ⟨calls.trans bystander.calls, backlog.trans bystander.backlog⟩
  induction entries generalizing client with
  | nil => exact ⟨rfl, rfl⟩
  | cons entry entries ih =>
      obtain ⟨deeds, aside, does⟩ := leaves entry.2 signal client
      have told : (notify behave entry.2 signal client).calls = client.calls ∧
          (notify behave entry.2 signal client).link.backlog = client.link.backlog := by
        rw [notify, does]
        exact acts aside client
      exact ⟨(ih _).1.trans told.1, (ih _).2.trans told.2⟩

theorem calls_sound_run (within : behave.Within fun _ => True) (options : Options)
    (token : Option Json) (candidate : Nat → CorrelationId) (desk : ω)
    (events : List (Event κ ω)) :
    (run behave events (start options token candidate desk)).calls.Sound := by
  have free : behave.Within Licence.free.act := within
  obtain ⟨moves, path⟩ := run_path free
    (fun event (_ : event ∈ events) => within_free event) options token candidate desk
  exact path.calls_sound (CallTable.sound_empty _)

/-! ## A link that goes down -/

/-- The link has gone down, and the observers have been told if it was up. -/
def Tells (behave : Behaviour κ ω) (client told : Client κ ω) : Prop :=
  ∃ quiet, client.Muted quiet ∧ told = client.informed behave quiet

namespace Tells

variable {told : Client κ ω} (tells : client.Tells behave told)
include tells

/-- A call that waited waits until the observers have been told, or one of them has ended it. -/
theorem waits_or_ended (within : behave.Within fun _ => True) (sound : client.calls.Sound)
    {call : PendingCall} (waits : call ∈ client.calls.pending) :
    call ∈ told.calls.pending ∨ ∃ ending, (call.ticket, ending) ∈ told.calls.endings := by
  obtain ⟨quiet, muted, rfl⟩ := tells
  rw [← muted.calls] at sound waits
  unfold informed
  split
  · exact waits_or_ended_notifyAll within sound _ _ waits
  · exact .inl waits

/-- Where nobody is told, and where observers leave calls alone, the calls are as they were. -/
theorem calls (leaves : client.isAlive = false ∨ behave.Within fun act => act.isAside = true) :
    told.calls = client.calls := by
  obtain ⟨quiet, muted, rfl⟩ := tells
  unfold informed
  split
  · rename_i up
    rcases leaves with down | leaves
    · simp [down] at up
    · exact (notifyAll_aside leaves _ _ _).1.trans muted.calls
  · exact muted.calls

/-- A call that waited and has ended when the observers have been told was ended by one of them. -/
theorem of_ended (sound : client.calls.Sound) {call : PendingCall} {ending : CallEnd}
    (waits : call ∈ client.calls.pending) (ended : (call.ticket, ending) ∈ told.calls.endings) :
    client.isAlive = true ∧ ¬ behave.Within fun act => act.isAside = true := by
  -- it cannot both wait and have ended before
  have changed : told.calls ≠ client.calls := by
    intro same
    rw [same] at ended
    exact List.disjoint_of_nodup_append sound.nodup_tickets
      (List.mem_map_of_mem (f := (·.ticket)) waits) (List.mem_map_of_mem (f := (·.1)) ended)
  constructor
  · by_contra down
    exact changed (tells.calls (.inl (by simpa using down)))
  · exact fun leaves => changed (tells.calls (.inr leaves))

/-- **A call that waits when the link goes down and all fail ends once**: its connection was closed.
Only an observer may have ended it otherwise, when it was told. -/
theorem ends_once (within : behave.Within fun _ => True) (sound : client.calls.Sound)
    (poised : after.Poised) (afterSound : after.calls.Sound)
    (fails : after.calls = (told.calls.rejectAll .connectionClosed).1)
    {call : PendingCall} (waits : call ∈ client.calls.pending) :
    ∃ ending,
      (∀ later, (after.run behave later).calls.endings.filter
        (fun other => other.1 = call.ticket) = [(call.ticket, ending)]) ∧
      (ending = .resolved (.error .connectionClosed) ∨
        (call.ticket, ending) ∈ told.calls.endings ∧ client.isAlive = true ∧
          ¬ behave.Within fun act => act.isAside = true) := by
  rcases tells.waits_or_ended within sound waits with still | ⟨ending, ended⟩
  · refine ⟨_, ended_run within poised afterSound ?_, .inl rfl⟩
    rw [fails]
    exact List.mem_append_left _ (List.mem_map.2 ⟨call, still, rfl⟩)
  · refine ⟨ending, ended_run within poised afterSound ?_,
      .inr ⟨ended, tells.of_ended sound waits ended⟩⟩
    rw [fails]
    exact List.mem_append_right _ ended

end Tells

/-- An observer that cancels a call when it is told that the link is down. -/
def retracting (id : CorrelationId) : Behaviour Unit Unit := fun _ signal client =>
  match signal with
  | .alive false => ((client.cancel id).1, .returned)
  | _ => (client, .returned)

theorem retracting_within (id : CorrelationId) : (retracting id).Within fun _ => True := by
  intro callback signal client
  unfold retracting
  split
  · exact ⟨[.cancel id], by simp, rfl⟩
  · exact ⟨[], by simp, rfl⟩

end Client

end Switchboard
