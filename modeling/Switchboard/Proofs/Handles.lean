/-
# Switchboard.Proofs.Handles -- one namespace of handles, each released once

Observers and handlers are kept apart, but their handles are drawn from one counter, and
one operation releases both.  Along a path each move says which handle it draws
(`Move.mints`) and which it finds and releases (`Move.frees`).  What carries the argument
is a conservation: the handles that were released, those of the observers and those of the
handlers are together exactly those that were drawn, each as often
(`Path.conserved`).  As drawn handles are distinct, the rest is counting.

* `unsubscribe_takes`: what releasing a handle takes out, and that it takes out nothing else;
* `Move.conserves`: what one move does to the conservation;
* `handles_released_once`: the whole of it, at every point of every run.
-/
import Mathlib
import Switchboard.Proofs.Paths
import Switchboard.Proofs.Roll

namespace Switchboard.Client

set_option autoImplicit false

variable {κ ω : Type} {licence : Licence κ ω} {client after : Client κ ω}

/-! ## Registered handles -/

/-- A handle is registered, as that of an observer or of a handler. -/
def Holds (handle : HandleId) (client : Client κ ω) : Prop :=
  handle ∈ client.connectivity.observers.map (·.1) ∨ client.subscriptions.contains handle = true

instance (handle : HandleId) (client : Client κ ω) : Decidable (client.Holds handle) :=
  inferInstanceAs (Decidable (_ ∨ _))

/-- The handles of the observers, and those of a list of registrations. -/
def held (roll : List (Registration κ)) (client : Client κ ω) : List HandleId :=
  client.connectivity.observers.map (·.1) ++ roll.map (·.handle)

theorem mem_held_iff {roll : List (Registration κ)} (lists : client.subscriptions.Lists roll)
    (handle : HandleId) : handle ∈ client.held roll ↔ client.Holds handle := by
  rw [held, List.mem_append, Holds, lists.contains_iff]
  simp

/-- Nothing changed about who is registered. -/
structure Steady (before after : Client κ ω) : Prop where
  subscriptions : after.subscriptions = before.subscriptions
  observers : after.connectivity.observers = before.connectivity.observers
  handlesDrawn : after.handlesDrawn = before.handlesDrawn

theorem send_steady (client : Client κ ω) (frame : Outbound) :
    client.Steady (client.send frame).1 := by
  obtain ⟨channel, backlog, sent, -⟩ := client.send_link frame
  exact sent ▸ ⟨rfl, rfl, rfl⟩

/-! ## What an act does -/

/-- A subscription is refused, or it registers a handler under the next handle. -/
theorem subscribe_cases (topic : Topic) (callback : κ) (client : Client κ ω) :
    client.subscribe topic callback = (client, .error emptyTopic) ∨
      (client.subscribe topic callback).2 = .ok (HandleId.nth client.handlesDrawn) ∧
        (client.register topic callback).1.Steady (client.subscribe topic callback).1 := by
  unfold subscribe announce
  split
  · exact .inl rfl
  · refine .inr ⟨rfl, ?_⟩
    dsimp only
    split
    · split
      · exact send_steady _ _
      · exact ⟨rfl, rfl, rfl⟩
    · exact ⟨rfl, rfl, rfl⟩

theorem unobserve_found_iff (handle : HandleId) (client : Client κ ω) :
    (client.unobserve handle).2 = true ↔
      handle ∈ client.connectivity.observers.map (·.1) := by
  have fewer : (client.unobserve handle).2 = true ↔
      (client.connectivity.observers.filter (fun entry => entry.1 ≠ handle)).length ≠
        client.connectivity.observers.length := bne_iff_ne
  rw [fewer, ne_eq, List.length_filter_eq_length_iff]
  simp

theorem release_unknown_iff (handle : HandleId) (client : Client κ ω) :
    (client.release handle).2 = .unknown ↔ client.subscriptions.contains handle = false := by
  unfold release Subscriptions.unsubscribe Subscriptions.contains
  cases client.subscriptions.topicOf handle with
  | none => simp
  | some topic =>
      dsimp only
      split <;> simp

/-- An observer is found, and no handler is looked for. -/
theorem unsubscribe_observed {handle : HandleId}
    (observed : handle ∈ client.connectivity.observers.map (·.1)) :
    client.unsubscribe handle = ((client.unobserve handle).1, true) := by
  have found := (client.unobserve_found_iff handle).2 observed
  rcases result : client.unobserve handle with ⟨other, _⟩
  rw [result] at found
  simp only at found
  simp [unsubscribe, result, found]

/-- Without an observer the handler is released, if there is one. -/
theorem unsubscribe_unobserved {handle : HandleId}
    (unobserved : handle ∉ client.connectivity.observers.map (·.1)) :
    (client.unsubscribe handle).2 = client.subscriptions.contains handle ∧
      ((client.unobserve handle).1.release handle).1.Steady (client.unsubscribe handle).1 := by
  have missing := mt (client.unobserve_found_iff handle).1 unobserved
  have same : (client.unobserve handle).1.subscriptions = client.subscriptions := rfl
  rcases result : client.unobserve handle with ⟨other, found⟩
  rw [result] at missing same
  obtain rfl : found = false := by simpa using missing
  have unknown := other.release_unknown_iff handle
  rw [same] at unknown
  rcases removal : other.release handle with ⟨left, did⟩
  rw [removal] at unknown
  simp only [unsubscribe, result, removal]
  cases did with
  | unknown => exact ⟨(unknown.1 rfl).symm, rfl, rfl, rfl⟩
  | removed => exact ⟨by simpa using unknown, rfl, rfl, rfl⟩
  | lastForTopic topic =>
      refine ⟨by simpa using unknown, ?_⟩
      dsimp only
      unfold withdraw
      split
      · exact send_steady _ _
      · exact ⟨rfl, rfl, rfl⟩

/-- What releasing a handle does where no handle is that of an observer and of a handler. -/
theorem unsubscribe_eq {handle : HandleId}
    (apart : handle ∈ client.connectivity.observers.map (·.1) →
      client.subscriptions.contains handle = false) :
    ((client.unsubscribe handle).2 = true ↔ client.Holds handle) ∧
      (client.unsubscribe handle).1.connectivity.observers =
        client.connectivity.observers.filter (fun entry => entry.1 ≠ handle) ∧
      (client.unsubscribe handle).1.subscriptions =
        (client.subscriptions.unsubscribe handle).1 := by
  by_cases observed : handle ∈ client.connectivity.observers.map (·.1)
  · have unknown : client.subscriptions.topicOf handle = none := by
      simpa [Subscriptions.contains] using apart observed
    rw [unsubscribe_observed observed, client.subscriptions.unsubscribe_unknown handle unknown]
    exact ⟨⟨fun _ => .inl observed, fun _ => rfl⟩, rfl, rfl⟩
  · obtain ⟨found, steady⟩ := unsubscribe_unobserved observed
    refine ⟨?_, steady.observers, steady.subscriptions⟩
    rw [found]
    exact ⟨.inr, fun holds => holds.resolve_left observed⟩

theorem unsubscribe_handlesDrawn (handle : HandleId) (client : Client κ ω) :
    (client.unsubscribe handle).1.handlesDrawn = client.handlesDrawn := by
  by_cases observed : handle ∈ client.connectivity.observers.map (·.1)
  · rw [unsubscribe_observed observed]
    rfl
  · exact (unsubscribe_unobserved observed).2.handlesDrawn

/-! ## What a move draws and releases -/

/-- The handle that a move draws, if it draws one. -/
def Move.mints (move : Move κ ω) (client : Client κ ω) : List HandleId :=
  match move with
  | .aside (.subscribe topic callback) => (client.subscribe topic callback).2.toOption.toList
  | .aside (.enlist callback) => [(client.enlist callback).2]
  | _ => []

/-- The handle that a move finds and releases, if it does. -/
def Move.frees (move : Move κ ω) (client : Client κ ω) : List HandleId :=
  match move with
  | .aside (.unsubscribe handle) => if (client.unsubscribe handle).2 then [handle] else []
  | _ => []

/-- What moves have to show, each at its turn. -/
def gathered {α : Type} (shows : Move κ ω → Client κ ω → List α) :
    List (Move κ ω) → Client κ ω → List α
  | [], _ => []
  | move :: moves, client => shows move client ++ gathered shows moves (move.apply client)

/-- The handles that moves draw. -/
def minted (moves : List (Move κ ω)) (client : Client κ ω) : List HandleId :=
  gathered Move.mints moves client

/-- The handles that moves find and release. -/
def released (moves : List (Move κ ω)) (client : Client κ ω) : List HandleId :=
  gathered Move.frees moves client

theorem Path.gathered_append {α : Type} (shows : Move κ ω → Client κ ω → List α)
    {first last : Client κ ω} {moves : List (Move κ ω)} (path : first.Path licence moves last)
    (later : List (Move κ ω)) :
    gathered shows (moves ++ later) first =
      gathered shows moves first ++ gathered shows later last := by
  induction moves generalizing first with
  | nil => rw [path.eq_of_nil]; rfl
  | cons move moves ih =>
      rw [List.cons_append, gathered, gathered, ih path.of_cons.2, List.append_assoc]

/-! ## Conservation -/

theorem map_nth_succ (drawn : Nat) : (List.range (drawn + 1)).map HandleId.nth =
    (List.range drawn).map HandleId.nth ++ [HandleId.nth drawn] := by
  rw [List.range_succ, List.map_append, List.map_singleton]

/-- The drawn handles are, each once, those that were released and those that are registered. -/
structure Conserved (minted released : List HandleId) (roll : List (Registration κ))
    (client : Client κ ω) : Prop where
  lists : client.subscriptions.Lists roll
  drawn : minted = (List.range client.handlesDrawn).map HandleId.nth
  whole : (released ++ client.held roll).Perm minted

namespace Conserved

variable {minted released : List HandleId} {roll : List (Registration κ)}

theorem of_steady (conserved : client.Conserved minted released roll)
    (steady : client.Steady after) : after.Conserved minted released roll where
  lists := steady.subscriptions ▸ conserved.lists
  drawn := steady.handlesDrawn ▸ conserved.drawn
  whole := by
    rw [held, steady.observers]
    exact conserved.whole

theorem nodup_minted (conserved : client.Conserved minted released roll)
    (few : client.handlesDrawn < UInt64.size) : minted.Nodup := by
  rw [conserved.drawn]
  refine List.Nodup.map_on (fun left leftLess right rightLess same => ?_) List.nodup_range
  rw [List.mem_range] at leftLess rightLess
  exact HandleId.nth_injective left right (by omega) (by omega) same

theorem nodup_held (conserved : client.Conserved minted released roll)
    (few : client.handlesDrawn < UInt64.size) : (client.held roll).Nodup :=
  (List.nodup_append.1 (conserved.whole.nodup_iff.2 (conserved.nodup_minted few))).2.1

theorem apart (conserved : client.Conserved minted released roll)
    (few : client.handlesDrawn < UInt64.size) (handle : HandleId)
    (observed : handle ∈ client.connectivity.observers.map (·.1)) :
    client.subscriptions.contains handle = false := by
  by_contra handled
  rw [Bool.not_eq_false, conserved.lists.contains_iff] at handled
  obtain ⟨entry, member, rfl⟩ := handled
  exact (List.nodup_append.1 (conserved.nodup_held few)).2.2 _ observed _
    (List.mem_map_of_mem member) rfl

/-- The next handle is registered for nobody. -/
theorem fresh (conserved : client.Conserved minted released roll)
    (few : client.handlesDrawn + 1 < UInt64.size) :
    HandleId.nth client.handlesDrawn ∉ client.held roll := by
  intro member
  have drawn := conserved.whole.mem_iff.1 (List.mem_append_right released member)
  rw [conserved.drawn] at drawn
  obtain ⟨earlier, less, same⟩ := List.mem_map.1 drawn
  rw [List.mem_range] at less
  exact Nat.ne_of_lt less (HandleId.nth_injective _ _ (by omega) few same)

theorem register (conserved : client.Conserved minted released roll)
    (few : client.handlesDrawn + 1 < UInt64.size) (topic : Topic) (callback : κ) :
    (client.register topic callback).1.Conserved (minted ++ [HandleId.nth client.handlesDrawn])
      released (roll ++ [⟨HandleId.nth client.handlesDrawn, topic, callback⟩]) where
  lists := by
    refine conserved.lists.subscribe (fun entry member same => conserved.fresh few ?_) topic callback
    exact same ▸ List.mem_append_right _ (List.mem_map_of_mem member)
  drawn := by
    rw [conserved.drawn]
    exact (map_nth_succ _).symm
  whole := by
    have split : (client.register topic callback).1.held
        (roll ++ [⟨HandleId.nth client.handlesDrawn, topic, callback⟩]) =
          client.held roll ++ [HandleId.nth client.handlesDrawn] := by
      simp [held, Client.register, drawHandle]
    rw [split, ← List.append_assoc]
    exact conserved.whole.append_right _

theorem enlist (conserved : client.Conserved minted released roll) (callback : κ) :
    (client.enlist callback).1.Conserved (minted ++ [HandleId.nth client.handlesDrawn])
      released roll where
  lists := conserved.lists
  drawn := by
    rw [conserved.drawn]
    exact (map_nth_succ _).symm
  whole := by
    have split : (client.enlist callback).1.held roll =
        client.connectivity.observers.map (·.1) ++ HandleId.nth client.handlesDrawn ::
          roll.map (·.handle) := by
      simp [held, Client.enlist, drawHandle, Connectivity.addObserver]
    rw [split, ← List.append_assoc]
    refine List.perm_middle.trans ?_
    rw [List.append_assoc]
    exact (conserved.whole.cons _).trans (List.perm_append_singleton _ _).symm

/-- Releasing a handle takes it from the registered ones to the released ones. -/
theorem unsubscribe (conserved : client.Conserved minted released roll)
    (few : client.handlesDrawn < UInt64.size) (handle : HandleId) :
    (client.unsubscribe handle).1.Conserved minted
      (released ++ if (client.unsubscribe handle).2 then [handle] else [])
      (roll.filter (fun entry => entry.handle ≠ handle)) := by
  obtain ⟨found, observers, subscriptions⟩ := unsubscribe_eq (conserved.apart few handle)
  refine ⟨subscriptions ▸ conserved.lists.unsubscribe handle,
    client.unsubscribe_handlesDrawn handle ▸ conserved.drawn, ?_⟩
  have left : (client.unsubscribe handle).1.held
      (roll.filter (fun entry => entry.handle ≠ handle)) =
        (client.held roll).filter (fun other => other ≠ handle) := by
    rw [held, observers, held, List.filter_append, List.filter_map, List.filter_map]
    rfl
  rw [left]
  by_cases holds : client.Holds handle
  · have member := (mem_held_iff conserved.lists handle).2 holds
    have taken : (client.held roll).Perm
        (handle :: (client.held roll).filter (fun other => other ≠ handle)) := by
      have erased : (client.held roll).erase handle =
          (client.held roll).filter (fun other => other ≠ handle) := by
        rw [(conserved.nodup_held few).erase_eq_filter]
        exact List.filter_congr fun other _ => Bool.eq_iff_iff.2 (by simp)
      exact erased ▸ List.perm_cons_erase member
    rw [if_pos (found.2 holds), List.append_assoc]
    exact (taken.symm.append_left released).trans conserved.whole
  · have absent := mt (mem_held_iff conserved.lists handle).1 holds
    rw [if_neg (mt found.1 holds), List.append_nil, List.filter_eq_self.2]
    · exact conserved.whole
    · exact fun other member => decide_eq_true fun same => absent (same ▸ member)

/-- A drawn handle was released once if it is no longer registered, and not at all if it is. -/
theorem count_released (conserved : client.Conserved minted released roll)
    (few : client.handlesDrawn < UInt64.size) {handle : HandleId} (drawn : handle ∈ minted) :
    released.count handle = if client.Holds handle then 0 else 1 := by
  have total : released.count handle + (client.held roll).count handle = 1 := by
    rw [← List.count_append, conserved.whole.count_eq]
    exact List.count_eq_one_of_mem (conserved.nodup_minted few) drawn
  have member := mem_held_iff conserved.lists handle
  split
  · rename_i holds
    have once := List.count_eq_one_of_mem (conserved.nodup_held few) (member.2 holds)
    omega
  · rename_i released
    have none := List.count_eq_zero_of_not_mem (mt member.1 released)
    omega

end Conserved

/-! ## Moves -/

/-- What a move does to the registered handles: nothing, or it registers a handler or an observer
under the next handle, or it releases a handle. -/
theorem Move.handle_cases {move : Move κ ω} (fits : move.Fits licence client) :
    (move.mints client = [] ∧ move.frees client = [] ∧ client.Steady (move.apply client)) ∨
      (∃ topic callback, move.mints client = [HandleId.nth client.handlesDrawn] ∧
        move.frees client = [] ∧
        (client.register topic callback).1.Steady (move.apply client)) ∨
      (∃ callback, move = .aside (.enlist callback)) ∨
      ∃ handle, move = .aside (.unsubscribe handle) := by
  cases move with
  | aside act =>
      cases act with
      | subscribe topic callback =>
          rcases client.subscribe_cases topic callback with refused | ⟨answer, steady⟩
          · refine .inl ⟨by simp [mints, refused, Except.toOption], rfl, ?_⟩
            rw [Move.apply, Act.perform, refused]
            exact ⟨rfl, rfl, rfl⟩
          · exact .inr (.inl ⟨topic, callback, by simp [mints, answer, Except.toOption], rfl, steady⟩)
      | unsubscribe handle => exact .inr (.inr (.inr ⟨handle, rfl⟩))
      | enlist callback => exact .inr (.inr (.inl ⟨callback, rfl⟩))
      | setToken | note => exact .inl ⟨rfl, rfl, rfl, rfl, rfl⟩
      | call | cancel | conclude | expire | abandon => simp [Fits, Act.isAside] at fits
  | call issued limit =>
      obtain ⟨channel, backlog, handed⟩ := client.handOver_link issued limit
      refine .inl ⟨rfl, rfl, ?_⟩
      rw [Move.apply, handed]
      exact ⟨rfl, rfl, rfl⟩
  | detach queue =>
      refine .inl ⟨rfl, rfl, ?_⟩
      rw [apply_detach]
      exact ⟨rfl, client.connectivity.observers_moveTo .disconnected, rfl⟩
  | steer phase state endpoint backoff delay =>
      exact .inl ⟨rfl, rfl, rfl, client.connectivity.observers_moveTo state, rfl⟩
  | install room =>
      exact .inl ⟨rfl, rfl, rfl, client.connectivity.observers_moveTo .connected, rfl⟩
  | _ => exact .inl ⟨rfl, rfl, rfl, rfl, rfl⟩

/-- Handles are never given back to be drawn again. -/
theorem Move.handlesDrawn_le {move : Move κ ω} (fits : move.Fits licence client) :
    client.handlesDrawn ≤ (move.apply client).handlesDrawn := by
  rcases move.handle_cases fits with
    ⟨-, -, steady⟩ | ⟨topic, callback, -, -, steady⟩ | ⟨callback, rfl⟩ | ⟨handle, rfl⟩
  · exact Nat.le_of_eq steady.handlesDrawn.symm
  · rw [steady.handlesDrawn]
    exact Nat.le_succ _
  · exact Nat.le_succ _
  · exact Nat.le_of_eq (client.unsubscribe_handlesDrawn handle).symm

/-- **What one move draws and releases is what becomes of the registered handles.** -/
theorem Conserved.move {minted released : List HandleId} {roll : List (Registration κ)}
    (conserved : client.Conserved minted released roll) {move : Move κ ω}
    (fits : move.Fits licence client) (few : (move.apply client).handlesDrawn < UInt64.size) :
    ∃ roll, (move.apply client).Conserved (minted ++ move.mints client)
      (released ++ move.frees client) roll := by
  have fewer := Nat.lt_of_le_of_lt (move.handlesDrawn_le fits) few
  rcases move.handle_cases fits with
    ⟨mints, frees, steady⟩ | ⟨topic, callback, mints, frees, steady⟩ | ⟨callback, rfl⟩ |
      ⟨handle, rfl⟩
  · rw [mints, frees, List.append_nil, List.append_nil]
    exact ⟨roll, conserved.of_steady steady⟩
  · rw [mints, frees, List.append_nil]
    rw [steady.handlesDrawn] at few
    exact ⟨_, (conserved.register few topic callback).of_steady steady⟩
  · exact ⟨roll, (List.append_nil released).symm ▸ conserved.enlist callback⟩
  · exact ⟨_, (List.append_nil minted).symm ▸ conserved.unsubscribe fewer handle⟩

/-- **Along every path the drawn handles are those that were released and those that are
registered**, as long as there are enough handles. -/
theorem Path.conserved {first last : Client κ ω} {moves : List (Move κ ω)}
    (path : first.Path licence moves last) (fresh : ∃ roll, first.Conserved [] [] roll)
    (few : last.handlesDrawn < UInt64.size) :
    ∃ roll, last.Conserved (first.minted moves) (first.released moves) roll := by
  induction path with
  | still => exact fresh
  | @move moves client path move fits ih =>
      obtain ⟨roll, conserved⟩ := ih (Nat.lt_of_le_of_lt (move.handlesDrawn_le fits) few)
      have single : ∀ shows : Move κ ω → Client κ ω → List HandleId,
          gathered shows (moves ++ [move]) first =
            gathered shows moves first ++ shows move client := by
        intro shows
        rw [path.gathered_append, gathered, gathered, List.append_nil]
      rw [minted, released, single, single]
      exact conserved.move fits few

theorem start_conserved (options : Options) (token : Option Json)
    (candidate : Nat → CorrelationId) (desk : ω) :
    (start options token candidate desk : Client κ ω).Conserved [] [] [] where
  lists := Subscriptions.lists_empty
  drawn := rfl
  whole := .nil

/-! ## Releasing -/

/-- What releasing a handle takes out: its own entries, and nothing else. -/
structure Takes (handle : HandleId) (before after : Client κ ω) : Prop where
  observers : after.connectivity.observers =
    before.connectivity.observers.filter (fun entry => entry.1 ≠ handle)
  handlers : ∀ topic, Subscriptions.handlersOf topic after.subscriptions.buckets =
    (Subscriptions.handlersOf topic before.subscriptions.buckets).filter
      (fun entry => entry.1 ≠ handle)
  others : ∀ other, other ≠ handle →
    after.subscriptions.topicOf other = before.subscriptions.topicOf other

theorem Conserved.unsubscribe_takes {minted released : List HandleId}
    {roll : List (Registration κ)} (conserved : client.Conserved minted released roll)
    (few : client.handlesDrawn < UInt64.size) (handle : HandleId) :
    client.Takes handle (client.unsubscribe handle).1 := by
  obtain ⟨-, observers, subscriptions⟩ := unsubscribe_eq (conserved.apart few handle)
  have lists := conserved.lists
  have left := lists.unsubscribe handle
  refine ⟨observers, fun topic => ?_, fun other different => ?_⟩
  · rw [subscriptions, left.handlers, lists.handlers, List.filter_map, List.filter_filter,
      List.filter_filter]
    exact congrArg _ (List.filter_congr fun _ _ => Bool.and_comm _ _)
  · rw [subscriptions]
    ext topic
    rw [left.topicOf_eq_some_iff, lists.topicOf_eq_some_iff]
    constructor
    · rintro ⟨entry, member, same⟩
      exact ⟨entry, (List.mem_filter.1 member).1, same⟩
    · rintro ⟨entry, member, rfl, same⟩
      exact ⟨entry, List.mem_filter.2 ⟨member, decide_eq_true different⟩, rfl, same⟩

/-- The moves that release handles, one after the other. -/
def releases (handles : List HandleId) : List (Move κ ω) :=
  handles.map fun handle => .aside (.unsubscribe handle)

/-- Releasing handles together is releasing one after the other, and counts those that were
registered when their turn came. -/
theorem unsubscribeAll_releases (handles : List HandleId) (client : Client κ ω) :
    client.Path .free (releases handles) (client.unsubscribeAll handles).1 ∧
      (client.unsubscribeAll handles).2 = (client.released (releases handles)).length := by
  induction handles generalizing client with
  | nil => exact ⟨.still, rfl⟩
  | cons handle handles ih =>
      obtain ⟨path, count⟩ := ih (client.unsubscribe handle).1
      have first : client.Path .free (releases [handle]) (client.unsubscribe handle).1 :=
        Path.still.move (.aside (.unsubscribe handle)) ⟨trivial, rfl⟩
      have own : (client.released (releases (handle :: handles))).length =
          (if (client.unsubscribe handle).2 then [handle] else []).length +
            ((client.unsubscribe handle).1.released (releases handles)).length :=
        List.length_append
      have total : (client.unsubscribeAll (handle :: handles)).2 =
          if (client.unsubscribe handle).2 then
            ((client.unsubscribe handle).1.unsubscribeAll handles).2 + 1
          else ((client.unsubscribe handle).1.unsubscribeAll handles).2 := rfl
      refine ⟨first.trans path, ?_⟩
      rw [own, total, count]
      split
      · exact Nat.add_comm _ _
      · exact (Nat.zero_add _).symm

/-! ## Runs -/

/-- **Every handle is released once, if it is released.**  Every run is a path; and at each point of
each path, in the middle of what callbacks do as well, as long as fewer handles were drawn than
there are:

* the handles that were drawn, for handlers and observers alike, are distinct;
* no handle is that of an observer and of a handler, and only drawn handles are registered;
* what releases found of a drawn handle is one handle if it is no longer registered, and none if it
  still is; nothing else was found;
* releasing a handle now finds it exactly if it is registered, and leaves every other handle's
  observer or handler as it is;
* releasing handles together, and disposing of a scope, releases one after the other, and counts
  how many are found. -/
theorem handles_released_once {behave : Behaviour κ ω} (within : behave.Within fun _ => True)
    (events : List (Event κ ω)) (options : Options) (token : Option Json)
    (candidate : Nat → CorrelationId) (desk : ω) :
    let first := start options token candidate desk
    (∃ moves, first.Path .free moves (run behave events first)) ∧
      ∀ moves client, first.Path .free moves client → client.handlesDrawn < UInt64.size →
        first.minted moves = (List.range client.handlesDrawn).map HandleId.nth ∧
        (first.minted moves).Nodup ∧
        (∀ handle, ¬(handle ∈ client.connectivity.observers.map (·.1) ∧
          client.subscriptions.contains handle = true)) ∧
        (∀ handle, client.Holds handle → handle ∈ first.minted moves) ∧
        (∀ handle ∈ first.minted moves,
          (first.released moves).count handle = if client.Holds handle then 0 else 1) ∧
        (∀ handle ∈ first.released moves, handle ∈ first.minted moves) ∧
        (∀ handle, ((client.unsubscribe handle).2 = true ↔ client.Holds handle) ∧
          client.Takes handle (client.unsubscribe handle).1) ∧
        (∀ handles, client.Path .free (releases handles) (client.unsubscribeAll handles).1 ∧
          (client.unsubscribeAll handles).2 = (client.released (releases handles)).length) ∧
        ∀ scope : Scope, client.Path .free (releases scope.handles) (scope.dispose client).2.1 ∧
          (scope.dispose client).2.2 = (client.released (releases scope.handles)).length := by
  intro first
  refine ⟨run_path within (fun event _ => within_free event) options token candidate desk,
    fun moves client path few => ?_⟩
  obtain ⟨roll, conserved⟩ :=
    path.conserved ⟨[], start_conserved options token candidate desk⟩ few
  refine ⟨conserved.drawn, conserved.nodup_minted few, fun handle both => ?_,
    fun handle holds => ?_, fun handle drawn => conserved.count_released few drawn,
    fun handle found => ?_, fun handle => ⟨?_, conserved.unsubscribe_takes few handle⟩,
    fun handles => client.unsubscribeAll_releases handles,
    fun scope => client.unsubscribeAll_releases scope.handles⟩
  · have apart := conserved.apart few handle both.1
    simp [both.2] at apart
  · refine conserved.whole.mem_iff.1 (List.mem_append_right _ ?_)
    exact (mem_held_iff conserved.lists handle).2 holds
  · exact conserved.whole.mem_iff.1 (List.mem_append_left _ found)
  · exact (unsubscribe_eq (conserved.apart few handle)).1

/-- An observer that releases the second handle as soon as it is told anything, and panics;
others do nothing. -/
def greedy : Behaviour Bool Unit := fun callback _ client =>
  if callback then ((client.unsubscribe (HandleId.nth 1)).1, .panicked) else (client, .returned)

theorem greedy_within : greedy.Within fun _ => True := by
  intro callback signal client
  cases callback with
  | false => exact ⟨[], by simp, rfl⟩
  | true => exact ⟨[.unsubscribe (HandleId.nth 1)], by simp, rfl⟩

/-- Two handlers, an observer that releases one of them, and a scope with all three, one of them
twice, that is disposed of after a fourth handle was drawn. -/
def shared : List (Event Bool Unit) :=
  [.act (.subscribe ⟨["a"]⟩ false), .act (.subscribe ⟨["b"]⟩ false), .observe true,
    .act (.subscribe ⟨["c"]⟩ false),
    .dispose ⟨[HandleId.nth 0, HandleId.nth 2, HandleId.nth 0, HandleId.nth 1]⟩]

theorem handles_released_once_shared :
    let first : Client Bool Unit := start {} none CorrelationId.drawn ()
    let client := run greedy shared first
    client.handlesDrawn < UInt64.size ∧ ∃ moves, first.Path .free moves client ∧
      first.minted moves = [HandleId.nth 0, HandleId.nth 1, HandleId.nth 2, HandleId.nth 3] ∧
      (first.minted moves).map (fun handle => (first.released moves).count handle) =
        [1, 1, 1, 0] := by
  intro first client
  have seen : (fun client : Client Bool Unit => (client.handlesDrawn,
      ((List.range 4).map HandleId.nth).map (fun handle => if client.Holds handle then 0 else 1)))
        (run greedy shared first) = (4, [1, 1, 1, 0]) := by cbv
  simp only [Prod.mk.injEq] at seen
  obtain ⟨drawn, left⟩ := seen
  have few : client.handlesDrawn < UInt64.size := by
    rw [drawn]
    decide
  obtain ⟨⟨moves, path⟩, facts⟩ := handles_released_once greedy_within shared {} none
    CorrelationId.drawn ()
  obtain ⟨minted, -, -, -, counts, -⟩ := facts moves client path few
  rw [drawn] at minted
  refine ⟨few, moves, path, minted, (List.map_congr_left counts).trans ?_⟩
  exact minted ▸ left

end Switchboard.Client
