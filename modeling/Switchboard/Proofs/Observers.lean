/-
# Switchboard.Proofs.Observers -- what observers are told

Observers come and go while others are being told of a flip, and a flip tells those
who were registered when it happened, whatever they do.  A watch (`Watch`) takes a run
of the tracker apart into beats -- an observer joins and is told the bit, a handle
leaves, the state shifts, the next observer is told -- and writes down every call,
those made and those still due.

Seen so, telling an observer changes nothing about the calls made and due together,
which are what the invariant is about (`Watch.Sound`): for one observer their bits
alternate and end with the current one, and for one flip they are those who were
registered.  So the invariant needs no look at who is being told at the moment.

* `Watch.Sound.apply`: every beat keeps it;
* `Watched.leads`: what observing, removing and transitions do, callbacks nested to any
  depth included, are fitting beats;
* `observers_see_flips`: the two together.
-/
import Mathlib
import Switchboard.Client.Delivery
import Switchboard.Client.Subscribing

namespace Switchboard

set_option autoImplicit false

/-- One registration of an observer. -/
structure Observer (κ : Type) where
  /-- How many were registered before. -/
  number : Nat
  handle : HandleId
  callback : κ

/-- An observer as the tracker keeps it. -/
def Observer.entry {κ : Type} (observer : Observer κ) : HandleId × κ :=
  (observer.handle, observer.callback)

/-- One call of an observer. -/
structure Notice (κ : Type) where
  observer : Observer κ
  bit : Bool
  /-- The number of the flip that it tells of; none at registration. -/
  flip : Option Nat

/-- A tracker, and what its observers are told. -/
structure Watch (κ : Type) where
  tracker : Connectivity κ
  /-- The registered observers. -/
  roll : List (Observer κ) := []
  /-- The alive bit at each registration. -/
  starts : List Bool := []
  /-- The new alive bit at each flip, and who was registered then. -/
  flips : List (Bool × List (Observer κ)) := []
  /-- The calls that were made. -/
  told : List (Notice κ) := []
  /-- The calls that are still to be made of the flip under way. -/
  due : List (Notice κ) := []

/-- What happens to a tracker at once. -/
inductive Beat (κ : Type) where
  /-- An observer is registered, and is told a bit. -/
  | join (handle : HandleId) (callback : κ) (bit : Bool)
  | leave (handle : HandleId)
  /-- The state changes; who is to be told is settled. -/
  | shift (next : LinkState)
  /-- The next observer is told a bit. -/
  | tell (callback : κ) (bit : Bool)

namespace Watch

variable {κ : Type}

/-! ## Beats -/

/-- The call that a flip owes an observer. -/
def notice (bit : Bool) (flip : Nat) (observer : Observer κ) : Notice κ :=
  ⟨observer, bit, some flip⟩

/-- The watch with one more observer. -/
def join (handle : HandleId) (callback : κ) (bit : Bool) (watch : Watch κ) : Watch κ :=
  let observer := ⟨watch.starts.length, handle, callback⟩
  { watch with
    tracker := watch.tracker.addObserver handle callback
    roll := watch.roll ++ [observer]
    starts := watch.starts ++ [watch.tracker.isAlive]
    told := watch.told ++ [⟨observer, bit, none⟩] }

/-- The watch without the observers of a handle; what they are still due they are due. -/
def leave (handle : HandleId) (watch : Watch κ) : Watch κ :=
  { watch with
    tracker := (watch.tracker.remove handle).1
    roll := watch.roll.filter (fun observer => observer.handle ≠ handle) }

/-- The watch whose state has changed; if that is a flip, whoever is registered is due a call. -/
def shift (next : LinkState) (watch : Watch κ) : Watch κ :=
  let moved := { watch with tracker := watch.tracker.moveTo next }
  if watch.tracker.isAlive = next.isConnected then moved
  else
    { moved with
      flips := watch.flips ++ [(next.isConnected, watch.roll)]
      due := watch.roll.map (notice next.isConnected watch.flips.length) }

/-- The watch after the next observer was told a bit. -/
def tell (bit : Bool) (watch : Watch κ) : Watch κ :=
  match watch.due with
  | [] => watch
  | next :: due => { watch with told := watch.told ++ [{ next with bit }], due }

/-- The watch after a beat. -/
def beat (beat : Beat κ) (watch : Watch κ) : Watch κ :=
  match beat with
  | .join handle callback bit => watch.join handle callback bit
  | .leave handle => watch.leave handle
  | .shift next => watch.shift next
  | .tell _ bit => watch.tell bit

/-- The watch after a list of beats. -/
def run (beats : List (Beat κ)) (watch : Watch κ) : Watch κ :=
  beats.foldl (fun watch beat => watch.beat beat) watch

/-- Whether a beat is what it should be: an observer is told the current bit when it joins, a state
changes when nobody is due a call, and whoever is told is the next, and is told what it is due. -/
def Fits (watch : Watch κ) : Beat κ → Prop
  | .join _ _ bit => bit = watch.tracker.isAlive
  | .leave _ => True
  | .shift _ => watch.due = []
  | .tell callback bit => ∃ next due,
      watch.due = next :: due ∧ next.observer.callback = callback ∧ next.bit = bit

/-- Whether each beat is what it should be at its turn. -/
def Legal : List (Beat κ) → Watch κ → Prop
  | [], _ => True
  | beat :: beats, watch => watch.Fits beat ∧ Legal beats (watch.beat beat)

theorem run_append (beats later : List (Beat κ)) (watch : Watch κ) :
    watch.run (beats ++ later) = (watch.run beats).run later :=
  List.foldl_append

theorem legal_append {beats later : List (Beat κ)} {watch : Watch κ} :
    Legal (beats ++ later) watch ↔ Legal beats watch ∧ Legal later (watch.run beats) := by
  induction beats generalizing watch with
  | nil => exact ⟨fun legal => ⟨trivial, legal⟩, And.right⟩
  | cons beat beats ih =>
      rw [List.cons_append, Legal, Legal, ih, and_assoc]
      rfl

/-! ## The invariant -/

/-- The calls that were made and those that are due. -/
def notices (watch : Watch κ) : List (Notice κ) := watch.told ++ watch.due

/-- The bits of the calls of one observer. -/
def bitsOf (number : Nat) (notices : List (Notice κ)) : List Bool :=
  (notices.filter (fun notice => notice.observer.number = number)).map (·.bit)

/-- The calls that tell of one flip, or those at registrations. -/
def about (flip : Option Nat) (notices : List (Notice κ)) : List (Notice κ) :=
  notices.filter (fun notice => notice.flip = flip)

/-- What has been told, and is still to be told, is as it should be. -/
structure Sound (watch : Watch κ) : Prop where
  observers : watch.roll.map (·.entry) = watch.tracker.observers
  ascending : watch.roll.Pairwise (fun earlier later => earlier.number < later.number)
  known : ∀ observer ∈ watch.roll, observer.number < watch.starts.length
  called : ∀ notice ∈ watch.notices, notice.observer.number < watch.starts.length
  start : ∀ number bit, watch.starts[number]? = some bit →
    (bitsOf number watch.notices).head? = some bit
  alternate : ∀ number, (bitsOf number watch.notices).IsChain (· ≠ ·)
  current : ∀ observer ∈ watch.roll,
    (bitsOf observer.number watch.notices).getLast? = some watch.tracker.isAlive
  joined : (about none watch.notices).map (·.observer.number) = List.range watch.starts.length
  flipped : ∀ (number : Nat) bit roll, watch.flips[number]? = some (bit, roll) →
    about (some number) watch.notices = roll.map (notice bit number)
  happened : ∀ notice ∈ watch.notices, ∀ number, notice.flip = some number →
    number < watch.flips.length
  due : ∀ notice ∈ watch.due, notice.flip ≠ none

section

variable {watch : Watch κ} {number : Nat}

/-- What stands in a list with one more entry is that entry, or stood there before. -/
theorem getElem?_concat_cases {α : Type} {entries : List α} {last entry : α} {place : Nat}
    (found : (entries ++ [last])[place]? = some entry) :
    place = entries.length ∧ last = entry ∨
      place ≠ entries.length ∧ entries[place]? = some entry := by
  by_cases now : place = entries.length
  · rw [now, List.getElem?_concat_length] at found
    exact .inl ⟨now, Option.some.inj found⟩
  · refine .inr ⟨now, ?_⟩
    rcases Nat.lt_or_gt_of_ne now with less | more
    · rwa [List.getElem?_append_left less] at found
    · rw [List.getElem?_eq_none (by rw [List.length_append]; exact more)] at found
      cases found

theorem bitsOf_append (first second : List (Notice κ)) :
    bitsOf number (first ++ second) = bitsOf number first ++ bitsOf number second := by
  simp [bitsOf]

theorem about_append (flip : Option Nat) (first second : List (Notice κ)) :
    about flip (first ++ second) = about flip first ++ about flip second :=
  List.filter_append ..

theorem bitsOf_insert (first second : List (Notice κ)) (call : Notice κ) :
    bitsOf number (first ++ call :: second) =
      bitsOf number first ++ (if call.observer.number = number then [call.bit] else []) ++
        bitsOf number second := by
  rw [← List.singleton_append, bitsOf_append, bitsOf_append, List.append_assoc]
  by_cases same : call.observer.number = number <;> simp [bitsOf, same]

theorem about_insert {flip : Option Nat} (first second : List (Notice κ)) (call : Notice κ) :
    about flip (first ++ call :: second) =
      about flip first ++ (if call.flip = flip then [call] else []) ++ about flip second := by
  rw [← List.singleton_append, about_append, about_append, List.append_assoc]
  by_cases same : call.flip = flip <;> simp [about, same]

theorem bitsOf_eq_nil {notices : List (Notice κ)}
    (others : ∀ notice ∈ notices, notice.observer.number ≠ number) :
    bitsOf number notices = [] := by
  rw [bitsOf, List.map_eq_nil_iff, List.filter_eq_nil_iff]
  exact fun notice member => by simpa using others notice member

theorem about_eq_nil {flip : Option Nat} {notices : List (Notice κ)}
    (others : ∀ notice ∈ notices, notice.flip ≠ flip) : about flip notices = [] := by
  rw [about, List.filter_eq_nil_iff]
  exact fun notice member => by simpa using others notice member

/-- A flip owes every observer one call. -/
theorem bitsOf_owed {roll : List (Observer κ)}
    (ascending : roll.Pairwise (fun earlier later => earlier.number < later.number)) (bit : Bool)
    (flip : Nat) {observer : Observer κ} (member : observer ∈ roll) :
    bitsOf observer.number (roll.map (notice bit flip)) = [bit] := by
  induction roll with
  | nil => simp at member
  | cons first roll ih =>
      obtain ⟨later, ascending⟩ := List.pairwise_cons.1 ascending
      rcases List.mem_cons.1 member with rfl | member
      · have others : bitsOf observer.number (roll.map (notice bit flip)) = [] := by
          refine bitsOf_eq_nil fun owed owedMember => ?_
          obtain ⟨other, otherMember, rfl⟩ := List.mem_map.1 owedMember
          exact Nat.ne_of_gt (later other otherMember)
        rw [List.map_cons, ← List.singleton_append, bitsOf_append, others]
        simp [bitsOf, notice]
      · have other : bitsOf observer.number [notice bit flip first] = [] :=
          bitsOf_eq_nil fun owed owedMember => by
            rw [List.mem_singleton.1 owedMember]
            exact Nat.ne_of_lt (later observer member)
        rw [List.map_cons, ← List.singleton_append, bitsOf_append, other, List.nil_append]
        exact ih ascending member

/-- And nobody else any. -/
theorem bitsOf_unowed {roll : List (Observer κ)} (bit : Bool) (flip : Nat)
    (absent : ∀ observer ∈ roll, observer.number ≠ number) :
    bitsOf number (roll.map (notice bit flip)) = [] := by
  refine bitsOf_eq_nil fun owed member => ?_
  obtain ⟨observer, inRoll, rfl⟩ := List.mem_map.1 member
  exact absent observer inRoll

theorem about_owed (roll : List (Observer κ)) (bit : Bool) (flip : Nat) :
    about (some flip) (roll.map (notice bit flip)) = roll.map (notice bit flip) := by
  refine List.filter_eq_self.2 fun owed member => ?_
  obtain ⟨observer, -, rfl⟩ := List.mem_map.1 member
  exact decide_eq_true rfl

theorem about_owed_other {roll : List (Observer κ)} {bit : Bool} {flip : Nat}
    {other : Option Nat} (different : other ≠ some flip) :
    about other (roll.map (notice bit flip)) = [] := by
  refine about_eq_nil fun owed member => ?_
  obtain ⟨observer, -, rfl⟩ := List.mem_map.1 member
  exact different.symm

namespace Sound

/-- Telling the next observer only makes a call that was due. -/
theorem tell (sound : watch.Sound) {callback : κ} {bit : Bool}
    (fits : watch.Fits (.tell callback bit)) : (watch.tell bit).Sound := by
  obtain ⟨next, due, isDue, -, rfl⟩ := fits
  have told : watch.tell next.bit = { watch with told := watch.told ++ [next], due } := by
    rw [Watch.tell, isDue]
  have same : (watch.tell next.bit).notices = watch.notices := by
    rw [told, notices, notices, isDue, List.append_assoc]
    rfl
  rw [told] at same ⊢
  constructor
  case observers =>
    exact sound.observers
  case ascending =>
    exact sound.ascending
  case known =>
    exact sound.known
  case called =>
    exact same ▸ sound.called
  case start =>
    exact same ▸ sound.start
  case alternate =>
    exact same ▸ sound.alternate
  case current =>
    exact same ▸ sound.current
  case joined =>
    exact same ▸ sound.joined
  case flipped =>
    exact same ▸ sound.flipped
  case happened =>
    exact same ▸ sound.happened
  case due =>
    exact fun notice member => sound.due notice (isDue ▸ List.mem_cons_of_mem _ member)

/-- Who leaves is due what it was due. -/
theorem leave (sound : watch.Sound) (handle : HandleId) : (watch.leave handle).Sound where
  observers := by
    have kept : (watch.leave handle).tracker.observers =
        watch.tracker.observers.filter (fun entry => entry.1 ≠ handle) := rfl
    rw [kept, ← sound.observers, List.filter_map]
    rfl
  ascending := sound.ascending.filter _
  known observer member := sound.known observer (List.mem_filter.1 member).1
  called := sound.called
  start := sound.start
  alternate := sound.alternate
  current observer member := sound.current observer (List.mem_filter.1 member).1
  joined := sound.joined
  flipped := sound.flipped
  happened := sound.happened
  due := sound.due

/-- An observer that joins is told the current bit, before whatever is due. -/
theorem join (sound : watch.Sound) (handle : HandleId) (callback : κ) :
    (watch.join handle callback watch.tracker.isAlive).Sound := by
  let new : Observer κ := ⟨watch.starts.length, handle, callback⟩
  let call : Notice κ := ⟨new, watch.tracker.isAlive, none⟩
  have whole : (watch.join handle callback watch.tracker.isAlive).notices =
      watch.told ++ call :: watch.due := List.append_assoc ..
  have length : (watch.starts ++ [watch.tracker.isAlive]).length = watch.starts.length + 1 :=
    List.length_append
  have parts : ∀ notice ∈ (watch.join handle callback watch.tracker.isAlive).notices,
      notice ∈ watch.notices ∨ notice = call := by
    intro notice member
    rw [whole, List.mem_append, List.mem_cons] at member
    rcases member with told | now | due
    · exact .inl (List.mem_append_left _ told)
    · exact .inr now
    · exact .inl (List.mem_append_right _ due)
  -- nobody had the new one's number, and the others' calls are as before
  have own : bitsOf watch.starts.length (watch.told ++ call :: watch.due) =
      [watch.tracker.isAlive] := by
    rw [bitsOf_insert, bitsOf_eq_nil, bitsOf_eq_nil, if_pos rfl]
    · rfl
    · exact fun notice member =>
        Nat.ne_of_lt (sound.called notice (List.mem_append_right _ member))
    · exact fun notice member =>
        Nat.ne_of_lt (sound.called notice (List.mem_append_left _ member))
  have others : ∀ {number}, number ≠ watch.starts.length →
      bitsOf number (watch.told ++ call :: watch.due) = bitsOf number watch.notices := by
    intro number other
    rw [bitsOf_insert, if_neg other.symm, List.append_nil, ← bitsOf_append]
    rfl
  constructor
  case observers =>
    show (watch.roll ++ [new]).map (·.entry) = watch.tracker.observers ++ [(handle, callback)]
    rw [List.map_append, sound.observers]
    rfl
  case ascending =>
    refine List.pairwise_append.2 ⟨sound.ascending, List.pairwise_singleton _ _, ?_⟩
    intro observer member other now
    rw [List.mem_singleton.1 now]
    exact sound.known observer member
  case known =>
    intro observer member
    show observer.number < (watch.starts ++ [watch.tracker.isAlive]).length
    rw [length]
    rcases List.mem_append.1 member with before | now
    · exact Nat.lt_succ_of_lt (sound.known observer before)
    · rw [List.mem_singleton.1 now]
      exact Nat.lt_succ_self _
  case called =>
    intro notice member
    show notice.observer.number < (watch.starts ++ [watch.tracker.isAlive]).length
    rw [length]
    rcases parts notice member with before | rfl
    · exact Nat.lt_succ_of_lt (sound.called notice before)
    · exact Nat.lt_succ_self _
  case start =>
    intro number bit started
    rw [whole]
    rcases getElem?_concat_cases started with ⟨rfl, rfl⟩ | ⟨earlier, before⟩
    · rw [own]
      rfl
    · rw [others earlier]
      exact sound.start number bit before
  case alternate =>
    intro number
    rw [whole]
    by_cases now : number = watch.starts.length
    · rw [now, own]
      exact .singleton _
    · rw [others now]
      exact sound.alternate number
  case current =>
    intro observer member
    rw [whole]
    rcases List.mem_append.1 member with before | now
    · rw [others (Nat.ne_of_lt (sound.known observer before))]
      exact sound.current observer before
    · rw [List.mem_singleton.1 now]
      exact congrArg List.getLast? own
  case joined =>
    have fresh : about none watch.due = [] := about_eq_nil sound.due
    have earlier := sound.joined
    rw [notices, about_append, fresh, List.append_nil] at earlier
    rw [whole, about_insert, if_pos rfl, fresh, List.append_nil, List.map_append, earlier]
    show _ = List.range (watch.starts ++ [watch.tracker.isAlive]).length
    rw [length, List.range_succ]
    rfl
  case flipped =>
    intro number bit roll happened
    rw [whole, about_insert, if_neg (by simp [call]), List.append_nil, ← about_append]
    exact sound.flipped number bit roll happened
  case happened =>
    intro notice member number tells
    rcases parts notice member with before | rfl
    · exact sound.happened notice before number tells
    · cases tells
  case due =>
    exact sound.due

/-- A change of state without a flip calls nobody. -/
theorem still (sound : watch.Sound) {next : LinkState}
    (same : watch.tracker.isAlive = next.isConnected) : (watch.shift next).Sound := by
  have shifted : watch.shift next = { watch with tracker := watch.tracker.moveTo next } :=
    if_pos same
  rw [shifted]
  refine { sound with observers := ?_, current := fun observer member => ?_ }
  · rw [sound.observers]
    exact (watch.tracker.observers_moveTo next).symm
  · have last := sound.current observer member
    rw [same] at last
    exact last.trans (congrArg some (watch.tracker.isAlive_moveTo next).symm)

/-- A flip owes whoever is registered a call, and nobody else. -/
theorem flip (sound : watch.Sound) {next : LinkState} (nobody : watch.due = [])
    (flips : watch.tracker.isAlive ≠ next.isConnected) : (watch.shift next).Sound := by
  have shifted : watch.shift next = { watch with
      tracker := watch.tracker.moveTo next
      flips := watch.flips ++ [(next.isConnected, watch.roll)]
      due := watch.roll.map (notice next.isConnected watch.flips.length) } := if_neg flips
  have before : watch.notices = watch.told := by rw [notices, nobody, List.append_nil]
  obtain ⟨observers, ascending, known, called, start, alternate, current, joined, flipped,
    happened, -⟩ := sound
  rw [before] at called start alternate current joined flipped happened
  have length : (watch.flips ++ [(next.isConnected, watch.roll)]).length =
    watch.flips.length + 1 := List.length_append
  rw [shifted]
  constructor
  case observers =>
    rw [observers]
    exact (watch.tracker.observers_moveTo next).symm
  case ascending =>
    exact ascending
  case known =>
    exact known
  case called =>
    intro notice member
    rcases List.mem_append.1 member with earlier | now
    · exact called notice earlier
    · obtain ⟨observer, inRoll, rfl⟩ := List.mem_map.1 now
      exact known observer inRoll
  case start =>
    intro number bit started
    rw [notices, bitsOf_append, List.head?_append, start number bit started]
    rfl
  case alternate =>
    intro number
    rw [notices, bitsOf_append]
    by_cases registered : ∃ observer ∈ watch.roll, observer.number = number
    · obtain ⟨observer, inRoll, rfl⟩ := registered
      rw [bitsOf_owed ascending _ _ inRoll]
      refine (alternate _).append (.singleton _) fun last isLast bit isNext same => flips ?_
      rw [current observer inRoll, Option.mem_some_iff] at isLast
      rw [List.head?_singleton, Option.mem_some_iff] at isNext
      rw [isLast, isNext, same]
    · rw [bitsOf_unowed _ _ fun observer inRoll same => registered ⟨observer, inRoll, same⟩,
        List.append_nil]
      exact alternate number
  case current =>
    intro observer inRoll
    rw [notices, bitsOf_append, bitsOf_owed ascending _ _ inRoll, List.getLast?_concat]
    exact congrArg some (watch.tracker.isAlive_moveTo next).symm
  case joined =>
    rw [notices, about_append, about_owed_other (by simp), List.append_nil]
    exact joined
  case flipped =>
    intro number bit roll told
    rw [notices, about_append]
    rcases getElem?_concat_cases told with ⟨rfl, same⟩ | ⟨earlier, before⟩
    · obtain ⟨rfl, rfl⟩ := Prod.mk.inj same
      rw [about_eq_nil, about_owed, List.nil_append]
      exact fun notice member same => Nat.lt_irrefl _ (happened notice member _ same)
    · rw [about_owed_other (by simpa using earlier), List.append_nil]
      exact flipped number bit roll before
  case happened =>
    intro notice member number tells
    rw [length]
    rcases List.mem_append.1 member with earlier | now
    · exact Nat.lt_succ_of_lt (happened notice earlier number tells)
    · obtain ⟨observer, -, rfl⟩ := List.mem_map.1 now
      exact Nat.lt_succ_of_le (Nat.le_of_eq (Option.some.inj tells).symm)
  case due =>
    intro notice member
    obtain ⟨observer, -, rfl⟩ := List.mem_map.1 member
    exact Option.some_ne_none _

/-- **Every beat keeps the calls as they should be.** -/
theorem beat (sound : watch.Sound) {beat : Beat κ} (fits : watch.Fits beat) :
    (watch.beat beat).Sound := by
  cases beat with
  | join handle callback bit =>
      obtain rfl : bit = watch.tracker.isAlive := fits
      exact sound.join handle callback
  | leave handle => exact sound.leave handle
  | shift next =>
      by_cases same : watch.tracker.isAlive = next.isConnected
      · exact sound.still same
      · exact sound.flip fits same
  | tell callback bit => exact sound.tell fits

theorem run (sound : watch.Sound) {beats : List (Beat κ)} (legal : Legal beats watch) :
    (watch.run beats).Sound := by
  induction beats generalizing watch with
  | nil => exact sound
  | cons beat beats ih => exact ih (sound.beat legal.1) legal.2

/-- Only the calls at registrations are never due. -/
theorem joined_told (sound : watch.Sound) :
    (about none watch.told).map (·.observer.number) = List.range watch.starts.length := by
  have joined := sound.joined
  rwa [notices, about_append, about_eq_nil sound.due, List.append_nil] at joined

/-- The first thing that an observer is told is the bit at its registration. -/
theorem start_told (sound : watch.Sound) {bit : Bool} (started : watch.starts[number]? = some bit) :
    (bitsOf number watch.told).head? = some bit := by
  have less : number < watch.starts.length := (List.getElem?_eq_some_iff.1 started).1
  have called : number ∈ (about none watch.told).map (·.observer.number) := by
    rw [sound.joined_told]
    exact List.mem_range.2 less
  obtain ⟨notice, member, same⟩ := List.mem_map.1 called
  have some : bitsOf number watch.told ≠ [] :=
    List.ne_nil_of_mem (List.mem_map_of_mem
      (List.mem_filter.2 ⟨(List.mem_filter.1 member).1, decide_eq_true same⟩))
  have start := sound.start number bit started
  rw [notices, bitsOf_append] at start
  obtain ⟨first, rest, told⟩ := List.exists_cons_of_ne_nil some
  rw [told] at start ⊢
  exact start

theorem alternate_told (sound : watch.Sound) (number : Nat) :
    (bitsOf number watch.told).IsChain (· ≠ ·) := by
  have alternate := sound.alternate number
  rw [notices, bitsOf_append] at alternate
  exact alternate.left_of_append

end Sound

/-- Nobody has been told anything of a tracker that nobody observes. -/
theorem sound_of_unobserved {tracker : Connectivity κ} (unobserved : tracker.observers = []) :
    ({ tracker } : Watch κ).Sound where
  observers := unobserved.symm
  ascending := .nil
  known := by simp
  called := by simp [notices]
  start := by simp
  alternate _ := .nil
  current := by simp
  joined := rfl
  flipped := by simp
  happened := by simp [notices]
  due := by simp

end

/-! ## Where beats lead -/

/-- These beats are what they should be, and lead to such a tracker, with these calls due. -/
structure Leads (watch : Watch κ) (beats : List (Beat κ)) (after : Connectivity κ)
    (due : List (Notice κ)) : Prop where
  legal : Legal beats watch
  tracker : (watch.run beats).tracker = after
  due : (watch.run beats).due = due

namespace Leads

variable {watch : Watch κ} {beats later : List (Beat κ)} {middle after : Connectivity κ}
  {due left : List (Notice κ)}

theorem append (first : watch.Leads beats middle due)
    (second : (watch.run beats).Leads later after left) : watch.Leads (beats ++ later) after left :=
  ⟨legal_append.2 ⟨first.legal, second.legal⟩, run_append beats later watch ▸ second.tracker,
    run_append beats later watch ▸ second.due⟩

theorem cons {beat : Beat κ} (fits : watch.Fits beat)
    (rest : (watch.beat beat).Leads beats after due) : watch.Leads (beat :: beats) after due :=
  ⟨⟨fits, rest.legal⟩, rest.tracker, rest.due⟩

end Leads

end Watch

namespace Client

variable {κ ω : Type}

/-! ## What a client does to its tracker -/

/-- What each callback does when it is told a bit, in beats. -/
abbrev Reports (κ ω : Type) := κ → Bool → Client κ ω → List (Beat κ)

/-- The beats of telling observers a bit one after the other, whatever they do. -/
def Reports.round (reports : Reports κ ω) (behave : Behaviour κ ω) (bit : Bool) :
    List (HandleId × κ) → Client κ ω → List (Beat κ)
  | [], _ => []
  | entry :: entries, client =>
      .tell entry.2 bit :: (reports entry.2 bit client ++
        reports.round behave bit entries (notify behave entry.2 (.alive bit) client))

/-- These beats lead from one client to another.  Observers are registered, handles removed, and,
if the first argument says so, the state changes; callbacks do the same but for the last, in the
middle of it, and to any depth; and all else that happens leaves the tracker alone. -/
inductive Watched : Bool → Client κ ω → List (Beat κ) → Client κ ω → Prop where
  | still (shifts : Bool) (client : Client κ ω) : Watched shifts client [] client
  | other {shifts : Bool} {first client after : Client κ ω} {beats : List (Beat κ)}
      (watched : Watched shifts first beats client)
      (same : after.connectivity = client.connectivity) : Watched shifts first beats after
  | observe {shifts : Bool} {first client : Client κ ω} {beats : List (Beat κ)}
      (watched : Watched shifts first beats client) {behave : Behaviour κ ω}
      {reports : Reports κ ω}
      (does : ∀ callback bit found, Watched false found (reports callback bit found)
        (behave callback (.alive bit) found).1)
      (callback : κ) :
      Watched shifts first
        (beats ++ .join (client.observe behave callback).2 callback client.isAlive ::
          reports callback client.isAlive (client.enlist callback).1)
        (client.observe behave callback).1
  | remove {shifts : Bool} {first client : Client κ ω} {beats : List (Beat κ)}
      (watched : Watched shifts first beats client) (handle : HandleId) :
      Watched shifts first (beats ++ [.leave handle]) (client.unobserve handle).1
  | transition {first client : Client κ ω} {beats : List (Beat κ)}
      (watched : Watched true first beats client) {behave : Behaviour κ ω}
      {reports : Reports κ ω}
      (does : ∀ callback bit found, Watched false found (reports callback bit found)
        (behave callback (.alive bit) found).1)
      (next : LinkState) :
      Watched true first
        (beats ++ .shift next ::
          if client.isAlive = next.isConnected then []
          else reports.round behave next.isConnected client.connectivity.observers
            (client.moveTo next))
        (client.transition behave next).1

/-- A round makes the calls that are due, in their order, and leaves none. -/
theorem round_leads {behave : Behaviour κ ω} {reports : Reports κ ω}
    (does : ∀ callback bit found (watch : Watch κ), watch.Sound →
      watch.tracker = found.connectivity →
        watch.Leads (reports callback bit found) (behave callback (.alive bit) found).1.connectivity
          watch.due)
    (bit : Bool) (flip : Nat) (roll : List (Observer κ)) (client : Client κ ω) (watch : Watch κ)
    (sound : watch.Sound) (tracker : watch.tracker = client.connectivity)
    (due : watch.due = roll.map (Watch.notice bit flip)) :
    watch.Leads (reports.round behave bit (roll.map (·.entry)) client)
      (notifyAll behave (.alive bit) client (roll.map (·.entry))).connectivity [] := by
  induction roll generalizing client watch with
  | nil => exact ⟨trivial, tracker, due⟩
  | cons observer roll ih =>
      have fits : watch.Fits (.tell observer.callback bit) := ⟨_, _, due, rfl, rfl⟩
      have told : watch.tell bit = { watch with
          told := watch.told ++ [Watch.notice bit flip observer]
          due := roll.map (Watch.notice bit flip) } := by
        rw [Watch.tell, due]
        rfl
      have soundThen := sound.tell fits
      have does := does observer.callback bit client (watch.tell bit) soundThen
        (told ▸ tracker)
      refine .cons fits (does.append ?_)
      refine ih _ _ (soundThen.run does.legal) does.tracker ?_
      rw [does.due, told]

/-- **What a client does to its tracker is done in fitting beats.** -/
theorem Watched.leads {shifts : Bool} {first last : Client κ ω} {beats : List (Beat κ)}
    (watched : Watched shifts first beats last) (watch : Watch κ) (sound : watch.Sound)
    (tracker : watch.tracker = first.connectivity) (nobody : shifts = true → watch.due = []) :
    watch.Leads beats last.connectivity watch.due := by
  induction watched generalizing watch with
  | still => exact ⟨trivial, tracker, rfl⟩
  | other _ same ih => exact same ▸ ih watch sound tracker nobody
  | @observe shifts first client beats watched behave reports does callback ih each =>
      have before := ih watch sound tracker nobody
      have soundThen := sound.run before.legal
      have fits : (watch.run beats).Fits
          (.join (client.observe behave callback).2 callback client.isAlive) := by
        rw [Watch.Fits, before.tracker]
        rfl
      refine before.append (.cons fits ?_)
      have joined := each callback client.isAlive (client.enlist callback).1 _
        (soundThen.beat fits) (by rw [Watch.beat, Watch.join, before.tracker]; rfl) (by simp)
      exact before.due ▸ joined
  | @remove shifts first client beats watched handle ih =>
      have before := ih watch sound tracker nobody
      refine before.append ⟨⟨trivial, trivial⟩, ?_, before.due⟩
      exact congrArg (fun tracker => (tracker.remove handle).1) before.tracker
  | @transition first client beats watched behave reports does next ih each =>
      have before := ih watch sound tracker nobody
      have soundThen := sound.run before.legal
      have empty : (watch.run beats).due = [] := before.due.trans (nobody rfl)
      have fits : (watch.run beats).Fits (.shift next) := empty
      have alive : (watch.run beats).tracker.isAlive = client.isAlive :=
        congrArg Connectivity.isAlive before.tracker
      refine before.append (.cons fits ?_)
      rw [nobody rfl]
      by_cases same : client.isAlive = next.isConnected
      · have shifted : (watch.run beats).beat (.shift next) =
            { watch.run beats with tracker := (watch.run beats).tracker.moveTo next } :=
          if_pos (alive.trans same)
        rw [if_pos same, client.transition_still behave next same, shifted, before.tracker]
        exact ⟨trivial, rfl, empty⟩
      · have flips : (watch.run beats).tracker.isAlive ≠ next.isConnected := alive ▸ same
        have due : ((watch.run beats).beat (.shift next)).due =
            (watch.run beats).roll.map
              (Watch.notice next.isConnected (watch.run beats).flips.length) := by
          rw [Watch.beat, Watch.shift, if_neg flips]
        have moved : ((watch.run beats).beat (.shift next)).tracker =
            (client.moveTo next).connectivity := by
          rw [Watch.beat, Watch.shift, if_neg flips, before.tracker]
          rfl
        have round := round_leads (fun callback bit found watch sound tracker =>
            each callback bit found watch sound tracker (by simp))
          next.isConnected _ _ (client.moveTo next) _ (soundThen.beat fits) moved due
        have told : (client.transition behave next).1 = notifyAll behave (.alive next.isConnected)
            (client.moveTo next) client.connectivity.observers := by
          rw [Client.transition, if_neg same]
        rw [soundThen.observers, before.tracker] at round
        rw [if_neg same, told]
        exact round

/-! ## Runs -/

/-- **Observers see exactly the flips.**  Take any run of a tracker that nobody observed before:
observers are registered, handles removed, the state changes; callbacks do what they like, also in
the middle of a round and to any depth, and may panic, but change no state.  Its beats are what
they should be, and lead to where the run leads, with no call left due.  At every point of the run,
also in the middle of a round:

* the bits told to an observer begin with the alive bit at its registration, and alternate;
* if no call is due, the last bit told to a registered observer is the alive bit;
* the calls are one for each registration, and those of the flips;
* the calls of a flip, those still due included, are one for everyone who was registered when it
  happened, in the order of registration, and with the bit after the flip;
* who is registered is who the tracker keeps.

The state changes only when no call is due, and a change that flips nothing calls nobody. -/
theorem observers_see_flips {first last : Client κ ω} {beats : List (Beat κ)}
    (watched : Watched true first beats last) (unobserved : first.connectivity.observers = []) :
    let begins : Watch κ := { tracker := first.connectivity }
    begins.Leads beats last.connectivity [] ∧
      (∀ before, before <+: beats →
        let watch := begins.run before
        (∀ number bit, watch.starts[number]? = some bit →
          (Watch.bitsOf number watch.told).head? = some bit ∧
            (Watch.bitsOf number watch.told).IsChain (· ≠ ·)) ∧
        (watch.due = [] → ∀ observer ∈ watch.roll,
          (Watch.bitsOf observer.number watch.told).getLast? = some watch.tracker.isAlive) ∧
        (Watch.about none watch.told).map (·.observer.number) = List.range watch.starts.length ∧
        (∀ notice ∈ watch.told, ∀ number, notice.flip = some number →
          number < watch.flips.length) ∧
        (∀ (number : Nat) bit roll, watch.flips[number]? = some (bit, roll) →
          Watch.about (some number) (watch.told ++ watch.due) =
            roll.map (Watch.notice bit number)) ∧
        watch.roll.map (·.entry) = watch.tracker.observers ∧
        watch.roll.Pairwise (fun earlier later => earlier.number < later.number)) ∧
      (∀ before next, before ++ [.shift next] <+: beats →
        let watch := begins.run before
        watch.due = [] ∧ (begins.run (before ++ [.shift next])).flips = watch.flips ++
          if watch.tracker.isAlive = next.isConnected then []
          else [(next.isConnected, watch.roll)]) ∧
      ∀ behave next, last.isAlive = next.isConnected →
        last.transition behave next = (last.moveTo next, false) := by
  intro begins
  have sound : begins.Sound := Watch.sound_of_unobserved unobserved
  have leads := watched.leads begins sound rfl fun _ => rfl
  have legal : ∀ before, before <+: beats → Watch.Legal before begins := by
    rintro before ⟨later, rfl⟩
    exact (Watch.legal_append.1 leads.legal).1
  refine ⟨leads, fun before isPrefix => ?_, fun before next isPrefix => ?_,
    fun behave next same => last.transition_still behave next same⟩
  · have sound := sound.run (legal before isPrefix)
    refine ⟨fun number bit started => ⟨sound.start_told started, sound.alternate_told number⟩,
      fun nobody observer member => ?_, sound.joined_told,
      fun notice member => sound.happened notice (List.mem_append_left _ member),
      sound.flipped, sound.observers, sound.ascending⟩
    have current := sound.current observer member
    rwa [Watch.notices, nobody, List.append_nil] at current
  · have shift := (Watch.legal_append.1 (legal _ isPrefix)).2.1
    refine ⟨shift, ?_⟩
    rw [Watch.run_append]
    show ((begins.run before).shift next).flips = _
    rw [Watch.shift]
    split <;> simp

/-- Callbacks that do nothing. -/
def unmoved : Behaviour Nat Unit := fun _ _ client => (client, .returned)

/-- They have no beats to report. -/
def nothing : Reports Nat Unit := fun _ _ _ => []

theorem unmoved_does (callback : Nat) (bit : Bool) (found : Client Nat Unit) :
    Watched false found (nothing callback bit found) (unmoved callback (.alive bit) found).1 :=
  .still false found

/-- The first callback, when it is told that the link is up, removes the second handle, registers
the third callback and panics; others do nothing. -/
def meddling : Behaviour Nat Unit := fun callback signal client =>
  match callback, signal with
  | 0, .alive true => (((client.unobserve (HandleId.nth 1)).1.observe unmoved 2).1, .panicked)
  | _, _ => (client, .returned)

/-- What the meddling callback does. -/
def meddle : Reports Nat Unit := fun callback bit client =>
  match callback, bit with
  | 0, true => [.leave (HandleId.nth 1), .join (HandleId.nth client.handlesDrawn) 2 client.isAlive]
  | _, _ => []

theorem meddling_does (callback : Nat) (bit : Bool) (found : Client Nat Unit) :
    Watched false found (meddle callback bit found) (meddling callback (.alive bit) found).1 := by
  match callback, bit with
  | 0, true =>
      exact ((Watched.still false found).remove (HandleId.nth 1)).observe unmoved_does 2
  | 0, false => exact .still false found
  | _ + 1, _ => exact .still false found

/-- Two observers, the first of which meddles; the link goes up, and down again. -/
def meddled : Client Nat Unit :=
  (((((new {} none ()).observe meddling 0).1.observe meddling 1).1.transition meddling
    .connected).1.transition meddling .disconnected).1

/-- The beats of it. -/
def meddledBeats : List (Beat Nat) :=
  [.join (HandleId.nth 0) 0 false, .join (HandleId.nth 1) 1 false, .shift .connected,
    .tell 0 true, .leave (HandleId.nth 1), .join (HandleId.nth 2) 2 true, .tell 1 true,
    .shift .disconnected, .tell 0 false, .tell 2 false]

theorem meddled_watched : Watched true (new {} none ()) meddledBeats meddled :=
  ((((Watched.still true (new {} none ())).observe meddling_does 0).observe meddling_does
    1).transition meddling_does .connected).transition meddling_does .disconnected

theorem observers_see_flips_meddled :
    let first : Client Nat Unit := new {} none ()
    let watch : Watch Nat := Watch.run meddledBeats { tracker := first.connectivity }
    Watched true first meddledBeats meddled ∧ first.connectivity.observers = [] ∧
      watch.told.map (fun notice => (notice.observer.number, notice.bit)) =
        [(0, false), (1, false), (0, true), (2, true), (1, true), (0, false), (2, false)] ∧
      watch.tracker = meddled.connectivity ∧ watch.due = [] ∧
      (Watch.bitsOf 0 watch.told).IsChain (· ≠ ·) := by
  intro first watch
  obtain ⟨leads, points, -, -⟩ := observers_see_flips meddled_watched rfl
  obtain ⟨bits, -⟩ := points meddledBeats (List.prefix_refl _)
  exact ⟨meddled_watched, rfl, by cbv, leads.tracker, leads.due, (bits 0 false (by cbv)).2⟩

end Client

end Switchboard
