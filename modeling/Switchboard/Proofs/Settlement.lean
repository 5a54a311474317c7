/-
# Switchboard.Proofs.Settlement -- every registered call ends at most once

A table is operated on in any order, with any identifiers (`CallTable.Op`).  A
registered call stands in one of three conditions: it waits, it is resolved with an
outcome, or it is closed without one (`CallTable.Stands`).  One operation changes
that only if the call waits and the operation concerns it, and then the operation
alone says how the call ends (`Op.verdict`, `stands_perform`); so after any
operations a call stands as the first of them that concerns it says.

What every operation keeps is `CallTable.Sound`: waiting calls have distinct
identifiers, and every number of a registration occurs once, either among the
waiting calls or among the endings.

* `stands_run`: how a call stands after operations that follow its registration;
* `settlement_exactly_once`: the whole of it, over every history of a table.
-/
import Mathlib.Data.List.Perm.Basic
import Mathlib.Data.List.Nodup
import Mathlib.Data.List.Range
import Switchboard.CallTable

namespace Switchboard.CallTable

set_option autoImplicit false

/-! ## Histories -/

/-- What is done to a table. -/
inductive Op where
  | register (candidates : List CorrelationId) (path : Topic)
  | settle (id : CorrelationId) (reply : Except String Json)
  | reject (id : CorrelationId) (error : ClientError)
  | remove (id : CorrelationId)
  | rejectAll (error : ClientError)

/-- What an operation answers. -/
inductive Answer where
  | admission (admission : Admission)
  | found (found : Bool)
  | count (count : Nat)

/-- The table after an operation, and the answer. -/
def Op.perform (op : Op) (table : CallTable) : CallTable × Answer :=
  match op with
  | .register candidates path => Prod.map id .admission (table.register candidates path)
  | .settle name reply => Prod.map id .found (table.settle name reply)
  | .reject name error => Prod.map id .found (table.reject name error)
  | .remove name => Prod.map id .found (table.remove name)
  | .rejectAll error => Prod.map id .count (table.rejectAll error)

/-- The table after operations, the first one first. -/
def run (ops : List Op) (table : CallTable) : CallTable :=
  ops.foldl (fun table op => (op.perform table).1) table

/-- The call that an operation registers, if it does. -/
def Op.admitted? (op : Op) (table : CallTable) : Option PendingCall :=
  match (op.perform table).2 with
  | .admission (.admitted call) => some call
  | _ => none

/-- The calls that operations register, in order. -/
def admissions (table : CallTable) : List Op → List PendingCall
  | [] => []
  | op :: ops => (op.admitted? table).toList ++ admissions (op.perform table).1 ops

/-- The identifier of the call that an operation is about, if it is about one. -/
def Op.subject? : Op → Option CorrelationId
  | .settle id _ | .reject id _ | .remove id => some id
  | .register _ _ | .rejectAll _ => none

/-- How an operation ends a call, if it concerns it: a granted reply with what it carries, a refusal
with the path under which the call was registered, in its wire form, and the message. -/
def Op.verdict (call : PendingCall) : Op → Option CallEnd
  | .register _ _ => none
  | .settle id (.ok data) => if id = call.id then some (.resolved (.ok data)) else none
  | .settle id (.error message) =>
      if id = call.id then some (.resolved (.error (.remote call.path.wire message))) else none
  | .reject id error => if id = call.id then some (.resolved (.error error)) else none
  | .remove id => if id = call.id then some .closed else none
  | .rejectAll error => some (.resolved (.error error))

/-- A reply ends its call with what it means to it. -/
theorem Op.verdict_settle (call : PendingCall) (id : CorrelationId)
    (reply : Except String Json) :
    (Op.settle id reply).verdict call =
      if id = call.id then some (.resolved (replyOutcome reply call)) else none := by
  cases reply <;> rfl

/-- How a call stands: it waits, under its own entry, or it has ended in a certain way. -/
def Stands (table : CallTable) (call : PendingCall) : Option CallEnd → Prop
  | none => call ∈ table.pending
  | some ending => (call.ticket, ending) ∈ table.endings

/-- How many calls ended with an outcome. -/
def resolvedCount (table : CallTable) : Nat :=
  table.endings.countP (fun ending => ending.2.isResolved)

/-- How many calls ended without one. -/
def closedCount (table : CallTable) : Nat :=
  table.endings.countP (fun ending => !ending.2.isResolved)

/-! ## What every operation keeps -/

/-- Waiting calls have distinct identifiers, and every registration is either waiting or ended,
once. -/
structure Sound (table : CallTable) : Prop where
  ids : (table.pending.map (·.id)).Nodup
  tickets : (table.pending.map (·.ticket) ++ table.endings.map (·.1)).Perm
    (List.range table.registrations)

namespace Sound

variable {table : CallTable}

theorem nodup_tickets (sound : table.Sound) :
    (table.pending.map (·.ticket) ++ table.endings.map (·.1)).Nodup :=
  sound.tickets.nodup_iff.2 List.nodup_range

theorem find?_eq_some_iff (sound : table.Sound) (id : CorrelationId) (call : PendingCall) :
    table.find? id = some call ↔ call ∈ table.pending ∧ call.id = id := by
  constructor
  · intro found
    exact ⟨List.mem_of_find?_eq_some found, by simpa using List.find?_some found⟩
  · rintro ⟨member, rfl⟩
    cases found : table.find? call.id with
    | none =>
        have absent := List.find?_eq_none.1 found call member
        simp at absent
    | some other =>
        have sameId : other.id = call.id := by simpa using List.find?_some found
        have same := List.inj_on_of_nodup_map sound.ids (List.mem_of_find?_eq_some found) member
          sameId
        rw [same]

/-- Ending a waiting call takes its entry out and nothing else. -/
theorem finish_waiting (sound : table.Sound) {call : PendingCall} (waits : call ∈ table.pending)
    (ending : PendingCall → CallEnd) :
    table.finish call.id ending =
      ({ table with
          pending := table.pending.filter (fun other => other.id ≠ call.id)
          endings := (call.ticket, ending call) :: table.endings },
       true) := by
  have found := (sound.find?_eq_some_iff call.id call).2 ⟨waits, rfl⟩
  simp [finish, found]

end Sound

theorem ending?_eq_none_iff (table : CallTable) (ticket : Nat) :
    table.ending? ticket = none ↔ ticket ∉ table.endings.map (·.1) := by
  simp only [ending?, Option.map_eq_none_iff, List.find?_eq_none, decide_eq_true_eq, List.mem_map,
    not_exists, not_and]

theorem mem_endings_of_ending? {table : CallTable} {ticket : Nat} {ending : CallEnd}
    (found : table.ending? ticket = some ending) : (ticket, ending) ∈ table.endings := by
  unfold ending? at found
  obtain ⟨entry, first, rfl⟩ := Option.map_eq_some_iff.1 found
  have same : entry.1 = ticket := by simpa using List.find?_some first
  exact same ▸ List.mem_of_find?_eq_some first

theorem contains_iff (table : CallTable) (id : CorrelationId) :
    table.contains id = true ↔ ∃ call ∈ table.pending, call.id = id := by
  simp [contains, find?]

/-- Where keys are distinct, leaving out what has the key of an entry leaves out that entry. -/
theorem perm_cons_filter {α β : Type} [DecidableEq β] (key : α → β) {entries : List α}
    (keys : (entries.map key).Nodup) {entry : α} (member : entry ∈ entries) :
    entries.Perm (entry :: entries.filter (fun other => key other ≠ key entry)) := by
  induction entries with
  | nil => simp at member
  | cons first rest ih =>
      obtain ⟨fresh, restKeys⟩ := List.nodup_cons.1 keys
      rcases List.mem_cons.1 member with rfl | inRest
      · have others : ∀ other ∈ rest, decide (key other ≠ key entry) = true :=
          fun other otherMember =>
            decide_eq_true fun same => fresh (List.mem_map.2 ⟨other, otherMember, same⟩)
        rw [List.filter_cons_of_neg (by simp), List.filter_eq_self.2 others]
      · have different : key first ≠ key entry := fun same =>
          fresh (List.mem_map.2 ⟨entry, inRest, same.symm⟩)
        rw [List.filter_cons_of_pos (by simpa using different)]
        exact ((ih restKeys inRest).cons first).trans (List.Perm.swap entry first _)

/-- Ending the call of an identifier leaves out the calls of that identifier. -/
theorem pending_finish (table : CallTable) (id : CorrelationId)
    (ending : PendingCall → CallEnd) :
    (table.finish id ending).1.pending = table.pending.filter (fun other => other.id ≠ id) := by
  cases present : table.contains id with
  | false =>
      have others : ∀ other ∈ table.pending, decide (other.id ≠ id) = true := by
        intro other member
        by_contra same
        have contained := (table.contains_iff id).2 ⟨other, member, by simpa using same⟩
        simp [present] at contained
      rw [finish_unknown table id ending present, List.filter_eq_self.2 others]
  | true =>
      unfold contains at present
      obtain ⟨call, found⟩ := Option.isSome_iff_exists.1 present
      simp [finish, found]

theorem capacity_finish (table : CallTable) (id : CorrelationId)
    (ending : PendingCall → CallEnd) : (table.finish id ending).1.capacity = table.capacity := by
  unfold finish
  split <;> rfl

/-! ## Registering -/

/-- What registering a call does when it admits it. -/
theorem register_admitted {table after : CallTable} {candidates : List CorrelationId}
    {path : Topic} {call : PendingCall}
    (admitted : table.register candidates path = (after, .admitted call)) :
    table.size < table.capacity ∧ call.id ∈ candidates ∧ call.path = path ∧
      call.ticket = table.registrations ∧ table.contains call.id = false ∧
      after = { table with
        pending := table.pending ++ [call], registrations := table.registrations + 1 } := by
  unfold register at admitted
  split at admitted
  · simp at admitted
  · rename_i room
    split at admitted
    · simp at admitted
    · rename_i id minted
      simp only [Prod.mk.injEq, Admission.admitted.injEq] at admitted
      obtain ⟨rfl, rfl⟩ := admitted
      exact ⟨by omega, List.mem_of_find?_eq_some minted, rfl, rfl,
        by simpa using List.find?_some minted, rfl⟩

/-- Registering that does not admit a call does nothing. -/
theorem register_not_admitted {table : CallTable} {candidates : List CorrelationId}
    {path : Topic} (refused : ∀ call, (table.register candidates path).2 ≠ .admitted call) :
    (table.register candidates path).1 = table := by
  unfold register at refused ⊢
  split
  · rfl
  · rename_i room
    split
    · rfl
    · rename_i id minted
      simp [room, minted] at refused

theorem register_cases (table : CallTable) (candidates : List CorrelationId) (path : Topic) :
    (∃ call after, table.register candidates path = (after, .admitted call)) ∨
      (table.register candidates path).1 = table ∧
        ∀ call, (table.register candidates path).2 ≠ .admitted call := by
  by_cases admitted : ∃ call, (table.register candidates path).2 = .admitted call
  · obtain ⟨call, admitted⟩ := admitted
    exact .inl ⟨call, _, Prod.ext rfl admitted⟩
  · have refused := not_exists.1 admitted
    exact .inr ⟨register_not_admitted refused, refused⟩

/-! ## Soundness is kept -/

theorem sound_empty (capacity : Nat) : ({ capacity } : CallTable).Sound where
  ids := List.nodup_nil
  tickets := List.Perm.refl _

namespace Sound

variable {table : CallTable}

theorem register (sound : table.Sound) (candidates : List CorrelationId) (path : Topic) :
    (table.register candidates path).1.Sound := by
  rcases register_cases table candidates path with ⟨call, after, admitted⟩ | ⟨same, -⟩
  · rw [admitted]
    obtain ⟨-, -, -, ticket, absent, rfl⟩ := register_admitted admitted
    have fresh : ∀ other ∈ table.pending, other.id ≠ call.id := fun other member sameId => by
      have present := (table.contains_iff call.id).2 ⟨other, member, sameId⟩
      simp [absent] at present
    constructor
    · simpa [List.nodup_append, sound.ids] using fresh
    · have last : ((table.pending ++ [call]).map (·.ticket) ++ table.endings.map (·.1)).Perm
          ((table.pending.map (·.ticket) ++ table.endings.map (·.1)) ++ [call.ticket]) := by
        have swapped : ([call.ticket] ++ table.endings.map (·.1)).Perm
            (table.endings.map (·.1) ++ [call.ticket]) := List.perm_append_comm
        simpa using swapped.append_left (table.pending.map (·.ticket))
      rw [ticket] at last
      exact List.range_succ ▸ last.trans (sound.tickets.append_right _)
  · exact same.symm ▸ sound

theorem finish (sound : table.Sound) (id : CorrelationId) (ending : PendingCall → CallEnd) :
    (table.finish id ending).1.Sound := by
  by_cases present : table.contains id = true
  · obtain ⟨call, waits, rfl⟩ := (table.contains_iff id).1 present
    rw [sound.finish_waiting waits]
    constructor
    · exact sound.ids.sublist (List.filter_sublist.map _)
    · have entry := (perm_cons_filter (·.id) sound.ids waits).map (·.ticket)
      refine List.Perm.trans ?_ sound.tickets
      refine List.Perm.trans ?_ (entry.symm.append_right _)
      exact List.perm_middle
  · rw [finish_unknown table id ending (by simpa using present)]
    exact sound

theorem rejectAll (sound : table.Sound) (error : ClientError) :
    (table.rejectAll error).1.Sound where
  ids := List.nodup_nil
  tickets := by simpa [CallTable.rejectAll, Function.comp_def] using sound.tickets

theorem perform (sound : table.Sound) (op : Op) : (op.perform table).1.Sound := by
  cases op with
  | register candidates path => exact sound.register candidates path
  | settle id reply => exact sound.finish id _
  | reject id error => exact sound.finish id _
  | remove id => exact sound.finish id _
  | rejectAll error => exact sound.rejectAll error

theorem run (sound : table.Sound) (ops : List Op) : (table.run ops).Sound := by
  induction ops generalizing table with
  | nil => exact sound
  | cons op ops ih => exact ih (sound.perform op)

end Sound

/-! ## How a call stands -/

variable {table : CallTable} {call : PendingCall}

/-- A call stands in one way only. -/
theorem Stands.unique (sound : table.Sound) {left right : Option CallEnd}
    (standsLeft : table.Stands call left) (standsRight : table.Stands call right) :
    left = right := by
  obtain ⟨-, endings, apart⟩ := List.nodup_append.1 sound.nodup_tickets
  have waitsNot : ∀ ending, call ∈ table.pending → (call.ticket, ending) ∉ table.endings :=
    fun ending waits ended =>
      apart _ (List.mem_map_of_mem waits) _ (List.mem_map_of_mem ended) rfl
  cases left with
  | none =>
      cases right with
      | none => rfl
      | some ending => exact absurd standsRight (waitsNot ending standsLeft)
  | some ending =>
      cases right with
      | none => exact absurd standsLeft (waitsNot ending standsRight)
      | some other =>
          have same := List.inj_on_of_nodup_map endings standsLeft standsRight rfl
          exact congrArg some (Prod.mk.inj same).2

theorem contains_of_stands (waits : table.Stands call none) : table.contains call.id = true :=
  (table.contains_iff call.id).2 ⟨call, waits, rfl⟩

/-- Ending the call of an identifier ends that call and leaves the others where they are. -/
theorem stands_finish (sound : table.Sound) (waits : table.Stands call none) (id : CorrelationId)
    (ending : PendingCall → CallEnd) :
    (table.finish id ending).1.Stands call (if id = call.id then some (ending call) else none) := by
  by_cases same : id = call.id
  · subst same
    rw [sound.finish_waiting waits, if_pos rfl]
    exact List.mem_cons_self
  · rw [if_neg same]
    by_cases present : table.contains id = true
    · obtain ⟨other, otherWaits, rfl⟩ := (table.contains_iff id).1 present
      rw [sound.finish_waiting otherWaits]
      exact List.mem_filter.2 ⟨waits, by simpa using fun back => same back.symm⟩
    · rw [finish_unknown table id ending (by simpa using present)]
      exact waits

theorem endings_finish (table : CallTable) (id : CorrelationId) (ending : PendingCall → CallEnd) :
    table.endings ⊆ (table.finish id ending).1.endings := by
  unfold finish
  split
  · exact fun _ member => member
  · exact List.subset_cons_self _ _

theorem endings_perform (op : Op) (table : CallTable) :
    table.endings ⊆ (op.perform table).1.endings := by
  cases op with
  | register candidates path =>
      rcases register_cases table candidates path with ⟨call, after, admitted⟩ | ⟨same, -⟩
      · obtain ⟨-, -, -, -, -, rfl⟩ := register_admitted admitted
        simp [Op.perform, admitted]
      · simp [Op.perform, same]
  | settle id reply => exact endings_finish table id _
  | reject id error => exact endings_finish table id _
  | remove id => exact endings_finish table id _
  | rejectAll error => exact List.subset_append_right _ _

/-- One operation: a call that has ended stays as it is, and a waiting one ends as the operation
says, if that concerns it. -/
theorem stands_perform (sound : table.Sound) {condition : Option CallEnd}
    (stands : table.Stands call condition) (op : Op) :
    (op.perform table).1.Stands call (condition.or (op.verdict call)) := by
  cases condition with
  | some ending => exact endings_perform op table stands
  | none =>
      cases op with
      | register candidates path =>
          rcases register_cases table candidates path with ⟨other, after, admitted⟩ | ⟨same, -⟩
          · obtain ⟨-, -, -, -, -, rfl⟩ := register_admitted admitted
            have kept : call ∈ table.pending ++ [other] := List.mem_append_left _ stands
            simpa [Op.perform, admitted, Op.verdict, Stands] using kept
          · simpa [Op.perform, same, Op.verdict] using stands
      | settle id reply =>
          rw [Option.none_or, Op.verdict_settle]
          exact stands_finish sound stands id _
      | reject id error => exact stands_finish sound stands id _
      | remove id => exact stands_finish sound stands id _
      | rejectAll error =>
          exact List.mem_append_left _ (List.mem_map.2 ⟨call, stands, rfl⟩)

/-- **The first operation that concerns a call decides.** -/
theorem stands_run (sound : table.Sound) {condition : Option CallEnd}
    (stands : table.Stands call condition) (ops : List Op) :
    (table.run ops).Stands call (condition.or (ops.findSome? (Op.verdict call))) := by
  induction ops generalizing table condition with
  | nil => simpa [run] using stands
  | cons op ops ih =>
      have later := ih (sound.perform op) (stands_perform sound stands op)
      rw [Option.or_assoc] at later
      have first : (op :: ops).findSome? (Op.verdict call) =
          (op.verdict call).or (ops.findSome? (Op.verdict call)) := by
        cases verdict : op.verdict call <;> simp [verdict]
      rw [first]
      exact later

/-! ## The calls of a history -/

theorem run_append (table : CallTable) (first second : List Op) :
    table.run (first ++ second) = (table.run first).run second :=
  List.foldl_append

/-- An operation registers a call exactly if it is a registration that admits it. -/
theorem admitted?_eq_some_iff (op : Op) (table : CallTable) (call : PendingCall) :
    op.admitted? table = some call ↔
      ∃ candidates path, op = .register candidates path ∧
        (table.register candidates path).2 = .admitted call := by
  cases op with
  | register candidates path =>
      cases admission : (table.register candidates path).2 <;>
        simp [Op.admitted?, Op.perform, admission]
  | _ => simp [Op.admitted?, Op.perform]

/-- A registered call waits. -/
theorem stands_of_admitted? {op : Op} (admitted : op.admitted? table = some call) :
    (op.perform table).1.Stands call none := by
  obtain ⟨candidates, path, rfl, admission⟩ := (admitted?_eq_some_iff op table call).1 admitted
  obtain ⟨-, -, -, -, -, after⟩ := register_admitted (Prod.ext rfl admission)
  have waits : call ∈ (table.register candidates path).1.pending := by simp [after]
  exact waits

theorem exists_of_mem_admissions {ops : List Op} (member : call ∈ table.admissions ops) :
    ∃ before op after, ops = before ++ op :: after ∧
      op.admitted? (table.run before) = some call := by
  induction ops generalizing table with
  | nil => simp [admissions] at member
  | cons op ops ih =>
      rcases List.mem_append.1 member with first | later
      · exact ⟨[], op, ops, rfl, Option.mem_toList.1 first⟩
      · obtain ⟨before, other, after, rfl, admitted⟩ := ih later
        exact ⟨op :: before, other, after, rfl, admitted⟩

theorem exists_stands (sound : table.Sound) {ops : List Op}
    (member : call ∈ table.admissions ops) :
    ∃ condition, (table.run ops).Stands call condition := by
  obtain ⟨before, op, after, rfl, admitted⟩ := exists_of_mem_admissions member
  have waits := stands_of_admitted? admitted
  have later := stands_run ((sound.run before).perform op) waits after
  exact ⟨_, run_append table before (op :: after) ▸ later⟩

theorem registrations_finish (table : CallTable) (id : CorrelationId)
    (ending : PendingCall → CallEnd) :
    (table.finish id ending).1.registrations = table.registrations := by
  unfold finish
  split <;> rfl

theorem registrations_perform (op : Op) (table : CallTable) :
    (op.perform table).1.registrations =
      table.registrations + (op.admitted? table).toList.length := by
  cases op with
  | register candidates path =>
      rcases register_cases table candidates path with ⟨call, after, admitted⟩ | ⟨same, refused⟩
      · obtain ⟨-, -, -, -, -, rfl⟩ := register_admitted admitted
        simp [Op.admitted?, Op.perform, admitted]
      · have none : (Op.register candidates path).admitted? table = none :=
          Option.eq_none_iff_forall_ne_some.2 fun call admitted => by
            obtain ⟨_, _, equal, admission⟩ := (admitted?_eq_some_iff _ table call).1 admitted
            cases equal
            exact refused call admission
        simp [none, Op.perform, same]
  | rejectAll error => rfl
  | _ => exact registrations_finish _ _ _

theorem registrations_run (table : CallTable) (ops : List Op) :
    (table.run ops).registrations = table.registrations + (table.admissions ops).length := by
  induction ops generalizing table with
  | nil => rfl
  | cons op ops ih =>
      calc (table.run (op :: ops)).registrations
          = ((op.perform table).1.run ops).registrations := rfl
        _ = (op.perform table).1.registrations + ((op.perform table).1.admissions ops).length :=
            ih _
        _ = table.registrations + (table.admissions (op :: ops)).length := by
            rw [registrations_perform, admissions, List.length_append, Nat.add_assoc]

/-- Registrations are conserved: each is waiting, resolved or closed. -/
theorem Sound.registrations_eq (sound : table.Sound) :
    table.registrations = table.size + table.resolvedCount + table.closedCount := by
  have total := sound.tickets.length_eq
  have split : table.endings.length =
      table.endings.countP (fun ending => ending.2.isResolved) +
        table.endings.countP (fun ending => decide ¬ending.2.isResolved = true) :=
    List.length_eq_countP_add_countP _
  simp only [List.length_append, List.length_map, List.length_range] at total
  have closed : table.closedCount =
      table.endings.countP (fun ending => decide ¬ending.2.isResolved = true) := by
    simp [closedCount]
  simp only [size, resolvedCount, closed]
  omega

/-! ## Until an identifier is drawn again -/

/-- What waits after an operation has waited before it, or has just been registered. -/
theorem pending_perform (op : Op) {other : PendingCall}
    (waits : other ∈ (op.perform table).1.pending) :
    other ∈ table.pending ∨ op.admitted? table = some other := by
  have afterFinish : ∀ id ending, other ∈ (table.finish id ending).1.pending →
      other ∈ table.pending := by
    intro id ending member
    unfold finish at member
    split at member
    · exact member
    · exact (List.mem_filter.1 member).1
  cases op with
  | register candidates path =>
      rcases register_cases table candidates path with ⟨call, after, admitted⟩ | ⟨same, -⟩
      · obtain ⟨-, -, -, -, -, rfl⟩ := register_admitted admitted
        simpa [Op.perform, Op.admitted?, admitted, eq_comm] using waits
      · exact .inl (by simpa [Op.perform, same] using waits)
  | settle id reply => exact .inl (afterFinish id _ waits)
  | reject id error => exact .inl (afterFinish id _ waits)
  | remove id => exact .inl (afterFinish id _ waits)
  | rejectAll error => simp [Op.perform, rejectAll] at waits

/-- While its identifier is not drawn again, no other call waits under it. -/
theorem only_of_not_drawn {ops : List Op}
    (only : ∀ other ∈ table.pending, other.id = call.id → other = call)
    (notDrawn : ∀ other ∈ table.admissions ops, other.id ≠ call.id) :
    ∀ other ∈ (table.run ops).pending, other.id = call.id → other = call := by
  induction ops generalizing table with
  | nil => exact only
  | cons op ops ih =>
      refine ih (fun other waits sameId => ?_)
        (fun other member => notDrawn other (List.mem_append_right _ member))
      rcases pending_perform op waits with before | admitted
      · exact only other before sameId
      · have drawn : other ∈ table.admissions (op :: ops) :=
          List.mem_append_left _ (Option.mem_toList.2 admitted)
        exact absurd sameId (notDrawn other drawn)

theorem finish_found (table : CallTable) (id : CorrelationId)
    (ending : PendingCall → CallEnd) : (table.finish id ending).2 = table.contains id := by
  unfold finish contains
  split <;> simp [*]

/-- An operation about an identifier finds a call exactly if one waits under it, and otherwise does
nothing. -/
theorem perform_subject (table : CallTable) {op : Op} {id : CorrelationId}
    (subject : op.subject? = some id) :
    (op.perform table).2 = .found (table.contains id) ∧
      (table.contains id = false → op.perform table = (table, .found false)) := by
  have finds := table.finish_found id
  cases op with
  | register | rejectAll => simp [Op.subject?] at subject
  | settle name reply | reject name error | remove name =>
      obtain rfl : name = id := by simpa [Op.subject?] using subject
      refine ⟨congrArg Answer.found (finds _), fun absent => ?_⟩
      exact congrArg (Prod.map id Answer.found) (finish_unknown table name _ absent)

theorem resolvedCount_rejectAll (table : CallTable) (error : ClientError) :
    (table.rejectAll error).1.resolvedCount =
      table.resolvedCount + (table.rejectAll error).2 := by
  simp [rejectAll, resolvedCount, List.countP_map, Function.comp_def, CallEnd.isResolved, size,
    Nat.add_comm]

/-! ## Whole histories -/

/-- **A registered call ends at most once, as the first operation that concerns it says.**
After any operations on a table that was empty, in any order and with any identifiers:

* every call that was registered stands in exactly one condition, and the registrations are the
  waiting, the resolved and the closed calls together;
* a call stands as the first operation after its registration that concerns it says, and waits if
  there is none.  Until its identifier is drawn again, the table contains the identifier exactly
  if the call waits, an operation about the identifier says whether it does, and once the call has
  ended such an operation changes nothing;
* a further operation leaves every call as it stands that has ended or that it does not concern;
* rejecting all calls ends those that wait, and says how many it resolved. -/
theorem settlement_exactly_once (capacity : Nat) (ops : List Op) :
    let empty : CallTable := { capacity }
    let table := empty.run ops
    let calls := empty.admissions ops
    (∀ call ∈ calls, ∃! condition, table.Stands call condition) ∧
      calls.length = table.size + table.resolvedCount + table.closedCount ∧
      (∀ before candidates path after call,
        ops = before ++ .register candidates path :: after →
        ((empty.run before).register candidates path).2 = .admitted call →
          call.path = path ∧ call.id ∈ candidates ∧
            table.Stands call (after.findSome? (Op.verdict call)) ∧
            ((∀ other ∈ ((empty.run before).register candidates path).1.admissions after,
                other.id ≠ call.id) →
              (table.contains call.id = true ↔ table.Stands call none) ∧
                ∀ op : Op, op.subject? = some call.id →
                  ((op.perform table).2 = .found true ↔ table.Stands call none) ∧
                    (¬ table.Stands call none → op.perform table = (table, .found false)))) ∧
      (∀ call ∈ calls, ∀ condition, table.Stands call condition → ∀ op : Op,
        condition ≠ none ∨ op.verdict call = none → (op.perform table).1.Stands call condition) ∧
      ∀ error, (table.rejectAll error).1.pending = [] ∧
        (table.rejectAll error).1.resolvedCount =
          table.resolvedCount + (table.rejectAll error).2 := by
  intro empty table calls
  have sound : table.Sound := (sound_empty capacity).run ops
  refine ⟨?_, ?_, ?_, ?_, ?_⟩
  · intro call member
    obtain ⟨condition, stands⟩ := exists_stands (sound_empty capacity) member
    exact ⟨condition, stands, fun other otherStands => otherStands.unique sound stands⟩
  · have counted := registrations_run empty ops
    rw [← sound.registrations_eq, counted]
    exact (Nat.zero_add _).symm
  · rintro before candidates path after call split admission
    have result : (empty.run before).register candidates path = (_, .admitted call) :=
      Prod.ext rfl admission
    obtain ⟨-, candidate, samePath, -, absent, registered⟩ := register_admitted result
    have soundThen := ((sound_empty capacity).run before).register candidates path
    have waits : ((empty.run before).register candidates path).1.Stands call none := by
      simp [Stands, registered]
    have whole : table = ((empty.run before).register candidates path).1.run after := by
      simp only [table, split, run_append]
      rfl
    refine ⟨samePath, candidate, whole ▸ stands_run soundThen waits after, fun notDrawn => ?_⟩
    have only : ∀ other ∈ table.pending, other.id = call.id → other = call := by
      rw [whole]
      refine only_of_not_drawn (fun other otherWaits sameId => ?_) notDrawn
      exact List.inj_on_of_nodup_map soundThen.ids otherWaits waits sameId
    have contains : table.contains call.id = true ↔ table.Stands call none := by
      refine ⟨fun present => ?_, contains_of_stands⟩
      obtain ⟨other, otherWaits, sameId⟩ := (table.contains_iff call.id).1 present
      exact only other otherWaits sameId ▸ otherWaits
    refine ⟨contains, fun op subject => ?_⟩
    obtain ⟨answer, nothing⟩ := perform_subject table subject
    refine ⟨?_, fun ended => nothing (Bool.eq_false_iff.2 (mt contains.1 ended))⟩
    rw [answer, Answer.found.injEq]
    exact contains
  · intro call _ condition stands op stays
    have after := stands_perform sound stands op
    rcases stays with ended | untouched
    · obtain ⟨ending, rfl⟩ := Option.ne_none_iff_exists'.1 ended
      exact after
    · rw [untouched, Option.or_none] at after
      exact after
  · exact fun error => ⟨rfl, resolvedCount_rejectAll table error⟩

/-- Two calls; the first is granted and the second refused, and a late refusal of the first finds
nothing. -/
def answered : List Op :=
  [.register [⟨1⟩] ⟨["orders", "list"]⟩, .register [⟨2⟩] ⟨["orders", "stop"]⟩,
    .settle ⟨2⟩ (.error "too late"), .settle ⟨1⟩ (.ok (.bool true)), .settle ⟨1⟩ (.error "gone")]

theorem settlement_exactly_once_answered :
    let table := ({ capacity := 2 } : CallTable).run answered
    table.Stands ⟨0, ⟨1⟩, ⟨["orders", "list"]⟩⟩ (some (.resolved (.ok (.bool true)))) ∧
      table.Stands ⟨1, ⟨2⟩, ⟨["orders", "stop"]⟩⟩
        (some (.resolved (.error (.remote "orders/stop" "too late")))) ∧
      table.contains ⟨1⟩ = false ∧ table.resolvedCount = 2 := by
  intro table
  obtain ⟨-, -, calls, -⟩ := settlement_exactly_once 2 answered
  have granted := calls [] [⟨1⟩] ⟨["orders", "list"]⟩ _ ⟨0, ⟨1⟩, ⟨["orders", "list"]⟩⟩ rfl rfl
  have refused := calls [.register [⟨1⟩] ⟨["orders", "list"]⟩] [⟨2⟩] ⟨["orders", "stop"]⟩ _
    ⟨1, ⟨2⟩, ⟨["orders", "stop"]⟩⟩ rfl rfl
  exact ⟨granted.2.2.1, refused.2.2.1, rfl, rfl⟩

end Switchboard.CallTable
