/-
# Switchboard.Proofs.Minting -- how a call gets its identifier

Registering a call draws identifiers until one names no waiting call.  The draws are
a stream (`Stream'`), which may repeat itself and may come back to identifiers that
are taken; a registration that has seen the first `count` of them is
`table.register (draws.take count) path`.  Where the loop ends is
`CallTable.MintsAt`: a place whose draw is free and before which every draw is
taken.  A registration that has not come to that place is still drawing
(`register_short`), and one that has seen it, or more, took exactly that draw
(`register_mintsAt`), so how far the stream is looked at does not matter.

A free draw alone does not bound the table: what does is that registering on a full
one does nothing (`register_full`), which every history keeps
(`size_le_capacity_run`), and that no identifier is given out twice at a time is
part of `CallTable.Sound`.

* `registering_mints_the_first_free`: the three outcomes of a registration, on every
  table that operations lead to.
-/
import Mathlib.Data.Nat.Find
import Mathlib.Data.Stream.Init
import Switchboard.Proofs.Settlement

namespace Switchboard.CallTable

set_option autoImplicit false

variable {table : CallTable} {draws : Stream' CorrelationId} {place : Nat}

/-! ## Where the loop ends -/

/-- The first draw that names no waiting call stands at a place. -/
structure MintsAt (table : CallTable) (draws : Stream' CorrelationId) (place : Nat) : Prop where
  free : table.contains (draws.get place) = false
  taken : ∀ earlier, earlier < place → table.contains (draws.get earlier) = true

/-- If any draw is free, one of those up to it is the first. -/
theorem exists_mintsAt {fitting : Nat} (free : table.contains (draws.get fitting) = false) :
    ∃ place, place ≤ fitting ∧ table.MintsAt draws place := by
  classical
  have somewhere : ∃ place, table.contains (draws.get place) = false := ⟨fitting, free⟩
  refine ⟨Nat.find somewhere, Nat.find_min' somewhere free, Nat.find_spec somewhere,
    fun earlier before => ?_⟩
  simpa using Nat.find_min somewhere before

/-- **Of the draws seen so far the first free one is taken, once it has been seen.** -/
theorem mint?_take (mints : table.MintsAt draws place) (count : Nat) :
    table.mint? (draws.take count) = if place < count then some (draws.get place) else none := by
  induction count with
  | zero => rfl
  | succ count ih =>
      have grown : table.mint? (draws.take (count + 1)) =
          (table.mint? (draws.take count)).or (table.mint? [draws.get count]) := by
        rw [Stream'.take_succ']
        exact List.find?_append
      rw [grown, ih]
      rcases Nat.lt_trichotomy place count with past | rfl | ahead
      · rw [if_pos past, if_pos (by omega)]
        rfl
      · simp [mint?, mints.free]
      · simp [mint?, mints.taken count ahead, Nat.not_lt.2 (Nat.le_of_lt ahead),
          Nat.not_lt.2 (Nat.succ_le_of_lt ahead)]

/-! ## The three outcomes -/

/-- The call that a registration enters. -/
def entry (table : CallTable) (id : CorrelationId) (path : Topic) : PendingCall :=
  ⟨table.registrations, id, path⟩

/-- The table with one more waiting call. -/
def entered (table : CallTable) (id : CorrelationId) (path : Topic) : CallTable :=
  { table with
    pending := table.pending ++ [table.entry id path]
    registrations := table.registrations + 1 }

theorem register_full (full : table.capacity ≤ table.size) (candidates : List CorrelationId)
    (path : Topic) :
    table.register candidates path = (table, .refused table.size table.capacity) := by
  rw [register, if_pos full]

theorem register_mintsAt (mints : table.MintsAt draws place) (room : table.size < table.capacity)
    {count : Nat} (seen : place < count) (path : Topic) :
    table.register (draws.take count) path =
      (table.entered (draws.get place) path, .admitted (table.entry (draws.get place) path)) := by
  rw [register, if_neg (Nat.not_le.2 room), mint?_take mints, if_pos seen]
  rfl

theorem register_short (mints : table.MintsAt draws place) (room : table.size < table.capacity)
    {count : Nat} (short : count ≤ place) (path : Topic) :
    table.register (draws.take count) path = (table, .exhausted) := by
  rw [register, if_neg (Nat.not_le.2 room), mint?_take mints, if_neg (Nat.not_lt.2 short)]

/-- Under a free identifier an entry hides no other. -/
theorem find?_entered {id : CorrelationId} (free : table.contains id = false) (path : Topic)
    (other : CorrelationId) :
    (table.entered id path).find? other =
      if other = id then some (table.entry id path) else table.find? other := by
  have appended : (table.entered id path).find? other =
      (table.find? other).or (List.find? (fun call => call.id = other) [table.entry id path]) :=
    List.find?_append
  rw [appended]
  by_cases same : other = id
  · subst same
    have absent : table.find? other = none := by simpa [contains] using free
    simp [absent, entry]
  · have different : id ≠ other := fun back => same back.symm
    simp [same, entry, different]

/-! ## What every history keeps -/

/-- Operations never change how many calls may wait. -/
theorem capacity_perform (op : Op) (table : CallTable) :
    (op.perform table).1.capacity = table.capacity := by
  cases op with
  | register candidates path =>
      rcases register_cases table candidates path with ⟨call, after, admitted⟩ | ⟨same, -⟩
      · obtain ⟨-, -, -, -, -, rfl⟩ := register_admitted admitted
        simp [Op.perform, admitted]
      · simp [Op.perform, same]
  | settle id reply => exact capacity_finish table id _
  | reject id error => exact capacity_finish table id _
  | remove id => exact capacity_finish table id _
  | rejectAll error => rfl

theorem capacity_run (ops : List Op) (table : CallTable) :
    (table.run ops).capacity = table.capacity := by
  induction ops generalizing table with
  | nil => rfl
  | cons op ops ih => exact (ih (op.perform table).1).trans (capacity_perform op table)

theorem size_finish_le (table : CallTable) (id : CorrelationId) (ending : PendingCall → CallEnd) :
    (table.finish id ending).1.size ≤ table.size := by
  rw [size, pending_finish]
  exact List.length_filter_le _ _

/-- One operation leaves at most as many calls waiting as may, if no more than that did. -/
theorem size_le_capacity_perform (bounded : table.size ≤ table.capacity) (op : Op) :
    (op.perform table).1.size ≤ (op.perform table).1.capacity := by
  rw [capacity_perform]
  cases op with
  | register candidates path =>
      exact (length_pending_register table candidates path).trans (Nat.max_le.2 ⟨bounded, le_rfl⟩)
  | settle id reply => exact (size_finish_le table id _).trans bounded
  | reject id error => exact (size_finish_le table id _).trans bounded
  | remove id => exact (size_finish_le table id _).trans bounded
  | rejectAll error => exact Nat.zero_le _

theorem size_le_capacity_run (bounded : table.size ≤ table.capacity) (ops : List Op) :
    (table.run ops).size ≤ (table.run ops).capacity := by
  induction ops generalizing table with
  | nil => exact bounded
  | cons op ops ih => exact ih (size_le_capacity_perform bounded op)

/-- The next ticket was never handed out. -/
theorem Sound.ticket_unused (sound : table.Sound) :
    table.registrations ∉ table.pending.map (·.ticket) ++ table.endings.map (·.1) := by
  rw [sound.tickets.mem_iff]
  exact List.not_mem_range_self

/-! ## Registering -/

/-- **A registration takes the first free draw, unless the table is full.**  On every table that
operations lead to, at most as many calls wait as may and no two of them share an identifier.  A
full table refuses, with the two numbers, whatever is drawn.  Otherwise, if some draw is free, the
first such draw is the new call's identifier: the call is entered behind those that wait, under the
next ticket, which no call ever had, and the others are found as before.  Until that draw has been
seen nothing is entered. -/
theorem registering_mints_the_first_free (ops : List Op) (capacity : Nat)
    (draws : Stream' CorrelationId) (path : Topic) :
    let table := ({ capacity } : CallTable).run ops
    (table.size ≤ capacity ∧ (table.pending.map (·.id)).Nodup) ∧
      (capacity ≤ table.size → ∀ count,
        table.register (draws.take count) path = (table, .refused table.size capacity)) ∧
      (table.size < capacity → ∀ fitting, table.contains (draws.get fitting) = false →
        ∃ place, place ≤ fitting ∧ table.MintsAt draws place ∧
          (∀ count, count ≤ place → table.register (draws.take count) path = (table, .exhausted)) ∧
          (∀ count, place < count →
            table.register (draws.take count) path =
              ({ table with
                  pending := table.pending ++ [⟨table.registrations, draws.get place, path⟩]
                  registrations := table.registrations + 1 },
               .admitted ⟨table.registrations, draws.get place, path⟩)) ∧
          (∀ other, (table.register (draws.take (place + 1)) path).1.find? other =
            if other = draws.get place then some ⟨table.registrations, draws.get place, path⟩
            else table.find? other) ∧
          table.registrations ∉ table.pending.map (·.ticket) ++ table.endings.map (·.1)) := by
  intro table
  have sound : table.Sound := (sound_empty capacity).run ops
  have limit : table.capacity = capacity := capacity_run ops { capacity }
  have bounded : table.size ≤ table.capacity := size_le_capacity_run (Nat.zero_le _) ops
  refine ⟨⟨limit ▸ bounded, sound.ids⟩, fun full count => ?_, fun room fitting free => ?_⟩
  · rw [register_full (limit.symm ▸ full), limit]
  · rw [← limit] at room
    obtain ⟨place, upTo, mints⟩ := exists_mintsAt free
    refine ⟨place, upTo, mints, fun count short => register_short mints room short path,
      fun count seen => register_mintsAt mints room seen path, fun other => ?_,
      sound.ticket_unused⟩
    rw [register_mintsAt mints room (Nat.lt_succ_self place)]
    exact find?_entered mints.free path other

/-- Draws that name the waiting call three times over before they name a second one. -/
def stutter : Stream' CorrelationId := fun index => if index < 3 then ⟨7⟩ else ⟨index⟩

theorem registering_mints_the_first_free_stutter :
    let table := ({ capacity := 2 } : CallTable).run [.register [⟨7⟩] ⟨["orders"]⟩]
    let full := ({ capacity := 0 } : CallTable).run []
    table.register (stutter.take 9) ⟨["stock"]⟩ =
        (table.entered ⟨3⟩ ⟨["stock"]⟩, .admitted ⟨1, ⟨3⟩, ⟨["stock"]⟩⟩) ∧
      full.register (stutter.take 9) ⟨["stock"]⟩ = (full, .refused 0 0) := by
  have spacious := registering_mints_the_first_free [.register [⟨7⟩] ⟨["orders"]⟩] 2 stutter
    ⟨["stock"]⟩
  have closed := registering_mints_the_first_free [] 0 stutter ⟨["stock"]⟩
  obtain ⟨place, upTo, mints, -, admitted, -⟩ := spacious.2.2 (by decide) 3 (by decide)
  have third : place = 3 := by
    rcases Nat.lt_or_eq_of_le upTo with before | at3
    · have wrong := mints.free
      have named : stutter.get place = ⟨7⟩ := if_pos before
      rw [named] at wrong
      exact absurd wrong (by decide)
    · exact at3
  subst third
  exact ⟨admitted 9 (by decide), closed.2.1 (by decide) 9⟩

end Switchboard.CallTable
