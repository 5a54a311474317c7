/-
# Switchboard.Proofs.Rigs -- a client, and the tasks about its link

Here a client is taken apart into what runs side by side (`Rig`): the drivers that
were ever started, each at its own stage, the slot that keeps the latest, and the
closes that are under way.  Turns are taken in any order (`Rig.turn`).  Connecting looks
at the slot; closing empties it, signals the driver that was in it, and goes through
once that has finished.

While a close is under way the slot is empty, and connecting would start a second driver.
As long as nobody connects then (`Rig.isApart`), a driver that has not finished is in the
slot or awaited by a close (`Rig.Sound.kept`), and there is one at most (`Rig.Sound.sole`).
A close that begins while another is under way awaits nobody: it may lower the link of a
driver that runs.  While none has, the state of the link is that of the driver's stage
(`Rig.Level`).

* `Rig.Sound.turn`: a rig stays sound, if nobody connects during a close;
* `Rig.Level.turn`: while one close at most is under way, it stays level as well;
* `Rig.Level.edge`: then no turn changes the state but along an edge.
-/
import Switchboard.Proofs.Drivers

namespace Switchboard

set_option autoImplicit false

/-! ## Turns -/

/-- A client, and the tasks about its link. -/
structure Rig (κ ω : Type) where
  client : Client κ ω
  /-- The drivers that were ever started, oldest first. -/
  drivers : List Driver := []
  /-- The place of the driver that is kept. -/
  slot : Option Nat := none
  /-- The closes under way, the earliest first: the place of the driver that each awaits, if any. -/
  closing : List (Option Nat) := []

/-- What happens to a client and its tasks at once. -/
inductive Rig.Turn (κ ω : Type) where
  /-- The application acts, or a callback. -/
  | act (act : Client.Act κ ω)
  | connect (runtime : Bool) (address : String)
  /-- A close begins. -/
  | close
  /-- One of the closes under way goes through, if it need not wait; if it is this close that lowers
  the link, the observers are told and do these acts. -/
  | closed (which : Nat) (acts : List (Client.Act κ ω))
  | drive (place : Nat) (step : Driver.Step)

namespace Rig

variable {κ ω : Type}

/-- Whether somebody connects at a turn. -/
def Turn.connects : Turn κ ω → Bool
  | .connect _ _ => true
  | _ => false

/-- Whether a close begins at a turn. -/
def Turn.closes : Turn κ ω → Bool
  | .close => true
  | _ => false

/-- Whether a turn connects, or is one of a close. -/
def Turn.manages : Turn κ ω → Bool
  | .connect _ _ | .close | .closed _ _ => true
  | _ => false

theorem Turn.connects_of_manages {turn : Turn κ ω} (other : turn.manages = false) :
    turn.connects = false := by
  cases turn with
  | connect => cases other
  | _ => rfl

/-- The stage of the driver at a place; where there is none, none is running. -/
def stageAt (place : Nat) (rig : Rig κ ω) : Stage :=
  rig.drivers[place]?.elim .finished (·.stage)

/-- Whether the driver at a place has not finished. -/
def runsAt (place : Nat) (rig : Rig κ ω) : Bool := (rig.stageAt place).isRunning

/-- The client whose driver has just been started for an endpoint. -/
def launched (endpoint : Endpoint) (client : Client κ ω) : Client κ ω :=
  { client with
    link := { client.link with
      phase := .starting
      endpoint := some endpoint
      backoff := client.link.backoff.reset } }

/-- The rig with a driver started for an address, unless the one in the slot runs. -/
def connect (runtime : Bool) (address : String) (rig : Rig κ ω) :
    Rig κ ω × Except ClientError Unit :=
  match Endpoint.parse address with
  | .error reason => (rig, .error (.url reason))
  | .ok endpoint =>
      if !endpoint.isSocket then (rig, .error (Client.unsupportedScheme endpoint.scheme))
      else if !runtime then (rig, .error Client.noRuntime)
      else if rig.slot.any rig.runsAt then (rig, .error .alreadyConnected)
      else
        ({ rig with
            client := launched endpoint rig.client
            drivers := rig.drivers ++ [{}]
            slot := some rig.drivers.length },
         .ok ())

/-- The rig in which a close has begun: the driver has been taken out of the slot and told to
stop. -/
def close (rig : Rig κ ω) : Rig κ ω :=
  { rig with
    drivers := rig.slot.elim rig.drivers fun place =>
      rig.drivers.modify place fun driver => { driver with signalled := true }
    slot := none
    closing := rig.closing ++ [rig.slot] }

/-- The client that a close is done with: its backlog is dropped and its link lowered, which the
observers are told if it was up, and then the calls that wait fail. -/
def settle (acts : List (Client.Act κ ω)) (client : Client κ ω) : Client κ ω :=
  let lowered := ({ client with link := { client.link with backlog := [] } } : Client κ ω).moveTo
    .disconnected
  ((if client.isAlive then lowered.performAll acts else lowered).rejectAll .connectionClosed).1

/-- The rig after a driver has taken a step. -/
def drive (place : Nat) (step : Driver.Step) (rig : Rig κ ω) : Rig κ ω :=
  match rig.drivers[place]? with
  | none => rig
  | some driver =>
      { rig with
        client := (driver.take step rig.client).2
        drivers :=
          rig.drivers.set place { driver with stage := (driver.take step rig.client).1 } }

/-- The rig after one turn; a turn that cannot be taken changes nothing. -/
def turn (turn : Turn κ ω) (rig : Rig κ ω) : Rig κ ω :=
  match turn with
  | .act act => { rig with client := act.perform rig.client }
  | .connect runtime address => (rig.connect runtime address).1
  | .close => rig.close
  | .closed which acts =>
      match rig.closing[which]? with
      | none => rig
      | some awaited =>
          if awaited.any rig.runsAt then rig
          else { rig with
            client := settle acts rig.client
            closing := rig.closing.eraseIdx which }
  | .drive place step => rig.drive place step

/-- The rig after a list of turns. -/
def run (turns : List (Turn κ ω)) (rig : Rig κ ω) : Rig κ ω :=
  turns.foldl (fun rig turn => rig.turn turn) rig

/-- Whether along these turns none of a kind is taken while a close is under way. -/
def isApart (kind : Turn κ ω → Bool) : List (Turn κ ω) → Rig κ ω → Bool
  | [], _ => true
  | turn :: turns, rig => (!kind turn || rig.closing.isEmpty) && (rig.turn turn).isApart kind turns

/-- A client that has done nothing yet, and no tasks. -/
def start (options : Options) (token : Option Json) (candidate : Nat → CorrelationId) (desk : ω) :
    Rig κ ω where
  client := .start options token candidate desk

theorem run_append (first second : List (Turn κ ω)) (rig : Rig κ ω) :
    rig.run (first ++ second) = (rig.run first).run second :=
  List.foldl_append

theorem isApart_cons {kind : Turn κ ω → Bool} {turn : Turn κ ω} {turns : List (Turn κ ω)}
    {rig : Rig κ ω} : rig.isApart kind (turn :: turns) = true ↔
      (kind turn = true → rig.closing = []) ∧ (rig.turn turn).isApart kind turns = true := by
  cases taken : kind turn <;> simp [isApart, taken]

theorem isApart_append {kind : Turn κ ω → Bool} {first second : List (Turn κ ω)} {rig : Rig κ ω} :
    rig.isApart kind (first ++ second) = true ↔
      rig.isApart kind first = true ∧ (rig.run first).isApart kind second = true := by
  induction first generalizing rig with
  | nil => simp [isApart, run]
  | cons turn first ih =>
      rw [List.cons_append, isApart_cons, isApart_cons, ih, and_assoc]
      rfl

/-- Turns of which none is of the kind may be taken at any time. -/
theorem isApart_of_none {kind : Turn κ ω → Bool} {turns : List (Turn κ ω)}
    (none : ∀ turn ∈ turns, kind turn = false) (rig : Rig κ ω) : rig.isApart kind turns = true := by
  induction turns generalizing rig with
  | nil => rfl
  | cons turn turns ih =>
      refine isApart_cons.2 ⟨fun taken => ?_, ih (fun other member => ?_) _⟩
      · simp [none turn List.mem_cons_self] at taken
      · exact none other (List.mem_cons_of_mem _ member)

/-! ## The invariant -/

/-- The link is up or down as the stage of the driver that runs says. -/
def Level (rig : Rig κ ω) : Prop :=
  ∀ place, rig.runsAt place = true → rig.client.state = (rig.stageAt place).state

/-- One driver runs at most, in the slot or awaited by a close.  The link has a channel as its stage
says; and it is down without a driver, and level while no close is under way. -/
structure Sound (rig : Rig κ ω) : Prop where
  sole : ∀ first second, rig.runsAt first = true → rig.runsAt second = true → first = second
  kept : ∀ place, rig.runsAt place = true → rig.slot = some place ∨ some place ∈ rig.closing
  taken : rig.closing ≠ [] → rig.slot = none
  shows : ∀ place, rig.runsAt place = true → (rig.stageAt place).Shows rig.client
  idle : (∀ place, ¬ rig.runsAt place = true) →
    Stage.finished.Shows rig.client ∧ rig.client.state = .disconnected
  level : rig.closing = [] → rig.Level

variable {rig : Rig κ ω}

/-- Connecting is refused without a trace, or starts a driver. -/
theorem connect_cases (runtime : Bool) (address : String) (rig : Rig κ ω) :
    (∃ error, rig.connect runtime address = (rig, .error error)) ∨
      rig.slot.any rig.runsAt = false ∧ ∃ endpoint, rig.connect runtime address =
        ({ rig with
            client := launched endpoint rig.client
            drivers := rig.drivers ++ [{}]
            slot := some rig.drivers.length },
          .ok ()) := by
  unfold connect
  split
  · exact .inl ⟨_, rfl⟩
  split
  · exact .inl ⟨_, rfl⟩
  split
  · exact .inl ⟨_, rfl⟩
  split
  · exact .inl ⟨_, rfl⟩
  · rename_i empty
    exact .inr ⟨by simpa using empty, _, rfl⟩

/-- No close goes through, or one that awaits nobody who runs. -/
theorem closed_cases (which : Nat) (acts : List (Client.Act κ ω)) (rig : Rig κ ω) :
    rig.turn (.closed which acts) = rig ∨
      ∃ awaited, rig.closing[which]? = some awaited ∧ awaited.any rig.runsAt = false ∧
        rig.turn (.closed which acts) =
          { rig with client := settle acts rig.client, closing := rig.closing.eraseIdx which } := by
  simp only [turn]
  split
  · exact .inl rfl
  · rename_i awaited found
    split
    · exact .inl rfl
    · rename_i ended
      exact .inr ⟨awaited, found, by simpa using ended, rfl⟩

theorem stageAt_of_getElem? {place : Nat} {driver : Driver}
    (found : rig.drivers[place]? = some driver) : rig.stageAt place = driver.stage := by
  rw [stageAt, found]
  rfl

theorem stageAt_eq (place : Nat) (rig : Rig κ ω) :
    rig.stageAt place = (rig.drivers.map (·.stage))[place]?.getD .finished := by
  rw [stageAt, List.getElem?_map]
  cases rig.drivers[place]? <;> rfl

theorem finished_of_not_runs {place : Nat} {driver : Driver}
    (found : rig.drivers[place]? = some driver) (ended : ¬ rig.runsAt place = true) :
    driver.stage = .finished := by
  rw [runsAt, stageAt_of_getElem? found] at ended
  revert ended
  cases driver.stage <;> simp [Stage.isRunning]

/-- A driver that is told to stop is where it was. -/
theorem stageAt_close (rig : Rig κ ω) (place : Nat) :
    rig.close.stageAt place = rig.stageAt place := by
  unfold close stageAt
  cases rig.slot with
  | none => rfl
  | some kept =>
      dsimp only [Option.elim_some]
      rw [List.getElem?_modify]
      cases rig.drivers[place]? with
      | none => rfl
      | some driver => by_cases same : kept = place <;> simp [same]

theorem runsAt_close (rig : Rig κ ω) (place : Nat) :
    rig.close.runsAt place = rig.runsAt place :=
  congrArg Stage.isRunning (rig.stageAt_close place)

/-- The stages with one more driver. -/
theorem stageAt_launch (place : Nat) (drivers : List Driver) (driver : Driver) :
    (drivers ++ [driver])[place]?.elim Stage.finished (·.stage) =
      if place = drivers.length then driver.stage
      else drivers[place]?.elim .finished (·.stage) := by
  rcases Nat.lt_trichotomy place drivers.length with earlier | rfl | later
  · rw [if_neg (Nat.ne_of_lt earlier), List.getElem?_append_left earlier]
  · rw [if_pos rfl, List.getElem?_concat_length]
    rfl
  · rw [if_neg (Nat.ne_of_gt later), List.getElem?_eq_none, List.getElem?_eq_none]
    · exact Nat.le_of_lt later
    · rw [List.length_append]
      exact later

/-- The stages after a step of one driver. -/
theorem stageAt_drive {place : Nat} {driver : Driver}
    (found : rig.drivers[place]? = some driver) (step : Driver.Step) (other : Nat) :
    (rig.drive place step).stageAt other =
      if other = place then (driver.take step rig.client).1 else rig.stageAt other := by
  obtain ⟨less, -⟩ := List.getElem?_eq_some_iff.1 found
  simp only [drive, found, stageAt]
  by_cases same : other = place
  · rw [if_pos same, same, List.getElem?_set_self less]
    rfl
  · rw [if_neg same, List.getElem?_set_ne (Ne.symm same)]

theorem client_drive {place : Nat} {driver : Driver} (found : rig.drivers[place]? = some driver)
    (step : Driver.Step) : (rig.drive place step).client = (driver.take step rig.client).2 := by
  simp only [drive, found]

theorem closing_drive (place : Nat) (step : Driver.Step) :
    (rig.drive place step).closing = rig.closing ∧ (rig.drive place step).slot = rig.slot := by
  unfold drive
  split <;> exact ⟨rfl, rfl⟩

/-- A driver that has finished takes no step. -/
theorem drive_finished {place : Nat} {driver : Driver}
    (found : rig.drivers[place]? = some driver) (ended : ¬ rig.runsAt place = true)
    (step : Driver.Step) : rig.drive place step = rig := by
  have finished := finished_of_not_runs found ended
  have stays : rig.drivers.set place { driver with stage := .finished } = rig.drivers := by
    obtain ⟨less, rfl⟩ := List.getElem?_eq_some_iff.1 found
    rw [← finished, List.set_getElem_self]
  simp only [drive, found, Driver.take_finished finished, stays]

/-! ### Settling -/

theorem settle_state (acts : List (Client.Act κ ω)) (client : Client κ ω) :
    (settle acts client).state = .disconnected := by
  have down := Client.state_moveTo
    ({ client with link := { client.link with backlog := [] } } : Client κ ω) .disconnected
  unfold settle
  split
  · exact (Client.Steadfast.performAll acts _).state.trans down
  · exact down

/-- Settling leaves the driver's work alone. -/
theorem settle_link (acts : List (Client.Act κ ω)) (client : Client κ ω) :
    (settle acts client).link.channel.isSome = client.link.channel.isSome ∧
      (settle acts client).link.phase = client.link.phase := by
  unfold settle
  split
  · have told := Client.Steadfast.performAll acts (({ client with
      link := { client.link with backlog := [] } } : Client κ ω).moveTo .disconnected)
    exact ⟨told.channel, told.phase⟩
  · exact ⟨rfl, rfl⟩

theorem shows_settle {client : Client κ ω} {stage : Stage} (shown : stage.Shows client)
    (acts : List (Client.Act κ ω)) : stage.Shows (settle acts client) where
  channel := (settle_link acts client).1.trans shown.channel
  running := by rw [← shown.running, Link.isRunning, Link.isRunning, (settle_link acts client).2]
  live plugged := (settle_link acts client).2.trans (shown.live plugged)

/-- Settling a client whose link is down drops its backlog, and fails the calls that wait. -/
theorem settle_of_down {client : Client κ ω} (down : client.state = .disconnected)
    (acts : List (Client.Act κ ω)) :
    settle acts client = { client with
      link := { client.link with backlog := [] }
      calls := (client.calls.rejectAll .connectionClosed).1 } := by
  have dead : client.isAlive = false := congrArg LinkState.isConnected down
  have still : client.connectivity.moveTo .disconnected = client.connectivity := if_pos down
  unfold settle
  rw [dead]
  show ({ client with
    connectivity := client.connectivity.moveTo .disconnected
    link := { client.link with backlog := [] }
    calls := (client.calls.rejectAll .connectionClosed).1 } : Client κ ω) = _
  rw [still]

/-! ### Turns -/

namespace Sound

/-- Nobody runs if nobody is in the slot and no close is under way. -/
theorem nobody_of_free (sound : rig.Sound) (free : rig.closing = [])
    (empty : rig.slot.any rig.runsAt = false) (place : Nat) : ¬ rig.runsAt place = true := by
  intro runs
  rcases sound.kept place runs with slot | waits
  · simp [slot, runs] at empty
  · simp [free] at waits

/-- Nobody runs once the driver has finished that the only close under way awaits. -/
theorem nobody_of_ended (sound : rig.Sound) {awaited : Option Nat}
    (closing : rig.closing = [awaited]) (ended : awaited.any rig.runsAt = false) (place : Nat) :
    ¬ rig.runsAt place = true := by
  intro runs
  rcases sound.kept place runs with slot | waits
  · rw [sound.taken (by simp [closing])] at slot
    cases slot
  · obtain rfl : some place = awaited := by simpa [closing] using waits
    simp [runs] at ended

theorem act (sound : rig.Sound) (act : Client.Act κ ω) : (rig.turn (.act act)).Sound where
  sole := sound.sole
  kept := sound.kept
  taken := sound.taken
  shows place runs := (sound.shows place runs).steadfast (.perform act rig.client)
  idle nobody :=
    have steadfast := Client.Steadfast.perform act rig.client
    ⟨(sound.idle nobody).1.steadfast steadfast, steadfast.state.trans (sound.idle nobody).2⟩
  level free place runs :=
    (Client.Steadfast.perform act rig.client).state.trans (sound.level free place runs)

theorem connect (sound : rig.Sound) (free : rig.closing = []) (runtime : Bool)
    (address : String) : (rig.connect runtime address).1.Sound := by
  rcases rig.connect_cases runtime address with ⟨error, refused⟩ | ⟨empty, endpoint, launches⟩
  · rw [refused]
    exact sound
  rw [launches]
  -- nobody runs but the driver that is started
  have nobody := sound.nobody_of_free free empty
  obtain ⟨shown, down⟩ := sound.idle nobody
  have stages := fun place => stageAt_launch place rig.drivers {}
  have only : ∀ place, Rig.runsAt place { rig with
      client := launched endpoint rig.client
      drivers := rig.drivers ++ [{}]
      slot := some rig.drivers.length } = true → place = rig.drivers.length := by
    intro place runs
    by_contra other
    rw [runsAt, stageAt, stages, if_neg other] at runs
    exact nobody place runs
  constructor
  case sole =>
    intro first second one other
    rw [only first one, only second other]
  case kept =>
    intro place runs
    exact .inl (congrArg some (only place runs).symm)
  case taken =>
    intro closing
    exact absurd free closing
  case shows =>
    intro place runs
    rw [stageAt, stages, if_pos (only place runs)]
    exact ⟨shown.channel, rfl, fun plugged => by cases plugged⟩
  case idle =>
    intro nobody
    have new := nobody rig.drivers.length
    rw [runsAt, stageAt, stages, if_pos rfl] at new
    exact absurd rfl new
  case level =>
    intro _ place runs
    rw [stageAt, stages, if_pos (only place runs)]
    exact down

theorem close (sound : rig.Sound) : rig.close.Sound := by
  have stages := rig.stageAt_close
  constructor
  case sole =>
    simp only [runsAt_close]
    exact sound.sole
  case kept =>
    intro place runs
    rw [runsAt_close] at runs
    right
    rcases sound.kept place runs with slot | waits
    · exact slot ▸ List.mem_append_right _ List.mem_cons_self
    · exact List.mem_append_left _ waits
  case taken => exact fun _ => rfl
  case shows =>
    intro place runs
    rw [runsAt_close] at runs
    rw [stages]
    exact sound.shows place runs
  case idle =>
    simp only [runsAt_close]
    exact sound.idle
  case level =>
    intro free
    exact absurd free (by simp [Rig.close])

theorem closed (sound : rig.Sound) (which : Nat) (acts : List (Client.Act κ ω)) :
    (rig.turn (.closed which acts)).Sound := by
  rcases rig.closed_cases which acts with same | ⟨awaited, found, ended, goes⟩
  · rw [same]
    exact sound
  rw [goes]
  constructor
  case sole => exact sound.sole
  case kept =>
    intro place runs
    refine (sound.kept place runs).imp_right fun waits => ?_
    -- the close that goes through awaits somebody else
    obtain ⟨index, there⟩ := List.mem_iff_getElem?.1 waits
    refine List.mem_eraseIdx_iff_getElem?.2 ⟨index, fun same => ?_, there⟩
    have running : rig.runsAt place = true := runs
    obtain rfl : awaited = some place := Option.some.inj (found.symm.trans (same ▸ there))
    simp [running] at ended
  case taken =>
    intro still
    exact sound.taken fun none => still (by simp [none])
  case shows =>
    intro place runs
    exact shows_settle (sound.shows place runs) acts
  case idle =>
    intro nobody
    exact ⟨shows_settle (sound.idle nobody).1 acts, settle_state acts _⟩
  case level =>
    intro last place runs
    have only : rig.closing = [awaited] := by
      have less := (List.getElem?_eq_some_iff.1 found).1
      have one : rig.closing.length = 1 := by
        have length := congrArg List.length last
        rw [List.length_eraseIdx_of_lt less, List.length_nil] at length
        omega
      obtain ⟨single, single'⟩ := List.length_eq_one_iff.1 one
      have first : which = 0 := by omega
      rw [single', first] at found
      rw [single', Option.some.inj found]
    exact absurd runs (sound.nobody_of_ended only ended place)

/-- A step of a driver takes it to the next stage; no other runs. -/
theorem drive (sound : rig.Sound) (place : Nat) (step : Driver.Step) :
    (rig.drive place step).Sound := by
  cases found : rig.drivers[place]? with
  | none =>
      simp only [Rig.drive, found]
      exact sound
  | some driver =>
      by_cases runs : rig.runsAt place = true
      swap
      · rw [drive_finished found runs]
        exact sound
      have here := stageAt_of_getElem? found
      have stages := stageAt_drive found step
      have state := client_drive found step
      obtain ⟨closing, slot⟩ := rig.closing_drive place step
      have next := Driver.shows_take (here ▸ sound.shows place runs) step
      have only : ∀ other, (rig.drive place step).runsAt other = true → other = place := by
        intro other running
        by_contra differs
        rw [runsAt, stages, if_neg differs] at running
        exact differs (sound.sole other place running runs)
      constructor
      case sole =>
        intro first second one other
        rw [only first one, only second other]
      case kept =>
        intro other running
        rw [only other running, closing, slot]
        exact sound.kept place runs
      case taken =>
        rw [closing, slot]
        exact sound.taken
      case shows =>
        intro other running
        rw [stages, if_pos (only other running), state]
        exact next
      case idle =>
        intro nobody
        have ended := nobody place
        rw [runsAt, stages, if_pos rfl] at ended
        have finished : (driver.take step rig.client).1 = .finished := by
          revert ended
          cases (driver.take step rig.client).1 <;> simp [Stage.isRunning]
        have running : driver.stage ≠ .finished := fun finished => by
          rw [runsAt, here, finished] at runs
          cases runs
        rw [state]
        exact ⟨finished ▸ next, Driver.down_of_finishes running finished⟩
      case level =>
        intro free other running
        rw [closing] at free
        rw [stages, if_pos (only other running), state]
        exact (Driver.state_take (here ▸ sound.level free place runs) step).1

/-- **A rig stays sound**, if nobody connects while a close is under way. -/
theorem turn (sound : rig.Sound) (turn : Turn κ ω)
    (patient : turn.connects = true → rig.closing = []) : (rig.turn turn).Sound := by
  cases turn with
  | act act => exact sound.act act
  | connect runtime address => exact sound.connect (patient rfl) runtime address
  | close => exact sound.close
  | closed which acts => exact sound.closed which acts
  | drive place step => exact sound.drive place step

theorem run (sound : rig.Sound) {turns : List (Turn κ ω)}
    (patient : rig.isApart Turn.connects turns = true) : (rig.run turns).Sound := by
  induction turns generalizing rig with
  | nil => exact sound
  | cons turn turns ih =>
      obtain ⟨now, later⟩ := isApart_cons.1 patient
      exact ih (sound.turn turn now) later

/-- No driver has been started yet. -/
theorem start (options : Options) (token : Option Json) (candidate : Nat → CorrelationId)
    (desk : ω) : (Rig.start options token candidate desk : Rig κ ω).Sound where
  sole _ _ runs := by cases runs
  kept place runs := by cases runs
  taken closing := absurd rfl closing
  shows place runs := by cases runs
  idle _ := ⟨⟨rfl, rfl, fun plugged => by cases plugged⟩, rfl⟩
  level _ _ runs := by cases runs

/-! ### What a sound rig is like -/

/-- Whether the client has a driver is whether one runs. -/
theorem isRunning_iff (sound : rig.Sound) :
    rig.client.link.isRunning = true ↔ ∃ place, rig.runsAt place = true := by
  constructor
  · intro running
    by_contra nobody
    have idle := (sound.idle fun place runs => nobody ⟨place, runs⟩).1
    exact absurd (running.symm.trans idle.running) (by simp [Stage.isRunning])
  · rintro ⟨place, runs⟩
    exact (sound.shows place runs).running.trans runs

/-- While no close is under way, whoever runs is in the slot. -/
theorem slot_of_runs (sound : rig.Sound) (free : rig.closing = []) {place : Nat}
    (runs : rig.runsAt place = true) : rig.slot = some place := by
  rcases sound.kept place runs with kept | awaited
  · exact kept
  · simp [free] at awaited

/-- While no close is under way, the slot tells whether the client has a driver. -/
theorem any_slot (sound : rig.Sound) (free : rig.closing = []) :
    rig.slot.any rig.runsAt = rig.client.link.isRunning := by
  rw [Bool.eq_iff_iff, sound.isRunning_iff]
  constructor
  · intro kept
    obtain ⟨place, -, runs⟩ := (Option.any_eq_true _ _).1 kept
    exact ⟨place, runs⟩
  · rintro ⟨place, runs⟩
    rw [sound.slot_of_runs free runs]
    exact runs

/-- While no close is under way, connecting is what it is for the client. -/
theorem connect_eq (sound : rig.Sound) (free : rig.closing = []) (runtime : Bool)
    (address : String) :
    ((rig.connect runtime address).1.client, (rig.connect runtime address).2) =
      rig.client.connect runtime address := by
  unfold Rig.connect Client.connect
  rw [sound.any_slot free]
  cases Endpoint.parse address with
  | error reason => rfl
  | ok endpoint =>
      dsimp only
      repeat' split
      all_goals rfl

/-- While a driver runs and no close is under way, nobody connects. -/
theorem connect_refused (sound : rig.Sound) (free : rig.closing = []) {place : Nat}
    (runs : rig.runsAt place = true) (runtime : Bool) {address : String} {endpoint : Endpoint}
    (good : Endpoint.parse address = .ok endpoint) (socket : endpoint.isSocket = true) :
    rig.connect runtime address =
      (rig, .error (if runtime then .alreadyConnected else Client.noRuntime)) := by
  have kept : rig.slot.any rig.runsAt = true := by
    rw [sound.slot_of_runs free runs]
    exact runs
  cases runtime <;> simp [Rig.connect, good, socket, kept]

/-- Without a driver the link is down, and there is no channel. -/
theorem down (sound : rig.Sound) (nobody : ∀ place, ¬ rig.runsAt place = true) :
    rig.client.state = .disconnected ∧ rig.client.link.channel = none := by
  obtain ⟨shown, state⟩ := sound.idle nobody
  have channel := shown.channel
  exact ⟨state, by simpa [Stage.isPlugged] using channel⟩

end Sound

/-! ## One close after the other -/

/-- A turn adds a close if one begins. -/
theorem length_closing_turn (rig : Rig κ ω) (turn : Turn κ ω)
    (one : rig.closing.length ≤ 1) (apart : turn.closes = true → rig.closing = []) :
    (rig.turn turn).closing.length ≤ 1 := by
  cases turn with
  | act act => exact one
  | connect runtime address =>
      simp only [Rig.turn]
      rcases rig.connect_cases runtime address with ⟨error, refused⟩ | ⟨-, endpoint, launches⟩
      · exact refused ▸ one
      · exact launches ▸ one
  | close => simp [Rig.turn, Rig.close, apart rfl]
  | closed which acts =>
      rcases rig.closed_cases which acts with same | ⟨awaited, -, -, goes⟩
      · rw [same]
        exact one
      · rw [goes]
        exact (List.length_eraseIdx_le _ _).trans one
  | drive place step => exact (rig.closing_drive place step).1 ▸ one

theorem length_closing_run (rig : Rig κ ω) (one : rig.closing.length ≤ 1)
    {turns : List (Turn κ ω)} (apart : rig.isApart Turn.closes turns = true) :
    (rig.run turns).closing.length ≤ 1 := by
  induction turns generalizing rig with
  | nil => exact one
  | cons turn turns ih =>
      obtain ⟨now, later⟩ := isApart_cons.1 apart
      exact ih _ (length_closing_turn rig turn one now) later

namespace Level

/-- If one close at most is under way, it goes through when nobody runs. -/
theorem nobody_of_closed (sound : rig.Sound) (one : rig.closing.length ≤ 1) {which : Nat}
    {awaited : Option Nat} (found : rig.closing[which]? = some awaited)
    (ended : awaited.any rig.runsAt = false) (place : Nat) : ¬ rig.runsAt place = true := by
  have less := (List.getElem?_eq_some_iff.1 found).1
  obtain ⟨single, only⟩ := List.length_eq_one_iff.1 (by omega : rig.closing.length = 1)
  have first : which = 0 := by omega
  rw [only, first] at found
  exact sound.nobody_of_ended (only.trans (by rw [Option.some.inj found])) ended place

/-- **While one close at most is under way, a rig stays level**, if nobody connects then. -/
theorem turn (level : rig.Level) (sound : rig.Sound) (one : rig.closing.length ≤ 1)
    (turn : Turn κ ω) (patient : turn.connects = true → rig.closing = []) :
    (rig.turn turn).Level := by
  cases turn with
  | act act =>
      intro place runs
      exact (Client.Steadfast.perform act rig.client).state.trans (level place runs)
  | connect runtime address =>
      have free := patient rfl
      refine (sound.connect free runtime address).level ?_
      rcases rig.connect_cases runtime address with ⟨error, refused⟩ | ⟨-, endpoint, launches⟩
      · exact refused ▸ free
      · exact launches ▸ free
  | close =>
      intro place runs
      have running : rig.runsAt place = true := by rwa [Rig.turn, runsAt_close] at runs
      exact (level place running).trans (congrArg Stage.state (rig.stageAt_close place)).symm
  | closed which acts =>
      rcases rig.closed_cases which acts with same | ⟨awaited, found, ended, goes⟩
      · rw [same]
        exact level
      · intro place runs
        rw [goes] at runs
        exact absurd runs (nobody_of_closed sound one found ended place)
  | drive place step =>
      cases found : rig.drivers[place]? with
      | none =>
          simp only [Rig.turn, Rig.drive, found]
          exact level
      | some driver =>
          intro other running
          have stages := stageAt_drive found step
          simp only [Rig.turn] at running ⊢
          by_cases runs : rig.runsAt place = true
          · have here := stageAt_of_getElem? found
            have same : other = place := by
              by_contra differs
              rw [runsAt, stages, if_neg differs] at running
              exact differs (sound.sole other place running runs)
            rw [stages, if_pos same, client_drive found]
            exact (Driver.state_take (here ▸ level place runs) step).1
          · rw [drive_finished found runs] at running ⊢
            exact level other running

theorem run (level : rig.Level) (sound : rig.Sound) (one : rig.closing.length ≤ 1)
    {turns : List (Turn κ ω)} (patient : rig.isApart Turn.connects turns = true)
    (apart : rig.isApart Turn.closes turns = true) : (rig.run turns).Level := by
  induction turns generalizing rig with
  | nil => exact level
  | cons turn turns ih =>
      obtain ⟨connects, patient⟩ := isApart_cons.1 patient
      obtain ⟨closes, apart⟩ := isApart_cons.1 apart
      exact ih (level.turn sound one turn connects) (sound.turn turn connects)
        (length_closing_turn rig turn one closes) patient apart

/-- At rest the link is up if there is a channel, and while a driver that stops waits for its socket
to close, and not otherwise. -/
theorem plugged (level : rig.Level) (sound : rig.Sound)
    (rests : ∀ place, (rig.stageAt place).isResting = true) :
    rig.client.state = .connected ↔ rig.client.link.channel.isSome = true ∨
      ∃ place, rig.stageAt place = .ending .stopped true := by
  by_cases somebody : ∃ place, rig.runsAt place = true
  · obtain ⟨place, runs⟩ := somebody
    have elsewhere : (∃ other, rig.stageAt other = .ending .stopped true) ↔
        rig.stageAt place = .ending .stopped true := by
      refine ⟨fun ⟨other, stops⟩ => ?_, fun stops => ⟨place, stops⟩⟩
      rw [← sound.sole other place (congrArg Stage.isRunning stops) runs, stops]
    rw [level place runs, (sound.shows place runs).channel, elsewhere]
    have rests := rests place
    revert rests
    rcases rig.stageAt place with _ | _ | _ | _ | _ | ⟨_ | _, _ | _⟩ | _ | _ | _ | _ <;>
      simp [Stage.isResting, Stage.state, Stage.isPlugged]
  · have nobody : ∀ place, ¬ rig.runsAt place = true := fun place runs => somebody ⟨place, runs⟩
    obtain ⟨state, channel⟩ := sound.down nobody
    have noneStops : ¬ ∃ place, rig.stageAt place = .ending .stopped true := fun ⟨place, stops⟩ =>
      nobody place (congrArg Stage.isRunning stops)
    simp [state, channel, noneStops]

/-- **While one close at most is under way, no turn changes the state but along an edge.** -/
theorem edge (level : rig.Level) (sound : rig.Sound) (one : rig.closing.length ≤ 1)
    (turn : Turn κ ω) : rig.client.state.Moves (rig.turn turn).client.state := by
  cases turn with
  | act act => exact .inl (Client.Steadfast.perform act rig.client).state
  | connect runtime address =>
      simp only [Rig.turn]
      rcases rig.connect_cases runtime address with ⟨error, refused⟩ | ⟨-, endpoint, launches⟩
      · exact refused ▸ .inl rfl
      · exact launches ▸ .inl rfl
  | close => exact .inl rfl
  | closed which acts =>
      rcases rig.closed_cases which acts with same | ⟨awaited, found, ended, goes⟩
      · exact .inl (congrArg (fun rig => rig.client.state) same)
      · -- the awaited driver has left the link down
        have down := sound.down (nobody_of_closed sound one found ended)
        rw [goes]
        exact .inl ((settle_state acts rig.client).trans down.1.symm)
  | drive place step =>
      simp only [Rig.turn]
      cases found : rig.drivers[place]? with
      | none => exact .inl (by simp only [Rig.drive, found])
      | some driver =>
          by_cases runs : rig.runsAt place = true
          · rw [client_drive found]
            have here := stageAt_of_getElem? found
            exact (Driver.state_take (here ▸ level place runs) step).2
          · rw [drive_finished found runs]
            exact .inl rfl

end Level

end Rig

end Switchboard
