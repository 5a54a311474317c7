/-
# Switchboard.Script.Stage -- callbacks that act

A script registers callbacks under names.  What a callback is told goes to the
log; then it carries out acts of its own, each of which is logged after it, up to
one that panics.  Acts can tell callbacks something in turn, so they nest: a
callback that is told something while `Language.depth` lists of acts are being
carried out is logged and does nothing else.

What the acts are is left open (`Language`): a language says how one act is carried
out, given what callbacks do in the meantime.

* `Language.behaviour_zero`: at depth zero a callback only fills the log;
* `Language.enact_nil`: without acts nothing happens.
-/
import Switchboard.Client
import Switchboard.Json.Shape
import Switchboard.Script.Names
import Switchboard.Script.Reply

namespace Switchboard.Script

set_option autoImplicit false

/-- What a callback of a script does; its acts are of a type `α`. -/
structure Callback (α : Type) where
  /-- The name it is logged under. -/
  label : String
  /-- The shape of the payloads it takes; a callback without one takes the topic as well. -/
  shape : Option Shape := none
  /-- What it does after it was told something. -/
  acts : List α := []
  /-- The alive bit it acts on, if not on both. -/
  onlyWhen : Option Bool := none

/-- A line of the log. -/
inductive Line where
  /-- A callback was told a payload and its topic. -/
  | pushed (label : String) (topic : Topic) (data : Json)
  /-- A callback was told a payload of its shape. -/
  | valued (label : String) (data : Json)
  /-- A callback was told the alive bit. -/
  | alive (label : String) (bit : Bool)
  | acted (word : String) (reply : Reply)

/-- What a script keeps beside its client; `σ` is what a language adds. -/
structure Desk (σ : Type) where
  names : Names := {}
  /-- The log, latest line first. -/
  log : List Line := []
  extra : σ

/-- A client whose callbacks are those of a script. -/
abbrev World (α σ : Type) := Client (Callback α) (Desk σ)

/-- What the callbacks of a script do. -/
abbrev Conduct (α σ : Type) := Behaviour (Callback α) (Desk σ)

namespace World

variable {α σ : Type}

/-- The names that the script uses. -/
def names (world : World α σ) : Names := world.desk.names

/-- The world with other names. -/
def rename (change : Names → Names) (world : World α σ) : World α σ :=
  { world with desk := { world.desk with names := change world.desk.names } }

/-- The world in which the language keeps something else. -/
def keep (change : σ → σ) (world : World α σ) : World α σ :=
  { world with desk := { world.desk with extra := change world.desk.extra } }

/-- The world with one more line in its log. -/
def note (line : Line) (world : World α σ) : World α σ :=
  { world with desk := { world.desk with log := line :: world.desk.log } }

/-- The world with an empty log, and the lines that were in it, in order. -/
def takeLog (world : World α σ) : World α σ × List Line :=
  ({ world with desk := { world.desk with log := [] } }, world.desk.log.reverse)

/-- A failure as the script shows it. -/
def failure (error : ClientError) (world : World α σ) : Failure :=
  ⟨error, world.names.mask error.message⟩

/-- The reply that reports a failure. -/
def fail (error : ClientError) (world : World α σ) : Reply := .failed (world.failure error)

/-- The text of a frame, with the name of its call or a mark for a fresh identifier. -/
def frameText (frame : Outbound) (world : World α σ) : String :=
  let name := frame.requestId.bind world.names.nameOf?
  (frame.envelopeAs (Names.bracketed (name.getD "fresh"))).encode

/-- The calls that wait, by name, oldest first; here the clock tells the number of a registration. -/
def pending (world : World α σ) : List (String × Topic) :=
  (world.calls.snapshot id id).map (fun info =>
    ((world.names.nameOf? info.id).getD info.id.text, info.path))

end World

namespace Callback

variable {α : Type}

/-- What a callback logs when it is told something; nothing if the payload is not for it. -/
def line? (callback : Callback α) : Signal → Option Line
  | .alive bit => some (.alive callback.label bit)
  | .push topic data =>
      match callback.shape with
      | none => some (.pushed callback.label topic data)
      | some shape => (shape.conform data).map (.valued callback.label)

/-- Whether a callback acts when it is told something. -/
def actsOn (callback : Callback α) : Signal → Bool
  | .alive bit => callback.onlyWhen.all (· == bit)
  | .push _ _ => true

end Callback

/-- What the acts of a script are and do. -/
structure Language (α σ : Type) where
  /-- The word for an act. -/
  word : α → String
  /-- The world after an act, and its reply unless it panicked, given what callbacks do. -/
  perform : Conduct α σ → α → World α σ → World α σ × Option Reply

namespace Language

variable {α σ : Type}

/-- The world after a list of acts, up to one that panics, and how that ended. -/
def enact (language : Language α σ) (conduct : Conduct α σ) :
    List α → World α σ → World α σ × Ending
  | [], world => (world, .returned)
  | act :: acts, world =>
      match language.perform conduct act world with
      | (world, none) => (world, .panicked)
      | (world, some reply) =>
          enact language conduct acts (World.note (.acted (language.word act) reply) world)

/-- What callbacks do while so many more lists of acts may be carried out. -/
def behaviour (language : Language α σ) : Nat → Conduct α σ
  | 0, callback, signal, world =>
      match callback.line? signal with
      | none => (world, .returned)
      | some line => (World.note line world, .returned)
  | depth + 1, callback, signal, world =>
      match callback.line? signal with
      | none => (world, .returned)
      | some line =>
          if callback.actsOn signal then
            language.enact (language.behaviour depth) callback.acts (World.note line world)
          else (World.note line world, .returned)

/-- How many lists of acts may be carried out at once. -/
def depth : Nat := 3

/-- What callbacks do when a step of the script itself tells them something. -/
def conduct (language : Language α σ) : Conduct α σ := language.behaviour depth

theorem enact_nil (language : Language α σ) (conduct : Conduct α σ) (world : World α σ) :
    language.enact conduct [] world = (world, .returned) := rfl

theorem behaviour_zero (language : Language α σ) (callback : Callback α) (signal : Signal)
    (world : World α σ) (line : Line) (told : callback.line? signal = some line) :
    language.behaviour 0 callback signal world = (world.note line, .returned) := by
  simp [behaviour, told]

end Language

end Switchboard.Script
