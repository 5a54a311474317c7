/-
# Switchboard.Script.Names -- what a script calls its handles and calls

A script names handles and calls before they exist.  A handle's name is bound
once its registration has returned, and the latest binding counts.  A call's name
is its own: one that has been used already gets apostrophes until it is new
(`Names.fresh`).  In texts that go to a client a placeholder stands for the
identifier of a call, in one of five spellings (`Names.expand`); in texts that
come from it a known identifier gives way to the call's name in angle brackets
(`Names.mask`).

* `Names.fresh_not_mem`: a fresh name has not been used;
* `Names.handle?_bind`: a binding counts from then on.
-/
import Switchboard.CorrelationId
import Switchboard.HandleId
import Switchboard.Text.Replace

namespace Switchboard.Script

set_option autoImplicit false

/-- How a script refers to a handle. -/
inductive HandleRef where
  | named (label : String)
  /-- By its number, whether it has been drawn or not. -/
  | numbered (number : Nat)

/-- How a script refers to a call. -/
inductive CallRef where
  | named (name : String)
  /-- By its identifier, whether a call has it or not. -/
  | identified (id : CorrelationId)

/-- A call that has a name. -/
structure NamedCall where
  name : String
  id : CorrelationId
  ticket : Nat

/-- What a script calls its handles and calls. -/
structure Names where
  /-- The handles by name, latest binding first. -/
  handles : List (String × HandleId) := []
  /-- The names that calls have used. -/
  used : List String := []
  /-- The calls that are known by name, latest first. -/
  calls : List NamedCall := []

namespace Names

/-! ## Handles -/

/-- The names with one more binding of a handle. -/
def bind (names : Names) (label : String) (handle : HandleId) : Names :=
  { names with handles := (label, handle) :: names.handles }

/-- The handle that a reference means, if it means one. -/
def handle? (names : Names) : HandleRef → Option HandleId
  | .named label => (names.handles.find? (fun entry => entry.1 = label)).map (·.2)
  | .numbered number => some (HandleId.ofNat number)

/-! ## Calls -/

/-- A name followed by as many apostrophes as make it new. -/
def freshAmong (used : List String) (name : String) : String :=
  if name ∈ used then freshAmong (used.erase name) (name ++ "'") else name
termination_by used.length
decreasing_by
  rename_i old
  have := List.length_erase_of_mem old
  have := List.length_pos_of_mem old
  omega

/-- The name that a call gets which asks for `name`. -/
def fresh (names : Names) (name : String) : String := freshAmong names.used name

/-- The names with one more that a call uses. -/
def use (names : Names) (name : String) : Names := { names with used := name :: names.used }

/-- The names with one more known call. -/
def learn (names : Names) (call : NamedCall) : Names :=
  { names with calls := call :: names.calls }

/-- The call of a name, if it is known. -/
def call? (names : Names) (name : String) : Option NamedCall :=
  names.calls.find? (fun call => call.name = name)

/-- The identifier that a reference means, if it means one. -/
def id? (names : Names) : CallRef → Option CorrelationId
  | .named name => (names.call? name).map (·.id)
  | .identified id => some id

/-- The name of the call of an identifier, if it is known. -/
def nameOf? (names : Names) (id : CorrelationId) : Option String :=
  (names.calls.find? (fun call => call.id = id)).map (·.name)

/-- The name of the call of a registration, if it is known. -/
def nameOfTicket? (names : Names) (ticket : Nat) : Option String :=
  (names.calls.find? (fun call => call.ticket = ticket)).map (·.name)

/-! ## Texts -/

/-- The spelling of an identifier that a word asks for. -/
def spelling (id : CorrelationId) : String → Option String
  | "upper" => some (String.ofList (id.text.toList.map Char.toUpper))
  | "simple" => some (String.ofList id.digits)
  | "braced" => some ("\x7b" ++ id.text ++ "\x7d")
  | "urn" => some ("urn:uuid:" ++ id.text)
  | _ => none

/-- What a placeholder stands for: a call's name, or one with a bar and a spelling. -/
def placeholder? (names : Names) (text : String) : Option String :=
  match names.call? text with
  | some call => some call.id.text
  | none =>
      match text.splitOn "|" with
      | [name, word] => (names.call? name).bind (fun call => spelling call.id word)
      | _ => none

/-- The text with its placeholders filled in. -/
def expand (names : Names) (text : String) : String := Text.expand names.placeholder? text

/-- How a text shows the name of a call. -/
def bracketed (name : String) : String := "<" ++ name ++ ">"

/-- The text with names in place of the identifiers of known calls. -/
def mask (names : Names) (text : String) : String :=
  names.calls.foldl (fun text call => Text.replaceAll call.id.text (bracketed call.name) text) text

/-! ## Laws -/

theorem handle?_bind (names : Names) (label : String) (handle : HandleId) :
    (names.bind label handle).handle? (.named label) = some handle := by
  simp [bind, handle?]

theorem length_le_freshAmong (used : List String) (name : String) :
    name.length ≤ (freshAmong used name).length := by
  fun_induction freshAmong used name with
  | case1 used name _ hypothesis =>
      rw [String.length_append] at hypothesis
      omega
  | case2 => exact Nat.le_refl _

theorem freshAmong_not_mem (used : List String) (name : String) :
    freshAmong used name ∉ used := by
  fun_induction freshAmong used name with
  | case1 used name _ hypothesis =>
      intro member
      have longer := length_le_freshAmong (used.erase name) (name ++ "'")
      have other : freshAmong (used.erase name) (name ++ "'") ≠ name := by
        intro same
        rw [same, String.length_append] at longer
        have : "'".length = 1 := rfl
        omega
      exact hypothesis ((List.mem_erase_of_ne other).2 member)
  | case2 used name new => exact new

theorem fresh_not_mem (names : Names) (name : String) : names.fresh name ∉ names.used :=
  freshAmong_not_mem _ _

end Names

end Switchboard.Script
