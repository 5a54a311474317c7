/-
# Switchboard.Endpoint.Domain -- names of hosts

A name is a list of labels between dots.  It is compared in a form of its own:
every character is folded, and the text composed (`Domain.normal?`); dots that come
out of folding end labels too.  A label that starts with `xn--` is the ASCII form of
another one, which must be written in that form already (`Label.ofText?`).  A name
is in order if each of its labels is (`Label.isSound`) and its directions go
together.

* `Domain.normal?_ascii`: an ASCII name is compared in small letters;
* `Label.isSound_ascii`: a label of ASCII has nothing else to satisfy;
* `Label.ofText?_ascii`: a label of ASCII that stands for no other one stands for
  itself.
-/
import Switchboard.Endpoint.Domain.Direction
import Switchboard.Endpoint.Domain.Folding
import Switchboard.Endpoint.Domain.Joining
import Switchboard.Endpoint.Punycode

namespace Switchboard

set_option autoImplicit false

open Text

namespace Domain

/-- The ASCII marks that may stand in no name. -/
def forbiddenMarks : List Char :=
  ['#', '%', '/', ':', '<', '>', '?', '@', '[', '\\', ']', '^', '|']

/-- Whether a character may stand in no name as it is, being a control, a blank or one of the
marks. -/
def isForbidden (character : Char) : Bool :=
  character.toNat ≤ 32 || character.toNat = 127 || forbiddenMarks.contains character

/-- The form in which a text is compared; none if it may stand in no name. -/
def normal? (text : List Char) : Option (List Char) :=
  match Folding.foldAll? text with
  | none => none
  | some folded =>
      let composed := Composition.composed folded
      if composed.any isForbidden then none else some composed

end Domain

/-- A label of a name. -/
structure Label where
  /-- The label as it is compared. -/
  written : List Char
  /-- The label that it stands for. -/
  meant : List Char

namespace Label

/-- The mark of a label that stands for another one. -/
def mark : List Char := ['x', 'n', '-', '-']

/-- How many characters beyond the mark are read at most. -/
def longestWritten : Nat := 2000

/-- How many characters a label beyond ASCII has at most. -/
def longestMeant : Nat := 1000

/-- Whether a label is in order in itself. -/
def isSound (label : List Char) : Bool :=
  !label.head?.any isMark && Joining.inPlace label &&
    (Composition.isAscii label || label.length ≤ longestMeant)

/-- The label that the text behind a mark stands for. -/
def decode? (text : List Char) : Option (List Char) :=
  if Composition.isAscii text && text.getLast?.any (· ≠ '-') &&
      text.length ≤ longestWritten then
    match Punycode.decode text with
    | none => none
    | some meant => if Domain.normal? meant = some meant then some meant else none
  else none

/-- The label that a text is, given in the form in which it is compared. -/
def ofText? (text : List Char) : Option Label :=
  let meant := if mark.isPrefixOf text then decode? (text.drop mark.length) else some text
  match meant with
  | none => none
  | some meant => if isSound meant then some ⟨text, meant⟩ else none

end Label

namespace Domain

/-- The labels that a text without dots of its own stands for. -/
def labelsOf? (text : List Char) : Option (List Label) :=
  match normal? text with
  | none => none
  | some normal => (normal.splitOn '.').mapM Label.ofText?

/-- The labels of a name; none if it is no name. -/
def labels? (text : List Char) : Option (List Label) :=
  match (text.splitOn '.').mapM labelsOf? with
  | none => none
  | some parts =>
      let labels := parts.flatten
      if Direction.isOrdered (labels.map (·.meant)) then some labels else none

/-- A name as it is compared; none if it is no name. -/
def read? (text : List Char) : Option (List Char) :=
  (labels? text).map (fun labels => ['.'].intercalate (labels.map (·.written)))

/-! ## Laws -/

theorem toNat_toLower_lt (character : Char) (ascii : character.toNat < 128) :
    character.toLower.toNat < 128 := by
  have all : ∀ code < 128, (Char.ofNat code).toLower.toNat < 128 := by decide
  simpa using all character.toNat ascii

theorem normal?_ascii (text : List Char) (ascii : ∀ character ∈ text, character.toNat < 128)
    (allowed : (text.map Char.toLower).any isForbidden = false) :
    normal? text = some (text.map Char.toLower) := by
  have lower : Composition.isAscii (text.map Char.toLower) = true := by
    simp only [Composition.isAscii, List.all_map, List.all_eq_true, Function.comp,
      decide_eq_true_eq]
    exact fun character mem => toNat_toLower_lt character (ascii character mem)
  simp only [normal?, Folding.foldAll?_ascii text ascii, Composition.composed_ascii _ lower,
    allowed, Bool.false_eq_true, if_false]

end Domain

namespace Label

theorem isSound_ascii (label : List Char) (ascii : Composition.isAscii label = true) :
    isSound label = true := by
  have below : ∀ character ∈ label, character.toNat < 128 := by
    simpa [Composition.isAscii] using ascii
  have unmarked : label.head?.any isMark = false := by
    cases label with
    | nil => rfl
    | cons first rest =>
        simp [not_isMark_of_ascii first (below first List.mem_cons_self)]
  have placed : Joining.inPlace label = true := by
    apply Joining.inPlace_of_plain
    · intro mem
      exact absurd (below _ mem) (by decide)
    · intro mem
      exact absurd (below _ mem) (by decide)
  simp [isSound, unmarked, placed, ascii]

theorem ofText?_ascii (text : List Char) (ascii : Composition.isAscii text = true)
    (unmarked : mark.isPrefixOf text = false) : ofText? text = some ⟨text, text⟩ := by
  simp [ofText?, unmarked, isSound_ascii text ascii]

end Label

end Switchboard
