/-
# Switchboard.Json.Reader -- reading JSON texts from left to right

A reader takes the remaining characters and gives a value and what follows it,
or the first fault.  Lists and objects are read by two loops that leave it to
their caller what an item or a member means (`Json.elements`, `Json.members`);
each turn consumes at least one character, so the length of the text bounds the
number of turns.

* `Json.readValue` keeps a value and admits a limited depth of nesting;
* `Json.skipValue` checks a value without keeping it: numbers by their form only,
  strings without regard to surrogates;
* `Json.refuseValue` says why a value of the wrong kind is refused: a scalar is
  first read, so its own fault comes first.

`Json.read` reads a whole text: nothing but blanks may follow the value.

* `Json.skipBlank_of_not_blank`: a text that starts with no blank is left alone;
* `Json.finish_nil`: a reading that consumed all is complete.
-/
import Switchboard.Json.Text

namespace Switchboard.Json

set_option autoImplicit false

/-- Whether a character may stand between the parts of a JSON text. -/
def isBlank (character : Char) : Bool :=
  character = ' ' || character = '\t' || character = '\n' || character = '\r'

/-- The text without blanks in front. -/
def skipBlank (characters : List Char) : List Char := characters.dropWhile isBlank

/-- How many containers may be open at once. -/
def depthLimit : Nat := 127

/-- A word that must stand in front, and the rest. -/
def expectWord : List Char → List Char → Except Fault (List Char)
  | [], rest => .ok rest
  | _ :: _, [] => .error .truncated
  | letter :: word, character :: rest =>
      if character = letter then expectWord word rest else .error .malformed

/-- The text after a colon, blanks before it skipped. -/
def expectColon (characters : List Char) : Except Fault (List Char) :=
  match skipBlank characters with
  | ':' :: rest => .ok rest
  | [] => .error .truncated
  | _ :: _ => .error .malformed

section Loops

variable {σ : Type}

/-- The items of a list up to its closing bracket, the first of them in front. -/
def elementsFrom (item : σ → List Char → Except Fault (σ × List Char)) :
    Nat → σ → List Char → Except Fault (σ × List Char)
  | 0, _, _ => .error .malformed
  | turns + 1, state, characters =>
      match item state characters with
      | .error fault => .error fault
      | .ok (state, afterItem) =>
          match skipBlank afterItem with
          | [] => .error .truncated
          | ']' :: rest => .ok (state, rest)
          | ',' :: rest =>
              match skipBlank rest with
              | [] => .error .truncated
              | ']' :: _ => .error .malformed
              | next => elementsFrom item turns state next
          | _ :: _ => .error .malformed

/-- The items of a list whose opening bracket has been read. -/
def elements (item : σ → List Char → Except Fault (σ × List Char)) (state : σ)
    (characters : List Char) : Except Fault (σ × List Char) :=
  match skipBlank characters with
  | [] => .error .truncated
  | ']' :: rest => .ok (state, rest)
  | next => elementsFrom item (next.length + 1) state next

/-- The members of an object up to its closing brace, the first of them in front, its
opening quote read.  `member` reads from after a member's name to the end of its value. -/
def membersFrom (member : σ → String → List Char → Except Fault (σ × List Char)) :
    Nat → σ → List Char → Except Fault (σ × List Char)
  | 0, _, _ => .error .malformed
  | turns + 1, state, characters =>
      match readText [] characters with
      | .error fault => .error fault
      | .ok (name, afterName) =>
          match member state name afterName with
          | .error fault => .error fault
          | .ok (state, afterMember) =>
              match skipBlank afterMember with
              | [] => .error .truncated
              | '\x7d' :: rest => .ok (state, rest)
              | ',' :: rest =>
                  match skipBlank rest with
                  | [] => .error .truncated
                  | '"' :: next => membersFrom member turns state next
                  | _ :: _ => .error .malformed
              | _ :: _ => .error .malformed

/-- The members of an object whose opening brace has been read. -/
def members (member : σ → String → List Char → Except Fault (σ × List Char)) (state : σ)
    (characters : List Char) : Except Fault (σ × List Char) :=
  match skipBlank characters with
  | [] => .error .truncated
  | '\x7d' :: rest => .ok (state, rest)
  | '"' :: next => membersFrom member (next.length + 1) state next
  | _ :: _ => .error .malformed

end Loops

/-! ## Scalars -/

/-- A kept number at the front of the text. -/
def readNumber (characters : List Char) : Except Fault (Json × List Char) := do
  let (literal, rest) ← Literal.scan .truncated characters
  let value ← literal.number
  return (.number value, rest)

/-- A kept value that is no container. -/
def readScalar : List Char → Except Fault (Json × List Char)
  | [] => .error .truncated
  | 'n' :: rest => (expectWord ['u', 'l', 'l'] rest).map (fun rest => (.null, rest))
  | 't' :: rest => (expectWord ['r', 'u', 'e'] rest).map (fun rest => (.bool true, rest))
  | 'f' :: rest => (expectWord ['a', 'l', 's', 'e'] rest).map (fun rest => (.bool false, rest))
  | '"' :: rest => (readText [] rest).map (fun found => (.string found.1, found.2))
  | character :: rest =>
      if character = '-' || Literal.isDigit character then readNumber (character :: rest)
      else .error .malformed

/-- The text after a skipped value that is no container. -/
def skipScalar : List Char → Except Fault (List Char)
  | [] => .error .truncated
  | 'n' :: rest => expectWord ['u', 'l', 'l'] rest
  | 't' :: rest => expectWord ['r', 'u', 'e'] rest
  | 'f' :: rest => expectWord ['a', 'l', 's', 'e'] rest
  | '"' :: rest => skipText rest
  | character :: rest =>
      if character = '-' || Literal.isDigit character then
        (Literal.scan .malformed (character :: rest)).map (·.2)
      else .error .malformed

/-- Why a value that is not of the expected kind is refused; no blanks are in front. -/
def refuseValue (characters : List Char) : Fault :=
  match characters with
  | '[' :: _ => .mismatched
  | '\x7b' :: _ => .mismatched
  | _ =>
      match readScalar characters with
      | .ok _ => .mismatched
      | .error fault => fault

/-! ## Values -/

/-- A kept member: the colon, the value, and its place among the others. -/
def keepMember (value : List Char → Except Fault (Json × List Char))
    (kept : List (String × Json)) (name : String) (characters : List Char) :
    Except Fault (List (String × Json) × List Char) :=
  match expectColon characters with
  | .error fault => .error fault
  | .ok afterColon =>
      match value afterColon with
      | .error fault => .error fault
      | .ok (found, rest) => .ok (insertMember name found kept, rest)

/-- A kept item, put in front of those before it. -/
def keepItem (value : List Char → Except Fault (Json × List Char)) (kept : List Json)
    (characters : List Char) : Except Fault (List Json × List Char) :=
  match value characters with
  | .error fault => .error fault
  | .ok (found, rest) => .ok (found :: kept, rest)

/-- A kept value in which at most `depth` containers are open at once; blanks may precede. -/
def readValue : Nat → List Char → Except Fault (Json × List Char)
  | 0, characters =>
      match skipBlank characters with
      | '[' :: _ => .error .malformed
      | '\x7b' :: _ => .error .malformed
      | scalar => readScalar scalar
  | depth + 1, characters =>
      match skipBlank characters with
      | '[' :: rest =>
          (elements (keepItem (readValue depth)) [] rest).map
            (fun found => (.array found.1.reverse, found.2))
      | '\x7b' :: rest =>
          (members (keepMember (readValue depth)) [] rest).map
            (fun found => (.object found.1, found.2))
      | scalar => readScalar scalar

/-- A container whose opening mark has been skipped. -/
inductive Enclosure where
  | list
  | object
deriving DecidableEq

/-- The text after a skipped member's name and colon, its opening quote read. -/
def skipName (characters : List Char) : Except Fault (List Char) :=
  match skipText characters with
  | .error fault => .error fault
  | .ok rest => expectColon rest

mutual

/-- The text after a skipped value and after all the containers that enclose it,
innermost first; blanks may precede.  Each turn consumes a character. -/
def skipFrom : Nat → List Enclosure → List Char → Except Fault (List Char)
  | 0, _, _ => .error .malformed
  | turns + 1, enclosing, characters =>
      match skipBlank characters with
      | '[' :: rest =>
          match skipBlank rest with
          | [] => .error .truncated
          | ']' :: after => skipAfter turns enclosing after
          | next => skipFrom turns (.list :: enclosing) next
      | '\x7b' :: rest =>
          match skipBlank rest with
          | [] => .error .truncated
          | '\x7d' :: after => skipAfter turns enclosing after
          | '"' :: name =>
              match skipName name with
              | .error fault => .error fault
              | .ok next => skipFrom turns (.object :: enclosing) next
          | _ :: _ => .error .malformed
      | scalar =>
          match skipScalar scalar with
          | .error fault => .error fault
          | .ok after => skipAfter turns enclosing after

/-- The text after the containers that enclose a value just skipped. -/
def skipAfter : Nat → List Enclosure → List Char → Except Fault (List Char)
  | _, [], characters => .ok characters
  | 0, _ :: _, _ => .error .malformed
  | turns + 1, .list :: enclosing, characters =>
      match skipBlank characters with
      | [] => .error .truncated
      | ']' :: rest => skipAfter turns enclosing rest
      | ',' :: rest => skipFrom turns (.list :: enclosing) rest
      | _ :: _ => .error .malformed
  | turns + 1, .object :: enclosing, characters =>
      match skipBlank characters with
      | [] => .error .truncated
      | '\x7d' :: rest => skipAfter turns enclosing rest
      | ',' :: rest =>
          match skipBlank rest with
          | [] => .error .truncated
          | '"' :: name =>
              match skipName name with
              | .error fault => .error fault
              | .ok next => skipFrom turns (.object :: enclosing) next
          | _ :: _ => .error .malformed
      | _ :: _ => .error .malformed

end

/-- The text after a skipped value; any depth of nesting is admitted. -/
def skipValue (characters : List Char) : Except Fault (List Char) :=
  skipFrom (2 * characters.length + 2) [] characters

/-! ## Strings where only strings are expected -/

/-- A string; blanks may precede. -/
def readString (characters : List Char) : Except Fault (String × List Char) :=
  match skipBlank characters with
  | '"' :: rest => readText [] rest
  | other => .error (refuseValue other)

/-- A string or null; blanks may precede. -/
def readOptionalString (characters : List Char) : Except Fault (Option String × List Char) :=
  match skipBlank characters with
  | 'n' :: rest => (expectWord ['u', 'l', 'l'] rest).map (fun rest => (none, rest))
  | '"' :: rest => (readText [] rest).map (fun found => (some found.1, found.2))
  | other => .error (refuseValue other)

/-- A value at most `depth` deep, or null for none; blanks may precede. -/
def readOptionalValue (depth : Nat) (characters : List Char) :
    Except Fault (Option Json × List Char) :=
  match skipBlank characters with
  | 'n' :: rest => (expectWord ['u', 'l', 'l'] rest).map (fun rest => (none, rest))
  | other => (readValue depth other).map (fun found => (some found.1, found.2))

/-! ## Whole texts -/

/-- The value of a reading that leaves nothing but blanks. -/
def finish {α : Type} (found : α × List Char) : Except Fault α :=
  match skipBlank found.2 with
  | [] => .ok found.1
  | _ :: _ => .error .malformed

/-- The value of a whole text. -/
def read (text : String) : Except Fault Json :=
  match readValue depthLimit text.toList with
  | .error fault => .error fault
  | .ok found => finish found

theorem skipBlank_of_not_blank (character : Char) (rest : List Char)
    (solid : isBlank character = false) : skipBlank (character :: rest) = character :: rest := by
  simp [skipBlank, solid]

theorem finish_nil {α : Type} (value : α) : finish (value, []) = .ok value := rfl

end Switchboard.Json
