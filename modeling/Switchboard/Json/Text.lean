/-
# Switchboard.Json.Text -- reading the string of a JSON text

Both readers start after the opening quote and stop after the closing one.  They
refuse raw control characters and unknown escapes.  `readText` gives the string,
so it also refuses an escaped surrogate that is not part of a pair; `skipText`
gives nothing and lets surrogates pass.  An escape cut short by the end of the
text is truncated only when fewer than four bytes are left for its digits.

* `Json.readText_close`: the closing quote ends the string;
* `Json.readText_printed`: the printed form of a string reads back, whatever follows.
-/
import Switchboard.Json.Literal
import Switchboard.Json.Printer

namespace Switchboard.Json

set_option autoImplicit false

open Text

/-- The fault of digits that are fewer than four characters. -/
def shortEscape (characters : List Char) : Fault :=
  if 4 ≤ (String.ofList characters).utf8ByteSize then .malformed else .truncated

/-- The number of four hexadecimal digits. -/
def quad? (first second third fourth : Char) : Option Nat :=
  Hex.number? [first, second, third, fourth]

/-- Whether a number is a surrogate that opens a pair. -/
def isHighSurrogate (unit : Nat) : Bool := 0xD800 ≤ unit && unit ≤ 0xDBFF

/-- Whether a number is a surrogate that closes a pair. -/
def isLowSurrogate (unit : Nat) : Bool := 0xDC00 ≤ unit && unit ≤ 0xDFFF

/-- The character that a pair of surrogates stands for. -/
def joinSurrogates (high low : Nat) : Char :=
  Char.ofNat (0x10000 + (high - 0xD800) * 0x400 + (low - 0xDC00))

/-- The character of a one-letter escape. -/
def shortEscape? (letter : Char) : Option Char :=
  if letter = '"' then some '"'
  else if letter = '\\' then some '\\'
  else if letter = '/' then some '/'
  else if letter = 'b' then some (Char.ofNat 8)
  else if letter = 'f' then some (Char.ofNat 12)
  else if letter = 'n' then some '\n'
  else if letter = 'r' then some '\r'
  else if letter = 't' then some '\t'
  else none

/-- The string up to the closing quote, and the rest; `taken` holds the characters before,
last first. -/
def readText (taken : List Char) : List Char → Except Fault (String × List Char)
  | [] => .error .truncated
  | '"' :: rest => .ok (String.ofList taken.reverse, rest)
  | '\\' :: [] => .error .truncated
  | '\\' :: 'u' :: first :: second :: third :: fourth :: rest =>
      match quad? first second third fourth with
      | none => .error .malformed
      | some unit =>
          if isLowSurrogate unit then .error .malformed
          else if isHighSurrogate unit then
            match rest with
            | [] => .error .truncated
            | '\\' :: [] => .error .truncated
            | '\\' :: 'u' :: first :: second :: third :: fourth :: rest =>
                match quad? first second third fourth with
                | none => .error .malformed
                | some low =>
                    if isLowSurrogate low then readText (joinSurrogates unit low :: taken) rest
                    else .error .malformed
            | '\\' :: 'u' :: digits => .error (shortEscape digits)
            | _ => .error .malformed
          else readText (Char.ofNat unit :: taken) rest
  | '\\' :: 'u' :: digits => .error (shortEscape digits)
  | '\\' :: letter :: rest =>
      match shortEscape? letter with
      | some character => readText (character :: taken) rest
      | none => .error .malformed
  | character :: rest =>
      if character.toNat < 32 then .error .malformed else readText (character :: taken) rest

/-- The text after the closing quote. -/
def skipText : List Char → Except Fault (List Char)
  | [] => .error .truncated
  | '"' :: rest => .ok rest
  | '\\' :: [] => .error .truncated
  | '\\' :: 'u' :: first :: second :: third :: fourth :: rest =>
      match quad? first second third fourth with
      | none => .error .malformed
      | some _ => skipText rest
  | '\\' :: 'u' :: digits => .error (shortEscape digits)
  | '\\' :: letter :: rest =>
      match shortEscape? letter with
      | some _ => skipText rest
      | none => .error .malformed
  | character :: rest =>
      if character.toNat < 32 then .error .malformed else skipText rest

theorem readText_close (taken rest : List Char) :
    readText taken ('"' :: rest) = .ok (String.ofList taken.reverse, rest) := by
  rw [readText]

/-- A character that needs no escape is taken as it is. -/
theorem readText_plain (taken rest : List Char) (character : Char)
    (visible : 32 ≤ character.toNat) (notQuote : character ≠ '"') (notBackslash : character ≠ '\\') :
    readText taken (character :: rest) = readText (character :: taken) rest := by
  rw [readText]
  · simp [Nat.not_lt.mpr visible]
  all_goals simp_all

/-- An escape of one letter gives its character. -/
theorem readText_letter (taken rest : List Char) (letter character : Char)
    (notUnicode : letter ≠ 'u') (known : shortEscape? letter = some character) :
    readText taken ('\\' :: letter :: rest) = readText (character :: taken) rest := by
  rw [readText]
  · simp [known]
  all_goals simp_all

/-- A control character has a small code point. -/
theorem ofNat_toNat_control (character : Char) : Char.ofNat character.toNat = character := by
  simp

theorem readText_escaped (taken rest : List Char) (character : Char) :
    readText taken (escapeChar character ++ rest) = readText (character :: taken) rest := by
  unfold escapeChar
  split
  · subst_vars; exact readText_letter _ _ _ _ (by decide) (by decide)
  split
  · subst_vars; exact readText_letter _ _ _ _ (by decide) (by decide)
  split
  · rename_i code
    rw [← ofNat_toNat_control character, code]
    exact readText_letter _ _ _ _ (by decide) (by decide)
  split
  · rename_i code
    rw [← ofNat_toNat_control character, code]
    exact readText_letter _ _ _ _ (by decide) (by decide)
  split
  · subst_vars; exact readText_letter _ _ _ _ (by decide) (by decide)
  split
  · subst_vars; exact readText_letter _ _ _ _ (by decide) (by decide)
  split
  · subst_vars; exact readText_letter _ _ _ _ (by decide) (by decide)
  split
  · rename_i small
    have digits : ∃ a b c d, Hex.fixed 4 character.toNat = [a, b, c, d] :=
      ⟨_, _, _, _, rfl⟩
    obtain ⟨first, second, third, fourth, shape⟩ := digits
    have value : quad? first second third fourth = some character.toNat := by
      rw [quad?, ← shape]
      exact Hex.number?_fixed 4 _ (Nat.lt_trans small (by decide))
    rw [shape]
    simp only [List.cons_append, List.nil_append]
    rw [readText]
    have notLow : isLowSurrogate character.toNat = false := by
      simp [isLowSurrogate]; omega
    have notHigh : isHighSurrogate character.toNat = false := by
      simp [isHighSurrogate]; omega
    simp [value, notLow, notHigh]
  · rename_i notQuote notBackslash _ _ _ _ _ visible
    exact readText_plain _ _ _ (by omega) notQuote notBackslash

theorem readText_escapes (taken rest characters : List Char) :
    readText taken (characters.flatMap escapeChar ++ rest) =
      readText (characters.reverse ++ taken) rest := by
  induction characters generalizing taken with
  | nil => rfl
  | cons character characters ih =>
      rw [List.flatMap_cons, List.append_assoc, readText_escaped, ih]
      simp

/-- The printed form of a string reads back, whatever follows it. -/
theorem readText_printed (text : String) (rest : List Char) :
    readText [] (text.toList.flatMap escapeChar ++ '"' :: rest) = .ok (text, rest) := by
  rw [readText_escapes, readText_close]
  simp

end Switchboard.Json
