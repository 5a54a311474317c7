/-
# Switchboard.CorrelationId -- the name of one call

A call and its reply carry the same 128-bit identifier.  It is written as 32
hexadecimal digits in groups of 8, 4, 4, 4 and 12 between hyphens
(`CorrelationId.text`).  Reading accepts four shapes, digits in either case
(`CorrelationId.parse`): the plain digits, the hyphenated groups, those between
braces, and those after `urn:uuid:`.  Each has a length of its own, and a text of
the length of one of the first two is judged as such, whatever surrounds it.  A
text of any other shape is refused with the first reason that applies to it
(`CorrelationId.Malformed`).

* `CorrelationId.length_text`: the written form has 36 characters;
* `CorrelationId.parsePlain_digits`: the written digits read back.
-/
import Switchboard.Text.Hex

namespace Switchboard

set_option autoImplicit false

open Text

/-- The name of one call. -/
structure CorrelationId where
  bits : BitVec 128
deriving DecidableEq

namespace CorrelationId

/-- Why a text names no call. -/
inductive Malformed where
  /-- A text of plain digits, or an empty or overlong text, of this many bytes. -/
  | length (found : Nat)
  /-- A character that is neither digit nor hyphen, at this byte. -/
  | character (found : Char) (index : Nat)
  /-- A number of groups other than five. -/
  | groupCount (found : Nat)
  /-- A group of the wrong length. -/
  | groupLength (group expected found : Nat)
deriving DecidableEq

/-- The reason in words. -/
def Malformed.message : Malformed → String
  | .length found => s!"invalid length: found {found}"
  | .character found index =>
      "invalid character: found \x60" ++ found.toString ++ "\x60 at " ++ toString index
  | .groupCount found => s!"invalid group count: expected 5, found {found}"
  | .groupLength group expected found =>
      s!"invalid group length in group {group}: expected {expected}, found {found}"

/-! ## Writing -/

/-- The 32 digits. -/
def digits (id : CorrelationId) : List Char := Hex.fixed 32 id.bits.toNat

/-- 32 digits with hyphens between their groups. -/
def hyphenate (digits : List Char) : List Char :=
  digits.take 8 ++ '-' :: (digits.drop 8).take 4 ++ '-' :: (digits.drop 12).take 4 ++
    '-' :: (digits.drop 16).take 4 ++ '-' :: digits.drop 20

/-- The written form: lower-case digits between hyphens. -/
def text (id : CorrelationId) : String := String.ofList (hyphenate id.digits)

/-! ## Reading -/

/-- The identifier that 32 digits denote. -/
def parsePlain (characters : List Char) : Option CorrelationId :=
  if characters.length = 32 then (Hex.number? characters).map (fun number => ⟨BitVec.ofNat 128 number⟩)
  else none

/-- Whether hyphens stand where the groups end, and nowhere else counts. -/
def hyphensInPlace (characters : List Char) : Bool :=
  [8, 13, 18, 23].all (fun index => characters[index]? == some '-')

/-- The identifier that hyphenated groups denote. -/
def parseHyphenated (characters : List Char) : Option CorrelationId :=
  if characters.length = 36 ∧ hyphensInPlace characters then
    parsePlain (characters.take 8 ++ (characters.drop 9).take 4 ++ (characters.drop 14).take 4 ++
      (characters.drop 19).take 4 ++ characters.drop 24)
  else none

/-- What may precede the hyphenated groups, in any case. -/
def urn : List Char := ['u', 'r', 'n', ':', 'u', 'u', 'i', 'd', ':']

/-- How many bytes the characters take. -/
def byteCount (characters : List Char) : Nat := (String.ofList characters).utf8ByteSize

/-- The text after the opening mark, if it starts with one. -/
def afterUrn? (characters : List Char) : Option (List Char) :=
  if (characters.take 9).map Char.toLower = urn then some (characters.drop 9) else none

/-- The text between braces, if it is enclosed in them. -/
def insideBraces? : List Char → Option (List Char)
  | '{' :: rest => if rest.getLast? = some '}' then some rest.dropLast else none
  | _ => none

/-- Where the hyphens of a text stand, or the first character that is neither digit nor
hyphen.  `index` is the byte at which the characters start. -/
def hyphensFrom (index : Nat) : List Char → Except Malformed (List Nat)
  | [] => .ok []
  | character :: rest =>
      if character = '-' then (hyphensFrom (index + 1) rest).map (index :: ·)
      else if Hex.isDigit character then hyphensFrom (index + 1) rest
      else .error (.character character index)

/-- Which group has the wrong length, given where four hyphens stand. -/
def wrongGroup (total : Nat) : List Nat → Malformed
  | [first, second, third, fourth] =>
      if first ≠ 8 then .groupLength 0 8 first
      else if second ≠ 13 then .groupLength 1 4 (second - 9)
      else if third ≠ 18 then .groupLength 2 4 (third - 14)
      else if fourth ≠ 23 then .groupLength 3 4 (fourth - 19)
      else .groupLength 4 12 (total - 24)
  | hyphens => .groupCount (hyphens.length + 1)

/-- Why the groups between `characters` are refused; `offset` is the byte at which they start
in a text of `total` bytes. -/
def refuseGroups (offset total : Nat) (characters : List Char) : Malformed :=
  match hyphensFrom offset characters with
  | .error reason => reason
  | .ok hyphens => wrongGroup total (hyphens.map (· - offset))

/-- Why a text is refused that is neither empty nor too long. -/
def refuse (characters : List Char) : Malformed :=
  let total := byteCount characters
  match insideBraces? characters with
  | some inner => refuseGroups 1 total inner
  | none =>
      match afterUrn? characters with
      | some inner => refuseGroups 9 total inner
      | none =>
          match hyphensFrom 0 characters with
          | .ok [] => .length total
          | _ => refuseGroups 0 total characters

/-- The identifier of hyphenated groups, or why they are refused as such. -/
def parseGroups (characters : List Char) : Except Malformed CorrelationId :=
  match parseHyphenated characters with
  | some id => .ok id
  | none => .error (refuseGroups 0 (byteCount characters) characters)

/-- The identifier of plain digits, or why they are refused: as groups, since a text of as many
digits would denote one. -/
def parseDigits (characters : List Char) : Except Malformed CorrelationId :=
  match parsePlain characters with
  | some id => .ok id
  | none => .error (refuseGroups 0 (byteCount characters) characters)

/-- The identifier of hyphenated groups in an enclosure that takes so many bytes, or why the text
is refused. -/
def parseEnclosed (enclosure : Nat) (inner characters : List Char) :
    Except Malformed CorrelationId :=
  if byteCount characters = 36 + enclosure then parseGroups inner else .error (refuse characters)

/-- The identifier a list of characters denotes, or why it denotes none.  Its length decides
how it is read. -/
def parseChars (characters : List Char) : Except Malformed CorrelationId :=
  let total := byteCount characters
  if total = 0 ∨ 45 < total then .error (.length total)
  else if total = 32 then parseDigits characters
  else if total = 36 then parseGroups characters
  else
    match insideBraces? characters with
    | some inner => parseEnclosed 2 inner characters
    | none =>
        match afterUrn? characters with
        | some inner => parseEnclosed 9 inner characters
        | none => .error (refuse characters)

/-- The identifier a text denotes, or why it denotes none. -/
def parse (text : String) : Except Malformed CorrelationId := parseChars text.toList

/-! ## Drawing -/

/-- The identifier of the `index`-th draw: random-looking bits that mark themselves as drawn
(the thirteenth digit is 4, the seventeenth 8 to b). -/
def drawn (index : Nat) : CorrelationId :=
  let scattered := (index + 1) * 0x9e3779b97f4a7c15f39cc0605cedc835 % (1 <<< 122)
  let low := scattered % (1 <<< 62)
  let middle := (scattered >>> 62) % (1 <<< 12)
  let high := scattered >>> 74
  ⟨BitVec.ofNat 128 ((high <<< 80) + (4 <<< 76) + (middle <<< 64) + (2 <<< 62) + low)⟩

/-! ## Laws -/

theorem length_digits (id : CorrelationId) : id.digits.length = 32 := Hex.length_fixed 32 _

theorem length_hyphenate (characters : List Char) (size : characters.length = 32) :
    (hyphenate characters).length = 36 := by
  simp only [hyphenate, List.length_append, List.length_cons, List.length_take, List.length_drop,
    size]
  rfl

theorem length_text (id : CorrelationId) : id.text.length = 36 := by
  rw [text, String.length_ofList]
  exact length_hyphenate _ id.length_digits

theorem parsePlain_digits (id : CorrelationId) : parsePlain id.digits = some id := by
  have fits : id.bits.toNat < Nat.pow 16 32 := by
    have bound := id.bits.isLt
    omega
  simp [parsePlain, digits, Hex.number?_fixed 32 _ fits, Hex.length_fixed]

end CorrelationId

end Switchboard
