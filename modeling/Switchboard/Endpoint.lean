/-
# Switchboard.Endpoint -- where a link goes

An address is read as the living standard for addresses reads it: blanks and
control characters around it and line breaks within it do not count, a scheme
comes first, and schemes with rules for hosts need a valid host.  A link accepts
the two schemes for message sockets, `ws` and `wss`; that is checked afterwards,
so a malformed address is reported as such whatever its scheme.

* `Endpoint.parse_empty`: the empty text has no scheme.
-/
import Switchboard.Endpoint.Host

namespace Switchboard

set_option autoImplicit false

/-- Where a link goes. -/
structure Endpoint where
  /-- The scheme, in lower case. -/
  scheme : String
  /-- What follows the scheme and its colon. -/
  address : String
deriving DecidableEq

namespace Endpoint

/-- How the hosts of a scheme are read. -/
inductive HostRules where
  /-- The host is an address or a domain. -/
  | strict
  /-- The host is that of a file, and may be missing. -/
  | file
  /-- The host is opaque, and may be missing. -/
  | opaqueHost
deriving DecidableEq

/-- The rules for the hosts of a scheme. -/
def hostRules (scheme : String) : HostRules :=
  if ["http", "https", "ws", "wss", "ftp"].contains scheme then .strict
  else if scheme = "file" then .file
  else .opaqueHost

/-- Whether a character does not count at either end of an address. -/
def isMargin (character : Char) : Bool := character.toNat ≤ 32

/-- Whether a character does not count anywhere in an address. -/
def isBreak (character : Char) : Bool :=
  character = '\t' || character = '\n' || character = '\r'

/-- The characters that count. -/
def significant (text : String) : List Char :=
  let trimmed := ((text.toList.dropWhile isMargin).reverse.dropWhile isMargin).reverse
  trimmed.filter (fun character => !isBreak character)

/-- Whether a character may stand in a scheme after its first letter. -/
def isSchemeChar (character : Char) : Bool :=
  character.isAlphanum || character = '+' || character = '-' || character = '.'

/-- The scheme in lower case and what follows its colon. -/
def splitScheme? (characters : List Char) : Option (List Char × List Char) :=
  match characters with
  | [] => none
  | first :: _ =>
      if first.isAlpha then
        match characters.dropWhile isSchemeChar with
        | ':' :: rest => some ((characters.takeWhile isSchemeChar).map Char.toLower, rest)
        | _ => none
      else none

/-- Whether a character is a slash of either direction. -/
def isSlash (character : Char) : Bool := character = '/' || character = '\\'

/-- Whether a character ends the part that holds user, host and port. -/
def endsAuthority (rules : HostRules) (character : Char) : Bool :=
  character = '/' || character = '?' || character = '#' ||
    (character = '\\' && rules ≠ .opaqueHost)

/-- The host in front of its port or path, brackets protecting colons, and the rest. -/
def splitHost (rules : HostRules) : Bool → List Char → List Char × List Char
  | _, [] => ([], [])
  | bracketed, character :: rest =>
      if endsAuthority rules character || (character = ':' && !bracketed) then ([], character :: rest)
      else
        let further :=
          splitHost rules (if character = '[' then true else bracketed && character ≠ ']') rest
        (character :: further.1, further.2)

/-- Why what follows the colon after a host is no port; `value` is what its digits denote. -/
def checkPort : Nat → List Char → Except Malformed Unit
  | _, [] => .ok ()
  | value, character :: rest =>
      if Host.isDecimal character then
        let longer := value * 10 + (character.toNat - '0'.toNat)
        if 65535 < longer then .error .badPort else checkPort longer rest
      else if ['/', '\\', '?', '#'].contains character then .ok ()
      else .error .badPort

/-- What stands before the last at-sign, if there is one, and what follows it. -/
def splitUser (authority : List Char) : Option (List Char) × List Char :=
  if authority.contains '@' then
    let host := (authority.reverse.takeWhile (· ≠ '@')).reverse
    (some (authority.take (authority.length - host.length - 1)), host)
  else (none, authority)

/-- Whether a user or a password is given; a lone colon gives neither. -/
def namesUser (user : Option (List Char)) : Bool :=
  match user with
  | none => false
  | some given => given ≠ [] && given ≠ [':']

/-- Why what follows the two slashes is no authority. -/
def checkAuthority (rules : HostRules) (characters : List Char) : Except Malformed Unit :=
  let authority := characters.takeWhile (fun character => !endsAuthority rules character)
  let path := characters.drop authority.length
  let (user, hostAndPort) := splitUser authority
  if user = some [] && hostAndPort.isEmpty && !path.isEmpty then .error .emptyHost
  else
    let (host, rest) := splitHost rules false (hostAndPort ++ path)
    let checked :=
      if rules = .strict then (if host.isEmpty then .error .emptyHost else Host.check host)
      else Host.checkOpaque host
    match checked with
    | .error reason => .error reason
    | .ok () =>
        match rest with
        | ':' :: port => if host.isEmpty then .error .emptyHost else checkPort 0 port
        | _ => if host.isEmpty && namesUser user then .error .emptyHost else .ok ()

/-- Whether a text is a letter and a colon or bar, which names a drive and not a host. -/
def isDrive (host : List Char) : Bool :=
  match host with
  | [letter, mark] => letter.isAlpha && (mark = ':' || mark = '|')
  | _ => false

/-- Why what follows the scheme of a file is no address. -/
def checkFile (characters : List Char) : Except Malformed Unit :=
  match characters with
  | first :: second :: rest =>
      if isSlash first && isSlash second then
        let host := rest.takeWhile (fun character => !endsAuthority .file character)
        if host.isEmpty || isDrive host then .ok () else Host.check host
      else .ok ()
  | _ => .ok ()

/-- Why what follows a scheme is no address. -/
def checkRest (rules : HostRules) (characters : List Char) : Except Malformed Unit :=
  match rules with
  | .strict => checkAuthority .strict (characters.dropWhile isSlash)
  | .file => checkFile characters
  | .opaqueHost =>
      match characters with
      | '/' :: '/' :: rest => checkAuthority .opaqueHost rest
      | _ => .ok ()

/-- The address a text denotes, or why it denotes none. -/
def parse (text : String) : Except Malformed Endpoint :=
  match splitScheme? (significant text) with
  | none => .error .noScheme
  | some (scheme, rest) =>
      let scheme := String.ofList scheme
      match checkRest (hostRules scheme) rest with
      | .error reason => .error reason
      | .ok () => .ok ⟨scheme, String.ofList rest⟩

/-- Whether a link can be made over the scheme. -/
def isSocket (endpoint : Endpoint) : Bool := endpoint.scheme = "ws" || endpoint.scheme = "wss"

/-- Whether the link is to be encrypted. -/
def isSecure (endpoint : Endpoint) : Bool := endpoint.scheme = "wss"

theorem parse_empty : parse "" = .error .noScheme := by
  simp [parse, significant, splitScheme?]

end Endpoint

end Switchboard
