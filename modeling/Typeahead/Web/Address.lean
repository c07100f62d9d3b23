import Typeahead.Decimal.Literal
import Typeahead.Text.Quoted
import Typeahead.Web.Host
import Typeahead.Web.Percent

/-!
# Addresses on the web

An address is read into its parts, and each part is brought into one form: the
scheme and the host in small letters, the port only where it is not the usual
one, the segments `.` and `..` resolved, and in each part the characters encoded
that may not stand there.
-/

namespace Typeahead.Web

open Typeahead.Text

set_option autoImplicit false

/-- Why a text is no address. -/
inductive AddressFault where
  | tooLong
  | unprintable (c : Char) (position : Nat)
  | badPort (port : String)
  | badFourNumbers (host : String)
  | badBrackets (host : String)
  | pathWithoutSlash
  | pathWithTwoSlashes
  | pathWithColon
  /-- a part that an address is put together from is too long -/
  | partTooLong (part : String)
  | unprintablePart (part : String) (c : Char) (position : Nat)
  deriving DecidableEq, Repr, Inhabited

/-- What is said about a text that is no address. -/
def AddressFault.message : AddressFault → String
  | .tooLong => "URL too long"
  | .unprintable c position =>
      "Invalid non-printable ASCII character in URL, " ++ quoted (String.singleton c) ++
        " at position " ++ toString position ++ "."
  | .badPort port => "Invalid port: " ++ quoted port
  | .badFourNumbers host => "Invalid IPv4 address: " ++ quoted host
  | .badBrackets host => "Invalid IPv6 address: " ++ quoted host
  | .pathWithoutSlash => "For absolute URLs, path must be empty or begin with '/'"
  | .pathWithTwoSlashes => "Relative URLs cannot have a path starting with '//'"
  | .pathWithColon => "Relative URLs cannot have a path starting with ':'"
  | .partTooLong part => "URL component '" ++ part ++ "' too long"
  | .unprintablePart part c position =>
      "Invalid non-printable ASCII character in URL " ++ part ++ " component, " ++
        quoted (String.singleton c) ++ " at position " ++ toString position ++ "."

/-- An address in its parts. -/
structure Address where
  scheme : List Char
  userinfo : List Char
  host : List Char
  port : Option Int
  path : List Char
  query : Option (List Char)
  fragment : Option (List Char)
  deriving DecidableEq, Repr, Inhabited

/-! ## The characters that stand for themselves -/

/-- The safe characters of a fragment. -/
def isFragmentSafe (c : Char) : Bool :=
  isPrintableAscii c && !([' ', '"', '<', '>', '\x60'].contains c)

/-- The safe characters of a query. -/
def isQuerySafe (c : Char) : Bool :=
  isPrintableAscii c && !([' ', '"', '#', '<', '>'].contains c)

/-- The safe characters of a path. -/
def isPathSafe (c : Char) : Bool :=
  isQuerySafe c && !(['?', '\x60', '\x7b', '\x7d'].contains c)

/-- The safe characters of a user name or password; the colon stands between the two. -/
def isUserSafe (c : Char) : Bool :=
  isPathSafe c && !(['/', ';', '=', '@', '[', '\\', ']', '^', '|'].contains c)

/-- The safe characters of a host. -/
def isHostSafe (c : Char) : Bool :=
  isUnreserved c || ['!', '$', '&', '\'', '(', ')', '*', '+', ',', ';', '=', '"', '\x60',
    '\x7b', '\x7d', '%', '|', '\\'].contains c || 0x80 ≤ c.toNat

/-! ## Splitting a text into parts -/

/-- The letters of ASCII. -/
def isAsciiLetter (c : Char) : Bool :=
  ('a' ≤ c && c ≤ 'z') || ('A' ≤ c && c ≤ 'Z')

/-- Splits off what stands before a colon, if it can be a scheme. -/
def splitScheme (text : List Char) : List Char × List Char :=
  let name := text.takeWhile fun c =>
    isAsciiLetter c || isAsciiDigit c || c == '+' || c == '.' || c == '-'
  let startsWell := match name with
    | [] => true
    | c :: _ => isAsciiLetter c
  match text.drop name.length with
  | ':' :: rest => if startsWell then (name, rest) else ([], text)
  | _ => ([], text)

/-- Splits off what stands behind two slashes, up to the path. -/
def splitAuthority : List Char → List Char × List Char
  | '/' :: '/' :: rest =>
      let ends (c : Char) : Bool := c == '/' || c == '?' || c == '#'
      (rest.takeWhile (!ends ·), rest.dropWhile (!ends ·))
  | text => ([], text)

/-- Splits at the first of a character, which goes away. -/
def splitAtFirst (mark : Char) (text : List Char) : List Char × Option (List Char) :=
  match text.dropWhile (· != mark) with
  | [] => (text, none)
  | _ :: rest => (text.takeWhile (· != mark), some rest)

/-- Splits at the last of a character, which goes away. -/
def splitAtLast (mark : Char) (text : List Char) : Option (List Char) × List Char :=
  match splitAtFirst mark text.reverse with
  | (after, some before) => (some before.reverse, after.reverse)
  | (_, none) => (none, text)

/-- Splits a host from its port; a host in brackets reaches to the last closing bracket. -/
def splitHost (text : List Char) : List Char × List Char :=
  let parts : List Char × List Char :=
    match text, splitAtLast ']' text with
    | '[' :: _, (some inside, rest) => (inside ++ [']'], rest)
    | _, _ => (text.takeWhile (· != ':'), text.dropWhile (· != ':'))
  match parts.2 with
  | ':' :: port => (parts.1, port)
  | port => (parts.1, port)

/-! ## Bringing the parts into form -/

/-- Resolves the segments `.` and `..`; what is left of the beginning is kept last segment first. -/
def resolveSegments : List (List Char) → List (List Char) → List (List Char)
  | done, [] => done.reverse
  | done, segment :: segments =>
      if segment = ['.'] then resolveSegments done segments
      else if segment = ['.', '.'] then
        resolveSegments (if done = [[]] then done else done.drop 1) segments
      else resolveSegments (segment :: done) segments

/-- Joins segments by slashes. -/
def joinSegments (segments : List (List Char)) : List Char :=
  ['/'].intercalate segments

/-- A path without the segments `.` and `..`. -/
def resolvePath (path : List Char) : List Char :=
  joinSegments (resolveSegments [] (path.splitOn '/'))

/-- The host in its one form. -/
def normalHost (host : List Char) : Except AddressFault (List Char) :=
  if host.isEmpty then .ok []
  else if looksLikeFourNumbers host then
    if isFourOctets host then .ok host else .error (.badFourNumbers (String.ofList host))
  else if host.head? = some '[' && host.getLast? = some ']' && 1 < host.length then
    let inside := (host.drop 1).dropLast
    if isBracketed inside then .ok inside else .error (.badBrackets (String.ofList host))
  else .ok (percentComplete isHostSafe (host.map Char.toLower))

/-- The usual port of a scheme. -/
def usualPort? (scheme : String) : Option Int :=
  if scheme = "http" ∨ scheme = "ws" then some 80
  else if scheme = "https" ∨ scheme = "wss" then some 443
  else if scheme = "ftp" then some 21
  else none

/-- The port, unless it is left out or is the usual one. -/
def normalPort (scheme port : List Char) : Except AddressFault (Option Int) :=
  if port.isEmpty then .ok none
  else
    match Decimal.integerOfText? (String.ofList port) with
    | none => .error (.badPort (String.ofList port))
    | some number =>
        .ok (if usualPort? (String.ofList scheme) = some number then none else some number)

/-- Whether a path fits to the parts before it. -/
def checkPath (path : List Char) (hasScheme hasAuthority : Bool) : Except AddressFault Unit :=
  if hasAuthority then
    if path.isEmpty || path.head? == some '/' then .ok () else .error .pathWithoutSlash
  else if hasScheme then .ok ()
  else if path.take 2 = ['/', '/'] then .error .pathWithTwoSlashes
  else if path.head? = some ':' then .error .pathWithColon
  else .ok ()

/-- The longest text that is read as an address. -/
def maxAddressLength : Nat := 65536

/-- Where the first character stands that an address may not hold unencoded. -/
def unprintableAt? (text : List Char) : Option Nat :=
  text.findIdx? fun c => c.toNat < 0x80 && !isPrintableAscii c

/-- Reads an address. -/
def Address.ofText (text : String) : Except AddressFault Address := do
  let characters := text.toList
  if maxAddressLength < characters.length then throw .tooLong
  match unprintableAt? characters with
  | some position => throw (.unprintable (characters.getD position ' ') position)
  | none => pure ()
  let (rawScheme, rest) := splitScheme characters
  let (authority, rest) := splitAuthority rest
  let (rest, fragment) := splitAtFirst '#' rest
  let (path, query) := splitAtFirst '?' rest
  let (userinfo, hostAndPort) := splitAtLast '@' authority
  let (rawHost, rawPort) := splitHost hostAndPort
  let scheme := rawScheme.map Char.toLower
  let userinfo := percentComplete isUserSafe (userinfo.getD [])
  let host ← normalHost rawHost
  let port ← normalPort rawScheme rawPort
  let hasScheme := !scheme.isEmpty
  let hasAuthority := !userinfo.isEmpty || !host.isEmpty || port.isSome
  checkPath path hasScheme hasAuthority
  let path := if hasScheme || hasAuthority then resolvePath path else path
  return {
    scheme, userinfo, host, port
    path := percentComplete isPathSafe path
    query := query.map (percentComplete isQuerySafe)
    fragment := fragment.map (percentComplete isFragmentSafe) }

namespace Address

/-- A host as it is written: in brackets, if it holds colons. -/
def writtenHost (host : List Char) : List Char :=
  if host.contains ':' then '[' :: host ++ [']'] else host

/-- The user, the host and the port. -/
def authority (address : Address) : List Char :=
  (if address.userinfo.isEmpty then [] else address.userinfo ++ ['@']) ++
    writtenHost address.host ++
    (match address.port with
      | none => []
      | some port => ':' :: (toString port).toList)

/-- A part behind its mark, if there is one. -/
def marked (mark : Char) : Option (List Char) → List Char
  | none => []
  | some part => mark :: part

/-- The text of an address. -/
def text (address : Address) : String :=
  let authority := address.authority
  String.ofList
    ((if address.scheme.isEmpty then [] else address.scheme ++ [':']) ++
      (if authority.isEmpty then [] else '/' :: '/' :: authority) ++
      address.path ++ marked '?' address.query ++ marked '#' address.fragment)

/-- An address that names both a scheme and a host. -/
def isAbsolute (address : Address) : Bool :=
  !address.scheme.isEmpty && !address.host.isEmpty

/-- Whether a text can be a part of an address that is put together. -/
def checkPart (part : String) (text : List Char) : Except AddressFault Unit :=
  if maxAddressLength < text.length then .error (.partTooLong part)
  else
    match unprintableAt? text with
    | some position => .error (.unprintablePart part (text.getD position ' ') position)
    | none => .ok ()

/-- An address with another host and another fragment, put together from its parts. -/
def withParts (address : Address) (host : List Char) (fragment : Option (List Char)) :
    Except AddressFault Address := do
  checkPart "authority" address.authority
  checkPart "path" address.path
  checkPart "query" (address.query.getD [])
  checkPart "fragment" (fragment.getD [])
  checkPart "host" (writtenHost host)
  let host ← normalHost (writtenHost host)
  let fragment := fragment.map (percentComplete isFragmentSafe)
  let address := { address with host, fragment }
  checkPath address.path (!address.scheme.isEmpty) (!address.authority.isEmpty)
  return address

/-- A part that is there and is not empty. -/
def nonempty (part : Option (List Char)) : Option (List Char) :=
  part.filter fun text => !text.isEmpty

/-- The path of a reference, seen from the path of the address that it stands in. -/
def joinPath (base reference : List Char) : List Char :=
  let segments :=
    if reference.head? = some '/' then reference.splitOn '/'
    else
      let folders := base.splitOn '/'
      let folders := if folders.getLast? = some [] then folders else folders.dropLast
      let all := folders ++ reference.splitOn '/'
      all.take 1 ++ ((all.drop 1).dropLast.filter fun segment => !segment.isEmpty) ++
        (if 1 < all.length then all.drop (all.length - 1) else [])
  let dots (segment : List Char) : Bool := segment == ['.'] || segment == ['.', '.']
  let step (done : List (List Char)) (segment : List Char) : List (List Char) :=
    if segment = ['.', '.'] then done.drop 1
    else if segment = ['.'] then done
    else segment :: done
  let resolved := (segments.foldl step []).reverse
  let resolved := if dots (segments.getLast?.getD []) then resolved ++ [[]] else resolved
  let joined := joinSegments resolved
  if joined.head? = some '/' then joined else '/' :: joined

/-- A path without the parameters of its last segment, and these parameters. -/
def splitPathParameters (path : List Char) : List Char × List Char :=
  let folders := path.take (path.length - (splitAtLast '/' path).2.length)
  let last := splitAtFirst ';' (splitAtLast '/' path).2
  (folders ++ last.1, last.2.getD [])

/-- A path with parameters; a semicolon without any is left out. -/
def withParameters (path parameters : List Char) : List Char :=
  if parameters.isEmpty then path else path ++ ';' :: parameters

/-- The address that a reference without a scheme stands for. -/
def join (base reference : Address) : Address :=
  let fragment := nonempty reference.fragment
  let query := nonempty reference.query
  let (path, parameters) := splitPathParameters reference.path
  let (basePath, baseParameters) := splitPathParameters base.path
  if reference.text.isEmpty then base
  else if !reference.authority.isEmpty then
    { reference with scheme := base.scheme, path := withParameters path parameters, query, fragment }
  else if path.isEmpty && parameters.isEmpty then
    { base with path := withParameters basePath baseParameters,
                query := query.orElse fun _ => nonempty base.query, fragment }
  else
    { base with path := withParameters (joinPath basePath path) parameters, query, fragment }

end Address

end Typeahead.Web
