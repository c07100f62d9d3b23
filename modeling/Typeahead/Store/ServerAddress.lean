import Typeahead.Web.Address

/-!
# The address of a server

A server of ranked sets is named by an address: who connects, to which host and
port, and to which of the numbered databases of the server.  Options behind a
question mark can say the same and more.
-/

namespace Typeahead.Store

open Typeahead.Decimal Typeahead.Text Typeahead.Web

set_option autoImplicit false

/-- Why a text is no address of a server. -/
inductive ServerAddressFault where
  | scheme
  | unclosedBracket
  | badBrackets (host : String)
  | badFutureHost
  | disguised (authority : String)
  | badPort (port : String)
  | portOutOfRange
  | badOption (name : String)
  | negativeConnections
  deriving DecidableEq, Repr, Inhabited

/-- What is said about a text that is no address of a server. -/
def ServerAddressFault.message : ServerAddressFault → String
  | .scheme =>
      "Redis URL must specify one of the following schemes (redis://, rediss://, unix://)"
  | .unclosedBracket => "Invalid IPv6 URL"
  | .badBrackets host =>
      if isFourOctets host.toList then "An IPv4 address cannot be in brackets"
      else quoted host ++ " does not appear to be an IPv4 or IPv6 address"
  | .badFutureHost => "IPvFuture address is invalid"
  | .disguised authority =>
      "netloc '" ++ authority ++ "' contains invalid characters under NFKC normalization"
  | .badPort port => "Port could not be cast to integer value as " ++ quoted port
  | .portOutOfRange => "Port out of range 0-65535"
  | .badOption name => "Invalid value for '" ++ name ++ "' in connection URL."
  | .negativeConnections => "\"max_connections\" must be a positive integer"

/-- The address of a server. -/
structure ServerAddress where
  host : Option String := none
  port : Option Nat := none
  /-- the number of the database -/
  database : Option Int := none
  user : Option String := none
  password : Option String := none
  /-- how long to wait for an answer, if the address says so -/
  timeout : Option Binary64 := none
  /-- how long to wait for a connection, if the address says so -/
  connectTimeout : Option Binary64 := none
  deriving DecidableEq, Repr, Inhabited

/-! ## Options -/

/-- An encoded text in which a plus sign stands for a space. -/
def decodeField (text : List Char) : List Char :=
  percentDecodeText (text.map fun c => if c = '+' then ' ' else c)

/-- The options of a query by their names, the first of each; one without a value counts for
nothing. -/
def optionsOf (query : List Char) : List (String × String) :=
  (query.splitOn '&').foldl (fun kept part =>
    match splitAtFirst '=' part with
    | (name, some (c :: value)) =>
        let name := String.ofList (decodeField name)
        if (kept.find? fun option => option.1 == name).isSome then kept
        else kept ++ [(name, String.ofList (percentDecodeText (decodeField (c :: value))))]
    | _ => kept) []

/-- The options that are integers. -/
def integerOptions : List String := ["db", "max_connections", "health_check_interval"]

/-- The options that are real numbers. -/
def realOptions : List String := ["socket_timeout", "socket_connect_timeout"]

/-- An option has a value of its kind. -/
def checkOption (option : String × String) : Except ServerAddressFault Unit :=
  let wrong := (integerOptions.contains option.1 && (integerOfText? option.2).isNone) ||
    (realOptions.contains option.1 && (realOfText? option.2).isNone)
  if wrong then .error (.badOption option.1) else .ok ()

/-- The value of an option. -/
def optionText? (options : List (String × String)) (name : String) : Option String :=
  (options.find? fun option => option.1 == name).map Prod.snd

/-! ## The parts of an address -/

/-- The schemes of servers. -/
def serverSchemes : List String := ["redis", "rediss", "unix"]

/-- The scheme of a text in small letters and what stands behind it and two slashes. -/
def splitServerScheme? (text : List Char) : Option (String × List Char) :=
  serverSchemes.findSome? fun scheme =>
    let start := scheme.toList ++ [':', '/', '/']
    if start.isPrefixOf (text.map Char.toLower) then some (scheme, text.drop start.length) else none

/-- The characters that are compatible with a text in which a delimiter of addresses stands. -/
def disguises : List Char :=
  ['\u2047', '\u2048', '\u2049', '\u2100', '\u2101', '\u2105', '\u2106', '\u2A74', '\uFE13',
    '\uFE16', '\uFE55', '\uFE56', '\uFE5F', '\uFE6B', '\uFF03', '\uFF0F', '\uFF1A', '\uFF1F',
    '\uFF20']

/-- A host of a kind that is not yet known: a version in hexadecimal digits, a point, and
anything. -/
def isFutureHost (text : List Char) : Bool :=
  let version := text.drop 1
  let digits := version.takeWhile fun c => (hexDigit? c).isSome
  match version.drop digits.length with
  | '.' :: rest => !digits.isEmpty && !rest.isEmpty && !rest.contains '\n'
  | _ => false

/-- What stands between the first bracket and the bracket that closes it is a host, and no
character is a delimiter in disguise. -/
def checkAuthority (authority : List Char) : Except ServerAddressFault Unit := do
  if authority.contains '[' != authority.contains ']' then throw .unclosedBracket
  match splitAtFirst '[' authority with
  | (_, some opened) =>
      let host := (splitAtFirst ']' opened).1
      if host.head? = some 'v' then
        if !isFutureHost host then throw .badFutureHost
      else if !isBracketed host then throw (.badBrackets (String.ofList host))
  | (_, none) => pure ()
  if authority.any disguises.contains then throw (.disguised (String.ofList authority))

/-- Splits a host from its port. -/
def splitServerHost (text : List Char) : List Char × List Char :=
  match splitAtFirst '[' text with
  | (_, some opened) =>
      let parts := splitAtFirst ']' opened
      (parts.1, ((splitAtFirst ':' (parts.2.getD [])).2).getD [])
  | (_, none) =>
      let parts := splitAtFirst ':' text
      (parts.1, parts.2.getD [])

/-- A port in figures. -/
def readPort (text : List Char) : Except ServerAddressFault (Option Nat) :=
  if text.isEmpty then .ok none
  else if !text.all isAsciiDigit || maxIntegerDigits < text.length then
    .error (.badPort (String.ofList text))
  else
    let port := valueOfDigits 10 (text.filterMap asciiDigit?)
    if 65535 < port then .error .portOutOfRange
    else .ok (if port = 0 then none else some port)

/-- A host in small letters up to the first encoded byte, and then decoded. -/
def serverHost (text : List Char) : List Char :=
  percentDecodeText
    ((text.takeWhile (· != '%')).map Char.toLower ++ text.dropWhile (· != '%'))

/-- A decoded part, unless it is left out. -/
def decodedPart? (text : List Char) : Option String :=
  if text.isEmpty then none else some (String.ofList (percentDecodeText text))

/-- The database that a path numbers. -/
def databaseOfPath? (path : List Char) : Option Int :=
  integerOfText? (String.ofList ((percentDecodeText path).filter (· != '/')))

/-- Reads the address of a server. -/
def ServerAddress.ofText (text : String) : Except ServerAddressFault ServerAddress := do
  let (scheme, rest) ←
    match splitServerScheme? text.toList with
    | some parts => pure parts
    | none => throw .scheme
  let rest := rest.filter fun c => c != '\t' && c != '\r' && c != '\n'
  let ends (c : Char) : Bool := c == '/' || c == '?' || c == '#'
  let authority := rest.takeWhile (!ends ·)
  checkAuthority authority
  let (withoutFragment, _) := splitAtFirst '#' (rest.dropWhile (!ends ·))
  let (path, query) := splitAtFirst '?' withoutFragment
  let (credentials, hostAndPort) := splitAtLast '@' authority
  let (host, port) := splitServerHost hostAndPort
  let options := optionsOf (query.getD [])
  options.forM checkOption
  let option? := optionText? options
  let (user, password) := splitAtFirst ':' (credentials.getD [])
  let local? := scheme == "unix"
  let port ← if local? then pure none else readPort port
  if ((option? "max_connections").bind integerOfText?).any (· < 0) then throw .negativeConnections
  return {
    host := if local? || host.isEmpty then option? "host" else some (String.ofList (serverHost host))
    port
    database :=
      match option? "db" with
      | some text => integerOfText? text
      | none => if local? then none else databaseOfPath? path
    user := (decodedPart? user).orElse fun _ => option? "username"
    password := (decodedPart? (password.getD [])).orElse fun _ => option? "password"
    timeout := (option? "socket_timeout").bind realOfText?
    connectTimeout := (option? "socket_connect_timeout").bind realOfText? }

end Typeahead.Store
