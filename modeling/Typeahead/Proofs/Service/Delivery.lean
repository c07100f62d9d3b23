import Mathlib.Data.List.Basic
import Typeahead.Client
import Typeahead.Proofs.Web.Addresses
import Typeahead.Service.Life

/-!
# From the client to the service

A client asks a service for a typed text by a request to an address, and the
service finds the text again in the decoded path of the request.  On this way the
path is encoded, resolved, decoded and matched.  A typed text arrives as it is just
when its address is not too long, when no line feed stands in it and when none of
its segments is `.` or `..` (`AsksAt.delivers`).
-/

namespace Typeahead

open Typeahead.Service Typeahead.Store Typeahead.Text Typeahead.Web

set_option autoImplicit false

/-! ## What a request asks for -/

namespace Service

/-- The request that a service gets when an address is asked for. -/
def Request.ofAddress (address : Address) : Request :=
  let path := if address.path.isEmpty then ['/'] else address.path
  { method := "GET", target := String.ofList (path ++ Address.marked '?' address.query),
    host := String.ofList { address with userinfo := [] }.authority }

/-- The typed texts that a request makes a service look up. -/
def Request.lookups (request : Request) : List String :=
  match request.decide with
  | .take (.suggestions typed) => [typed]
  | _ => []

/-- The typed text in a decoded path. -/
def typedOf? (path : List Char) : Option String :=
  match routeOf? path with
  | some (.suggestions typed) => some typed
  | _ => none

theorem Request.lookups_of_get {request : Request} (get : request.method = "GET") :
    request.lookups = (typedOf? request.path).toList := by
  rw [Request.lookups, Request.decide, typedOf?]
  cases routeOf? request.path with
  | none =>
      by_cases root : request.path = ['/']
      · simp only [if_pos root, Option.toList_none]
      · by_cases other : (routeOf? (otherPath request.path)).isSome
        · simp only [if_neg root, if_pos other, Option.toList_none]
        · simp only [if_neg root, if_neg other, Option.toList_none]
  | some route =>
      simp only [get, if_true]
      cases route <;> rfl

/-- The service answers with the suggestions for the text that it looks up. -/
theorem respond_of_lookups {σ β : Type} [RankedStore σ β] {request : Request} {typed : String}
    (looked : request.lookups = [typed]) (service : Service σ β) :
    service.respond request = service.take (.suggestions typed) := by
  rw [Request.lookups] at looked
  split at looked
  next taken =>
    obtain rfl := List.singleton_inj.mp looked
    rw [Service.respond, taken]
  next => exact nomatch looked

theorem dropLastFeed_eq_iff {path text : List Char} (noFeed : '\n' ∉ text) :
    dropLastFeed path = text ↔ path = text ∨ path = text ++ ['\n'] := by
  constructor
  · rintro rfl
    rw [dropLastFeed]
    split
    next feed => exact .inr (List.dropLast_append_getLast? '\n' feed).symm
    next => exact .inl rfl
  · rintro (rfl | rfl)
    · exact if_neg fun feed => noFeed (List.mem_of_getLast? feed)
    · rw [dropLastFeed, List.getLast?_concat, if_pos rfl, List.dropLast_concat]

/-- A path asks for a typed text just when the text stands behind the path of the suggestions, with
no line feed but one at the end of the path. -/
theorem typedOf?_eq_some_iff {path : List Char} {typed : String} :
    typedOf? path = some typed ↔
      '\n' ∉ typed.toList ∧
        (path = suggestionsPath ++ typed.toList ∨
          path = suggestionsPath ++ typed.toList ++ ['\n']) := by
  have plain {text : List Char} (noFeed : '\n' ∉ text) : '\n' ∉ suggestionsPath ++ text :=
    fun member => (List.mem_append.mp member).elim (by decide) noFeed
  constructor
  · intro found
    have routed : routeOf? path = some (.suggestions typed) := by
      rw [typedOf?] at found
      split at found
      next same =>
        obtain rfl := Option.some.inj found
        exact same
      next => exact nomatch found
    rw [routeOf?] at routed
    split at routed
    next => exact nomatch routed
    next =>
      split at routed
      next begins =>
        dsimp only at routed
        split at routed
        next => exact nomatch routed
        next noFeed =>
          obtain rfl := Route.suggestions.inj (Option.some.inj routed)
          obtain ⟨rest, parts⟩ := List.isPrefixOf_iff_prefix.mp begins
          rw [← parts, List.drop_left] at noFeed ⊢
          rw [List.contains_iff_mem] at noFeed
          rw [String.toList_ofList]
          exact ⟨noFeed, (dropLastFeed_eq_iff (plain noFeed)).mp parts.symm⟩
      next => exact nomatch routed
  · rintro ⟨noFeed, ends⟩
    have dropped := (dropLastFeed_eq_iff (plain noFeed)).mpr ends
    have noHealth : suggestionsPath ++ typed.toList ≠ healthPath :=
      fun same => absurd (List.cons.inj (List.cons.inj same).2).1 (by decide)
    have begins : suggestionsPath.isPrefixOf (suggestionsPath ++ typed.toList) = true :=
      List.isPrefixOf_iff_prefix.mpr (List.prefix_append _ _)
    have clean : typed.toList.contains '\n' = false := by
      rw [← Bool.not_eq_true, List.contains_iff_mem]
      exact noFeed
    simp only [typedOf?, routeOf?, dropped, if_neg noHealth, begins, if_true, List.drop_left, clean,
      Bool.false_eq_true, if_false, String.ofList_toList]

/-- The typed text in a resolved path is the one that was put there, unless a line feed stands in it
or a segment of it was resolved. -/
theorem typedOf?_resolvePath_iff {typed : String} :
    typedOf? (resolvePath (suggestionsPath ++ typed.toList)) = some typed ↔
      '\n' ∉ typed.toList ∧ NoDots typed.toList := by
  have segments : NoDots (suggestionsPath ++ typed.toList) ↔ NoDots typed.toList := by
    have behind : (['v', '1'] ++ '/' :: typed.toList).splitOn '/' =
        ['v', '1'] :: typed.toList.splitOn '/' :=
      List.splitOn_append_cons_self_of_not_mem (by decide) _
    have parts : (suggestionsPath ++ typed.toList).splitOn '/' =
        [] :: ['v', '1'] :: typed.toList.splitOn '/' :=
      (List.splitOn_append_cons_self_of_not_mem List.not_mem_nil _).trans (congrArg _ behind)
    rw [NoDots, parts, List.forall_mem_cons, List.forall_mem_cons]
    exact ⟨fun all => all.2.2, fun rest => ⟨by decide, by decide, rest⟩⟩
  rw [typedOf?_eq_some_iff]
  refine and_congr_right fun noFeed => ⟨?_, fun noDots => ?_⟩
  · rintro (same | feed)
    · rw [← segments, ← same]
      exact noDots_resolvePath _
    · have member : '\n' ∈ resolvePath (suggestionsPath ++ typed.toList) :=
        feed ▸ List.mem_append_right _ List.mem_cons_self
      rcases mem_resolvePath member with slash | inside
      · exact absurd slash (by decide)
      · exact absurd inside fun isIn => (List.mem_append.mp isIn).elim (by decide) noFeed
  · exact .inl (resolvePath_of_noDots (segments.mpr noDots))

end Service

/-! ## What a client asks for -/

namespace Client

theorem isPathSafe_of_isTypedSafe {c : Char} (isSafe : isTypedSafe c = true) :
    isPathSafe c = true := by
  have low : c.toNat < 128 := by
    rw [isTypedSafe, Bool.or_eq_true, Bool.or_eq_true, beq_iff_eq, beq_iff_eq] at isSafe
    rcases isSafe with (unreserved | rfl) | rfl
    · exact toNat_lt_of_isUnreserved unreserved
    · decide
    · decide
  have all : ∀ code : Fin 128,
      isTypedSafe (Char.ofNat code) = true → isPathSafe (Char.ofNat code) = true := by
    decide +kernel
  exact forall_ascii (fun c => isTypedSafe c = true → isPathSafe c = true) all low isSafe

/-- The characters behind the base of an address may all stand in a path. -/
theorem isPathSafe_percentEncode (typed : List Char) :
    ∀ c ∈ percentEncode isTypedSafe typed, isPathSafe c = true := by
  have digits : ∀ value : Fin 16, isPathSafe (hexDigit true value) = true := by decide +kernel
  apply forall_percentEncode
  · exact fun _ => isPathSafe_of_isTypedSafe
  · decide
  · exact fun value bound => digits ⟨value, bound⟩

theorem not_mem_percentEncode {mark : Char} (unsafeMark : isPathSafe mark = false)
    (typed : List Char) : mark ∉ percentEncode isTypedSafe typed :=
  fun member => ne_of_safe (isPathSafe_percentEncode typed mark member) unsafeMark rfl

theorem printed_percentEncode (typed : List Char) : Printed (percentEncode isTypedSafe typed) := by
  intro c member _
  have isSafe := isPathSafe_percentEncode typed c member
  simp only [isPathSafe, isQuerySafe, Bool.and_eq_true] at isSafe
  exact isSafe.1.1

theorem percentEncode_suggestionsPath (typed : List Char) :
    percentEncode isTypedSafe (suggestionsPath ++ typed) =
      suggestionsPath ++ percentEncode isTypedSafe typed :=
  percentEncode_append isTypedSafe suggestionsPath typed

/-- What the service is made to look up when a client asks for a typed text. -/
def lookups (client : Client) (typed : String) : List String :=
  match requestAddress (client.addressText typed) with
  | .error _ => []
  | .ok address => (Request.ofAddress address).lookups

/-- The address in front of every typed text is the one of a service: it has a scheme, names a
host, and ends with the path of the suggestions. -/
structure AsksAt (client : Client) (root : Address) : Prop where
  spelled : ∃ scheme authority, IsScheme scheme ∧ IsAuthority authority ∧
    client.base.toList = scheme ++ ':' :: '/' :: '/' :: (authority ++ suggestionsPath)
  isRead : Address.ofText client.base = .ok root
  absolute : root.isAbsolute = true

variable {client : Client} {root : Address}

/-- The address for a typed text differs from the one of the service in its path only. -/
theorem AsksAt.exists_requestAddress (asks : client.AsksAt root) {typed : String}
    (short : (client.addressText typed).toList.length ≤ maxAddressLength) :
    ∃ address, requestAddress (client.addressText typed) = .ok address ∧
      address.path = percentEncode isTypedSafe (resolvePath (suggestionsPath ++ typed.toList)) ∧
      address.query = none ∧ { address with path := root.path } = root := by
  obtain ⟨⟨scheme, authority, isScheme, isAuthority, spelled⟩, isRead, absolute⟩ := asks
  obtain ⟨baseShort, basePrinted⟩ := printed_of_ofText isRead
  have base := ofText_eq spelled isScheme isAuthority rfl (by decide) (by decide) baseShort
    basePrinted
  have text : (client.addressText typed).toList = scheme ++ ':' :: '/' :: '/' ::
      (authority ++ percentEncode isTypedSafe (suggestionsPath ++ typed.toList)) := by
    rw [addressText, String.toList_append, String.toList_ofList, spelled,
      percentEncode_suggestionsPath]
    simp only [List.append_assoc, List.cons_append]
  have printed : Printed (client.addressText typed).toList := by
    rw [addressText, String.toList_append, String.toList_ofList]
    exact printed_append.mpr ⟨basePrinted, printed_percentEncode _⟩
  have whole := ofText_eq text isScheme isAuthority rfl (not_mem_percentEncode rfl _)
    (not_mem_percentEncode rfl _) short printed
  rw [resolvePath_percentEncode rfl rfl rfl,
    percentComplete_percentEncode rfl fun _ => isPathSafe_of_isTypedSafe] at whole
  rw [isRead] at base
  cases front : originOf scheme authority with
  | error fault =>
      rw [front] at base
      exact nomatch base
  | ok origin =>
      rw [front] at base whole
      obtain rfl := Except.ok.inj base
      refine ⟨{ origin with
        path := percentEncode isTypedSafe (resolvePath (suggestionsPath ++ typed.toList)),
        query := none, fragment := none }, ?_, rfl, rfl, rfl⟩
      exact requestAddress_of_isAbsolute whole absolute

/-- A request for an encoded path makes the service look up the typed text in the path. -/
theorem lookups_ofAddress {address : Address} (noQuery : address.query = none) {path : List Char}
    (encoded : address.path = percentEncode isTypedSafe path) :
    (Request.ofAddress address).lookups = (typedOf? path).toList := by
  have noMark : '?' ∉ address.path := encoded ▸ not_mem_percentEncode rfl path
  have whole : address.path.takeWhile (· != '?') = address.path :=
    List.takeWhile_eq_self_iff.mpr fun c member => bne_iff_ne.mpr fun same => noMark (same ▸ member)
  have found : typedOf? (Request.ofAddress address).path = typedOf? path := by
    simp only [Request.path, Request.ofAddress, noQuery, Address.marked, List.append_nil,
      String.toList_ofList]
    cases empty : address.path.isEmpty with
    | true =>
        have none : path = [] := by
          apply percentEncode_injective (rfl : isTypedSafe '%' = false)
          exact encoded.symm.trans (List.isEmpty_iff.mp empty)
        rw [none, if_pos rfl]
        decide +kernel
    | false =>
        rw [if_neg (by decide), whole, encoded, percentDecodeText_percentEncode rfl]
  rw [Request.lookups_of_get rfl, found]

/-- What the service looks up is what it finds in the resolved path. -/
theorem AsksAt.lookups_eq (asks : client.AsksAt root) {typed : String}
    (short : (client.addressText typed).toList.length ≤ maxAddressLength) :
    client.lookups typed =
      (typedOf? (resolvePath (suggestionsPath ++ typed.toList))).toList := by
  obtain ⟨address, requested, encoded, noQuery, -⟩ := asks.exists_requestAddress short
  rw [lookups, requested]
  exact lookups_ofAddress noQuery encoded

theorem lookups_of_long {typed : String}
    (long : maxAddressLength < (client.addressText typed).toList.length) :
    client.lookups typed = [] := by
  rw [lookups, requestAddress, ofText_of_long long]
  rfl

theorem requests_ask (network : Network) (address : Address) :
    (network.ask address).requests = [address.text] := by
  rw [Network.ask]
  cases network.answer address.text with
  | failure fault => rfl
  | reply reply =>
      dsimp only
      cases reply.location?.map (redirectTarget address) with
      | none => rfl
      | some target => cases target <;> rfl

theorem requests_search {typed : String} {address : Address}
    (requested : requestAddress (client.addressText typed) = .ok address) (network : Network) :
    (client.search network typed).requests = [address.text] := by
  rw [search, requested]
  exact requests_ask network address

/-- **When a typed text reaches the service as it is.**  It does just when its address is not too
long, no line feed stands in it and no segment of it is `.` or `..`.  Then the client makes one
request, and every service answers it with the suggestions for this text.  Otherwise the service
looks up what is found in the resolved path, which may be another text or nothing at all; and for an
address that is too long no request is made. -/
theorem AsksAt.delivers (asks : client.AsksAt root) (typed : String) :
    (client.lookups typed = [typed] ↔
      (client.addressText typed).toList.length ≤ maxAddressLength ∧
        '\n' ∉ typed.toList ∧ NoDots typed.toList) ∧
    (client.lookups typed = [typed] → ∃ address,
      requestAddress (client.addressText typed) = .ok address ∧
        (∀ network, (client.search network typed).requests = [address.text]) ∧
        ∀ {σ β : Type} [RankedStore σ β] (service : Service σ β),
          service.respond (Request.ofAddress address) = service.take (.suggestions typed)) ∧
    ((client.addressText typed).toList.length ≤ maxAddressLength →
      client.lookups typed =
        (typedOf? (resolvePath (suggestionsPath ++ typed.toList))).toList) ∧
    (maxAddressLength < (client.addressText typed).toList.length →
      client.lookups typed = [] ∧ ∀ network, (client.search network typed).requests = []) := by
  refine ⟨?_, ?_, asks.lookups_eq, fun long => ⟨lookups_of_long long, fun network => ?_⟩⟩
  · by_cases short : (client.addressText typed).toList.length ≤ maxAddressLength
    · rw [asks.lookups_eq short, ← typedOf?_resolvePath_iff, and_iff_right short]
      cases typedOf? (resolvePath (suggestionsPath ++ typed.toList)) with
      | none => simp
      | some found => simp
    · rw [lookups_of_long (Nat.lt_of_not_le short)]
      exact ⟨nofun, fun fits => absurd fits.1 short⟩
  · intro looked
    rw [lookups] at looked
    cases requested : requestAddress (client.addressText typed) with
    | error fault =>
        rw [requested] at looked
        exact nomatch looked
    | ok address =>
        rw [requested] at looked
        exact ⟨address, rfl, requests_search requested, respond_of_lookups looked⟩
  · rw [search, requestAddress, ofText_of_long long]
    rfl

/-- The address of the service that a client asks when it is told of no other. -/
def usualAddress : Address :=
  { scheme := "http".toList, userinfo := [], host := "localhost".toList, port := some 8080,
    path := suggestionsPath, query := none, fragment := none }

theorem asksAt_usualAddress : ({} : Client).AsksAt usualAddress where
  spelled :=
    ⟨"http".toList, "localhost:8080".toList, by decide +kernel, by decide +kernel, by decide +kernel⟩
  isRead := by decide +kernel
  absolute := by decide +kernel

/-- A scoped name arrives, with its slash and its at sign. -/
theorem delivers_scopedName :
    ({} : Client).AsksAt usualAddress ∧
      ({} : Client).lookups "@babel/co?#%2F😀" = ["@babel/co?#%2F😀"] := by
  refine ⟨asksAt_usualAddress, (AsksAt.delivers asksAt_usualAddress _).1.mpr ?_⟩
  decide +kernel

/-- **Typed texts that do not arrive**: one loses the line feed at its end, one its segments before
the two points, and one asks for the health of the service. -/
theorem lookups_of_alteredTexts :
    ({} : Client).lookups "red\n" = ["red"] ∧ ({} : Client).lookups "a/../redis" = ["redis"] ∧
      ({} : Client).lookups "../health" = [] := by
  decide +kernel

end Client

end Typeahead
