import Typeahead.Client
import Typeahead.Proofs.Index.Suggestions
import Typeahead.Proofs.Json.Reading
import Typeahead.Proofs.Json.Writing
import Typeahead.Proofs.Text.WellFormed
import Typeahead.Service.Life

/-!
# From the service to the client

A service writes the suggestions as the text of a list of strings and sends its
bytes.  A client finds out how the bytes spell a text, reads the text and takes
the strings out of the list.  Whatever characters the suggestions hold and
however the body is cut, the client gets the list that the store gave
(`suggestions_arrive`).
-/

namespace Typeahead

open Typeahead.Index Typeahead.Json Typeahead.Service Typeahead.Store Typeahead.Text Typeahead.Web

set_option autoImplicit false

/-! ## The bytes of a JSON text -/

namespace Json

theorem encode_ascii {c : Char} (ascii : c.toNat < 0x80) (text : List Char) :
    encode (c :: text) = UInt8.ofNat c.toNat :: encode text := by
  have one := utf8EncodeChar_one ascii
  rw [Char.ofNat_toNat] at one
  rw [encode_cons, one, List.singleton_append]

theorem ofNat_ne {code : Nat} (ascii : code < 0x80) {byte : UInt8} (other : code ≠ byte.toNat) :
    UInt8.ofNat code ≠ byte := by
  intro same
  have value := congrArg UInt8.toNat same
  rw [toNat_ofNat (by omega)] at value
  exact other value

/-- A text that begins with two characters of ASCII, as every JSON text of two characters does, is
known to be spelled in UTF-8: its bytes begin with no mark, and there is no zero in front. -/
theorem charactersOf?_encode {first second : Char}
    (firstAscii : 0 < first.toNat ∧ first.toNat < 0x80)
    (secondAscii : 0 < second.toNat ∧ second.toNat < 0x80) (text : List Char) :
    charactersOf? (encode (first :: second :: text)) = some (first :: second :: text) := by
  have bytes : encode (first :: second :: text) =
      UInt8.ofNat first.toNat :: UInt8.ofNat second.toNat :: encode text := by
    rw [encode_ascii firstAscii.2, encode_ascii secondAscii.2]
  have notZero : UInt8.ofNat first.toNat ≠ 0 := ofNat_ne firstAscii.2 (Nat.ne_of_gt firstAscii.1)
  have alsoNotZero : UInt8.ofNat second.toNat ≠ 0 :=
    ofNat_ne secondAscii.2 (Nat.ne_of_gt secondAscii.1)
  have noMark {byte : UInt8} (high : 0x80 ≤ byte.toNat) : UInt8.ofNat first.toNat ≠ byte :=
    ofNat_ne firstAscii.2 (Nat.ne_of_lt (Nat.lt_of_lt_of_le firstAscii.2 high))
  have unmarked : markedEncoding? (encode (first :: second :: text)) = none := by
    rw [bytes, markedEncoding?.eq_def]
    split
    next same => exact absurd (List.cons.inj same).1 notZero
    next same => exact absurd (List.cons.inj same).1 (noMark (by decide))
    next same => exact absurd (List.cons.inj same).1 (noMark (by decide))
    next same => exact absurd (List.cons.inj same).1 (noMark (by decide))
    next same => exact absurd (List.cons.inj same).1 (noMark (by decide))
    next => rfl
  have likely : likelyEncoding (encode (first :: second :: text)) = .utf8 := by
    rw [bytes, likelyEncoding.eq_def]
    split
    next same =>
      obtain ⟨rfl, behind⟩ := List.cons.inj same
      obtain ⟨rfl, -⟩ := List.cons.inj behind
      rw [if_neg notZero, if_neg alsoNotZero]
    next same =>
      obtain ⟨rfl, behind⟩ := List.cons.inj same
      obtain ⟨rfl, -⟩ := List.cons.inj behind
      rw [if_neg notZero, if_neg alsoNotZero]
    next => rfl
  rw [charactersOf?, unmarked, likely]
  exact decode?_encode _

end Json

/-! ## What the client reads -/

namespace Client

/-- **The client reads the strings of a list out of the bytes of its text.** -/
theorem suggestionsOf_compact (asked : String) (names : List String) :
    suggestionsOf asked (encode (Value.array (names.map .string)).compact.toList) = .ok names := by
  have written : (Value.array (names.map .string)).compact.toList =
      writeValue (.array (names.map .string)) := by
    rw [Value.compact, String.toList_ofList]
  have shape : ∃ second text, writeValue (.array (names.map .string)) = '[' :: second :: text ∧
      0 < second.toNat ∧ second.toNat < 0x80 := by
    cases names with
    | nil => exact ⟨']', [], rfl, by decide, by decide⟩
    | cons name names =>
        cases names with
        | nil => exact ⟨'"', _, rfl, by decide, by decide⟩
        | cons other names => exact ⟨'"', _, rfl, by decide, by decide⟩
  obtain ⟨second, text, begins, ascii⟩ := shape
  have spelled : JsonText (answerLimits (writeValue (.array (names.map .string))))
      (writeValue (.array (names.map .string))) (.array (names.map .string)) := by
    apply jsonText_strings
    rw [begins]
    exact Nat.succ_le_succ (Nat.zero_le _)
  have found : charactersOf? (encode (writeValue (.array (names.map .string)))) =
      some (writeValue (.array (names.map .string))) := by
    rw [begins]
    exact charactersOf?_encode (by decide) ascii text
  have shown : (names.map Value.string).map displayText = names := by
    rw [List.map_map]
    exact List.map_id names
  simp only [suggestionsOf, written, found, read_eq_ok_iff.mpr spelled, shown]

/-- A client takes the suggestions from a reply that reports success and does not break off. -/
theorem outcome_search {client : Client} {network : Network} {asked : String} {address : Address}
    {reply : Reply} {names : List String}
    (requested : requestAddress (client.addressText asked) = .ok address)
    (answered : network.answer address.text = .reply reply) (status : reply.status = 200)
    (whole : reply.failure = none)
    (suggested : suggestionsOf asked reply.chunks.flatten = .ok names) :
    (client.search network asked).outcome = .ok names := by
  have stays : reply.location? = none := by
    rw [Reply.location?, status]
    rfl
  have success : isSuccess reply.status = true := by
    rw [status]
    rfl
  have checked : checkStatus address reply = .ok reply := if_pos success
  simp only [search, requested, Network.ask, answered, stays, Option.map_none, suggestionsOfReply,
    whole, checked, suggested]

end Client

/-! ## The whole way -/

/-- A reply transmits a response: its status, and the bytes of its body in chunks of any sizes. -/
structure Transmits (reply : Reply) (response : Response) : Prop where
  status : reply.status = response.status
  body : reply.chunks.flatten = encode response.body.toList
  whole : reply.failure = none

/-- **The suggestions arrive as the store gave them.**  For every content of the store, every limit
and every typed text the store gives a list of names; the body of the response spells the list of
these names in JSON, and every client to which a reply transmits this response gets exactly
these names. -/
theorem suggestions_arrive (service : Service MemoryStore MemoryBatch) (typed : String) :
    ∃ names,
      service.lookup.suggestions service.supervisor.desk.store typed = .ok names ∧
      (service.take (.suggestions typed)).1.status = 200 ∧
      (∀ limits : Limits, 1 ≤ limits.depth →
        JsonText limits (service.take (.suggestions typed)).1.body.toList
          (.array (names.map .string))) ∧
      ∀ (client : Client) (network : Network) (asked : String) (address : Address) (reply : Reply),
        requestAddress (client.addressText asked) = .ok address →
        network.answer address.text = .reply reply →
        Transmits reply (service.take (.suggestions typed)).1 →
        (client.search network asked).outcome = .ok names := by
  let names := service.supervisor.desk.store.range typed 0 (service.lookup.limit - 1)
  refine ⟨names, rfl, rfl, ?_, ?_⟩
  · intro limits deep
    change JsonText limits (Value.array (names.map .string)).compact.toList _
    rw [Value.compact, String.toList_ofList]
    exact jsonText_strings deep names
  · intro client network asked address reply requested answered transmits
    apply Client.outcome_search requested answered transmits.status transmits.whole
    rw [transmits.body]
    exact Client.suggestionsOf_compact asked names

/-- A name with characters of every kind: some that are escaped, and some that only look as if they
had to be. -/
def motleyName : String := "red\"\\/\n\x01\x7f\u2028é😀"

/-- A service whose store holds this name. -/
def motleyService : Service MemoryStore MemoryBatch :=
  .create { storeBackend := .memory } { homes := ⟨"/", []⟩ }
    (MemoryStore.empty.insert ⟨"red", motleyName, .zero⟩) false 0

/-- The address that a client of this service asks. -/
def askedAddress : Address :=
  { scheme := "http".toList, userinfo := [], host := "localhost".toList, port := some 8080,
    path := "/v1/red".toList, query := none, fragment := none }

/-- A reply that transmits a response in two chunks. -/
def replyOf (response : Response) : Reply :=
  { status := response.status
    chunks := [(encode response.body.toList).take 7, (encode response.body.toList).drop 7] }

theorem transmits_replyOf (response : Response) : Transmits (replyOf response) response where
  status := rfl
  body := by
    simp only [replyOf, List.flatten_cons, List.flatten_nil, List.append_nil, List.take_append_drop]
  whole := rfl

/-- The name arrives, although the cut between the chunks goes through it. -/
theorem suggestions_arrive_motleyName :
    let response := (motleyService.take (.suggestions "red")).1
    let network : Network := { otherwise := .reply (replyOf response) }
    requestAddress (({} : Client).addressText "red") = .ok askedAddress ∧
      network.answer askedAddress.text = .reply (replyOf response) ∧
      Transmits (replyOf response) response ∧
      (({} : Client).search network "red").outcome = .ok [motleyName] := by
  intro response network
  obtain ⟨names, suggested, -, -, arrives⟩ := suggestions_arrive motleyService "red"
  have ranks : names = [motleyName] := by
    rw [← Except.ok.inj suggested]
    decide +kernel
  have requested : requestAddress (({} : Client).addressText "red") = .ok askedAddress := by
    decide +kernel
  have transmits := transmits_replyOf response
  rw [← ranks]
  exact ⟨requested, rfl, transmits,
    arrives {} network "red" askedAddress (replyOf response) requested rfl transmits⟩

end Typeahead
