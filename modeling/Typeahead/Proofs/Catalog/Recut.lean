import Typeahead.Proofs.Catalog.Interrupted

/-!
# Bodies that are cut anew

The chunks in which a body comes in are not seen in its lines: a whole body has
the lines of the text that its bytes spell in its character set, with U+FFFD for
what they do not spell (`lines_of_whole`).  Two networks that answer every
request with the same bytes, cut in two ways, lead to the same requests and the
same lines (`webFeed_of_recut`), so a pass over the one cannot be told from a pass
over the other (`pass_of_recut`).
-/

set_option autoImplicit false

namespace Typeahead.Catalog

open Typeahead.Text Typeahead.Web

/-! ## Lines -/

/-- The text that bytes spell in a character set, bad bytes replaced. -/
def spelled (charset : Charset) (bytes : List UInt8) : List Char :=
  let fed := charset.feed none bytes
  (fed.1 ++ closePieces fed.2).map Piece.replaced

/-- **A whole body has the lines of the text that its bytes spell.** -/
theorem lines_of_whole {reply : Reply} (whole : reply.failure = none) :
    reply.lines = linesBy endsBodyLine (spelled reply.charset reply.chunks.flatten) := by
  simp only [Reply.lines, whole, chunks_eq_chunk_flatten, BodyReader.chunk, BodyReader.finish,
    linesBy, spelled, List.map_append, Cutter.feed_append, List.append_assoc]

end Typeahead.Catalog

namespace Typeahead.Web

open Typeahead.Catalog Typeahead.Text

/-! ## The same bytes -/

/-- Two replies bring the same bytes, in chunks of their own, and then end alike. -/
structure Reply.Recut (reply other : Reply) : Prop where
  status_eq : reply.status = other.status
  headers_eq : reply.headers = other.headers
  body_eq : reply.chunks.flatten = other.chunks.flatten
  failure_eq : reply.failure = other.failure

namespace Reply.Recut

variable {reply other : Reply}

theorem location?_eq (recut : reply.Recut other) : reply.location? = other.location? := by
  rw [Reply.location?, Reply.location?, Reply.header?, Reply.header?, recut.status_eq,
    recut.headers_eq]

theorem charset_eq (recut : reply.Recut other) : reply.charset = other.charset := by
  rw [Reply.charset, Reply.charset, Reply.header?, Reply.header?, recut.headers_eq]

/-- **Two replies with the same bytes have the same lines.** -/
theorem lines_eq (recut : reply.Recut other) : reply.lines = other.lines := by
  cases failure : reply.failure with
  | none =>
      have whole : other.failure = none := recut.failure_eq.symm.trans failure
      simp only [lines_of_whole failure, lines_of_whole whole, recut.charset_eq, recut.body_eq]
  | some fault =>
      have broken : other.failure = some fault := recut.failure_eq.symm.trans failure
      simp only [lines_of_broken failure, lines_of_broken broken, received, recut.charset_eq,
        recut.body_eq]

end Reply.Recut

/-- Two answers that can differ in how a body is cut. -/
inductive Answer.Recut : Answer → Answer → Prop where
  | reply {reply other : Reply} (recut : reply.Recut other) : Recut (.reply reply) (.reply other)
  | failure (fault : TransportFault) : Recut (.failure fault) (.failure fault)

/-- Two networks whose answers can differ in how their bodies are cut. -/
def Network.Recut (network other : Network) : Prop :=
  ∀ address, (network.answer address).Recut (other.answer address)

/-- Two exchanges with the same requests, and last replies that can differ in how they are cut. -/
inductive Exchange.Recut : Exchange → Exchange → Prop where
  | error (requests : List String) (fault : WebFault) :
      Recut ⟨requests, .error fault⟩ ⟨requests, .error fault⟩
  | ok (requests : List String) (address : Address) {reply other : Reply}
      (recut : reply.Recut other) :
      Recut ⟨requests, .ok (address, reply)⟩ ⟨requests, .ok (address, other)⟩

/-- One more request in front of two exchanges. -/
theorem Exchange.Recut.cons {exchange other : Exchange} (recut : exchange.Recut other)
    (request : String) :
    Exchange.Recut ⟨request :: exchange.requests, exchange.outcome⟩
      ⟨request :: other.requests, other.outcome⟩ := by
  cases recut with
  | error requests fault => exact .error (request :: requests) fault
  | ok requests address recut => exact .ok (request :: requests) address recut

/-- **Redirects are followed alike.** -/
theorem Network.Recut.follow {network other : Network} (recut : network.Recut other)
    (redirects : Nat) (address : Address) :
    (network.follow redirects address).Recut (other.follow redirects address) := by
  induction redirects using Nat.strongRecOn generalizing address with
  | ind redirects inductionHypothesis =>
      have answers := recut address.text
      unfold Network.follow
      generalize network.answer address.text = answer at answers
      generalize other.answer address.text = otherAnswer at answers
      cases answers with
      | failure fault => exact .error [address.text] (.transport fault)
      | reply recut =>
          simp only [recut.location?_eq, recut.failure_eq]
          split
          next => exact .ok [address.text] address recut
          next location _ =>
            split
            next fault _ => exact .error [address.text] fault
            next target _ =>
              split
              next fault _ => exact .error [address.text] (.transport fault)
              next =>
                cases redirects with
                | zero => exact .error [address.text] .tooManyRedirects
                | succ redirects =>
                    exact (inductionHypothesis redirects (Nat.lt_succ_self _) target).cons _

end Typeahead.Web

namespace Typeahead.Catalog

open Typeahead.Text Typeahead.Web

/-! ## Passes -/

/-- **A feed does not tell how the bodies of a network are cut.** -/
theorem webFeed_of_recut {network other : Network} (recut : network.Recut other)
    (address : String) : webFeed network address = webFeed other address := by
  cases requested : requestAddress address with
  | error fault => simp only [webFeed, requested]
  | ok target =>
      have exchanges := recut.follow maxRedirects target
      simp only [webFeed, requested]
      generalize network.follow maxRedirects target = exchange at exchanges
      generalize other.follow maxRedirects target = otherExchange at exchanges
      cases exchanges with
      | error requests fault => rfl
      | @ok requests final reply again recut =>
          cases success : isSuccess again.status with
          | false =>
              simp only [checkStatus, recut.status_eq, success, Bool.false_eq_true, if_false,
                recut.location?_eq]
          | true =>
              simp only [checkStatus, recut.status_eq, success, if_true, recut.lines_eq,
                recut.failure_eq]

/-- **A pass over the web does not tell how the bodies were cut.**  Where two networks answer every
request alike, but for the chunks in which the bytes of a body come, a pass over the one makes the
same requests as a pass over the other, yields the same names, counts as many malformed lines,
reports the same and ends alike.  Where a whole body comes in the end, both yield what the lines of
the text come to that its bytes spell in its character set. -/
theorem pass_of_recut {network other : Network} (recut : network.Recut other) (address : String) :
    let pass := (webFeed network address).pass none
    let again := (webFeed other address).pass none
    ((webFeed other address).requests = (webFeed network address).requests ∧
      again.names = pass.names ∧ again.malformed = pass.malformed ∧
      again.notices = pass.notices ∧ again.failure = pass.failure) ∧
      ∀ reply, Brings network address reply → reply.failure = none →
        let rows := (linesBy endsBodyLine (spelled reply.charset reply.chunks.flatten)).drop 1
        pass.names = rows.filterMap nameOn ∧ pass.malformed = rows.countP isMalformed ∧
          pass.notices =
            (webFeed network address).opening.toList ++ rows.filterMap noticeOn ∧
          pass.failure = none := by
  rw [webFeed_of_recut recut address]
  refine ⟨⟨rfl, rfl, rfl, rfl, rfl⟩, ?_⟩
  intro reply brings whole rows
  obtain ⟨signals, failure⟩ := brings.webFeed
  rw [webFeed_of_recut recut address, lines_of_whole whole] at signals
  rw [webFeed_of_recut recut address, whole] at failure
  rw [pass_eq_of_lines signals, failure]
  exact ⟨rfl, rfl, rfl, rfl⟩

/-- A catalog with accents, in lines that end with two characters each, and with one at the end. -/
def accentedCatalog : List Char :=
  "[\r\n\x7b\"id\":\"caféine\"\x7d,\r\nné\r\n]\x7d\r".toList

/-- A network with one page, whose body comes in these chunks. -/
def networkInChunks (chunks : List (List UInt8)) : Network :=
  { otherwise := .reply
      { headers := [("content-type", "text/plain; charset=utf-8")], chunks } }

/-- The body comes in one piece, or byte by byte with nothing in between. -/
theorem pass_of_recut_accentedCatalog :
    let whole := networkInChunks [encode accentedCatalog]
    let sliced := networkInChunks ((encode accentedCatalog).flatMap fun byte => [[byte], []])
    whole.Recut sliced ∧
      ((webFeed sliced "http://h/").pass none).names = ["caféine"] ∧
      ((webFeed sliced "http://h/").pass none).malformed = 1 := by
  intro whole sliced
  have recut : whole.Recut sliced := fun _ => .reply ⟨rfl, rfl, by decide +kernel, rfl⟩
  obtain ⟨⟨_, sameNames, sameMalformed, _, _⟩, yields⟩ := pass_of_recut recut "http://h/"
  have brings : Brings whole "http://h/" _ :=
    ⟨⟨pageAddress, pageAddress, requestAddress_page, rfl⟩, rfl⟩
  obtain ⟨names, malformed, _, _⟩ := yields _ brings rfl
  refine ⟨recut, ?_, ?_⟩
  · rw [sameNames, names]
    decide +kernel
  · rw [sameMalformed, malformed]
    decide +kernel

end Typeahead.Catalog
