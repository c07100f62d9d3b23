import Typeahead.Proofs.Catalog.Yield
import Typeahead.Proofs.Text.Decoding

/-!
# One catalog in a file and on the web

However the bytes of a text are cut into chunks, a file brings the lines of the
text as files are cut (`signals_fileFeed`), and a reply those as bodies are cut
(`signals_webFeed`).  So the two passes yield the same where a body is cut in the
margins of the lines of the file, and need not where it is cut in a row
(`passes_of_sameText`, `passes_of_severedCatalog`).
-/

namespace Typeahead.Catalog

open Typeahead.Files Typeahead.Text Typeahead.Web

set_option autoImplicit false

/-! ## Files -/

theorem flatten_chunksOf (size : Nat) (bytes : List UInt8) :
    (chunksOf size bytes).flatten = bytes := by
  induction bytes using chunksOf.induct size with
  | case1 bytes short empty =>
      rw [chunksOf, dif_pos short, if_pos empty, List.isEmpty_iff.mp empty]
      rfl
  | case2 bytes short some =>
      rw [chunksOf, dif_pos short, if_neg some, List.flatten_singleton]
  | case3 bytes long inductionHypothesis =>
      rw [chunksOf, dif_neg long, List.flatten_cons, inductionHypothesis, List.take_append_drop]

/-- **The chunks of a file are read as the whole of it.** -/
theorem fileLines_eq {chunks : List (List UInt8)} {begun : Option Begun} {text : List Char}
    (read : Charset.utf8.feed begun chunks.flatten = (text.map .char, none)) (cutter : Cutter) :
    fileLines begun cutter chunks =
      ((Cutter.feed endsFileLine cutter text).1 ++ (Cutter.feed endsFileLine cutter text).2.finish,
        true) := by
  induction chunks generalizing begun text cutter with
  | nil =>
      obtain ⟨nothing, rfl⟩ := Prod.mk.inj read
      obtain rfl := List.map_eq_nil_iff.mp nothing.symm
      rfl
  | cons bytes chunks inductionHypothesis =>
      rw [List.flatten_cons, Charset.feed_append] at read
      obtain ⟨pieces, closed⟩ := Prod.mk.inj read
      obtain ⟨first, rest, rfl, front, back⟩ := List.map_eq_append_iff.mp pieces.symm
      have remaining := inductionHypothesis (Prod.ext back.symm closed)
      simp only [fileLines, ← front, mapM_char?, remaining, Cutter.feed_append, List.append_assoc]

/-- **A file that spells a text brings its lines.** -/
theorem signals_fileFeed {tree : Tree} {path : Path} {text : List Char}
    (opened : tree.open path = .ok (encode text)) :
    (fileFeed tree path).signals = signalsOfLines (linesBy endsFileLine text) ∧
      (fileFeed tree path).failure = none := by
  have whole : Charset.utf8.feed none (chunksOf fileChunkSize (encode text)).flatten =
      (text.map .char, none) := by
    rw [flatten_chunksOf, feed_encode]
  simp only [fileFeed, opened, fileLines_eq whole, if_true, and_true]
  rfl

/-! ## Replies -/

theorem chunk_append (charset : Charset) (reader : BodyReader) (first second : List UInt8) :
    reader.chunk charset (first ++ second) =
      ((reader.chunk charset first).1 ++ ((reader.chunk charset first).2.chunk charset second).1,
        ((reader.chunk charset first).2.chunk charset second).2) := by
  simp only [BodyReader.chunk, Charset.feed_append, List.map_append, Cutter.feed_append]

/-- **It does not matter into which chunks a body is cut.** -/
theorem chunks_eq_chunk_flatten (charset : Charset) (reader : BodyReader)
    (chunks : List (List UInt8)) :
    BodyReader.chunks charset reader chunks = reader.chunk charset chunks.flatten := by
  induction chunks generalizing reader with
  | nil => rfl
  | cons bytes chunks inductionHypothesis =>
      rw [BodyReader.chunks, List.flatten_cons, chunk_append, inductionHypothesis]

/-- **A whole body that spells a text has its lines.** -/
theorem lines_of_encode {reply : Reply} {text : List Char} (charset : reply.charset = .utf8)
    (whole : reply.failure = none) (body : reply.chunks.flatten = encode text) :
    reply.lines = linesBy endsBodyLine text := by
  simp only [Reply.lines, whole, charset, chunks_eq_chunk_flatten, body, BodyReader.chunk,
    BodyReader.finish, feed_encode, map_replaced, closePieces, List.map_nil, Cutter.feed]
  rfl

/-- A reply that ends well brings its lines. -/
theorem signals_webFeed {network : Network} {address : String} {target final : Address}
    {reply : Reply} {text : List Char} (requested : requestAddress address = .ok target)
    (followed : (network.follow maxRedirects target).outcome = .ok (final, reply))
    (status : reply.status = 200) (charset : reply.charset = .utf8)
    (whole : reply.failure = none) (body : reply.chunks.flatten = encode text) :
    (webFeed network address).signals = signalsOfLines (linesBy endsBodyLine text) ∧
      (webFeed network address).failure = none := by
  have success : isSuccess reply.status = true := by
    rw [status]
    rfl
  have checked : checkStatus final reply = .ok reply := if_pos success
  simp only [webFeed, requested, followed, checked, lines_of_encode charset whole body, whole,
    Option.map_none, and_self]

/-! ## A file and a page with one text -/

/-- A tree in which one file spells a text. -/
def treeOf (text : List Char) : Tree := { files := [(["catalog"], encode text)] }

/-- A reply that brings a text in two chunks. -/
def replyOf (text : List Char) : Reply :=
  { headers := [("content-type", "text/plain; charset=utf-8")],
    chunks := [(encode text).take 12, (encode text).drop 12] }

/-- A network that answers every request with a text. -/
def networkOf (text : List Char) : Network := { otherwise := .reply (replyOf text) }

theorem open_treeOf (text : List Char) : (treeOf text).open ⟨1, ["catalog"]⟩ = .ok (encode text) :=
  rfl

theorem flatten_chunks_replyOf (text : List Char) :
    (replyOf text).chunks.flatten = encode text := by
  simp only [replyOf, List.flatten_cons, List.flatten_nil, List.append_nil, List.take_append_drop]

/-- The address of a network that has one page only. -/
def pageAddress : Address :=
  { scheme := "http".toList, userinfo := [], host := "h".toList, port := none, path := ['/'],
    query := none, fragment := none }

theorem requestAddress_page : requestAddress "http://h/" = .ok pageAddress := by decide +kernel

theorem follow_networkOf (text : List Char) :
    ((networkOf text).follow maxRedirects pageAddress).outcome =
      .ok (pageAddress, replyOf text) := rfl

theorem charset_replyOf (text : List Char) : (replyOf text).charset = .utf8 := by
  have same : (replyOf text).charset = (replyOf []).charset := rfl
  rw [same]
  decide +kernel

/-- A catalog with a line separator behind a row. -/
def paddedCatalog : List Char := "[\n\x7b\"id\":\"redis\"\x7d,\u2028\n]\x7d".toList

/-- A catalog with a line separator in a name. -/
def severedCatalog : List Char := "[\n\x7b\"id\":\"re\u2028dis\"\x7d,\n]\x7d".toList

theorem cutInMargins_paddedCatalog : CutInMargins (linesBy endsFileLine paddedCatalog) := by
  decide +kernel

/-! ## Both -/

/-- **What passes over a file and over a reply that spell one text yield.**  Each yields what the
lines behind its first one yield, and no pass fails; where a body is cut only in the margins of the
lines of a file, both yield the same. -/
theorem passes_of_sameText {tree : Tree} {path : Path} {network : Network} {address : String}
    {target final : Address} {reply : Reply} {text : List Char}
    (opened : tree.open path = .ok (encode text))
    (requested : requestAddress address = .ok target)
    (followed : (network.follow maxRedirects target).outcome = .ok (final, reply))
    (status : reply.status = 200) (charset : reply.charset = .utf8)
    (whole : reply.failure = none) (body : reply.chunks.flatten = encode text) :
    let file := (fileFeed tree path).pass none
    let web := (webFeed network address).pass none
    (file.names, file.malformed) = yieldOf ((linesBy endsFileLine text).drop 1) ∧
      (web.names, web.malformed) = yieldOf ((linesBy endsBodyLine text).drop 1) ∧
      file.failure = none ∧ web.failure = none ∧
      (CutInMargins (linesBy endsFileLine text) →
        web.names = file.names ∧ web.malformed = file.malformed) := by
  intro file web
  obtain ⟨fileSignals, fileEnd⟩ := signals_fileFeed opened
  obtain ⟨webSignals, webEnd⟩ := signals_webFeed requested followed status charset whole body
  have fileYield : (file.names, file.malformed) = yieldOf ((linesBy endsFileLine text).drop 1) :=
    pass_of_lines fileSignals
  have webYield : (web.names, web.malformed) = yieldOf ((linesBy endsBodyLine text).drop 1) :=
    pass_of_lines webSignals
  refine ⟨fileYield, webYield, ?_, ?_, ?_⟩
  · exact (Feed.failure_pass _).trans fileEnd
  · exact (Feed.failure_pass _).trans webEnd
  · intro margins
    rw [yieldOf_body_lines margins, ← fileYield] at webYield
    exact Prod.mk.inj webYield

/-- The separator behind the row costs nothing. -/
theorem passes_of_paddedCatalog :
    let file := (fileFeed (treeOf paddedCatalog) ⟨1, ["catalog"]⟩).pass none
    let web := (webFeed (networkOf paddedCatalog) "http://h/").pass none
    (file.names, file.malformed) = (["redis"], 0) ∧ web.names = file.names ∧
      web.malformed = file.malformed ∧ file.failure = none ∧ web.failure = none := by
  intro file web
  obtain ⟨fileYield, -, fileEnd, webEnd, same⟩ :=
    passes_of_sameText (open_treeOf paddedCatalog) requestAddress_page
      (follow_networkOf paddedCatalog) rfl (charset_replyOf paddedCatalog) rfl
      (flatten_chunks_replyOf paddedCatalog)
  obtain ⟨names, malformed⟩ := same cutInMargins_paddedCatalog
  have lines : yieldOf ((linesBy endsFileLine paddedCatalog).drop 1) = (["redis"], 0) := by
    decide +kernel
  exact ⟨fileYield.trans lines, names, malformed, fileEnd, webEnd⟩

/-- **The separator in the name costs the row**, on the web only. -/
theorem passes_of_severedCatalog :
    let file := (fileFeed (treeOf severedCatalog) ⟨1, ["catalog"]⟩).pass none
    let web := (webFeed (networkOf severedCatalog) "http://h/").pass none
    (file.names, file.malformed) = (["re\u2028dis"], 0) ∧ (web.names, web.malformed) = ([], 2) := by
  intro file web
  have fileSignals := (signals_fileFeed (open_treeOf severedCatalog)).1
  have webSignals :=
    (signals_webFeed requestAddress_page (follow_networkOf severedCatalog) rfl
      (charset_replyOf severedCatalog) rfl (flatten_chunks_replyOf severedCatalog)).1
  have fileLines : yieldOf ((linesBy endsFileLine severedCatalog).drop 1) =
      (["re\u2028dis"], 0) := by decide +kernel
  have webLines : yieldOf ((linesBy endsBodyLine severedCatalog).drop 1) = ([], 2) := by
    decide +kernel
  exact ⟨(pass_of_lines fileSignals).trans fileLines, (pass_of_lines webSignals).trans webLines⟩

end Typeahead.Catalog
