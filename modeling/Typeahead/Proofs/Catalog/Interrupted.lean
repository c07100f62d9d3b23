import Typeahead.Proofs.Catalog.Sources
import Typeahead.Proofs.Text.LineEnds
import Typeahead.Proofs.Text.WellFormed

/-!
# Passes that break off

A reply whose connection fails has delivered the lines that are complete in what has
come in, and a file with a bad byte those that are complete in the chunks before it.
So the names of such a pass stand in front of the names of every whole pass over the
same beginning (`broken_pass_yields_prefix`).
-/

namespace Typeahead.Catalog

open Typeahead.Files Typeahead.Text Typeahead.Web

set_option autoImplicit false

/-- A pass fails to fetch, and its names are those of the lines that have ended in what was read. -/
structure BreaksOff (ends : Char → Bool) (read : List Char) (broken : Delivery) : Prop where
  failure : ∃ fault, broken.failure = some fault ∧ fault.isFetch = true
  ended : ∃ lines ended rest, read = ended ++ rest ∧ Ended ends lines ended ∧
    Unended ends rest ∧ broken.names = (yieldOf (lines.drop 1)).1

/-! ## Lines that were given away -/

theorem feed_isPrefix {first second : List Char} (begins : first <+: second) (ends : Char → Bool)
    (cutter : Cutter) :
    (Cutter.feed ends cutter first).1 <+: (Cutter.feed ends cutter second).1 := by
  obtain ⟨rest, rfl⟩ := begins
  rw [Cutter.feed_append]
  exact List.prefix_append _ _

theorem names_isPrefix {first second : List (List Char)} (begins : first <+: second) :
    (yieldOf (first.drop 1)).1 <+: (yieldOf (second.drop 1)).1 := by
  obtain ⟨rest, rfl⟩ := begins
  rw [List.drop_append, yieldOf_append]
  exact List.prefix_append _ _

theorem names_pass {feed : Feed} {lines : List (List Char)}
    (signals : feed.signals = signalsOfLines lines) :
    (feed.pass none).names = (yieldOf (lines.drop 1)).1 :=
  congrArg Prod.fst (pass_of_lines signals)

/-- A pass over the lines that a cutter has given away breaks off. -/
theorem breaksOff_of_feed {ends : Char → Bool} {read : List Char} {feed : Feed}
    (signals : feed.signals = signalsOfLines (Cutter.feed ends {} read).1) {fault : SourceFault}
    (failure : feed.failure = some fault) (isFetch : fault.isFetch = true) :
    BreaksOff ends read (feed.pass none) := by
  obtain ⟨ended, rest, parts, areEnded, unended⟩ := @exists_ended_of_feed ends {} OneLine.nil read
  exact ⟨⟨fault, feed.failure_pass.trans failure, isFetch⟩, _, ended, rest, parts, areEnded,
    unended, names_pass signals⟩

/-! ## Replies -/

/-- A network brings a reply of success to a request. -/
structure Brings (network : Network) (address : String) (reply : Reply) : Prop where
  followed : ∃ target final, requestAddress address = .ok target ∧
    (network.follow maxRedirects target).outcome = .ok (final, reply)
  success : isSuccess reply.status = true

theorem Brings.webFeed {network : Network} {address : String} {reply : Reply}
    (brings : Brings network address reply) :
    (webFeed network address).signals = signalsOfLines reply.lines ∧
      (webFeed network address).failure =
        reply.failure.map fun fault => .web address (.transport fault) := by
  obtain ⟨⟨target, final, requested, followed⟩, success⟩ := brings
  have checked : checkStatus final reply = .ok reply := if_pos success
  simp only [Catalog.webFeed, requested, followed, checked, and_self]

/-- The characters that have come in. -/
def received (reply : Reply) : List Char :=
  (reply.charset.feed none reply.chunks.flatten).1.map Piece.replaced

/-- A body that breaks off gives the lines away that have ended. -/
theorem lines_of_broken {reply : Reply} {fault : TransportFault}
    (broken : reply.failure = some fault) :
    reply.lines = (Cutter.feed endsBodyLine {} (received reply)).1 := by
  simp only [Reply.lines, broken, chunks_eq_chunk_flatten]
  rfl

/-- A whole body gives these away first. -/
theorem feed_received_isPrefix {reply : Reply} (whole : reply.failure = none) :
    (Cutter.feed endsBodyLine {} (received reply)).1 <+: reply.lines := by
  simp only [Reply.lines, whole, chunks_eq_chunk_flatten]
  exact List.prefix_append _ _

theorem received_isPrefix {first second : Reply} (charset : second.charset = first.charset)
    (begins : first.chunks.flatten <+: second.chunks.flatten) :
    received first <+: received second := by
  obtain ⟨rest, whole⟩ := begins
  rw [received, received, charset, ← whole, Charset.feed_append, List.map_append]
  exact List.prefix_append _ _

/-! ## Files -/

theorem eq_map_of_mapM_char? {pieces : List Piece} {text : List Char}
    (good : pieces.mapM Piece.char? = some text) : pieces = text.map .char := by
  induction pieces generalizing text with
  | nil =>
      obtain rfl := Option.some.inj good
      rfl
  | cons piece pieces inductionHypothesis =>
      cases piece with
      | bad => exact nomatch good
      | char c =>
          have found : (pieces.mapM Piece.char?).bind (fun others => some (c :: others)) = some text :=
            (List.mapM_cons (f := Piece.char?)).symm.trans good
          obtain ⟨others, rest, parts⟩ := Option.bind_eq_some_iff.mp found
          obtain rfl := Option.some.inj parts
          rw [inductionHypothesis rest]
          rfl

theorem mem_bad_of_mapM_char? {pieces : List Piece} (spoiled : pieces.mapM Piece.char? = none) :
    .bad ∈ pieces := by
  induction pieces with
  | nil => exact nomatch spoiled
  | cons piece pieces inductionHypothesis =>
      cases piece with
      | bad => exact List.mem_cons_self
      | char c =>
          cases rest : pieces.mapM Piece.char? with
          | none => exact List.mem_cons_of_mem _ (inductionHypothesis rest)
          | some others =>
              rw [List.mapM_cons, rest] at spoiled
              exact nomatch spoiled

/-- Nothing is left behind what was read, or a chunk with a bad piece comes next. -/
def StopsAt (chunks : List (List UInt8)) (state : Option Begun) (rest : List UInt8) : Prop :=
  rest = [] ∨ ∃ chunk ∈ chunks, chunk <+: rest ∧ .bad ∈ (Charset.utf8.feed state chunk).1

/-- Chunks are read to their end, or up to one that is spoiled: then the lines that have ended in
the chunks before it are given away. -/
theorem fileLines_cases (begun : Option Begun) (cutter : Cutter) (chunks : List (List UInt8)) :
    (∃ text : List Char, Charset.utf8.feed begun chunks.flatten = (text.map Piece.char, none)) ∨
      ∃ (first rest : List UInt8) (read : List Char) (state : Option Begun),
        chunks.flatten = first ++ rest ∧ StopsAt chunks state rest ∧
        Charset.utf8.feed begun first = (read.map .char, state) ∧
        fileLines begun cutter chunks = ((Cutter.feed endsFileLine cutter read).1, false) := by
  induction chunks generalizing begun cutter with
  | nil =>
      cases begun with
      | none => exact .inl ⟨[], rfl⟩
      | some begun => exact .inr ⟨[], [], [], some begun, rfl, .inl rfl, rfl, rfl⟩
  | cons bytes chunks inductionHypothesis =>
      rw [List.flatten_cons]
      cases good : (Charset.utf8.feed begun bytes).1.mapM Piece.char? with
      | none =>
          refine .inr ⟨[], _, [], begun, rfl, .inr ⟨bytes, List.mem_cons_self, ?_, ?_⟩, rfl, ?_⟩
          · exact List.prefix_append bytes _
          · exact mem_bad_of_mapM_char? good
          · simp only [fileLines, good]
            rfl
      | some text =>
          have pieces := eq_map_of_mapM_char? good
          rcases inductionHypothesis (Charset.utf8.feed begun bytes).2
            (Cutter.feed endsFileLine cutter text).2 with ⟨more, fed⟩ | spoiled
          · refine .inl ⟨text ++ more, ?_⟩
            rw [Charset.feed_append, fed, pieces, List.map_append]
          · obtain ⟨first, rest, read, state, parts, stops, fed, lines⟩ := spoiled
            refine .inr ⟨bytes ++ first, rest, text ++ read, state, ?_, ?_, ?_, ?_⟩
            · rw [parts, List.append_assoc]
            · refine stops.imp id ?_
              rintro ⟨chunk, among, isNext, bad⟩
              exact ⟨chunk, List.mem_cons_of_mem bytes among, isNext, bad⟩
            · rw [Charset.feed_append, fed, pieces, List.map_append]
            · simp only [fileLines, good, lines, Cutter.feed_append]

/-- The bytes of a file that spell no text, cut where the first bad byte stands or where the file
ends within a character. -/
structure FirstBad (front behind : List UInt8) : Prop where
  begins : BeginsText front
  stops : ∀ byte ∈ behind.head?, ¬ BeginsText (front ++ [byte])
  noText : ∀ text, front ++ behind ≠ encode text

theorem firstBad_cons {front behind : List UInt8} {byte : UInt8} (begins : BeginsText front)
    (bad : .bad ∈ (Charset.utf8.feed none (front ++ [byte])).1) :
    FirstBad front (byte :: behind) := by
  have stops : ¬ BeginsText (front ++ [byte]) := not_beginsText_of_bad bad
  refine ⟨begins, ?_, ?_⟩
  · intro next isNext
    obtain rfl := Option.some.inj isNext
    exact stops
  · intro text spelled
    rw [List.append_cons] at spelled
    exact stops ⟨text, spelled ▸ List.prefix_append _ _⟩

theorem length_le_of_mem_chunksOf {size : Nat} (positive : 0 < size) (bytes : List UInt8) :
    ∀ chunk ∈ chunksOf size bytes, chunk.length ≤ size := by
  induction bytes using chunksOf.induct size with
  | case1 bytes short empty =>
      rw [chunksOf, dif_pos short, if_pos empty]
      exact fun _ member => absurd member List.not_mem_nil
  | case2 bytes short filled =>
      rw [chunksOf, dif_pos short, if_neg filled]
      exact List.forall_mem_singleton.mpr (short.resolve_right (Nat.ne_of_gt positive))
  | case3 bytes long inductionHypothesis =>
      rw [chunksOf, dif_neg long, List.forall_mem_cons]
      exact ⟨List.length_take_le size bytes, inductionHypothesis⟩

/-- What has been read before a file stops falls short of the first bad byte by less than a
chunk. -/
theorem length_lt_of_stopsAt {front behind first rest : List UInt8} {read : List Char}
    {state : Option Begun} (begins : BeginsText front) (parts : front ++ behind = first ++ rest)
    (stops : StopsAt (chunksOf fileChunkSize (front ++ behind)) state rest)
    (fed : Charset.utf8.feed none first = (read.map .char, state)) :
    front.length < first.length + fileChunkSize := by
  have small : 0 < fileChunkSize := by decide
  rcases stops with rfl | ⟨chunk, among, ⟨others, rfl⟩, bad⟩
  · have lengths := congrArg List.length parts
    rw [List.append_nil, List.length_append] at lengths
    omega
  · have short := length_le_of_mem_chunksOf small _ chunk among
    by_contra long
    have taken : first ++ chunk <+: front ++ behind := by
      rw [parts, ← List.append_assoc]
      exact List.prefix_append _ _
    have inside : first ++ chunk <+: front := by
      apply List.prefix_of_prefix_length_le taken (List.prefix_append _ _)
      rw [List.length_append]
      omega
    obtain ⟨text, isPrefix⟩ := begins
    refine not_beginsText_of_bad ?_ ⟨text, inside.trans isPrefix⟩
    rw [Charset.feed_append, fed]
    exact List.mem_append_right _ bad

/-- What has been read of a file with a bad byte has been read of the bytes before it. -/
theorem exists_begins_of_firstBad {front behind first rest : List UInt8} {read : List Char}
    {state : Option Begun} (firstBad : FirstBad front behind)
    (parts : front ++ behind = first ++ rest)
    (fed : Charset.utf8.feed none first = (read.map .char, state)) :
    ∃ begins state, begins <+: front ∧ (begins = front ∨ begins = first) ∧
      Charset.utf8.feed none begins = (read.map .char, state) := by
  rcases List.append_eq_append_iff.mp parts with ⟨excess, rfl, rfl⟩ | ⟨excess, rfl, rfl⟩
  · cases excess with
    | nil => exact ⟨front, state, List.prefix_rfl, .inl rfl, by rwa [List.append_nil] at fed⟩
    | cons byte excess =>
        obtain ⟨state, fedFront⟩ := chars_of_spoiled (firstBad.stops byte rfl) fed
        exact ⟨front, state, List.prefix_rfl, .inl rfl, fedFront⟩
  · exact ⟨first, state, List.prefix_append _ _, .inr rfl, fed⟩

/-- A file with a bad byte gives the lines away that have ended in what stands before, but for less
than one chunk and the bytes of one character. -/
theorem exists_read_of_firstBad {tree : Tree} {path : Path} {front behind : List UInt8}
    (opened : tree.open path = .ok (front ++ behind)) (firstBad : FirstBad front behind) :
    ∃ read, encode read <+: front ∧
      front.length < (encode read).length + 3 + fileChunkSize ∧
      (∀ text, front <+: encode text → read <+: text) ∧
      (fileFeed tree path).signals = signalsOfLines (Cutter.feed endsFileLine {} read).1 ∧
      (fileFeed tree path).failure = some (.file path.text .badBytes) := by
  rcases fileLines_cases none {} (chunksOf fileChunkSize (front ++ behind)) with
    ⟨text, fed⟩ | ⟨first, rest, read, state, parts, stops, fed, lines⟩
  · rw [flatten_chunksOf] at fed
    exact absurd (eq_encode_of_feed fed) (firstBad.noText text)
  · rw [flatten_chunksOf] at parts
    have near := length_lt_of_stopsAt firstBad.begins parts stops fed
    obtain ⟨begins, state, isPrefix, which, fed⟩ := exists_begins_of_firstBad firstBad parts fed
    obtain ⟨held, spells, isHeld⟩ := exists_held_of_feed .none fed
    rw [List.nil_append] at spells
    refine ⟨read, ?_, ?_, fun text beginsText => ?_, ?_, ?_⟩
    · exact (spells ▸ List.prefix_append (encode read) held).trans isPrefix
    · have few := isHeld.length_le
      have lengths := congrArg List.length spells
      have small : 0 < fileChunkSize := by decide
      rw [List.length_append] at lengths
      rcases which with rfl | rfl <;> omega
    · obtain ⟨found, more, _, rfl, same⟩ := exists_feed_of_prefix (isPrefix.trans beginsText)
      have chars : found.map Piece.char = read.map .char := congrArg Prod.fst (same.symm.trans fed)
      rw [List.map_injective_iff.mpr (fun _ _ => Piece.char.inj) chars]
      exact List.prefix_append _ _
    · simp only [fileFeed, opened, lines]
    · simp only [fileFeed, opened, lines, Bool.false_eq_true, if_false]

/-! ## Both -/

/-- **A pass that breaks off yields names in front of those of every whole pass.**  A reply whose
connection fails yields the names of the lines that have ended in what has come in; every whole
reply in the same character set that begins with the same bytes yields these names first.  A file
with a bad byte yields the names of the lines that have ended in what was read before it, which
falls short of this byte by less than one chunk and the bytes of one character; every file that
spells a text and begins with the bytes before the bad one yields these names first.  Both passes
fail to fetch. -/
theorem broken_pass_yields_prefix :
    (∀ {network : Network} {address : String} {reply : Reply} {fault : TransportFault},
      Brings network address reply → reply.failure = some fault →
      BreaksOff endsBodyLine (received reply) ((webFeed network address).pass none) ∧
        ∀ {other : Network} {page : String} {whole : Reply}, Brings other page whole →
          whole.failure = none → whole.charset = reply.charset →
          reply.chunks.flatten <+: whole.chunks.flatten →
          ((webFeed network address).pass none).names <+: ((webFeed other page).pass none).names) ∧
    ∀ {tree : Tree} {path : Path} {front behind : List UInt8},
      tree.open path = .ok (front ++ behind) → FirstBad front behind →
      (∃ read, encode read <+: front ∧
        front.length < (encode read).length + 3 + fileChunkSize ∧
        BreaksOff endsFileLine read ((fileFeed tree path).pass none)) ∧
        ∀ {other : Tree} {file : Path} {text : List Char}, other.open file = .ok (encode text) →
          front <+: encode text →
          ((fileFeed tree path).pass none).names <+: ((fileFeed other file).pass none).names := by
  constructor
  · intro network address reply fault brings broken
    obtain ⟨signals, failure⟩ := brings.webFeed
    rw [lines_of_broken broken] at signals
    rw [broken, Option.map_some] at failure
    refine ⟨breaksOff_of_feed signals failure rfl, ?_⟩
    intro other page whole bringsWhole complete charset begins
    have first := feed_isPrefix (received_isPrefix charset begins) endsBodyLine {}
    rw [names_pass signals, names_pass bringsWhole.webFeed.1]
    exact names_isPrefix (first.trans (feed_received_isPrefix complete))
  · intro tree path front behind opened firstBad
    obtain ⟨read, before, near, begins, signals, failure⟩ :=
      exists_read_of_firstBad opened firstBad
    refine ⟨⟨read, before, near, breaksOff_of_feed signals failure rfl⟩, ?_⟩
    intro other file text openedWhole beginsText
    have first := feed_isPrefix (begins text beginsText) endsFileLine {}
    rw [names_pass signals, names_pass (signals_fileFeed openedWhole).1]
    exact names_isPrefix (first.trans (List.prefix_append _ _))

/-- A catalog that ends within its second row. -/
def brokenCatalog : List Char := "[\n\x7b\"id\":\"redis\"\x7d,\n\x7b\"id\":\"caf".toList

/-- The catalog with what has not come. -/
def mendedCatalog : List Char := brokenCatalog ++ "é\"\x7d,\n]\x7d".toList

/-- A reply that breaks off within the last character that comes. -/
def brokenReply : Reply :=
  { replyOf [] with
    chunks := [encode brokenCatalog, [0xC3]], failure := some ⟨.read, "connection lost"⟩ }

/-- A file in which a bad byte stands within a character. -/
def spoiledTree : Tree :=
  { files := [(["catalog"], (encode brokenCatalog ++ [0xC3]) ++ encode ['(', '"'])] }

/-- The row that is not complete brings no name, on the web and in a file. -/
theorem broken_pass_yields_prefix_of_brokenCatalog :
    let web := (webFeed { otherwise := .reply brokenReply } "http://h/").pass none
    let file := (fileFeed spoiledTree ⟨1, ["catalog"]⟩).pass none
    web.names = ["redis"] ∧ BreaksOff endsBodyLine (received brokenReply) web ∧
      web.names <+: ((webFeed (networkOf mendedCatalog) "http://h/").pass none).names ∧
      (∃ read, encode read <+: encode brokenCatalog ++ [0xC3] ∧
        (encode brokenCatalog ++ [0xC3]).length < (encode read).length + 3 + fileChunkSize ∧
        BreaksOff endsFileLine read file) ∧
      file.names <+: ((fileFeed (treeOf mendedCatalog) ⟨1, ["catalog"]⟩).pass none).names ∧
      ((fileFeed (treeOf mendedCatalog) ⟨1, ["catalog"]⟩).pass none).names =
        ["redis", "café"] := by
  intro web file
  have cut : encode mendedCatalog = (encode brokenCatalog ++ [0xC3]) ++
      (0xA9 :: encode "\"\x7d,\n]\x7d".toList) := by decide +kernel
  have brings : Brings { otherwise := .reply brokenReply } "http://h/" brokenReply :=
    ⟨⟨pageAddress, pageAddress, requestAddress_page, rfl⟩, rfl⟩
  have bringsWhole : Brings (networkOf mendedCatalog) "http://h/" (replyOf mendedCatalog) :=
    ⟨⟨pageAddress, pageAddress, requestAddress_page, follow_networkOf mendedCatalog⟩, rfl⟩
  have front : encode brokenCatalog ++ [0xC3] <+: encode mendedCatalog :=
    cut ▸ List.prefix_append _ _
  have body : brokenReply.chunks.flatten <+: (replyOf mendedCatalog).chunks.flatten := by
    rw [flatten_chunks_replyOf]
    exact front
  have firstBad : FirstBad (encode brokenCatalog ++ [0xC3]) (encode ['(', '"']) :=
    firstBad_cons ⟨mendedCatalog, front⟩ (by decide +kernel)
  obtain ⟨breaksOff, begins⟩ := broken_pass_yields_prefix.1 brings rfl
  obtain ⟨fileBreaksOff, fileBegins⟩ :=
    broken_pass_yields_prefix.2 (rfl : spoiledTree.open ⟨1, ["catalog"]⟩ = .ok _) firstBad
  have webNames : web.names = (yieldOf (brokenReply.lines.drop 1)).1 := names_pass brings.webFeed.1
  have fileNames := names_pass (signals_fileFeed (open_treeOf mendedCatalog)).1
  refine ⟨webNames.trans (by decide +kernel), breaksOff, begins bringsWhole rfl ?_ body,
    fileBreaksOff, fileBegins (open_treeOf mendedCatalog) front,
    fileNames.trans (by decide +kernel)⟩
  rfl

end Typeahead.Catalog
