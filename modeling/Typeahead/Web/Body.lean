import Typeahead.Text.Lines
import Typeahead.Text.Utf8
import Typeahead.Web.Network

/-!
# Reading the body of a reply

The header that names the type of the content can name a character set; without
one that is known the body is read as UTF-8.  The body is decoded and cut into
lines as its chunks come in.
-/

namespace Typeahead.Web

open Typeahead.Text

set_option autoImplicit false

/-- The words of a text: its runs of letters, digits and points. -/
def wordsOf (text : List Char) : List (List Char) :=
  (text.splitBy fun a b => isNameChar a == isNameChar b).filter fun run => run.any isNameChar
where
  isNameChar (c : Char) : Bool := c.isAlphanum || c == '.'

/-- The names of a character set in small letters, with underscores between their words. -/
def charsetNames : Charset → List String
  | .utf8 => ["utf_8", "utf8", "u8", "utf", "utf8_ucs2", "utf8_ucs4", "cp65001"]
  | .latin1 =>
      ["latin_1", "latin1", "latin", "l1", "iso_8859_1", "iso8859_1", "iso8859", "8859",
        "iso_8859_1_1987", "iso_ir_100", "cp819", "ibm819", "csisolatin1"]
  | .ascii =>
      ["ascii", "us_ascii", "us", "646", "ansi_x3.4_1968", "ansi_x3_4_1968", "ansi_x3.4_1986",
        "iso646_us", "iso_646.irv_1991", "iso_ir_6", "cp367", "ibm367", "csascii"]

/-- The character set of a name, if it is known.  Letters count in either case, and what stands
between the words of the name does not count. -/
def charsetOfName? (name : List Char) : Option Charset :=
  let name := "_".intercalate ((wordsOf (name.map Char.toLower)).map String.ofList)
  [Charset.utf8, .latin1, .ascii].find? fun charset => (charsetNames charset).contains name

/-- Cuts a text at its semicolons, except at those between double quotes. -/
def splitParameters : List Char → List (List Char) :=
  go false []
where
  /-- Goes on from a place that stands between quotes or does not, with the part before it, which is
  read backwards. -/
  go (inQuotes : Bool) (part : List Char) : List Char → List (List Char)
    | [] => [part.reverse]
    | '\\' :: '"' :: rest => go inQuotes ('"' :: '\\' :: part) rest
    | '"' :: rest => go (!inQuotes) ('"' :: part) rest
    | c :: rest =>
        if c = ';' && !inQuotes then part.reverse :: go false [] rest
        else go inQuotes (c :: part) rest

/-- A value without the double quotes or the angles that stand around it. -/
def bareValue (value : List Char) : List Char :=
  let isAround (opening closing : Char) : Bool :=
    1 < value.length && value.head? == some opening && value.getLast? == some closing
  if isAround '"' '"' || isAround '<' '>' then (value.drop 1).dropLast else value

/-- The value of a parameter of a header. -/
def parameterOf? (name : String) (part : List Char) : Option (List Char) :=
  let sides := splitAtFirst '=' part
  if String.ofList ((trimBlank sides.1).map Char.toLower) = name then
    some (bareValue (trimBlank (sides.2.getD [])))
  else none

/-- The character set of a reply. -/
def Reply.charset (reply : Reply) : Charset :=
  let parameters := splitParameters ((reply.header? "content-type").getD "").toList
  ((parameters.findSome? (parameterOf? "charset")).bind charsetOfName?).getD .utf8

/-- What is kept between two chunks of a body. -/
structure BodyReader where
  begun : Option Begun := none
  cutter : Cutter := {}
  deriving Repr, Inhabited

/-- Reads one chunk: the lines that it completes. -/
def BodyReader.chunk (charset : Charset) (reader : BodyReader) (bytes : List UInt8) :
    List (List Char) × BodyReader :=
  let pieces := charset.feed reader.begun bytes
  let lines := Cutter.feed endsBodyLine reader.cutter (pieces.1.map Piece.replaced)
  (lines.1, ⟨pieces.2, lines.2⟩)

/-- Reads chunks in order: the lines that they complete. -/
def BodyReader.chunks (charset : Charset) :
    BodyReader → List (List UInt8) → List (List Char) × BodyReader
  | reader, [] => ([], reader)
  | reader, bytes :: more =>
      let first := reader.chunk charset bytes
      let rest := BodyReader.chunks charset first.2 more
      (first.1 ++ rest.1, rest.2)

/-- The lines that are left when the body ends. -/
def BodyReader.finish (reader : BodyReader) : List (List Char) :=
  let lines := Cutter.feed endsBodyLine reader.cutter ((closePieces reader.begun).map Piece.replaced)
  lines.1 ++ lines.2.finish

/-- The lines of a body; a body that breaks off loses its unfinished line. -/
def Reply.lines (reply : Reply) : List (List Char) :=
  let read := BodyReader.chunks reply.charset {} reply.chunks
  match reply.failure with
  | some _ => read.1
  | none => read.1 ++ read.2.finish

end Typeahead.Web
