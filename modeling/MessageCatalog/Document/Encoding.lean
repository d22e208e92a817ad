import MessageCatalog.Document.Reading
import MessageCatalog.Text.Utf16

/-!
# Encodings of documents

A document in a file may begin with a byte order mark, which tells its
encoding: UTF-8, or UTF-16 in either byte order.  A mark is looked for only
in files of at least three bytes.  Behind a mark, malformed sequences are
read as replacement characters; without one the bytes have to be well-formed
UTF-8.
-/

namespace MessageCatalog

namespace Document

def repair (decoded : List (Option Char)) : Text :=
  decoded.map fun c => c.getD '\uFFFD'

/-- The text of a file, unless it is malformed and has no byte order mark. -/
def decode? (bytes : Bytes) : Option Text :=
  if bytes.length < 3 then Utf8.decode? bytes
  else
    match bytes with
    | 0xEF :: 0xBB :: 0xBF :: rest => some (repair (Utf8.decode rest))
    | 0xFF :: 0xFE :: rest => some (repair (Utf16.decode .little rest))
    | 0xFE :: 0xFF :: rest => some (repair (Utf16.decode .big rest))
    | bytes => Utf8.decode? bytes

/-- Reads a document from a file, if the file has a text. -/
def readEncoded (options : ReadOptions) (preprocessor : Preprocessor) (bytes : Bytes) :
    Option Outcome :=
  (decode? bytes).map (read options preprocessor)

/-- Reads a document from bytes in UTF-8, if they are well-formed. -/
def readUtf8 (options : ReadOptions) (preprocessor : Preprocessor) (bytes : Bytes) :
    Option Outcome :=
  (Utf8.decode? bytes).map (read options preprocessor)

def malformedMessage : Text :=
  "I/O error: stream did not contain valid UTF-8".toList

end Document

end MessageCatalog
