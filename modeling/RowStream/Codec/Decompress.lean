import RowStream.Error
import RowStream.Codec.Gzip
import RowStream.Codec.Lz4

/-! # Undoing compression -/
namespace RowStream.Codec

def startsWith (start bytes : List UInt8) : Bool := bytes.take start.length == start

/-- Compressed data is known by its first bytes; anything else is left as it is. -/
def decompress (bytes : List UInt8) : Result (List UInt8) :=
  if startsWith Gzip.magic bytes then
    match Gzip.read? bytes with
    | some content => .ok content
    | none => .error (.decode "gzip decompression failed: the data is damaged")
  else if startsWith Lz4.magic bytes then
    match Lz4.read? bytes with
    | some content => .ok content
    | none => .error (.decode "LZ4 decompression failed: the data is damaged")
  else .ok bytes

end RowStream.Codec
