import RowStream.Text.Ascii

/-! # Headers of chunk requests -/
namespace RowStream
open RowStream.Text

def keyAlgorithmHeader : String := "x-amz-server-side-encryption-customer-algorithm"
def keyHeader : String := "x-amz-server-side-encryption-customer-key"

/-- The headers that the response asks for; without any the master key is sent for decryption. -/
def requestHeaders (masterKey : Option String) (chunkHeaders : List (String × String)) :
    List (String × String) :=
  if !chunkHeaders.isEmpty then chunkHeaders
  else match masterKey with
    | some key => if key = "" then [] else [(keyAlgorithmHeader, "AES256"), (keyHeader, key)]
    | none => []

def headerMarks : List Char := "!#$%&'*+-.^_\x60|~".toList

def isHeaderName (name : String) : Bool :=
  name != "" && name.toList.all fun c => c.isAlphanum || headerMarks.contains c

/-- Anything but controls can be sent, and tabs. -/
def isHeaderValue (value : String) : Bool :=
  value.toList.all fun c => c == '\t' || (0x20 ≤ c.toNat && c.toNat != 0x7F)

end RowStream
