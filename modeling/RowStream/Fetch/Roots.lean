import RowStream.Error
import RowStream.Fetch.TextBlock
import RowStream.Fetch.Certificate

/-! # Extra trust roots -/
namespace RowStream.Roots

def certificateLabel : List Char := "CERTIFICATE".toList

/-- A text without certificates adds no root. -/
def isUsable (text : String) : Bool :=
  (TextBlock.read? text).any fun blocks =>
    (blocks.filter (·.label == certificateLabel)).all fun b => Certificate.isCertificate b.content

def check (texts : List String) : Result Unit :=
  if texts.all isUsable then .ok ()
  else .error (.invalidState "Failed to create HTTP client: a root certificate cannot be read")

end RowStream.Roots
