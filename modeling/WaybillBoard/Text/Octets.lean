/-!
UTF-8 over lists of octets. Main statement: reading gives back every text that was written.
-/

namespace WaybillBoard.Text.Octets

def encode (cs : List Char) : List UInt8 := cs.flatMap String.utf8EncodeChar

def ofString (s : String) : List UInt8 := encode s.toList

/-- The text that the octets spell, unless they spell none. -/
def decode (bs : List UInt8) : Option (List Char) :=
  bs.toByteArray.utf8Decode?.map Array.toList

theorem decode_encode (cs : List Char) : decode (encode cs) = some cs := by
  have h : (encode cs).toByteArray = cs.utf8Encode := rfl
  simp [decode, h, List.utf8Decode?_utf8Encode]

end WaybillBoard.Text.Octets
