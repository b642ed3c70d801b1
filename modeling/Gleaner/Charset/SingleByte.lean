import Gleaner.Charset.SingleByteTable
import Gleaner.Charset.Utf8

/-!
Charsets in which each byte is a character. The lower half is that of ASCII.
-/
namespace Gleaner.Charset

/-- The character of a byte, given the upper half of the charset. -/
def singleByteChar (upper : List Char) (b : Nat) : Char :=
  if b < 0x80 then Char.ofNat b else upper.getD (b - 0x80) Utf8.replacement

def decodeSingleByte (upper : String) (bs : List Nat) : List Char :=
  bs.map (singleByteChar upper.toList)

end Gleaner.Charset
