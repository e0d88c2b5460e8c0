import Multipart.Text.Utf16
import Multipart.Text.Utf8
import Multipart.Text.Windows1252

/-!
# The character set of a header block

Header bytes are UTF-8 if they can be. Otherwise a byte order mark at their start names their
encoding and is left out; without one they are Windows-1252.
-/

namespace Multipart.Text.Charset

/-- The text of bytes that are not UTF-8. -/
def decodeLegacy : List UInt8 → List Char
  | 0xEF :: 0xBB :: 0xBF :: rest => Utf8.decodeLossy rest
  | 0xFF :: 0xFE :: rest => Utf16.decode .little rest
  | 0xFE :: 0xFF :: rest => Utf16.decode .big rest
  | bytes => Windows1252.decode bytes

def decode (bytes : List UInt8) : List Char :=
  (Utf8.decode? bytes).getD (decodeLegacy bytes)

end Multipart.Text.Charset
