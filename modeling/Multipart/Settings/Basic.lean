/-!
# Settings

Buffer sizes, limits and leniency of a decoder.
-/

namespace Multipart

structure Settings where
  /-- The number of bytes asked for when the buffer is filled. -/
  readBufferSize : Nat := 8192
  /-- The number of bytes a body has room for at first. -/
  initialPartCapacity : Nat := 4096
  /-- The most bytes a body may have. -/
  maxPartSize : Nat := 268435456
  /-- The most bytes a header block may have. -/
  maxHeaderSize : Nat := 65536
  /-- Whether the last part may end with the stream, without a closing delimiter. -/
  allowUnterminatedFinalPart : Bool := false
  deriving DecidableEq, Repr, Inhabited

end Multipart
