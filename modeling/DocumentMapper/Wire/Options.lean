/-!
# Codec options

Two limits govern reading and writing: how large a message may be, and how many
bytes of a text are decoded at a time.

## Main definitions

* `CodecOptions`: The two limits with their usual values.
-/

namespace DocumentMapper

/-- The limits of a reader or writer. -/
structure CodecOptions where
  /-- The largest size of a whole document in bytes. -/
  maxMessageSize : Nat := 4194304
  /-- The size of the scratch buffer for texts. -/
  readBufferSize : Nat := 128
deriving DecidableEq, Repr, Inhabited

end DocumentMapper
