import FloppyProbe.Text

/-!
# Shared types of the probe

The types of `include/m65/types.h`. A command refers to its data buffer by a pointer and a
length; here it carries the bytes of that buffer, or nothing when the pointer is NULL. An
out-parameter of the source is a component of the result.
-/

namespace M65

/-- The size of every error text buffer. -/
abbrev maxErrorText : ℕ := 256

instance : NeZero maxErrorText := ⟨by decide⟩

/-- The content of an error text buffer. -/
abbrev ErrorText : Type := Text maxErrorText

/-- The error text `text`, a literal of the source. -/
abbrev errorText (text : String) : ErrorText := Text.lit text

/-- A literal that is not empty leaves an error text that is not empty. -/
theorem errorText_ne_nil {text : String} (h : (CString.lit text).bytes ≠ []) :
    (errorText text).bytes ≠ [] :=
  Text.format_ne_nil (by decide) h

/-- The size of a block, `M65_BLOCK_SIZE`. -/
abbrev blockSize : ℕ := 512

/-- The number of blocks of a 1581 disk, `M65_1581_BLOCKS`. -/
abbrev blocks1581 : ℕ := 1600

/-- The size of an image of a 1581 disk, `M65_1581_IMAGE_SIZE`. -/
abbrev imageSize1581 : ℕ := blockSize * blocks1581

/-- Decoded sense data, `M65Sense`. The fields keep their zeros unless `valid` is set. -/
structure Sense where
  valid : Bool := false
  responseCode : UInt8 := 0
  key : UInt8 := 0
  asc : UInt8 := 0
  ascq : UInt8 := 0
deriving DecidableEq, Inhabited

/-- How a call of the transport went, `M65TransportStatus`. -/
inductive TransportStatus where
  | ok
  | permission
  | noDevice
  | timeout
  | io
  | protocol
deriving DecidableEq, Inhabited

/-- The direction of the data phase of a command, `M65DataDirection`. -/
inductive DataDirection where
  | none
  | dataIn
  | dataOut
deriving DecidableEq

/-- A command for a transport. `data` is NULL or a buffer of `dataLength` bytes. -/
structure Command where
  cdb : Vector UInt8 16
  cdbLength : ℕ
  direction : DataDirection
  dataLength : ℕ
  data : Option (Vector UInt8 dataLength)
  timeoutMs : ℕ
deriving DecidableEq

/-- What a transport says of a command, `M65CommandResult`. -/
structure CommandResult where
  transportStatus : TransportStatus := .ok
  scsiStatus : UInt8 := 0
  transferred : ℕ := 0
  sense : Sense := {}
  detail : ErrorText := Text.empty
deriving DecidableEq, Inhabited

/-- What a transport leaves behind when `execute` returns: the result, and the content of the
command's buffer of `n` bytes. -/
structure ExecuteReply (n : ℕ) where
  result : CommandResult
  buffer : Vector UInt8 n
deriving DecidableEq

/-- The code of a report, `M65ProbeCode`. -/
inductive ProbeCode where
  | ok
  | noDevice
  | permission
  | transport
  | unsupported
  | mismatch
  | usage
deriving DecidableEq, Inhabited

/-- The `n` bytes `memset` to zero with the first `length` bytes of `source` copied in. -/
def copyBytes {m : ℕ} (n : ℕ) (source : Vector UInt8 m) (length : ℕ) : Vector UInt8 n :=
  Vector.ofFn fun i => if i < length then source[(i : ℕ)]?.getD 0 else 0

/-- Byte `i` of a buffer. The code under study never reads past the end of a buffer; such a read
gives `0` here. -/
def byteAt (data : List UInt8) (i : ℕ) : UInt8 := data.getD i 0

end M65
