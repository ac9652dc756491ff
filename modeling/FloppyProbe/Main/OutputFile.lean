import FloppyProbe.Interaction.Program
import FloppyProbe.Types

/-!
# The output file

`write_new_image` of `src/main.c`, as a program that calls the file system. The reply to a call
that failed is the text for its `errno`, and `write` accepts no more bytes than it is given.
-/

namespace M65

open Interaction

/-! ## Environment -/

/-- The calls of `write_new_image` to the file system. -/
inductive FileCall where
  /-- `open(path, O_WRONLY | O_CREAT | O_EXCL, 0600)`. -/
  | openExclusive (path : CString)
  | write (bytes : List UInt8)
  | close
  | unlink (path : CString)

/-- The result of writing `n` bytes. -/
inductive WriteReply (n : ℕ) where
  | failed (text : CString)
  | wrote (count : Fin (n + 1))

/-- What they return: an error is its text. -/
abbrev FileReply : FileCall → Type
  | .openExclusive _ => Option CString
  | .write bytes => WriteReply bytes.length
  | .close => Option CString
  | .unlink _ => Bool

variable {S : Type}

/-- The file is created, where there is none. -/
def openExclusive (path : CString) : Prog S FileReply (Option CString) :=
  Prog.call (FileCall.openExclusive path)

/-- The bytes are handed to `write`. -/
def writeBytes (bytes : List UInt8) : Prog S FileReply (WriteReply bytes.length) :=
  Prog.call (FileCall.write bytes)

/-- The file is closed. -/
def closeFile : Prog S FileReply (Option CString) := Prog.call FileCall.close

/-- The file is removed; whether that succeeds is not looked at. -/
def unlinkFile (path : CString) : Prog S FileReply Bool := Prog.call (FileCall.unlink path)

/-! ## Writing -/

/-- `forbidden_output_path`: the nodes of disks. -/
def forbiddenOutputPath (path : CString) : Bool :=
  path.bytes.take 9 == str "/dev/disk" || path.bytes.take 10 == str "/dev/rdisk"

/-- The loop of `write_new_image` for the bytes that are left; the file is removed on failure. -/
def writeRest (path : CString) (rest : List UInt8) : Prog S FileReply (Except ErrorText Unit) := do
  if rest = [] then
    return .ok ()
  match ← writeBytes rest with
  | .failed text =>
      let _ ← closeFile
      let _ ← unlinkFile path
      return .error (Text.format [str "output write failed: ", text.bytes])
  | .wrote count =>
      if _h : (count : ℕ) = 0 then
        let _ ← closeFile
        let _ ← unlinkFile path
        return .error (Text.format [str "output write failed: ", str "zero-byte write"])
      else
        writeRest path (rest.drop count)
termination_by rest.length
decreasing_by
  have hlt := count.isLt
  rw [List.length_drop]
  omega

/-- `write_new_image`. -/
def writeNewImage (path : CString) (image : List UInt8) :
    Prog S FileReply (Except ErrorText Unit) := do
  if forbiddenOutputPath path then
    return .error (errorText "output must be a new regular file, never a /dev disk node")
  if let some text ← openExclusive path then
    return .error (Text.format [str "cannot create output file exclusively: ", text.bytes])
  match ← writeRest path image with
  | .error detail => return .error detail
  | .ok () =>
      match ← closeFile with
      | none => return .ok ()
      | some text =>
          let _ ← unlinkFile path
          return .error (Text.format [str "closing output failed: ", text.bytes])

end M65
