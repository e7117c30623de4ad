import DocPress.Cli.Help
import DocPress.Markdown.Engine

/-!
# The program

The command line on the computer's own file system.
-/

namespace DocPress

/-- The number and the wording of an error of the system. -/
def systemError : IO.Error → Nat × String
  | .alreadyExists _ code details => (code.toNat, details)
  | .otherError code details => (code.toNat, details)
  | .resourceBusy code details => (code.toNat, details)
  | .resourceVanished code details => (code.toNat, details)
  | .unsupportedOperation code details => (code.toNat, details)
  | .hardwareFault code details => (code.toNat, details)
  | .unsatisfiedConstraints code details => (code.toNat, details)
  | .illegalOperation code details => (code.toNat, details)
  | .protocolError code details => (code.toNat, details)
  | .timeExpired code details => (code.toNat, details)
  | .interrupted _ code details => (code.toNat, details)
  | .noFileOrDirectory _ code details => (code.toNat, details)
  | .invalidArgument _ code details => (code.toNat, details)
  | .permissionDenied _ code details => (code.toNat, details)
  | .resourceExhausted _ code details => (code.toNat, details)
  | .inappropriateType _ code details => (code.toNat, details)
  | .noSuchThing _ code details => (code.toNat, details)
  | .unexpectedEof => (0, "unexpected end of file")
  | .userError message => (0, message)

/-- An operation on a path, with the fault that it may meet. -/
def attempt {α : Type} (path : Path) (action : IO α) : IO (Except DiskFault α) := do
  match ← action.toBaseIO with
  | .ok result => return .ok result
  | .error e =>
    let (number, wording) := systemError e
    return .error ⟨.ofNumber number wording, path.toString⟩

/-- The computer's own file system. -/
def localDisk : Disk IO where
  absolute path := do
    match ← (IO.FS.realPath path.toString).toBaseIO with
    | .ok found => return Path.ofString found.toString
    | .error _ =>
      let base := Path.ofString (← IO.currentDir).toString
      return { base.under path with names := Path.collapse (base.under path).names }
  entry path := do
    match ← (IO.FS.realPath path.toString).toBaseIO with
    | .error _ => return none
    | .ok found => return some (if ← found.isDir then .directory else .file)
  read path := attempt path do return (← IO.FS.readBinFile path.toString).toList
  write path bytes := attempt path (IO.FS.writeBinFile path.toString (ByteArray.mk bytes.toArray))
  makeDirectory path := attempt path (IO.FS.createDir path.toString)

end DocPress

/-- Run the program and leave what it says on the two streams. -/
def main (arguments : List String) : IO UInt32 := do
  let outcome ← DocPress.Cli.run DocPress.Markdown.engine DocPress.Plugin.idle DocPress.localDisk
    arguments
  let (status, streams) := outcome.report
  IO.print streams.output
  IO.eprint streams.error
  return status.toUInt32
