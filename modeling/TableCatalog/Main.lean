import TableCatalog.CommandLine

/-!
# The program

Arguments and bytes go in, the answer of the command line comes out.
-/

namespace TableCatalog.Program

/-- Why a path cannot be read, told from the number that the system gives. -/
def fileError (error : IO.Error) : FileError :=
  match error with
  | .noFileOrDirectory _ code details | .resourceExhausted (some _) code details
  | .inappropriateType (some _) code details | .invalidArgument (some _) code details
  | .permissionDenied (some _) code details => .ofCode code details
  | .inappropriateType none code details | .invalidArgument none code details
  | .permissionDenied none code details | .resourceExhausted none code details
  | .otherError code details => .ofCode code details
  | other => .system other.toString

/-- All bytes of a stream. -/
partial def readAll (stream : IO.FS.Stream) (read : ByteArray) : IO ByteArray := do
  let more ← stream.read 65536
  if more.isEmpty then pure read else readAll stream (read ++ more)

/-- What reading a source comes to. -/
def content (source : Source) : IO (Except FileError (List UInt8)) := do
  try
    let bytes ← match source with
      | .file path => IO.FS.readBinFile path
      | .standardInput => readAll (← IO.getStdin) ByteArray.empty
    pure (.ok bytes.toList)
  catch error => pure (.error (fileError error))

end TableCatalog.Program

open TableCatalog in
/-- Runs the command line on the arguments of the program. -/
def main (arguments : List String) : IO UInt32 := do
  let answer ← CommandLine.respond Program.content arguments
  IO.eprint answer.errorText
  IO.print answer.output
  pure answer.exitCode
