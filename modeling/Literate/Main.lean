import Literate.Command.Run

/-!
# The command line

The outer layer of the program: it gives the run access to the files of the system, prints the
two streams and ends with the exit code.
-/

namespace Literate

/-- The number by which the system says that a directory was read like a file. -/
def directoryErrorCode : UInt32 := 21

/-- A failure of the system as a failure of reading. -/
def ReadFailure.ofSystem : IO.Error → ReadFailure
  | .noFileOrDirectory .. => .notFound
  | .permissionDenied .. => .denied
  | .inappropriateType _ code _ =>
      if code = directoryErrorCode then .isDirectory else .notDirectory
  | e => .other (toString e)

def readSystemFile (path : Text) : IO (Except ReadFailure ByteArray) := do
  try
    return .ok (← IO.FS.readBinFile (String.ofList path))
  catch e => return .error (.ofSystem e)

/-- The files of the system. What cannot be read is no file. -/
def systemFiles : FileAccess IO where
  isFile path := return (← readSystemFile path).isOk
  read := readSystemFile

end Literate

def main (arguments : List String) : IO UInt32 := do
  let output ← Literate.run Literate.systemFiles (arguments.map String.toList)
  (← IO.getStderr).putStr (String.ofList output.stderr)
  (← IO.getStdout).putStr (String.ofList output.stdout)
  return output.exitCode.toUInt32
