import Wireform.CommandLine

/-!
# The program

The command line on the real file system.
-/

namespace Wireform

/-- The file error for an error of the operating system. -/
def fileError : IO.Error → FileError
  | .noFileOrDirectory .. => .noSuchFile
  | .alreadyExists .. => .fileExists
  | .inappropriateType _ 20 _ => .notDirectory
  | .inappropriateType _ 21 _ => .isDirectory
  | .resourceExhausted _ 28 _ => .noSpace
  | error => .other (toString error)

/-- Run a file operation and keep its error. -/
def attempt {α : Type} (action : IO α) : IO (Except FileError α) := do
  try
    return .ok (← action)
  catch error =>
    return .error (fileError error)

def realFiles : FileAccess IO where
  read path := attempt do
    return (← IO.FS.readBinFile path).toList
  write path bytes := attempt do
    IO.FS.writeBinFile path ⟨bytes.toArray⟩
  makeDirectories path := attempt do
    if path ≠ "" then IO.FS.createDirAll path

end Wireform

/-- Run the command line, print what it leaves and return its exit code. -/
def main (arguments : List String) : IO UInt32 := do
  let transcript ← Wireform.CommandLine.run Wireform.realFiles arguments
  IO.print transcript.output
  for line in transcript.errors do
    IO.eprintln line
  return UInt32.ofNat transcript.exitCode
