import ModelCodegen.CommandLine.Session

/-!
# The program

The command line on a real file system: its requests go to the system, and the faults of the system
are told apart as far as the program does.
-/

namespace ModelCodegen

/-- The fault that a system's error stands for. -/
def FileFault.ofSystem : IO.Error → FileFault
  | .noFileOrDirectory .. => .notFound
  | .alreadyExists .. => .alreadyExists
  | .inappropriateType _ code _ => if code = 21 then .isADirectory else .notADirectory
  | _ => .refused

/-- A request to the system with its fault as an answer. -/
def answered {α : Type} (request : IO α) : IO (Except FileFault α) := do
  match ← request.toBaseIO with
  | .ok value => return .ok value
  | .error error => return .error (.ofSystem error)

instance : FileSystem IO where
  readText path := do
    match ← answered (IO.FS.readBinFile path) with
    | .error fault => return .error fault
    | .ok bytes =>
      match String.fromUTF8? bytes with
      | some text => return .ok text
      | none => return .error .invalidData
  isFile path := do
    let path := (← IO.currentDir) / path
    return (← path.pathExists) && !(← path.isDir)
  isDirectory path := do ((← IO.currentDir) / path).isDir
  makeDirectory path := answered (IO.FS.createDir path)
  writeText path text := answered (IO.FS.writeFile path text)
  moveFile source target := answered (IO.FS.rename source target)

end ModelCodegen

open ModelCodegen in
/-- Run the program with the arguments of the command line. -/
def main (arguments : List String) : IO UInt32 := do
  let outcome ← CommandLine.session arguments
  outcome.output.forM IO.println
  outcome.errors.forM IO.eprintln
  return outcome.exitCode.toUInt32
