import AqlPipeline.CommandLine.Run

/-!
# The program
-/

namespace AqlPipeline

/-- The fault of a number, which some calls of the system give with the opposite sign. -/
def faultOfCode (code : UInt32) (reason : String) : FileFault :=
  let number := min code.toNat (-code).toNat
  let known : List FileFault :=
    [.notFound, .alreadyExists, .notDirectory, .isDirectory, .nameTooLong]
  (known.find? fun fault => fault.code == number).getD ⟨reason, number⟩

/-- The fault behind an error of the system. -/
def faultOf : IO.Error → FileFault
  | .noFileOrDirectory _ code reason => faultOfCode code reason
  | .inappropriateType _ code reason => faultOfCode code reason
  | .alreadyExists _ code reason => faultOfCode code reason
  | .permissionDenied _ code reason => faultOfCode code reason
  | .invalidArgument _ code reason => faultOfCode code reason
  | .resourceExhausted _ code reason => faultOfCode code reason
  | .otherError code reason => faultOfCode code reason
  | error => ⟨toString error, 5⟩

/-- Does something with files, and catches its fault. -/
def attempt {α : Type} (action : IO α) : IO (Except FileFault α) := do
  match ← action.toBaseIO with
  | .ok value => return .ok value
  | .error error => return .error (faultOf error)

/-- The files of the system. -/
def systemFiles : FileSystem IO where
  read path := attempt (IO.FS.readFile path)
  write path text := attempt (IO.FS.writeFile path text)
  makeDirectory path := attempt (IO.FS.createDir path)

end AqlPipeline

open AqlPipeline in
/-- Runs the program. -/
def main (arguments : List String) : IO UInt32 := do
  let environment ← IO.getEnv CommandLine.environmentName
  let ending ← CommandLine.run systemFiles environment arguments
  IO.print ending.output
  match ending.report? with
  | some report => IO.eprintln report
  | none => if ending = .misused then IO.eprint (CommandLine.helpText environment .all)
  return ending.status.toUInt32
