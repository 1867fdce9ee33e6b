import StackDepth.Command.Line

namespace StackDepth.Main

def faultOfCode (code : UInt32) : HostFault :=
  if code = 13 then .accessDenied
  else if code = 20 then .notDirectory
  else if code = 21 then .isDirectory
  else if code = 36 then .nameTooLong
  else if code = 40 then .linkLoop
  else .noEntry

def faultOfError : IO.Error → HostFault
  | .permissionDenied _ code _ | .inappropriateType _ code _ | .otherError code _
  | .unsatisfiedConstraints code _ | .resourceExhausted _ code _ => faultOfCode code
  | .invalidArgument _ code _ => if code = 22 then .nulInFileName else faultOfCode code
  | _ => .noEntry

partial def readAll (stream : IO.FS.Stream) (done : ByteArray) : IO ByteArray := do
  let more ← stream.read 65536
  if more.isEmpty then return done else readAll stream (done ++ more)

def host : Host IO where
  currentDirectory := return (← IO.currentDir).toString
  canonicalPath? path := do
    try return some (← IO.FS.realPath path).toString
    catch _ => return none
  isFile path := do
    try return (← (← IO.FS.realPath path).metadata).type == .file
    catch _ => return false
  readFile path := do
    try return .ok (← IO.FS.readBinFile path).toList
    catch e => return .error (faultOfError e)
  runTool _ _ := do
    let output ← readAll (← IO.getStdin) .empty
    return .ok ⟨output.toList, [], .code 0⟩

def settings : IO Settings := do
  return ⟨← IO.getEnv "STACK_GAUGE_FAKE_LISTING", ← IO.getEnv "OBJDUMP", ← IO.getEnv "RUST_LOG"⟩

end StackDepth.Main

open StackDepth in
def main (arguments : List String) : IO UInt32 := do
  let outcome ← Command.run Main.host (← Main.settings) arguments
  IO.print outcome.stdout
  IO.eprint (if outcome.exit = 2 then Command.usageText else outcome.stderr)
  return UInt32.ofNat outcome.exit
