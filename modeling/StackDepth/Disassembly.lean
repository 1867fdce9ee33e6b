import StackDepth.Host
import StackDepth.Listing
import StackDepth.Program

namespace StackDepth

structure Settings where
  listing : Option String
  disassembler : Option String
  logging : Option String

inductive Source where
  | listingFile (path : String)
  | disassembler (tool : String)
  deriving DecidableEq, Repr

namespace Source

def name : Source → String
  | .listingFile _ => "listing-file"
  | .disassembler _ => "objdump"

def defaultTool : String := "arm-none-eabi-objdump"

def ofTool (settings : Settings) : Source :=
  .disassembler (settings.disassembler.getD defaultTool)

/-- A listing that is named is preferred to a disassembler. -/
def ofSettings (settings : Settings) : Source :=
  match settings.listing with
  | some path => .listingFile path
  | none => ofTool settings

end Source

inductive LoadError where
  | missingBinary (path : String)
  | spawn (tool : String) (fault : HostFault)
  | toolFailed (tool : String) (status : ExitStatus) (stderr : String)
  | readListing (path : String) (fault : HostFault)
  | listing (error : Listing.Error)
  deriving DecidableEq, Repr

namespace LoadError

def message : LoadError → String
  | .missingBinary path => s!"Binary not found at {path}"
  | .spawn tool fault => s!"failed to spawn {tool}: {fault.message}"
  | .toolFailed tool status stderr => s!"{tool} exited with {status.text}: {stderr}"
  | .readListing path fault => s!"failed to read listing {path}: {fault.message}"
  | .listing error => error.message

def chain (e : LoadError) : List String :=
  match e with
  | .spawn _ fault | .readListing _ fault => [e.message, fault.message]
  | _ => [e.message]

end LoadError

structure Loaded where
  notices : List Notice
  outcome : Except LoadError Program

variable {m : Type → Type} [Monad m]

def Host.readListing (host : Host m) (path : String) : m (Except LoadError String) := do
  match ← host.readFile path with
  | .error fault => return .error (.readListing path fault)
  | .ok bytes =>
    match Utf8.decode? bytes with
    | some s => return .ok (String.ofList s)
    | none => return .error (.readListing path .notUtf8)

def Host.disassemble (host : Host m) (tool binary : String) : m (Except LoadError String) := do
  match ← host.runTool tool ["-d", binary] with
  | .error fault => return .error (.spawn tool fault)
  | .ok run =>
    if run.status = .code 0 then return .ok (String.ofList (Utf8.decodeLossy run.stdout))
    else
      let stderr := String.ofList (Text.trim (Utf8.decodeLossy run.stderr))
      return .error (.toolFailed tool run.status stderr)

def Host.listing (host : Host m) (binary : String) : Source → m (Except LoadError String)
  | .listingFile path => host.readListing path
  | .disassembler tool => host.disassemble tool binary

def Source.notices (binary : String) : Source → List Notice
  | .listingFile _ => []
  | .disassembler tool => [.toolStart tool binary]

/-- Loads the program of a binary, which has to be there even where its listing is at hand. -/
def Host.load (host : Host m) (source : Source) (binary : String) : m Loaded := do
  if ← host.isFile binary then
    let notices := source.notices binary
    match ← host.listing binary source with
    | .error e => return ⟨notices, .error e⟩
    | .ok listing =>
      match Listing.ofText listing with
      | .error e => return ⟨notices, .error (.listing e)⟩
      | .ok routines =>
        let p := Program.analyze routines
        let read := Notice.listingRead source.name routines.length binary
        return ⟨notices ++ read :: p.branchNotices, .ok p⟩
  else return ⟨[], .error (.missingBinary binary)⟩

end StackDepth
