import StackDepth.Host

namespace StackDepth

/-- A file, a link or a directory. A file that can be run holds what running it does. -/
inductive Node where
  | file (contents : List UInt8) (run : Option ToolRun)
  | link (target : String)
  | directory (entries : List (String × Node))

namespace Node

def get? : Node → List String → Option Node
  | node, [] => some node
  | .directory entries, name :: names => do (← entries.lookup name).get? names
  | _, _ :: _ => none

end Node

structure FileTree where
  root : Node
  current : List String
  searchPath : List String

namespace FileTree

def linkLimit : Nat := 40

def nameLimit : Nat := 255

def pathLimit : Nat := 4095

def isAbsolute (path : String) : Bool := ['/'].isPrefixOf path.toList

def names (path : String) : List String :=
  (path.toList.splitOn '/').map String.ofList

def render (names : List String) : String :=
  "/" ++ "/".intercalate names

/-- Follows names from a directory, with so many links left to follow. What stands before another
name, even an empty one, has to be a directory. -/
def follow (root : Node) (links : Nat) (here : List String) (pending : List String) :
    Except HostFault (List String) :=
  match pending with
  | [] => .ok here
  | name :: pending =>
    match root.get? here with
    | some (.directory entries) =>
      if name = "" ∨ name = "." then follow root links here pending
      else if name = ".." then follow root links here.dropLast pending
      else if nameLimit < name.utf8ByteSize then .error .nameTooLong
      else match entries.lookup name with
        | none => .error .noEntry
        | some (.link target) =>
          match links with
          | 0 => .error .linkLoop
          | links + 1 =>
            follow root links (if isAbsolute target then [] else here) (names target ++ pending)
        | some _ => follow root links (here ++ [name]) pending
    | _ => .error .notDirectory
termination_by (links, pending.length)

def locate (tree : FileTree) (path : String) : Except HostFault (List String) :=
  if '\x00' ∈ path.toList then .error .nulInFileName
  else if path = "" then .error .noEntry
  else follow tree.root linkLimit (if isAbsolute path then [] else tree.current) (names path)

def node (tree : FileTree) (path : String) : Except HostFault Node := do
  if pathLimit < path.utf8ByteSize ∧ '\x00' ∉ path.toList then throw .nameTooLong
  match tree.root.get? (← tree.locate path) with
  | some node => return node
  | none => throw .noEntry

def isFile (tree : FileTree) (path : String) : Bool :=
  match tree.node path with
  | .ok (.file ..) => true
  | _ => false

def readFile (tree : FileTree) (path : String) : Except HostFault (List UInt8) := do
  match ← tree.node path with
  | .file contents _ => return contents
  | _ => throw .isDirectory

def runAt (tree : FileTree) (path : String) : Except HostFault ToolRun := do
  match ← tree.node path with
  | .file _ (some run) => return run
  | _ => throw .accessDenied

/-- Runs the first program of a name in a list of directories. One that may not be run is passed
over, but remembered where no other is found. -/
def runIn (tree : FileTree) (tool : String) : List String → Except HostFault ToolRun
  | [] => .error .noEntry
  | directory :: directories =>
    match tree.runAt (joinPath directory tool) with
    | .ok run => .ok run
    | .error .accessDenied =>
      match runIn tree tool directories with
      | .ok run => .ok run
      | .error _ => .error .accessDenied
    | .error .noEntry | .error .notDirectory => runIn tree tool directories
    | .error fault => .error fault

def runTool (tree : FileTree) (tool : String) : Except HostFault ToolRun :=
  if '\x00' ∈ tool.toList then .error .nulInCommand
  else if tool = "" then .error .noEntry
  else if '/' ∈ tool.toList then tree.runAt tool
  else tree.runIn tool tree.searchPath

def host (tree : FileTree) : Host (StateM (Option (List String))) where
  currentDirectory := pure (render tree.current)
  canonicalPath? path := pure ((tree.locate path).toOption.map render)
  isFile path := pure (tree.isFile path)
  readFile path := pure (tree.readFile path)
  runTool tool arguments := do
    match tree.runTool tool with
    | .ok run =>
      set (some arguments)
      return .ok run
    | .error fault => return .error fault

end FileTree

end StackDepth
