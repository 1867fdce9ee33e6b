import StackDepth.Notice
import StackDepth.Pattern

namespace StackDepth.Command

open Text

structure Directive where
  origin : Option String
  rank : Nat
  deriving DecidableEq, Repr

structure LogFilter where
  directives : List Directive
  pattern : Option Pattern

namespace LogFilter

def maxRank : Nat := Level.trace.rank

def lowercase (s : String) : String := String.ofList (s.toList.map Char.toLower)

def rank? (name : String) : Option Nat :=
  [("off", 0), ("error", Level.error.rank), ("warn", Level.warn.rank), ("info", Level.info.rank),
    ("debug", Level.debug.rank), ("trace", Level.trace.rank)].lookup (lowercase name)

def complaint (spec : String) : String :=
  s!"warning: invalid logging spec '{spec}', ignoring it"

def directive (s : String) : Except String Directive :=
  match (s.toList.splitOn '=').map String.ofList with
  | [name] =>
    match rank? name with
    | some rank => .ok ⟨none, rank⟩
    | none => .ok ⟨some name, maxRank⟩
  | [origin, level] =>
    let level := String.ofList (trim level.toList)
    if level = "" then .ok ⟨some origin, maxRank⟩
    else match rank? level with
      | some rank => .ok ⟨some origin, rank⟩
      | none => .error (complaint level)
  | _ => .error (complaint s)

def insert (d : Directive) : List Directive → List Directive
  | [] => [d]
  | e :: es => if e.origin = d.origin then d :: es else e :: insert d es

def readDirectives (s : String) : List Directive × List String :=
  let specs := ((s.toList.splitOn ',').map trim).filter (fun spec ↦ !spec.isEmpty)
  specs.foldl (fun (ds, complaints) spec ↦
    match directive (String.ofList spec) with
    | .ok d => (insert d ds, complaints)
    | .error complaint => (ds, complaints ++ [complaint])) ([], [])

/-- A filter from its text, and what there is to complain about. What follows a slash is the
pattern; one that cannot be read is left out. -/
def parse (spec : String) : LogFilter × List String :=
  match (spec.toList.splitOn '/').map String.ofList with
  | [origins] =>
    let (ds, complaints) := readDirectives origins
    (⟨ds, none⟩, complaints)
  | [origins, text] =>
    let (ds, complaints) := readDirectives origins
    match Pattern.ofText text with
    | .ok pattern => (⟨ds, some pattern⟩, complaints)
    | .error reason => (⟨ds, none⟩, complaints ++ ["warning: invalid regex filter - " ++ reason])
  | _ => (⟨[], none⟩, [complaint spec ++ " (too many '/'s)"])

def defaultSpec : String := "warn"

/-- The rank up to which notices of an origin are shown: that of the longest directive that it
begins with. Without any directive errors are shown. -/
def rankFor (filter : LogFilter) (origin : String) : Nat :=
  match filter.directives with
  | [] => Level.error.rank
  | ds =>
    let fitting := ds.filter fun d ↦ (d.origin.getD "").toList.isPrefixOf origin.toList
    let best := fitting.foldl (fun best d ↦
      let size := (d.origin.getD "").utf8ByteSize
      if best.1 ≤ size then (size, d.rank) else best) (0, 0)
    best.2

def shows (filter : LogFilter) (n : Notice) : Bool :=
  n.level.rank ≤ filter.rankFor n.origin &&
    filter.pattern.all fun pattern ↦ pattern.occursIn n.message

end LogFilter

def logLine (n : Notice) : String :=
  let level := n.level.name
  let padding := String.ofList (List.replicate (5 - level.length) ' ')
  let message := hang "    " n.message
  s!"[{level}{padding} {n.origin}] {message}"

end StackDepth.Command
