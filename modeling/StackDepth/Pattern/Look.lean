import StackDepth.Text.Ascii
import StackDepth.Text.Unicode.Named

namespace StackDepth.Pattern

inductive WordEdge where
  | boundary
  | noBoundary
  | start
  | stop
  | startHalf
  | stopHalf
  deriving DecidableEq, Repr

/-- Whether there is an edge between two places, of which it is known if they belong to words. -/
def WordEdge.holds : WordEdge → Bool → Bool → Bool
  | .boundary, before, after => before != after
  | .noBoundary, before, after => before == after
  | .start, before, after => !before && after
  | .stop, before, after => before && !after
  | .startHalf, before, _ => !before
  | .stopHalf, _, after => !after

inductive Look where
  | textStart
  | textStop
  | lineStart
  | lineStop
  | crlfStart
  | crlfStop
  | word (unicode : Bool) (edge : WordEdge)
  deriving DecidableEq, Repr

def wordCharacters (unicode : Bool) : Text.CharSet :=
  if unicode then Text.Unicode.wordCharacters else Text.Ascii.word

namespace Look

def holds (before after : Option Char) : Look → Bool
  | .textStart => before.isNone
  | .textStop => after.isNone
  | .lineStart => before.all (· == '\n')
  | .lineStop => after.all (· == '\n')
  | .crlfStart => before.all fun c ↦ c == '\n' || (c == '\r' && after != some '\n')
  | .crlfStop => after.all fun c ↦ c == '\r' || (c == '\n' && before != some '\r')
  | .word unicode edge =>
    let inWord (c : Char) : Bool := (wordCharacters unicode).contains c
    edge.holds (before.any inWord) (after.any inWord)

end Look

end StackDepth.Pattern
