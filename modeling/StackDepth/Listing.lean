import StackDepth.Listing.Scan
import StackDepth.Text.Utf8

namespace StackDepth.Listing

open Text

def ofText (listing : String) : Except Error (List Routine) :=
  ((lines listing.toList).foldlM Scan.next Scan.start).map Scan.routines

structure Stream where
  bytes : List UInt8
  failure : Option String

def Scan.nextBytes (scan : Scan) (bytes : List UInt8) : Except Error Scan :=
  match Utf8.decode? bytes with
  | some s => scan.next s
  | none => .error (.unreadable Utf8.invalidReason)

/-- The routines of a listing that comes as a stream. A line that is cut off by a failure is not
read. -/
def ofStream (stream : Stream) : Except Error (List Routine) :=
  match stream.failure with
  | none => ((pieces 10 stream.bytes).foldlM Scan.nextBytes Scan.start).map Scan.routines
  | some reason => do
    let _ ← (stream.bytes.splitOn 10).dropLast.foldlM Scan.nextBytes Scan.start
    .error (.unreadable reason)

end StackDepth.Listing
