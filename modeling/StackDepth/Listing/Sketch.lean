import StackDepth.Text.Word

namespace StackDepth.Listing

inductive Action where
  | reserve (bytes : UInt64)
  | call (target : UInt64) (symbol : String)
  | callRegister (register : String)
  | exit
  deriving DecidableEq, Repr

namespace Action

def rawBytes : Action → String
  | .reserve _ => "b082"
  | .call .. => "f7ff fffe"
  | .callRegister _ => "4798"
  | .exit => "4770"

def size : Action → Nat
  | .call .. => 4
  | _ => 2

def text : Action → String
  | .reserve bytes => s!"sub\tsp, #{bytes.toNat}"
  | .call target symbol => s!"bl\t{Text.digits16 target.toNat} <{symbol}>"
  | .callRegister register => s!"blx\t{register}"
  | .exit => "bx\tlr"

/-- The line of an instruction, its bytes followed by one blank at least and up to the same
column. -/
def line (address : Nat) (a : Action) : String :=
  let padding := String.ofList (List.replicate (10 - a.rawBytes.length) ' ')
  s!"    {Text.digits16 address}:\t{a.rawBytes}{padding}\t{a.text}"

end Action

structure Sketch where
  name : String
  entry : Nat
  actions : List Action
  deriving DecidableEq, Repr

namespace Sketch

def actionLines : Nat → List Action → List String
  | _, [] => []
  | address, a :: actions => a.line address :: actionLines (address + a.size) actions

/-- The header of a routine, its address in eight digits at least. -/
def header (s : Sketch) : String :=
  let address := Nat.toDigits 16 s.entry
  let padding := List.replicate (8 - address.length) '0'
  s!"{String.ofList (padding ++ address)} <{s.name}>:"

def lines (s : Sketch) : List String :=
  "" :: s.header :: actionLines s.entry s.actions

def preamble : List String :=
  ["", "fixture.elf:     file format elf32-littlearm", "", "", "Disassembly of section .text:"]

def listing (sketches : List Sketch) : String :=
  String.join ((preamble ++ sketches.flatMap lines).map (· ++ "\n"))

end Sketch

end StackDepth.Listing
