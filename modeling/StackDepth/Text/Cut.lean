import StackDepth.Text.White

namespace StackDepth.Text

def cut? {α : Type} (p : α → Bool) (s : List α) : Option (List α × List α) :=
  match s.dropWhile (fun c ↦ !p c) with
  | [] => none
  | _ :: after => some (s.takeWhile (fun c ↦ !p c), after)

def cutOn? (mark : List Char) : List Char → Option (List Char × List Char)
  | [] => if mark.isEmpty then some ([], []) else none
  | c :: s =>
    if mark.isPrefixOf (c :: s) then some ([], (c :: s).drop mark.length)
    else (cutOn? mark s).map fun r ↦ (c :: r.1, r.2)

def after? (mark s : List Char) : Option (List Char) :=
  if mark.isPrefixOf s then some (s.drop mark.length) else none

def dropEndWhile (p : Char → Bool) (s : List Char) : List Char :=
  (s.reverse.dropWhile p).reverse

def trim (s : List Char) : List Char :=
  dropEndWhile isWhite (s.dropWhile isWhite)

/-- The pieces between separators, without the empty piece after a final separator. -/
def pieces {α : Type} [BEq α] (separator : α) (s : List α) : List (List α) :=
  let all := s.splitOn separator
  if all.getLast?.all List.isEmpty then all.dropLast else all

def lines (s : List Char) : List (List Char) :=
  pieces '\n' s

/-- The lines of a text in which a carriage return may stand before a line feed and belongs to the
end of the line. -/
def rows (s : List Char) : List (List Char) :=
  let all := s.splitOn '\n'
  let ended := all.dropLast.map fun row ↦
    if row.getLast? = some '\r' then row.dropLast else row
  ended ++ all.getLast?.toList.filter fun row ↦ !row.isEmpty

def hang (indent : String) (s : String) : String :=
  s.replace "\n" ("\n" ++ indent)

end StackDepth.Text
