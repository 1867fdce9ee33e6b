import StackDepth.Json.Numeral
import StackDepth.Json.Quoted

namespace StackDepth.Json

open Reader

inductive Bracket where
  | list
  | object

def Bracket.close : Bracket → Char
  | .list => ']'
  | .object => '\x7d'

def literalRest? : Char → Option (List Char)
  | 'n' => some "ull".toList
  | 't' => some "rue".toList
  | 'f' => some "alse".toList
  | _ => none

def skimScalar (c : Char) : Reader Unit :=
  match literalRest? c with
  | some rest => do
    skip
    expectAll rest
  | none =>
    if c = '"' then do
      skip
      Quoted.skim
    else if c = '-' || Numeral.isDigit c then do
      let _ ← Numeral.read .malformed
    else fail .malformed

def skimKey : Reader Unit := do
  punctuation '"'
  Quoted.skim
  punctuation ':'

theorem length_lt_of_dropWhile {p : Char → Bool} {s t : List Char} {c : Char}
    (h : s.dropWhile p = c :: t) : t.length < s.length := by
  have hle := (List.dropWhile_suffix p (l := s)).length_le
  rw [h] at hle
  exact hle

mutual

/-- Passes over a value inside the brackets `opened`, innermost first, and all that follows up to
their ends. -/
def skimValue (opened : List Bracket) (s : List Char) : Except Fault (Read Unit s) :=
  match h : s.dropWhile isBlank with
  | [] => .error .endOfText
  | c :: t =>
    have ht := length_lt_of_dropWhile h
    if c = '[' then
      match h' : t.dropWhile isBlank with
      | ']' :: u =>
        have hu := length_lt_of_dropWhile h'
        (skimRest opened u).map (Read.widen (by omega))
      | _ => (skimValue (.list :: opened) t).map (Read.widen (by omega))
    else if c = '\x7b' then
      match h' : t.dropWhile isBlank with
      | '\x7d' :: u =>
        have hu := length_lt_of_dropWhile h'
        (skimRest opened u).map (Read.widen (by omega))
      | _ =>
        match skimKey t with
        | .error e => .error e
        | .ok r =>
          have hr := r.le
          (skimValue (.object :: opened) r.rest).map (Read.widen (by omega))
    else
      match skimScalar c (c :: t) with
      | .error e => .error e
      | .ok r =>
        have hr : r.rest.length ≤ t.length + 1 := r.le
        (skimRest opened r.rest).map (Read.widen (by omega))
termination_by 2 * s.length + 1

def skimRest (opened : List Bracket) (s : List Char) : Except Fault (Read Unit s) :=
  match opened with
  | [] => .ok ⟨(), s, Nat.le_refl _⟩
  | b :: outer =>
    match h : s.dropWhile isBlank with
    | [] => .error .endOfText
    | c :: t =>
      have ht := length_lt_of_dropWhile h
      if c = ',' then
        match b with
        | .list => (skimValue (.list :: outer) t).map (Read.widen (by omega))
        | .object =>
          match skimKey t with
          | .error e => .error e
          | .ok r =>
            have hr := r.le
            (skimValue (.object :: outer) r.rest).map (Read.widen (by omega))
      else if c = b.close then (skimRest outer t).map (Read.widen (by omega))
      else .error .malformed
termination_by 2 * s.length

end

def skim : Reader Unit := skimValue []

end StackDepth.Json
