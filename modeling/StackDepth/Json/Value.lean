import StackDepth.Json.Quoted

namespace StackDepth.Json

inductive Value where
  | number (n : Nat)
  | text (s : String)
  | list (items : List Value)
  | object (members : List (String × Value))

namespace Value

mutual

def render : Value → List Char
  | .number n => Nat.toDigits 10 n
  | .text s => Quoted.write s
  | .list items => '[' :: renderItems items ++ [']']
  | .object members => '\x7b' :: renderMembers members ++ ['\x7d']

def renderItems : List Value → List Char
  | [] => []
  | [v] => v.render
  | v :: items => v.render ++ ',' :: renderItems items

def renderMembers : List (String × Value) → List Char
  | [] => []
  | [(key, v)] => Quoted.write key ++ ':' :: v.render
  | (key, v) :: members => Quoted.write key ++ ':' :: v.render ++ ',' :: renderMembers members

end

end Value

end StackDepth.Json
