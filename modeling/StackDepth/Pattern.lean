import StackDepth.Pattern.Meaning
import StackDepth.Pattern.Parse
import StackDepth.Pattern.Size

namespace StackDepth

structure Pattern where
  expr : Pattern.Expr

namespace Pattern

def tooLarge : String := s!"Compiled regex exceeds size limit of {sizeLimit} bytes."

def ofText (text : String) : Except String Pattern :=
  let chars := text.toList
  let meaning := do
    let (expr, _) ← (← Tree.ofText chars).meaning.run {}
    return expr
  match meaning with
  | .error flaw => .error (flaw.report chars)
  | .ok expr => if expr.fits then .ok ⟨expr⟩ else .error tooLarge

def occursIn (p : Pattern) (text : String) : Bool := p.expr.occursIn text.toList

end Pattern

end StackDepth
