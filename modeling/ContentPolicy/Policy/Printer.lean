import ContentPolicy.Literal
import ContentPolicy.Policy.Basic

/-!
Writing policies: as a header has them, and as a value to look at.
-/

namespace ContentPolicy

namespace Policy

/-- Each directive is followed by a semicolon and a space, the last one too. -/
def serialize (p : Policy) : String :=
  String.join (p.directives.map fun d => " ".intercalate (d.1 :: d.2) ++ "; ")

def display (p : Policy) : String :=
  let fields := p.directives.map fun d => (d.1, Literal.list (d.2.map .text))
  "Policy(" ++ (Literal.record fields).render ++ ")"

end Policy

namespace Collection

def serializeEach (c : Collection) : List String := c.map Policy.serialize

def serialize (c : Collection) : String := ", ".intercalate c.serializeEach

end Collection

end ContentPolicy
