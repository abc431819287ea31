import ContentPolicy.Numbered

/-!
The versions of the policy language, and what each brought.
-/

namespace ContentPolicy

/-- A browser supports one version and those before it. -/
inductive Version where
  | csp1 | csp2 | csp3
deriving DecidableEq, Repr

instance : Numbered Version where
  family := "Version"
  members := [.csp1, .csp2, .csp3]
  number
    | .csp1 => 1
    | .csp2 => 2
    | .csp3 => 3
  label
    | .csp1 => "CSP1"
    | .csp2 => "CSP2"
    | .csp3 => "CSP3"

namespace Version

/-- Nonces and hashes came with the second version. -/
def knowsNonces : Version → Bool
  | .csp1 => false
  | .csp2 | .csp3 => true

/-- The keyword `'strict-dynamic'` and five directives came with the third version. -/
def knowsStrictDynamic : Version → Bool
  | .csp1 | .csp2 => false
  | .csp3 => true

end Version

end ContentPolicy
