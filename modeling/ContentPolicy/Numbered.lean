import ContentPolicy.Literal

/-!
Closed families of named numbers, such as versions and severities.
-/

namespace ContentPolicy

class Numbered (α : Type) where
  family : String
  members : List α
  number : α → Nat
  label : α → String

/-- A value was offered as a member of a family that has no member of that number. -/
structure NoMember where
  family : String
  value : Literal

def NoMember.message (e : NoMember) : String :=
  e.value.render ++ " is not a valid " ++ e.family

namespace Numbered

variable {α : Type} [Numbered α]

def ofWhole? (n : Int) : Option α :=
  (members (α := α)).find? fun a => (number a : Int) == n

def ofLiteral (v : Literal) : Except NoMember α :=
  match v.whole?.bind ofWhole? with
  | some a => .ok a
  | none => .error ⟨family α, v⟩

end Numbered

end ContentPolicy
