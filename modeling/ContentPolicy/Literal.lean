import ContentPolicy.Text.Quoted
import ContentPolicy.Text.Numeral

/-!
Values as a configuration or a request offers them, before their type has been looked at.
-/

namespace ContentPolicy

inductive Literal where
  | null
  | bool (b : Bool)
  | int (n : Int)
  /-- The number `digits / 10 ^ places`, below zero if it is negative; zero has both signs. -/
  | decimal (negative : Bool) (digits places : Nat)
  /-- A number beyond all decimals. -/
  | infinite (negative : Bool)
  /-- What stands where a number should and is none. -/
  | undefined
  | text (s : String)
  | list (items : List Literal)
  | record (fields : List (String × Literal))
deriving Inhabited

namespace Literal

mutual

/-- The text that shows a value to a reader. -/
def render : Literal → String
  | .null => "None"
  | .bool true => "True"
  | .bool false => "False"
  | .int n => toString n
  | .decimal negative digits places => Text.decimalText negative digits places
  | .infinite negative => if negative then "-inf" else "inf"
  | .undefined => "nan"
  | .text s => Text.quoted s
  | .list items => "[" ++ ", ".intercalate (renderItems items) ++ "]"
  | .record fields => "\x7b" ++ ", ".intercalate (renderFields fields) ++ "\x7d"

def renderItems : List Literal → List String
  | [] => []
  | v :: r => v.render :: renderItems r

def renderFields : List (String × Literal) → List String
  | [] => []
  | (key, v) :: r => (Text.quoted key ++ ": " ++ v.render) :: renderFields r

end

/-- The whole number that a value is equal to; the truth values are 0 and 1. -/
def whole? : Literal → Option Int
  | .bool b => some b.toInt
  | .int n => some n
  | .decimal negative digits places =>
    if digits % Nat.pow 10 places = 0 then
      let n : Int := (digits / Nat.pow 10 places : Nat)
      some (if negative then -n else n)
    else none
  | _ => none

/-- The parts of a value that has parts: characters, items or keys. -/
def parts? : Literal → Option (List Literal)
  | .text s => some (s.toList.map fun c => .text (.singleton c))
  | .list items => some items
  | .record fields => some (fields.map fun (key, _) => .text key)
  | _ => none

/-- Nothing, false, zero, and what has no parts. -/
def isEmpty : Literal → Bool
  | .null => true
  | .bool b => !b
  | .int n => n == 0
  | .decimal _ digits _ => digits == 0
  | .infinite _ | .undefined => false
  | .text s => s.isEmpty
  | .list items => items.isEmpty
  | .record fields => fields.isEmpty

def text? : Literal → Option String
  | .text s => some s
  | _ => none

end Literal

end ContentPolicy
