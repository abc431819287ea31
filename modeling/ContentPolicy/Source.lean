import ContentPolicy.Text.Case
import ContentPolicy.Text.Word
import ContentPolicy.Vocabulary

/-!
Source expressions: the values of a directive, and the classes that are told by spelling alone.
-/

namespace ContentPolicy.Source

/-- The blanks between words; other controls belong to words. -/
def isBlank (c : Char) : Bool :=
  ['\t', '\n', '\x0b', '\x0c', '\r', ' ', '\xa0'].contains c

def isQuoted (value : String) : Bool := value.toList.head? == some '\x27'

def isKeyword (value : String) : Bool := Keyword.all.contains value

def isSchemeTail (c : Char) : Bool :=
  c.isAlphanum || c = '+' || c = '.' || c = '-'

/- A letter and more of a scheme, then a colon. -/
def isSchemeText : List Char → Bool
  | [] => false
  | c :: r => c.isAlpha && r.getLast? == some ':' && r.dropLast.all isSchemeTail

def isUrlScheme (value : String) : Bool := isSchemeText (Text.dropFinalBreak value.toList)

/- What stands between an opening and the closing tick: at least one character, on one line. -/
def payload? (opening : String) (value : String) : Option (List Char) :=
  (opening.toList.isPrefixOf? (Text.dropFinalBreak value.toList)).bind fun r =>
    if r.getLast? == some '\x27' && !r.dropLast.isEmpty && !r.dropLast.contains '\n'
    then some r.dropLast else none

def isBase64 (c : Char) : Bool := c.isAlphanum || c = '+' || c = '/'

def isBase64Url (c : Char) : Bool := isBase64 c || c = '_' || c = '-'

/- Digits, at least one, and up to two signs of padding. -/
def isPadded (isDigit : Char → Bool) (cs : List Char) : Bool :=
  !(cs.takeWhile isDigit).isEmpty &&
    [[], ['='], ['=', '=']].contains (cs.dropWhile isDigit)

def nonce? (value : String) : Option (List Char) := payload? "'nonce-" value

def isNonce (value : String) : Bool := (nonce? value).isSome

/-- Nonces whose text could be the base64 form of something. -/
def isStrictNonce (value : String) : Bool := (nonce? value).any (isPadded isBase64Url)

def hashOpenings : List String := ["'sha256-", "'sha384-", "'sha512-"]

def hash? (value : String) : Option (List Char) := hashOpenings.findSome? (payload? · value)

def isHash (value : String) : Bool := (hash? value).isSome

def isStrictHash (value : String) : Bool := (hash? value).any (isPadded isBase64)

/-- Blanks around it dropped; keywords and schemes in small letters, all else in its own. -/
def normalize (value : String) : String :=
  let v : String := .ofList (Text.trim isBlank value.toList)
  if isKeyword (Text.lower v) || isUrlScheme v then Text.lower v else v

def isSchemeWord (c : Char) : Bool := Text.isWord c || c = '+' || c = '.' || c = '-'

def dropScheme (cs : List Char) : List Char :=
  match cs with
  | [] => []
  | c :: r =>
    if Text.isWord c then (("://".toList).isPrefixOf? (r.dropWhile isSchemeWord)).getD cs else cs

/-- The source without its scheme and without the two slashes before its host. -/
def schemeFree (value : String) : String :=
  let cs := dropScheme value.toList
  .ofList (("//".toList.isPrefixOf? cs).getD cs)

end ContentPolicy.Source
