import ContentPolicy.Address
import ContentPolicy.Text.Case

/-!
The parts of a URL. All text has parts; only the host between two slashes can be malformed.
-/

namespace ContentPolicy

structure Url where
  scheme : String
  netloc : String
  path : String
  query : String
  fragment : String
deriving DecidableEq, Repr

/-- Why a text is no URL. -/
inductive UrlError where
  | unbalancedBrackets
  | malformedFutureAddress
  | noAddress (host : String)
  | v4InBrackets
  /-- Some character of the host is a spelling of a delimiter. -/
  | hiddenDelimiter (netloc : String)

def UrlError.message : UrlError → String
  | .unbalancedBrackets => "Invalid IPv6 URL"
  | .malformedFutureAddress => "IPvFuture address is invalid"
  | .noAddress host => Text.quoted host ++ " does not appear to be an IPv4 or IPv6 address"
  | .v4InBrackets => "An IPv4 address cannot be in brackets"
  | .hiddenDelimiter netloc =>
    "netloc '" ++ netloc ++ "' contains invalid characters under NFKC normalization"

namespace Url

def empty : Url := ⟨"", "", "", "", ""⟩

/- Controls and spaces in front, and line breaks and tabs anywhere, are no part of a URL. -/
def clean (cs : List Char) : List Char :=
  (cs.dropWhile (· ≤ ' ')).filter fun c => c != '\t' && c != '\n' && c != '\r'

def isSchemeText : List Char → Bool
  | [] => false
  | c :: r => c.isAlpha && r.all fun c => c.isAlphanum || c = '+' || c = '-' || c = '.'

def splitScheme (cs : List Char) : List Char × List Char :=
  let (scheme, r) := Text.cut ':' cs
  if cs.contains ':' && isSchemeText scheme then (scheme.map Char.toLower, r) else ([], cs)

def endsNetloc (c : Char) : Bool := c = '/' || c = '?' || c = '#'

def splitNetloc : List Char → List Char × List Char
  | '/' :: '/' :: r => (r.takeWhile (!endsNetloc ·), r.dropWhile (!endsNetloc ·))
  | cs => ([], cs)

def isFutureAddress (cs : List Char) : Bool :=
  match cs.drop 1 |>.dropWhile Address.isHexDigit with
  | '.' :: _ :: _ => (cs.drop 1).head?.any Address.isHexDigit
  | _ => false

def checkBracketed (host : List Char) : Except UrlError Unit :=
  if host.head? == some 'v' then
    if isFutureAddress host then .ok () else .error .malformedFutureAddress
  else match Address.parse? (.ofList host) with
    | none => .error (.noAddress (.ofList host))
    | some a => if a.isV4 then .error .v4InBrackets else .ok ()

def checkBrackets (netloc : List Char) : Except UrlError Unit :=
  if netloc.contains '[' != netloc.contains ']' then .error .unbalancedBrackets
  else if netloc.contains '[' then
    let h := Text.afterLast '@' netloc
    if h.contains '[' then
      let (before, inside) := Text.cut '[' h
      let (host, after) := Text.cut ']' inside
      if before.isEmpty && (after.isEmpty || after.head? == some ':') then checkBracketed host
      else .error .unbalancedBrackets
    else checkBracketed (Text.cut ':' h).1
  else .ok ()

/- The characters whose compatibility form has a delimiter of URLs in it. -/
def delimiterLikes : List Nat := [
  0x2047, 0x2048, 0x2049, 0x2100, 0x2101, 0x2105, 0x2106, 0x2a74, 0xfe13, 0xfe16, 0xfe55, 0xfe56,
  0xfe5f, 0xfe6b, 0xff03, 0xff0f, 0xff1a, 0xff1f, 0xff20]

def checkNetloc (netloc : List Char) : Except UrlError Unit :=
  match checkBrackets netloc with
  | .error e => .error e
  | .ok () => if netloc.any fun c => delimiterLikes.contains c.toNat
    then .error (.hiddenDelimiter (.ofList netloc)) else .ok ()

def split (text : String) : Except UrlError Url :=
  let (scheme, r) := splitScheme (clean text.toList)
  let (netloc, r) := splitNetloc r
  match checkNetloc netloc with
  | .error e => .error e
  | .ok () =>
    let (r, fragment) := Text.cut '#' r
    let (path, query) := Text.cut '?' r
    .ok ⟨.ofList scheme, .ofList netloc, .ofList path, .ofList query, .ofList fragment⟩

/- The host is between brackets, or ends at the first colon. -/
def hostText (netloc : List Char) : List Char :=
  let h := Text.afterLast '@' netloc
  if h.contains '[' then (Text.cut ']' (Text.cut '[' h).2).1 else (Text.cut ':' h).1

/- A zone keeps its case. -/
def lowerHost (host : List Char) : List Char :=
  Text.lowerChars (host.takeWhile (· != '%')) ++ host.dropWhile (· != '%')

def hostname (u : Url) : Option String :=
  let h := hostText u.netloc.toList
  if h.isEmpty then none else some (.ofList (lowerHost h))

/-- The host without brackets and without what stands around it; empty if there is none. -/
def domain (u : Url) : String := u.hostname.getD ""

end Url

end ContentPolicy
