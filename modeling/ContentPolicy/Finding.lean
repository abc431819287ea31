import ContentPolicy.Numbered

/-!
What an evaluation finds, how bad it is, and the order of a report.
-/

namespace ContentPolicy

/-- The smaller its number, the worse. -/
inductive Severity where
  | high | syntactic | medium | highMaybe | strictCsp | mediumMaybe | info | none
deriving DecidableEq, Repr

instance : Numbered Severity where
  family := "Severity"
  members := [.high, .syntactic, .medium, .highMaybe, .strictCsp, .mediumMaybe, .info, .none]
  number
    | .high => 10
    | .syntactic => 20
    | .medium => 30
    | .highMaybe => 40
    | .strictCsp => 45
    | .mediumMaybe => 50
    | .info => 60
    | .none => 100
  label
    | .high => "HIGH"
    | .syntactic => "SYNTAX"
    | .medium => "MEDIUM"
    | .highMaybe => "HIGH_MAYBE"
    | .strictCsp => "STRICT_CSP"
    | .mediumMaybe => "MEDIUM_MAYBE"
    | .info => "INFO"
    | .none => "NONE"

/-- What a finding is about. -/
inductive Topic where
  | missingSemicolon | unknownDirective | invalidKeyword | nonceCharset
  | missingDirectives | scriptUnsafeInline | scriptUnsafeEval | plainUrlSchemes | plainWildcard
  | scriptAllowlistBypass | objectAllowlistBypass | nonceLength | ipSource | deprecatedDirective
  | srcHttp
  | strictDynamic | strictDynamicNotStandalone | nonceHash | unsafeInlineFallback
  | allowlistFallback | ignored
  | requireTrustedTypesForScripts
  | internalError
deriving DecidableEq, Repr

instance : Numbered Topic where
  family := "Type"
  members := [.missingSemicolon, .unknownDirective, .invalidKeyword, .nonceCharset,
    .missingDirectives, .scriptUnsafeInline, .scriptUnsafeEval, .plainUrlSchemes, .plainWildcard,
    .scriptAllowlistBypass, .objectAllowlistBypass, .nonceLength, .ipSource,
    .deprecatedDirective, .srcHttp,
    .strictDynamic, .strictDynamicNotStandalone, .nonceHash, .unsafeInlineFallback,
    .allowlistFallback, .ignored, .requireTrustedTypesForScripts, .internalError]
  number
    | .missingSemicolon => 100
    | .unknownDirective => 101
    | .invalidKeyword => 102
    | .nonceCharset => 106
    | .missingDirectives => 300
    | .scriptUnsafeInline => 301
    | .scriptUnsafeEval => 302
    | .plainUrlSchemes => 303
    | .plainWildcard => 304
    | .scriptAllowlistBypass => 305
    | .objectAllowlistBypass => 306
    | .nonceLength => 307
    | .ipSource => 308
    | .deprecatedDirective => 309
    | .srcHttp => 310
    | .strictDynamic => 400
    | .strictDynamicNotStandalone => 401
    | .nonceHash => 402
    | .unsafeInlineFallback => 403
    | .allowlistFallback => 404
    | .ignored => 405
    | .requireTrustedTypesForScripts => 500
    | .internalError => 900
  label
    | .missingSemicolon => "MISSING_SEMICOLON"
    | .unknownDirective => "UNKNOWN_DIRECTIVE"
    | .invalidKeyword => "INVALID_KEYWORD"
    | .nonceCharset => "NONCE_CHARSET"
    | .missingDirectives => "MISSING_DIRECTIVES"
    | .scriptUnsafeInline => "SCRIPT_UNSAFE_INLINE"
    | .scriptUnsafeEval => "SCRIPT_UNSAFE_EVAL"
    | .plainUrlSchemes => "PLAIN_URL_SCHEMES"
    | .plainWildcard => "PLAIN_WILDCARD"
    | .scriptAllowlistBypass => "SCRIPT_ALLOWLIST_BYPASS"
    | .objectAllowlistBypass => "OBJECT_ALLOWLIST_BYPASS"
    | .nonceLength => "NONCE_LENGTH"
    | .ipSource => "IP_SOURCE"
    | .deprecatedDirective => "DEPRECATED_DIRECTIVE"
    | .srcHttp => "SRC_HTTP"
    | .strictDynamic => "STRICT_DYNAMIC"
    | .strictDynamicNotStandalone => "STRICT_DYNAMIC_NOT_STANDALONE"
    | .nonceHash => "NONCE_HASH"
    | .unsafeInlineFallback => "UNSAFE_INLINE_FALLBACK"
    | .allowlistFallback => "ALLOWLIST_FALLBACK"
    | .ignored => "IGNORED"
    | .requireTrustedTypesForScripts => "REQUIRE_TRUSTED_TYPES_FOR_SCRIPTS"
    | .internalError => "INTERNAL_ERROR"

/-- How loudly a finding is told. -/
inductive Level where
  | error | warning | info
deriving DecidableEq, Repr

instance : Numbered Level where
  family := "Level"
  members := [.error, .warning, .info]
  number
    | .error => 40
    | .warning => 30
    | .info => 20
  label
    | .error => "ERROR"
    | .warning => "WARNING"
    | .info => "INFO"

def Severity.number (s : Severity) : Nat := Numbered.number s

def Severity.label (s : Severity) : String := Numbered.label s

def Severity.level (s : Severity) : Level :=
  if s.number ≤ Severity.syntactic.number then .error
  else if s.number ≤ Severity.highMaybe.number then .warning
  else .info

/-- The value is there if the finding is about one value and not about the whole directive. -/
structure Finding where
  topic : Topic
  severity : Severity
  directive : String
  value : Option String
  description : String
deriving DecidableEq, Repr

namespace Finding

def level (f : Finding) : Level := f.severity.level

/-- The worst severity there is, and none for no finding. -/
def highest (fs : List Finding) : Severity :=
  fs.foldl (fun s f => if f.severity.number < s.number then f.severity else s) .none

/-- Worst first; findings of one severity stay in their order. -/
def sort (fs : List Finding) : List Finding :=
  fs.mergeSort fun f g => f.severity.number ≤ g.severity.number

end Finding

end ContentPolicy
