import ContentPolicy.Check.Allowlist
import ContentPolicy.Check.Grammar
import ContentPolicy.Check.Strict
import ContentPolicy.Check.Weakness

/-!
The checks by name, in the order in which they run.
-/

namespace ContentPolicy.Check

def grammarChecks : List Check := [
  perPolicy "check_unknown_directive" unknownDirective,
  perPolicy "check_missing_semicolon" missingSemicolon,
  perPolicy "check_invalid_keyword" invalidKeyword]

def strictChecks : List Check := [
  perPolicy "check_strict_dynamic" strictDynamic,
  perPolicy "check_strict_dynamic_not_standalone" strictDynamicNotStandalone,
  perPolicy "check_unsafe_inline_fallback" unsafeInlineFallback,
  perPolicy "check_allowlist_fallback" allowlistFallback,
  ofFindings "check_requires_trusted_types_for_scripts" requiresTrustedTypesForScripts]

/-- Run on the policies as they were written. -/
def parsedChecks : List Check := grammarChecks ++ strictChecks

/-- Run on the policies as the browser enforces them. -/
def effectiveChecks (b : BypassLists) : List Check := [
  perPolicy "check_script_unsafe_inline" scriptUnsafeInline,
  perPolicy "check_script_unsafe_eval" scriptUnsafeEval,
  perPolicy "check_plain_url_schemes" plainUrlSchemes,
  perPolicy "check_wildcards" plainWildcard,
  perPolicy "check_missing_directives" missingDirectives,
  ofResult "check_script_allowlist_bypass" (gather (scriptAllowlistBypass b)),
  ofResult "check_flash_object_allowlist_bypass" (gather (objectAllowlistBypass b)),
  perPolicy "check_ip_source" ipSource,
  perPolicy "check_deprecated_directive" deprecatedDirective,
  perPolicy "check_nonce_length" nonceLength,
  perPolicy "check_src_http" srcHttp]

def find? (b : BypassLists) (name : String) : Option Check :=
  (parsedChecks ++ effectiveChecks b).find? (·.name == name)

end ContentPolicy.Check
