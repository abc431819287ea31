import ContentPolicy.Proofs.CleanReport
import ContentPolicy.Proofs.Hosts
import ContentPolicy.Proofs.NewerVersions

/-!
The strict policy that the checks recommend earns a report without alarms.
-/

namespace ContentPolicy

namespace Source

def isSound (value : String) : Bool :=
  (isStrictNonce value && (nonce? value).any (8 ≤ ·.length)) || isStrictHash value

def isFallbackPlace (value : String) : Bool :=
  !isQuoted value && !Directive.all.contains value && !Keyword.allBare.contains value &&
    !(["nonce-", "sha256-", "sha384-", "sha512-"].any fun o => o.toList.isPrefixOf value.toList)

structure IsHarmless (value : String) : Prop where
  not_loud : Policy.isLoud value = false
  not_unsafeInline : value ≠ Keyword.unsafeInline
  not_unsafeEval : value ≠ Keyword.unsafeEval
  no_at : '@' ∉ value.toList
  long_nonce : ∀ payload, nonce? value = some payload →
    8 ≤ payload.length ∧ isStrictNonce value = true

theorem of_mem_isPadded {isDigit : Char → Bool} {cs : List Char} (h : isPadded isDigit cs = true)
    {c : Char} (hc : c ∈ cs) : isDigit c = true ∨ c = '=' := by
  rw [isPadded, Bool.and_eq_true] at h
  rw [← List.takeWhile_append_dropWhile (p := isDigit) (l := cs)] at hc
  cases List.mem_append.1 hc with
  | inl hc => exact .inl (List.mem_takeWhile_imp hc)
  | inr hc =>
    have hpad : cs.dropWhile isDigit ∈ [[], ['='], ['=', '=']] := by simpa using h.2
    simp only [List.mem_cons, List.not_mem_nil, or_false] at hpad
    obtain hd | hd | hd := hpad <;> simp_all

theorem not_mem_of_payload? {opening value : String} {cs : List Char} {c : Char}
    (h : payload? opening value = some cs) (ho : c ∉ opening.toList) (hc : c ∉ cs)
    (hq : c ≠ '\x27') (hn : c ≠ '\n') : c ∉ value.toList := by
  obtain ⟨-, -, hv | hv⟩ := payload?_eq_some_iff.1 h <;> simp [hv, ho, hc, hq, hn]

section HostMarks

/- The marks that a host is told by, none of which is in a base64 text. -/
variable {value : String} {c : Char} (hc : c = '@' ∨ c = '.')
include hc

theorem not_mem_of_isStrictNonce (h : isStrictNonce value = true) : c ∉ value.toList := by
  have hmark : ¬ (isBase64Url c = true ∨ c = '=') ∧ c ∉ "'nonce-".toList ∧
      c ≠ '\x27' ∧ c ≠ '\n' := by
    obtain rfl | rfl := hc <;> decide
  obtain ⟨hdigit, hopening, htick, hbreak⟩ := hmark
  obtain ⟨cs, hcs, hp⟩ := (Option.any_eq_true _ _).1 h
  exact not_mem_of_payload? hcs hopening (fun hm => hdigit (of_mem_isPadded hp hm)) htick hbreak

theorem not_mem_of_isStrictHash (h : isStrictHash value = true) : c ∉ value.toList := by
  have hmark : ¬ (isBase64 c = true ∨ c = '=') ∧ (∀ o ∈ hashOpenings, c ∉ o.toList) ∧
      c ≠ '\x27' ∧ c ≠ '\n' := by
    obtain rfl | rfl := hc <;> decide
  obtain ⟨hdigit, hopening, htick, hbreak⟩ := hmark
  obtain ⟨cs, hcs, hp⟩ := (Option.any_eq_true _ _).1 h
  obtain ⟨opening, ho, hpayload⟩ := List.exists_of_findSome?_eq_some hcs
  exact not_mem_of_payload? hpayload (hopening opening ho)
    (fun hm => hdigit (of_mem_isPadded hp hm)) htick hbreak

theorem not_mem_of_strict
    (h : isKeyword value = true ∨ isStrictNonce value = true ∨ isStrictHash value = true) :
    c ∉ value.toList := by
  obtain h | h | h := h
  · have hall : ∀ keyword ∈ Keyword.all, c ∉ keyword.toList := by
      obtain rfl | rfl := hc <;> decide
    exact hall value (List.contains_iff_mem.1 h)
  · exact not_mem_of_isStrictNonce hc h
  · exact not_mem_of_isStrictHash hc h

end HostMarks

theorem isSound_iff {value : String} :
    isSound value = true ↔ (isStrictNonce value = true ∧
      (nonce? value).any (8 ≤ ·.length) = true) ∨ isStrictHash value = true := by
  rw [isSound, Bool.or_eq_true, Bool.and_eq_true]

theorem trusted_of_isSound {value : String} (h : isSound value = true) :
    isNonce value = true ∨ isHash value = true :=
  (isSound_iff.1 h).imp (fun h => isNonce_of_isStrictNonce h.1) isHash_of_isStrictHash

/-- However its base64 text may look, no check has anything to tell of it. -/
theorem isHarmless_of_isSound {value : String} (h : isSound value = true) : IsHarmless value where
  not_loud := by
    have hs := Policy.survives_of_trusted (trusted_of_isSound h)
    simp only [Policy.survivesStrictDynamic, Bool.and_eq_true, bne_iff_ne] at hs
    simp [Policy.isLoud, hs]
  not_unsafeInline := by
    rintro rfl
    revert h
    decide
  not_unsafeEval := by
    rintro rfl
    revert h
    decide
  no_at := by
    refine not_mem_of_strict (.inl rfl) (.inr ?_)
    exact (isSound_iff.1 h).imp And.left id
  long_nonce := by
    intro payload hp
    cases isSound_iff.1 h with
    | inl h => simpa [hp] using And.symm h
    | inr h => simp [nonce?_eq_none_of_isHash (isHash_of_isStrictHash h)] at hp

theorem of_isFallbackPlace {value : String} (h : isFallbackPlace value = true) :
    isQuoted value = false ∧ Directive.isKnown value = false ∧ Check.lacksTicks value = false := by
  simp only [isFallbackPlace, Bool.and_eq_true, Bool.not_eq_true'] at h
  obtain ⟨⟨⟨hquoted, hname⟩, hbare⟩, hopening⟩ := h
  refine ⟨hquoted, hname, ?_⟩
  rw [Check.lacksTicks, hbare]
  exact hopening

end Source

namespace Check

section Harmless

variable {p : Policy} (h : ∀ d ∈ p.directives, ∀ value ∈ d.2, Source.IsHarmless value)
include h

theorem harmless_values {name value : String} (hv : value ∈ p.values name) :
    Source.IsHarmless value :=
  h _ (Policy.mem_directives_of_has (Policy.has_of_mem_values hv)) value hv

theorem eachValue_of_harmless {g : String → String → List Finding}
    (hg : ∀ name value, Source.IsHarmless value → g name value = []) : eachValue g p = [] :=
  List.flatMap_eq_nil_iff.2 fun d hd =>
    List.flatMap_eq_nil_iff.2 fun value hv => hg d.1 value (h d hd value hv)

theorem eachRiskyValue_of_harmless {g : String → String → List Finding}
    (hg : ∀ name value, Source.IsHarmless value → g name value = []) : eachRiskyValue g p = [] :=
  List.flatMap_eq_nil_iff.2 fun name _ =>
    List.flatMap_eq_nil_iff.2 fun value hv => hg name value (harmless_values h hv)

theorem scriptUnsafeInline_of_harmless : scriptUnsafeInline p = [] :=
  (scriptUnsafeInline_eq_nil_iff p).2 fun hu => (harmless_values h hu).not_unsafeInline rfl

theorem scriptUnsafeEval_of_harmless : scriptUnsafeEval p = [] :=
  (scriptUnsafeEval_eq_nil_iff p).2 fun hu => (harmless_values h hu).not_unsafeEval rfl

theorem plainUrlSchemes_of_harmless : plainUrlSchemes p = [] :=
  eachRiskyValue_of_harmless h fun _ _ hv => by rw [riskySchemes_quiet hv.not_loud]; rfl

theorem plainWildcard_of_harmless : plainWildcard p = [] :=
  eachRiskyValue_of_harmless h fun _ _ hv => by rw [schemeFree_quiet hv.not_loud]; rfl

/-- The lists do not matter: without a host in sight nothing is looked up. -/
theorem scriptAllowlistBypass_of_harmless (b : BypassLists) : scriptAllowlistBypass b p = .ok [] := by
  unfold scriptAllowlistBypass
  split
  · rfl
  · refine gather_eq_ok_nil_iff.2 fun value hv => ?_
    have hloud := (harmless_values h hv).not_loud
    have hself : (value == Keyword.self) = false := by
      rw [Policy.isLoud, Bool.or_eq_false_iff] at hloud
      exact hloud.2
    simp [scriptValueBypass, hself, isHostLike, isQuoted_of_not_isLoud hloud]

theorem ipSource_of_harmless : ipSource p = [] :=
  eachValue_of_harmless h fun _ _ hv => by
    rw [addressFindings,
      Source.address?_of_isQuoted (isQuoted_of_not_isLoud hv.not_loud) hv.no_at]
    rfl

theorem nonceLength_of_harmless : nonceLength p = [] := by
  refine eachValue_of_harmless h fun name value hv => ?_
  cases hn : Source.nonce? value with
  | none => rfl
  | some payload =>
    obtain ⟨hlength, hstrict⟩ := hv.long_nonce payload hn
    have hshort : ¬ payload.length < 8 := by omega
    simp [hshort, hstrict]

theorem srcHttp_of_harmless : srcHttp p = [] := by
  refine eachValue_of_harmless h fun name value hv => ?_
  obtain ⟨r, hr⟩ := Source.toList_of_isQuoted (isQuoted_of_not_isLoud hv.not_loud)
  simp [httpFindings, saysHttp, hr]

end Harmless

end Check

namespace Policy

def strictDirectives (vs : List String) : List (String × List String) := [
  (Directive.scriptSrc, vs), (Directive.objectSrc, [Keyword.none]),
  (Directive.baseUri, [Keyword.none]),
  (Directive.requireTrustedTypesFor, [TrustedTypes.script])]

/-- The script values of a strict policy: nonces and hashes that pass their trust on, and what is
left to browsers that know none of it. -/
structure IsStrictList (vs : List String) : Prop where
  nodup : vs.Nodup
  trusts : ∃ value ∈ vs, Source.isSound value = true
  passes_trust_on : Keyword.strictDynamic ∈ vs
  allows_inline : Keyword.unsafeInline ∈ vs
  allows_https : "https:" ∈ vs
  others : ∀ value ∈ vs, Source.isSound value = true ∨ value = Keyword.strictDynamic ∨
    value = Keyword.unsafeInline ∨ Source.isFallbackPlace value = true

structure IsRecommended (p : Policy) (vs : List String) : Prop where
  directives : p.directives.Perm (strictDirectives vs)
  values : IsStrictList vs

section Perm

variable {p : Policy} {vs : List String} (h : p.directives.Perm (strictDirectives vs))
include h

theorem forall_directives_of_perm {q : String × List String → Prop} :
    (∀ d ∈ p.directives, q d) ↔ q (Directive.scriptSrc, vs) ∧
      q (Directive.objectSrc, [Keyword.none]) ∧ q (Directive.baseUri, [Keyword.none]) ∧
      q (Directive.requireTrustedTypesFor, [TrustedTypes.script]) := by
  simp [h.mem_iff, strictDirectives]

theorem has_of_perm (name : String) :
    p.has name = [Directive.scriptSrc, Directive.objectSrc, Directive.baseUri,
      Directive.requireTrustedTypesFor].contains name := by
  have hnames := (h.map Prod.fst).mem_iff (a := name)
  rw [Bool.eq_iff_iff, has_iff, names, hnames]
  simp [strictDirectives]

theorem values_of_perm {name : String} {ws : List String} (hm : (name, ws) ∈ strictDirectives vs) :
    p.values name = ws := values_of_mem (h.mem_iff.2 hm)

theorem scriptName_of_perm : p.scriptName = Directive.scriptSrc := by
  have hs : p.has Directive.scriptSrc = true := by
    rw [has_of_perm h]
    decide
  simp [scriptName, effectiveName, hs]

theorem scriptValues_of_perm : p.scriptValues = vs := by
  rw [scriptValues, effectiveValues, ← scriptName, scriptName_of_perm h]
  exact values_of_perm h List.mem_cons_self

/-- The resolver leaves the other directives alone. -/
theorem perm_effective :
    (p.effective .csp3).directives.Perm (strictDirectives (scriptValuesUnder .csp3 vs)) := by
  have hall : p.directives.filter (fun d => Version.csp3 = .csp3 ||
      !Directive.sinceCsp3.contains d.1) = p.directives := by simp
  rw [directives_effective, directivesUnder, hall, scriptName_of_perm h]
  exact h.map _

theorem eachValue_of_perm {g : String → String → List Finding}
    (hs : ∀ value ∈ vs, g Directive.scriptSrc value = [])
    (ho : g Directive.objectSrc Keyword.none = []) (hb : g Directive.baseUri Keyword.none = [])
    (ht : g Directive.requireTrustedTypesFor TrustedTypes.script = []) :
    Check.eachValue g p = [] := by
  refine List.flatMap_eq_nil_iff.2 ((forall_directives_of_perm h).2 ?_)
  refine ⟨List.flatMap_eq_nil_iff.2 hs, ?_, ?_, ?_⟩
  · simp [ho]
  · simp [hb]
  · simp [ht]

end Perm

namespace IsStrictList

variable {vs : List String} (h : IsStrictList vs) {value : String}
include h

theorem quoted_or_place (hv : value ∈ vs) :
    (Source.isQuoted value = true ∧ Check.knowsQuoted Directive.scriptSrc value = true) ∨
      Source.isFallbackPlace value = true := by
  have hknows : Check.knowsQuoted Directive.scriptSrc value =
      (Source.isKeyword value || Source.isHash value || Source.isNonce value) := rfl
  rw [hknows]
  obtain hs | rfl | rfl | hp := h.others value hv
  · have ht := Source.trusted_of_isSound hs
    refine .inl ⟨Source.isQuoted_of_trusted (.inr ht), ?_⟩
    obtain hn | hh := ht
    · simp [hn]
    · simp [hh]
  · exact .inl (by decide +kernel)
  · exact .inl (by decide +kernel)
  · exact .inr hp

theorem scriptValuesUnder_csp3 :
    scriptValuesUnder .csp3 vs = vs.filter survivesStrictDynamic := by
  simp [scriptValuesUnder, h.passes_trust_on]

/-- What is left to old browsers is dropped by the newest, and the rest is harmless. -/
theorem isHarmless_of_survives (hv : value ∈ scriptValuesUnder .csp3 vs) :
    Source.IsHarmless value := by
  rw [h.scriptValuesUnder_csp3, List.mem_filter] at hv
  obtain hs | rfl | rfl | hp := h.others value hv.1
  · exact Source.isHarmless_of_isSound hs
  · exact ⟨by decide, by decide, by decide, by decide, by decide⟩
  · exact absurd hv.2 (by decide)
  · simp [survivesStrictDynamic, (Source.of_isFallbackPlace hp).1] at hv

theorem namesTrusted : namesTrusted vs = true := by
  obtain ⟨value, hv, hs⟩ := h.trusts
  rw [Policy.namesTrusted, Bool.or_eq_true, List.any_eq_true, List.any_eq_true]
  exact (Source.trusted_of_isSound hs).imp (fun hn => ⟨value, hv, hn⟩) fun hh => ⟨value, hv, hh⟩

/-- Apart from the inline scripts, of which there is one mention, no quoted value is dropped. -/
theorem length_dropped :
    (vs.filter (!survivesStrictDynamic ·)).length = 1 + vs.countP (!Source.isQuoted ·) := by
  have hperm := List.perm_cons_erase h.allows_inline
  have hrest : ∀ value ∈ vs.erase Keyword.unsafeInline,
      (!survivesStrictDynamic value) = true ↔ (!Source.isQuoted value) = true := by
    intro value hv
    have hinline : value ≠ Keyword.unsafeInline := (h.nodup.mem_erase_iff.1 hv).1
    have hself : value ≠ Keyword.self := by
      rintro rfl
      obtain hs | hs | hs | hs := h.others _ (List.mem_of_mem_erase hv) <;>
        exact absurd hs (by decide +kernel)
    simp [survivesStrictDynamic, hinline, hself]
  have hdropped : survivesStrictDynamic Keyword.unsafeInline = false := by decide
  have hquoted : Source.isQuoted Keyword.unsafeInline = true := by decide
  rw [← List.countP_eq_length_filter, hperm.countP_eq, hperm.countP_eq]
  simp only [List.countP_cons, hdropped, hquoted, List.countP_congr hrest]
  simp [Nat.add_comm]

end IsStrictList

end Policy

namespace Check

theorem lacksTicks_of_isQuoted {value : String} (hq : Source.isQuoted value = true) :
    lacksTicks value = false := by
  have hbare : ∀ word ∈ Keyword.allBare, Source.isQuoted word = false := by decide +kernel
  have hword : value ∉ Keyword.allBare := fun hm => absurd hq (by simp [hbare value hm])
  obtain ⟨r, hr⟩ := Source.toList_of_isQuoted hq
  simp [lacksTicks, hword, bareOpenings, hr, List.isPrefixOf]

section Parsed

variable {p : Policy} {vs : List String} (h : p.IsRecommended vs)
include h

theorem unknownDirective_of_isRecommended : unknownDirective p = [] := by
  have hall : ∀ name ∈ [Directive.scriptSrc, Directive.objectSrc, Directive.baseUri,
      Directive.requireTrustedTypesFor], Directive.isKnown name = true := by decide +kernel
  refine List.flatMap_eq_nil_iff.2 fun name hn => if_pos (hall name ?_)
  have hp : p.has name = true := Policy.has_iff.2 hn
  rwa [Policy.has_of_perm h.directives, List.contains_iff_mem] at hp

theorem missingSemicolon_of_isRecommended : missingSemicolon p = [] := by
  have hquoted : ∀ name ∈ Directive.all, Source.isQuoted name = false := by decide +kernel
  refine Policy.eachValue_of_perm h.directives (fun value hv => ?_) rfl rfl rfl
  have hknown : Directive.isKnown value = false := by
    cases h.values.quoted_or_place hv with
    | inl hq =>
      by_contra hk
      have hk : value ∈ Directive.all := by simpa [Directive.isKnown] using hk
      exact absurd hq.1 (by simp [hquoted value hk])
    | inr hp => exact (Source.of_isFallbackPlace hp).2.1
  simp [hknown]

theorem invalidKeyword_of_isRecommended : invalidKeyword p = [] := by
  have hnone : lacksTicks Keyword.none = false := lacksTicks_of_isQuoted rfl
  have hscript : lacksTicks TrustedTypes.script = false := lacksTicks_of_isQuoted rfl
  refine Policy.eachValue_of_perm h.directives (fun value hv => ?_) ?_ ?_ ?_
  · cases h.values.quoted_or_place hv with
    | inl hq => simp [keywordFindings, lacksTicks_of_isQuoted hq.1, hq.2]
    | inr hp =>
      obtain ⟨hq, -, hticks⟩ := Source.of_isFallbackPlace hp
      simp [keywordFindings, hticks, hq]
  · rw [keywordFindings, hnone]
    rfl
  · rw [keywordFindings, hnone]
    rfl
  · rw [keywordFindings, hscript]
    rfl

theorem strict_of_isRecommended :
    strictDynamic p = [] ∧ strictDynamicNotStandalone p = [] ∧ unsafeInlineFallback p = [] ∧
      allowlistFallback p = [] ∧ requiresTrustedTypesForScripts [p] = [] := by
  have hvalues := Policy.scriptValues_of_perm h.directives
  have hdynamic : p.hasStrictDynamic = true := by
    rw [Policy.hasStrictDynamic_iff, hvalues]
    exact h.values.passes_trust_on
  have htrusted : (p.hasScriptNonces || p.hasScriptHashes) = true := by
    rw [Policy.hasScriptNonces_or_hasScriptHashes, hvalues]
    exact h.values.namesTrusted
  have hplace : p.scriptValues.any isPlace = true := by
    rw [hvalues]
    exact List.any_eq_true.2 ⟨"https:", h.values.allows_https, by decide⟩
  have htypes : p.values Directive.requireTrustedTypesFor = [TrustedTypes.script] :=
    Policy.values_of_perm h.directives (by simp [Policy.strictDirectives])
  refine ⟨?_, ?_, ?_, ?_, ?_⟩
  · simp [strictDynamic, hdynamic]
  · rw [Bool.or_eq_true] at htrusted
    obtain hn | hh := htrusted
    · simp [strictDynamicNotStandalone, hn]
    · simp [strictDynamicNotStandalone, hh]
  · simp [unsafeInlineFallback, htrusted, hvalues, h.values.allows_inline]
  · simp [allowlistFallback, hplace]
  · simp [requiresTrustedTypesForScripts, requiresTrustedTypes, htypes]

end Parsed

section Effective

variable {p : Policy} {vs : List String} (h : p.directives.Perm (Policy.strictDirectives vs))
include h

theorem missingDirectives_of_perm : missingDirectives p = [] := by
  have hhas := Policy.has_of_perm h
  have hdefault : p.has Directive.defaultSrc = false := by
    rw [hhas]
    decide
  have hall : ∀ name ∈ Directive.causingXss, p.has name = true := by
    simp only [hhas]
    decide
  rw [missingDirectives, hdefault]
  exact List.flatMap_eq_nil_iff.2 fun name hn => by rw [missingDirective, hall name hn]; rfl

theorem objectAllowlistBypass_of_perm (b : BypassLists) : objectAllowlistBypass b p = .ok [] := by
  have hobject : p.has Directive.objectSrc = true := by
    rw [Policy.has_of_perm h]
    decide
  have hvalues : p.effectiveValues Directive.objectSrc = [Keyword.none] := by
    rw [Policy.effectiveValues, Policy.effectiveName, hobject]
    exact Policy.values_of_perm h (by simp [Policy.strictDirectives])
  simp [objectAllowlistBypass, hvalues]

theorem deprecatedDirective_of_perm : deprecatedDirective p = [] := by
  simp [deprecatedDirective, Policy.has_of_perm h, Directive.scriptSrc, Directive.objectSrc,
    Directive.baseUri, Directive.requireTrustedTypesFor, Directive.reflectedXss,
    Directive.referrer, Directive.disownOpener, Directive.reportUri]

end Effective

end Check

namespace Collection

/-- Without anything to tell for the checks, a report is about ignored values only. -/
theorem findings_evaluate_of_silent {v : Version} {b : BypassLists} {c : Collection}
    (hp : ∀ k ∈ Check.parsedChecks, (k.guarded c).findings = [])
    (he : ∀ k ∈ Check.effectiveChecks b, (k.guarded (c.effective v)).findings = []) :
    (c.evaluate v b).findings = c.ignoredFindings v := by
  rw [findings_evaluate, List.flatMap_eq_nil_iff.2 hp, List.flatMap_eq_nil_iff.2 he,
    List.append_nil, List.append_nil]

section Recommended

variable {p : Policy} {vs : List String} (h : p.IsRecommended vs)
include h

theorem silent_parsedChecks : ∀ k ∈ Check.parsedChecks, (k.guarded [p]).findings = [] := by
  obtain ⟨hdynamic, hstandalone, hinline, hallowlist, htypes⟩ := Check.strict_of_isRecommended h
  simp only [Check.parsedChecks, Check.grammarChecks, Check.strictChecks, List.cons_append,
    List.nil_append, List.forall_mem_cons, Check.findings_perPolicy_singleton]
  exact ⟨Check.unknownDirective_of_isRecommended h, Check.missingSemicolon_of_isRecommended h,
    Check.invalidKeyword_of_isRecommended h, hdynamic, hstandalone, hinline, hallowlist, htypes,
    List.forall_mem_nil _⟩

theorem silent_effectiveChecks (b : BypassLists) : ∀ k ∈ Check.effectiveChecks b,
    (k.guarded (effective .csp3 [p])).findings = [] := by
  have hperm := Policy.perm_effective h.directives
  have hharmless : ∀ d ∈ (p.effective .csp3).directives, ∀ value ∈ d.2,
      Source.IsHarmless value := by
    rw [Policy.forall_directives_of_perm hperm]
    have hnone : Source.IsHarmless Keyword.none :=
      ⟨by decide, by decide, by decide, by decide, by decide⟩
    have hscript : Source.IsHarmless TrustedTypes.script :=
      ⟨by decide, by decide, by decide, by decide, by decide⟩
    exact ⟨fun value hv => h.values.isHarmless_of_survives hv, by simpa using hnone,
      by simpa using hnone, by simpa using hscript⟩
  have hone : effective .csp3 [p] = [p.effective .csp3] := rfl
  simp only [hone, Check.effectiveChecks, List.forall_mem_cons, Check.findings_perPolicy_singleton,
    Check.findings_ofResult_eq_nil_iff, Check.gather_eq_ok_nil_iff]
  exact ⟨Check.scriptUnsafeInline_of_harmless hharmless,
    Check.scriptUnsafeEval_of_harmless hharmless, Check.plainUrlSchemes_of_harmless hharmless,
    Check.plainWildcard_of_harmless hharmless, Check.missingDirectives_of_perm hperm,
    ⟨Check.scriptAllowlistBypass_of_harmless hharmless b, List.forall_mem_nil _⟩,
    ⟨Check.objectAllowlistBypass_of_perm hperm b, List.forall_mem_nil _⟩,
    Check.ipSource_of_harmless hharmless, Check.deprecatedDirective_of_perm hperm,
    Check.nonceLength_of_harmless hharmless, Check.srcHttp_of_harmless hharmless,
    List.forall_mem_nil _⟩

end Recommended

/-- The recommended policy is told nothing but which of its script values are ignored: the inline
scripts twice, and each value without ticks. -/
theorem clean_of_isRecommended {p : Policy} {vs : List String} (h : p.IsRecommended vs)
    (b : BypassLists) :
    (∀ f ∈ (evaluate .csp3 b [p]).findings, f.topic = .ignored) ∧
    (evaluate .csp3 b [p]).findings.length = 2 + vs.countP (!Source.isQuoted ·) ∧
    Finding.highest (evaluate .csp3 b [p]).findings = .none := by
  have hfindings := findings_evaluate_of_silent (silent_parsedChecks h) (silent_effectiveChecks h b)
  have hignored : ∀ f ∈ (evaluate .csp3 b [p]).findings, f.topic = .ignored := by
    intro f hf
    rw [hfindings] at hf
    have hkind := Check.tells_ignoredFindings .csp3 [p] f hf
    simp only [Finding.kind, List.mem_singleton, Prod.mk.injEq] at hkind
    exact hkind.1
  refine ⟨hignored, ?_, (highest_evaluate_eq_none_iff .csp3).2 hignored⟩
  have htrusted : Policy.namesTrusted vs = true := h.values.namesTrusted
  have hlength := h.values.length_dropped
  rw [hfindings, ignoredFindings, List.flatMap_singleton, Policy.ignoredFindings_eq,
    Policy.scriptValues_of_perm h.directives]
  simp only [Policy.ignoredUnder, htrusted, h.values.allows_inline, h.values.passes_trust_on,
    ne_eq, reduceCtorEq, not_false_eq_true, and_self, if_true, List.length_append,
    List.length_singleton, List.length_map, hlength]
  omega

def strictValues : List String := [
  "https:", "*", "'nonce-//ab+cd/EF=='", "http://127.0.0.1:8080", "'unsafe-inline'",
  "'sha256-/+8='", "cdn.jsdelivr.net", "'sha384-/+8='", "'strict-dynamic'", ""]

def recommendedExample : Policy where
  directives := [("require-trusted-types-for", ["'script'"]), ("base-uri", ["'none'"]),
    ("script-src", strictValues), ("object-src", ["'none'"])]
  nodup_names := by decide

theorem clean_of_isRecommended_recommendedExample :
    recommendedExample.IsRecommended strictValues ∧
    (∀ f ∈ (evaluate .csp3 .builtIn [recommendedExample]).findings, f.topic = .ignored) ∧
    (evaluate .csp3 .builtIn [recommendedExample]).findings.length = 7 ∧
    Finding.highest (evaluate .csp3 .builtIn [recommendedExample]).findings = .none := by
  have hvalues : Policy.IsStrictList strictValues := by
    refine ⟨by decide, ⟨"'sha256-/+8='", ?_⟩, by decide, by decide, by decide, ?_⟩
    · decide +kernel
    · decide +kernel
  have h : recommendedExample.IsRecommended strictValues := ⟨by decide +kernel, hvalues⟩
  obtain ⟨hignored, hlength, hhighest⟩ := clean_of_isRecommended h .builtIn
  refine ⟨h, hignored, ?_, hhighest⟩
  rw [hlength]
  decide +kernel

end Collection

end ContentPolicy
