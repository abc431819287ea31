import ContentPolicy.Proofs.Kinds
import ContentPolicy.Proofs.Resolution
import ContentPolicy.Proofs.SourceClass

/-!
What a report vouches for when nothing in it is worse than a value that is ignored.
-/

namespace ContentPolicy

namespace Finding

theorem foldl_worse_eq_none_iff (fs : List Finding) (s : Severity) :
    fs.foldl (fun s f => if f.severity.number < s.number then f.severity else s) s = .none ↔
      s = .none ∧ ∀ f ∈ fs, f.severity = .none := by
  induction fs generalizing s with
  | nil => simp
  | cons f fs ih =>
    rw [List.foldl_cons, ih, List.forall_mem_cons, ← and_assoc]
    refine and_congr_left fun _ => ?_
    cases f.severity <;> cases s <;> decide

theorem highest_eq_none_iff (fs : List Finding) :
    highest fs = .none ↔ ∀ f ∈ fs, f.severity = .none := by
  simpa only [highest, true_and] using foldl_worse_eq_none_iff fs .none

end Finding

namespace Check

theorem invalidKeyword_eq_nil {p : Policy} (h : invalidKeyword p = []) {name value : String}
    (hv : value ∈ p.values name) (hq : Source.isQuoted value = true) :
    knowsQuoted name value = true := by
  have hp : p.has name = true := Policy.has_of_mem_values hv
  have hd := List.flatMap_eq_nil_iff.1 h _ (Policy.mem_directives_of_has hp)
  have hv : keywordFindings name value = [] := List.flatMap_eq_nil_iff.1 hd value hv
  unfold keywordFindings at hv
  cases ht : lacksTicks value with
  | true => simp [ht] at hv
  | false => simpa [ht, hq] using hv

theorem strictDynamic_eq_nil_iff (p : Policy) :
    strictDynamic p = [] ↔
      Keyword.strictDynamic ∈ p.scriptValues ∨
        ∀ value ∈ p.scriptValues, Source.isQuoted value = true := by
  rw [← Policy.hasStrictDynamic_iff]
  cases hs : p.hasStrictDynamic <;> simp [strictDynamic, hs]

theorem requiresTrustedTypesForScripts_eq_nil_iff (c : Collection) :
    requiresTrustedTypesForScripts c = [] ↔
      ∃ p ∈ c, TrustedTypes.script ∈ p.values Directive.requireTrustedTypesFor := by
  simp [requiresTrustedTypesForScripts, requiresTrustedTypes]

theorem scriptUnsafeInline_eq_nil_iff (p : Policy) :
    scriptUnsafeInline p = [] ↔ Keyword.unsafeInline ∉ p.scriptValues := by
  simp [scriptUnsafeInline]

theorem scriptUnsafeEval_eq_nil_iff (p : Policy) :
    scriptUnsafeEval p = [] ↔ Keyword.unsafeEval ∉ p.scriptValues := by
  simp [scriptUnsafeEval]

theorem missingDirective_objectSrc_eq_nil_iff (p : Policy) :
    missingDirective p Directive.objectSrc = [] ↔ p.has Directive.objectSrc = true := by
  simp [missingDirective]

theorem missingDirective_scriptSrc_eq_nil_iff (p : Policy) :
    missingDirective p Directive.scriptSrc = [] ↔ p.has Directive.scriptSrc = true := by
  simp [missingDirective, Directive.scriptSrc, Directive.objectSrc, Directive.baseUri]

theorem missingDirective_baseUri_eq_nil_iff (p : Policy) :
    missingDirective p Directive.baseUri = [] ↔
      (needsBaseUri p = true → p.has Directive.baseUri = true) := by
  cases hn : needsBaseUri p <;>
    simp [missingDirective, Directive.objectSrc, Directive.baseUri, hn]

theorem missingDirectives_eq_nil {p : Policy} (h : missingDirectives p = []) :
    (p.has Directive.scriptSrc = true ∨ p.has Directive.defaultSrc = true) ∧
    (p.has Directive.objectSrc = true ∨ Keyword.none ∈ p.values Directive.defaultSrc) ∧
    (needsBaseUri p = true → p.has Directive.baseUri = true) := by
  unfold missingDirectives at h
  split at h
  case isTrue hd =>
    obtain ⟨ho, hb⟩ := List.append_eq_nil_iff.1 h
    refine ⟨.inr hd, ?_, (missingDirective_baseUri_eq_nil_iff p).1 hb⟩
    by_contra hn
    rw [not_or] at hn
    simp [hn.1, hn.2] at ho
  case isFalse hd =>
    simp only [Directive.causingXss, List.flatMap_cons, List.flatMap_nil, List.append_eq_nil_iff,
      missingDirective_scriptSrc_eq_nil_iff, missingDirective_objectSrc_eq_nil_iff,
      missingDirective_baseUri_eq_nil_iff] at h
    exact ⟨.inl h.1, .inl h.2.1, h.2.2.1⟩

theorem scriptValueBypass_self_ne_nil (b : BypassLists) (p : Policy) :
    scriptValueBypass b p Keyword.self ≠ .ok [] := by
  simp [scriptValueBypass]

theorem scriptAllowlistBypass_eq_ok_nil {b : BypassLists} {p : Policy}
    (h : scriptAllowlistBypass b p = .ok []) (hs : Keyword.self ∈ p.scriptValues) :
    Keyword.none ∈ p.scriptValues := by
  by_contra hn
  have hc : p.scriptValues.contains Keyword.none = false := by simpa using hn
  rw [scriptAllowlistBypass, hc] at h
  exact scriptValueBypass_self_ne_nil b p (gather_eq_ok_nil_iff.1 h _ hs)

end Check

namespace Policy

def trustsRelative (vs : List String) : Prop :=
  (∃ value ∈ vs, Source.isNonce value = true) ∨
    ((∃ value ∈ vs, Source.isHash value = true) ∧ Keyword.strictDynamic ∈ vs)

theorem needsBaseUri_iff (p : Policy) :
    Check.needsBaseUri p = true ↔ trustsRelative p.scriptValues := by
  simp [Check.needsBaseUri, trustsRelative, hasScriptNonces, hasScriptHashes, hasStrictDynamic]

/-- No keyword is spelled like a nonce or like a hash. -/
theorem survives_of_trusted {value : String}
    (h : Source.isNonce value = true ∨ Source.isHash value = true) :
    survivesStrictDynamic value = true := by
  have hq : Source.isQuoted value = true := Source.isQuoted_of_trusted (.inr h)
  have hself : value ≠ Keyword.self := by
    rintro rfl
    revert h
    decide
  have hinline : value ≠ Keyword.unsafeInline := by
    rintro rfl
    revert h
    decide
  simp [survivesStrictDynamic, hq, hself, hinline]

theorem survives_strictDynamic : survivesStrictDynamic Keyword.strictDynamic = true := by decide

theorem mem_scriptValuesUnder_csp3 {vs : List String} {value : String}
    (h : survivesStrictDynamic value = true) :
    value ∈ scriptValuesUnder .csp3 vs ↔ value ∈ vs := by
  refine mem_scriptValuesUnder ?_ nofun (absurd rfl) fun _ => h
  rintro rfl
  revert h
  decide

theorem trustsRelative_csp3 (vs : List String) :
    trustsRelative (scriptValuesUnder .csp3 vs) ↔ trustsRelative vs := by
  have hn (value : String) : value ∈ scriptValuesUnder .csp3 vs ∧ Source.isNonce value = true ↔
      value ∈ vs ∧ Source.isNonce value = true :=
    and_congr_left fun h => mem_scriptValuesUnder_csp3 (survives_of_trusted (.inl h))
  have hh (value : String) : value ∈ scriptValuesUnder .csp3 vs ∧ Source.isHash value = true ↔
      value ∈ vs ∧ Source.isHash value = true :=
    and_congr_left fun h => mem_scriptValuesUnder_csp3 (survives_of_trusted (.inr h))
  simp only [trustsRelative, hn, hh, mem_scriptValuesUnder_csp3 survives_strictDynamic]

/-- What a report without alarms vouches for in each policy. The script values are those that the
browser goes by. -/
structure Vetted (p : Policy) : Prop where
  restricts_scripts : p.has Directive.scriptSrc = true ∨ p.has Directive.defaultSrc = true
  trusts_by_text : ∀ value ∈ (p.effective .csp3).scriptValues,
    Source.isKeyword value = true ∨ Source.isNonce value = true ∨ Source.isHash value = true
  no_unsafeInline : Keyword.unsafeInline ∉ (p.effective .csp3).scriptValues
  no_unsafeEval : Keyword.unsafeEval ∉ (p.effective .csp3).scriptValues
  self_beside_none : Keyword.self ∈ (p.effective .csp3).scriptValues →
    Keyword.none ∈ (p.effective .csp3).scriptValues
  restricts_objects :
    p.has Directive.objectSrc = true ∨ Keyword.none ∈ p.values Directive.defaultSrc
  restricts_base : trustsRelative p.scriptValues ∨ trustsRelative (p.effective .csp3).scriptValues →
    p.has Directive.baseUri = true

end Policy

namespace Collection

structure Vetted (c : Collection) : Prop where
  nonempty : c ≠ []
  requires_trusted_types :
    ∃ p ∈ c, TrustedTypes.script ∈ p.values Directive.requireTrustedTypesFor
  policies : ∀ p ∈ c, p.Vetted

section Silence

variable {b : BypassLists} {c : Collection}

/-- Only what the resolver tells of is weightless. -/
theorem weighs_of_mem_checks (v : Version) {f : Finding}
    (hf : f ∈ (Check.parsedChecks.flatMap fun k => (k.guarded c).findings) ++
      (Check.effectiveChecks b).flatMap fun k => (k.guarded (c.effective v)).findings) :
    f.topic ≠ .ignored ∧ f.severity ≠ .none := by
  have hkind : f.kind ∈ Check.parsedKinds ++ Check.effectiveKinds := by
    simp only [List.mem_append, List.mem_flatMap] at hf ⊢
    obtain ⟨k, hk, hf⟩ | ⟨k, hk, hf⟩ := hf
    · exact .inl (Check.tells_parsedChecks c k hk f hf)
    · exact .inr (Check.tells_effectiveChecks b _ k hk f hf)
  have hall : ∀ k ∈ Check.parsedKinds ++ Check.effectiveKinds,
      k.1 ≠ .ignored ∧ k.2 ≠ .none := by decide
  exact hall _ hkind

/-- A report has no severity exactly if all that it tells of are values that are ignored. -/
theorem highest_evaluate_eq_none_iff (v : Version) :
    Finding.highest (c.evaluate v b).findings = .none ↔
      ∀ f ∈ (c.evaluate v b).findings, f.topic = .ignored := by
  rw [Finding.highest_eq_none_iff, findings_evaluate, List.append_assoc]
  refine forall₂_congr fun f hf => ?_
  cases List.mem_append.1 hf with
  | inl hf =>
    have hk := Check.tells_ignoredFindings v c f hf
    simp only [Finding.kind, List.mem_singleton, Prod.mk.injEq] at hk
    simp [hk]
  | inr hf =>
    have hw := weighs_of_mem_checks v hf
    simp [hw]

/-- Whatever only tells of ignored values has made every check fall silent. -/
theorem silent_of_all_ignored {v : Version}
    (h : ∀ f ∈ (c.evaluate v b).findings, f.topic = .ignored) :
    (∀ k ∈ Check.parsedChecks, (k.guarded c).findings = []) ∧
    ∀ k ∈ Check.effectiveChecks b, (k.guarded (c.effective v)).findings = [] := by
  rw [findings_evaluate, List.append_assoc] at h
  have hnil : (Check.parsedChecks.flatMap fun k => (k.guarded c).findings) ++
      (Check.effectiveChecks b).flatMap (fun k => (k.guarded (c.effective v)).findings) = [] := by
    refine List.eq_nil_iff_forall_not_mem.2 fun f hf => ?_
    exact (weighs_of_mem_checks v hf).1 (h f (List.mem_append_right _ hf))
  obtain ⟨hp, he⟩ := List.append_eq_nil_iff.1 hnil
  exact ⟨List.flatMap_eq_nil_iff.1 hp, List.flatMap_eq_nil_iff.1 he⟩

/-- The written policy answers for the quoted values. An unquoted one is only passed over by the
strict check if trust is passed on, and then the resolver has dropped it. -/
theorem trusts_by_text_of_silent {p : Policy} (hk : Check.invalidKeyword p = [])
    (hs : Check.strictDynamic p = []) {value : String}
    (hv : value ∈ (p.effective .csp3).scriptValues) :
    Source.isKeyword value = true ∨ Source.isNonce value = true ∨
      Source.isHash value = true := by
  rw [Policy.scriptValues_effective] at hv
  have hmem : value ∈ p.scriptValues := (Policy.scriptValuesUnder_sublist _ _).subset hv
  have hq : Source.isQuoted value = true := by
    cases (Check.strictDynamic_eq_nil_iff p).1 hs with
    | inl hd =>
      simp only [Policy.scriptValuesUnder, hd, if_true, List.mem_filter,
        Policy.survivesStrictDynamic, Bool.and_eq_true] at hv
      exact hv.2.1.1
    | inr hall => exact hall value hmem
  have hknown := Check.invalidKeyword_eq_nil hk hmem hq
  have hname : p.effectiveName Directive.scriptSrc ≠ Directive.requireTrustedTypesFor ∧
      p.effectiveName Directive.scriptSrc ≠ Directive.trustedTypes := by
    cases Policy.effectiveName_eq p Directive.scriptSrc with
    | inl h => rw [h]; decide
    | inr h => rw [h]; decide
  simp only [Check.knowsQuoted, beq_iff_eq, hname, if_false, Bool.or_eq_true] at hknown
  tauto

/-- Each check is read backwards, from its silence to what must hold of the policy. -/
theorem vetted_of_silent (hp : ∀ k ∈ Check.parsedChecks, (k.guarded c).findings = [])
    (he : ∀ k ∈ Check.effectiveChecks b, (k.guarded (c.effective .csp3)).findings = []) :
    c.Vetted := by
  simp only [Check.parsedChecks, Check.grammarChecks, Check.strictChecks, List.cons_append,
    List.nil_append, List.forall_mem_cons, Check.findings_perPolicy,
    List.flatMap_eq_nil_iff] at hp
  obtain ⟨-, -, hkeyword, hstrict, -, -, -, htypes, -⟩ := hp
  have htypes : Check.requiresTrustedTypesForScripts c = [] := htypes
  rw [Check.requiresTrustedTypesForScripts_eq_nil_iff] at htypes
  simp only [Check.effectiveChecks, List.forall_mem_cons, Check.findings_perPolicy,
    Check.findings_ofResult_eq_nil_iff, Check.gather_eq_ok_nil_iff, List.flatMap_eq_nil_iff,
    effective, List.forall_mem_map] at he
  obtain ⟨hinline, heval, -, -, hmissing, hbypass, -⟩ := he
  refine ⟨?_, htypes, fun p hpc => ?_⟩
  · obtain ⟨p, hpc, -⟩ := htypes
    exact List.ne_nil_of_mem hpc
  obtain ⟨hscripts, hobjects, hbase⟩ := Check.missingDirectives_eq_nil (hmissing p hpc)
  refine ⟨?_, fun value => trusts_by_text_of_silent (hkeyword p hpc) (hstrict p hpc),
    (Check.scriptUnsafeInline_eq_nil_iff _).1 (hinline p hpc),
    (Check.scriptUnsafeEval_eq_nil_iff _).1 (heval p hpc),
    Check.scriptAllowlistBypass_eq_ok_nil (hbypass p hpc), ?_, ?_⟩
  · exact hscripts.imp Policy.has_of_has_effective Policy.has_of_has_effective
  · exact hobjects.imp Policy.has_of_has_effective fun hn =>
      (Policy.values_effective_sublist .csp3 p Policy.defaultSrc_not_newer).subset hn
  · intro ht
    rw [Policy.scriptValues_effective, Policy.trustsRelative_csp3, or_self] at ht
    refine Policy.has_of_has_effective (hbase ((Policy.needsBaseUri_iff _).2 ?_))
    rwa [Policy.scriptValues_effective, Policy.trustsRelative_csp3]

end Silence

/-- A report of nothing but ignored values, or of no severity, is one that the policies earn. -/
theorem vetted_of_clean_report (b : BypassLists) (c : Collection) :
    (Finding.highest (c.evaluate .csp3 b).findings = .none ↔
      ∀ f ∈ (c.evaluate .csp3 b).findings, f.topic = .ignored) ∧
    ((∀ f ∈ (c.evaluate .csp3 b).findings, f.topic = .ignored) → c.Vetted) := by
  refine ⟨highest_evaluate_eq_none_iff .csp3, fun h => ?_⟩
  obtain ⟨hp, he⟩ := silent_of_all_ignored h
  exact vetted_of_silent hp he

def strictExample : Collection := [{
  directives := [
    ("script-src", ["'nonce-c2FsdA=='", "'strict-dynamic'", "'unsafe-inline'", "https:"]),
    ("object-src", ["'none'"]),
    ("base-uri", ["'none'"]),
    ("require-trusted-types-for", ["'script'"])]
  nodup_names := by decide }]

theorem vetted_strictExample :
    (∀ f ∈ (strictExample.evaluate .csp3 .builtIn).findings, f.topic = .ignored) ∧
      strictExample.Vetted := by
  have hclean : ∀ f ∈ (strictExample.evaluate .csp3 .builtIn).findings, f.topic = .ignored := by
    decide +kernel
  exact ⟨hclean, (vetted_of_clean_report .builtIn strictExample).2 hclean⟩

end Collection

end ContentPolicy
