import ContentPolicy.Proofs.Idempotence
import ContentPolicy.Proofs.Kinds
import ContentPolicy.Proofs.Reading

/-!
Which directives a report misses, told of the policy as it was written.
-/

namespace ContentPolicy

namespace Policy

def RunsRelative (v : Version) (p : Policy) : Prop :=
  (v ≠ .csp1 ∧ p.hasScriptNonces = true) ∨
    (v = .csp3 ∧ p.hasScriptHashes = true ∧ p.hasStrictDynamic = true)

instance (v : Version) (p : Policy) : Decidable (p.RunsRelative v) :=
  inferInstanceAs (Decidable (_ ∨ _))

def missing (severity : Severity) (name description : String) : Finding :=
  ⟨.missingDirectives, severity, name, none, description⟩

def missingObject (p : Policy) : Finding :=
  if p.has Directive.defaultSrc then
    missing .highMaybe Directive.objectSrc "Can you restrict object-src to 'none'?"
  else missing .high Directive.objectSrc
    "Missing object-src allows the injection of plugins which can execute JavaScript. Can you set it to 'none'?"

def missingBase : Finding := missing .high Directive.baseUri
  "Missing base-uri allows the injection of base tags. They can be used to set the base URL for all relative (script) URLs to an attacker controlled domain. Can you set it to 'none' or 'self'?"

def missingUnder (v : Version) (p : Policy) : List Finding :=
  (if p.has Directive.scriptSrc ∨ p.has Directive.defaultSrc then []
    else [missing .high Directive.scriptSrc "script-src directive is missing."]) ++
  (if p.has Directive.objectSrc ∨ Keyword.none ∈ p.values Directive.defaultSrc then []
    else [p.missingObject]) ++
  (if p.has Directive.baseUri ∨ ¬ p.RunsRelative v then []
    else [missingBase])

/-- What the check asks of the enforced policy is said here of the written one. -/
theorem needsBaseUri_effective {v : Version} {p : Policy} (hn : p.scriptValues.Nodup) :
    Check.needsBaseUri (p.effective v) = true ↔ p.RunsRelative v := by
  rw [Check.needsBaseUri, hasScriptNonces_effective, hasScriptHashes_effective,
    hasStrictDynamic_effective v hn, RunsRelative]
  cases v <;> simp

/-- No version drops `'none'`. -/
theorem none_mem_defaultSrc_effective (v : Version) (p : Policy) :
    Keyword.none ∈ (p.effective v).values Directive.defaultSrc ↔
      Keyword.none ∈ p.values Directive.defaultSrc := by
  rw [values_effective v p defaultSrc_not_newer]
  split
  · exact mem_scriptValuesUnder_none v _
  · rfl

section Enforced

variable {v : Version} {p : Policy}

theorem missingDirective_scriptSrc_effective :
    Check.missingDirective (p.effective v) Directive.scriptSrc =
      if p.has Directive.scriptSrc then [] else
        [missing .high Directive.scriptSrc "script-src directive is missing."] := by
  rw [Check.missingDirective, has_effective v p scriptSrc_not_newer]
  rfl

theorem missingDirective_objectSrc_effective (hd : p.has Directive.defaultSrc = false) :
    Check.missingDirective (p.effective v) Directive.objectSrc =
      if p.has Directive.objectSrc then [] else [p.missingObject] := by
  rw [Check.missingDirective, has_effective v p (by decide), missingObject, hd]
  rfl

theorem missingDirective_baseUri_effective (hn : p.scriptValues.Nodup) :
    Check.missingDirective (p.effective v) Directive.baseUri =
      if p.has Directive.baseUri ∨ ¬ p.RunsRelative v then [] else [missingBase] := by
  have hneeds := needsBaseUri_effective (v := v) hn
  rw [Check.missingDirective, has_effective v p (by decide)]
  cases p.has Directive.baseUri with
  | true => rfl
  | false =>
    have hother : (Directive.baseUri == Directive.objectSrc) = false := by decide
    by_cases hr : p.RunsRelative v
    · simp [hother, hneeds.2 hr, hr, missingBase, missing]
    · simp [hother, hneeds, hr]

/-- Three directives are looked for one by one where there is no `default-src`. With it the first is
not missed, the second is asked of its values, and the third is missed as before. -/
theorem missingDirectives_effective (hn : p.scriptValues.Nodup) :
    Check.missingDirectives (p.effective v) = missingUnder v p := by
  have hobject : (p.effective v).has Directive.objectSrc = p.has Directive.objectSrc :=
    has_effective v p (by decide)
  rw [Check.missingDirectives, has_effective v p defaultSrc_not_newer, hobject, missingUnder,
    missingDirective_baseUri_effective hn]
  cases hd : p.has Directive.defaultSrc with
  | true =>
    have hasked : (!p.has Directive.objectSrc &&
          !((p.effective v).values Directive.defaultSrc).contains Keyword.none) = true ↔
        ¬ (p.has Directive.objectSrc = true ∨ Keyword.none ∈ p.values Directive.defaultSrc) := by
      simp [none_mem_defaultSrc_effective]
    simp only [hasked, missingObject, hd, if_true, or_true, List.nil_append, ite_not, missing]
  | false =>
    have hvalues : p.values Directive.defaultSrc = [] := values_of_not_has hd
    simp [Directive.causingXss, missingDirective_scriptSrc_effective,
      missingDirective_objectSrc_effective hd, missingDirective_baseUri_effective hn, hvalues]

end Enforced

theorem missingDirectives_parse (v : Version) (text : String) :
    Check.missingDirectives ((parse text).effective v) = missingUnder v (parse text) :=
  missingDirectives_effective <|
    nodup_scriptValues fun d hd => (settled_parse text d hd).nodup_values

theorem missingUnder_csp1_baseUri (p : Policy) :
    (missingUnder .csp1 p).filter (·.directive = Directive.baseUri) = [] := by
  have hr : ¬ p.RunsRelative .csp1 := by simp [RunsRelative]
  have hobject : p.missingObject.directive = Directive.objectSrc := by
    unfold missingObject
    split <;> rfl
  have hother : Directive.objectSrc ≠ Directive.baseUri := by decide
  have hscript : Directive.scriptSrc ≠ Directive.baseUri := by decide
  rw [List.filter_eq_nil_iff]
  intro f hf
  simp only [missingUnder, hr, not_false_eq_true, or_true, if_true, List.append_nil,
    List.mem_append] at hf
  obtain hf | hf := hf
  · split at hf
    · exact absurd hf List.not_mem_nil
    · simp [List.mem_singleton.1 hf, missing, hscript]
  · split at hf
    · exact absurd hf List.not_mem_nil
    · simp [List.mem_singleton.1 hf, hobject, hother]

end Policy

namespace Collection

/-- What is missed of a policy that was read is missed of it as it was written, by the check alone
and in each evaluation; the first version knows no nonces and hashes and never misses `base-uri`. -/
theorem missing_as_written (v : Version) :
    (∀ text, Check.missingDirectives ((Policy.parse text).effective v) =
      (Policy.parse text).missingUnder v) ∧
    (∀ headers b, ((parse headers).evaluate v b).findings.filter (·.topic = .missingDirectives) =
      (parse headers).flatMap (Policy.missingUnder v)) ∧
    ∀ text, (Check.missingDirectives ((Policy.parse text).effective .csp1)).filter
      (·.directive = Directive.baseUri) = [] := by
  refine ⟨Policy.missingDirectives_parse v, fun headers b => ?_, fun text => ?_⟩
  · have hsaid : ((parse headers).evaluate v b).findings.filter (·.topic = .missingDirectives) =
        (parse headers).flatMap fun p => Check.missingDirectives (p.effective v) :=
      filter_topic_evaluate_eq (· = .missingDirectives) rfl rfl rfl
        Check.tells_missingDirectives (by decide) v _
    rw [hsaid]
    refine List.flatMap_congr fun p hp => ?_
    obtain ⟨text, -, rfl⟩ := List.mem_map.1 hp
    exact Policy.missingDirectives_parse v text
  · rw [Policy.missingDirectives_parse]
    exact Policy.missingUnder_csp1_baseUri _

/- A hash counts only with `'strict-dynamic'`, and only where both are known. -/
example : [Version.csp1, .csp2, .csp3].map
    (fun v => ((Policy.parse "script-src 'sha256-YQ==' 'strict-dynamic'").missingUnder v).map
      fun f => (f.directive, f.severity)) =
    [[("object-src", .high)], [("object-src", .high)],
      [("object-src", .high), ("base-uri", .high)]] := by
  decide +kernel

end Collection

end ContentPolicy
