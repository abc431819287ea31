import ContentPolicy.Proofs.Idempotence
import ContentPolicy.Proofs.Kinds
import ContentPolicy.Proofs.Reading

/-!
What becomes of `'unsafe-inline'`: the check reports what runs, and the resolver tells what it passes
over.
-/

namespace ContentPolicy

namespace Policy

def RunsInline (v : Version) (p : Policy) : Prop :=
  Keyword.unsafeInline ∈ p.scriptValues ∧
    ¬ (v ≠ .csp1 ∧ (p.hasScriptNonces = true ∨ p.hasScriptHashes = true)) ∧
    ¬ (v = .csp3 ∧ p.hasStrictDynamic = true)

instance (v : Version) (p : Policy) : Decidable (p.RunsInline v) :=
  inferInstanceAs (Decidable (_ ∧ _))

/-- Of the two edits that are about the keyword each takes all of it, if it is there once. -/
theorem unsafeInline_mem_scriptValuesUnder {v : Version} {vs : List String} (hn : vs.Nodup) :
    Keyword.unsafeInline ∈ scriptValuesUnder v vs ↔
      Keyword.unsafeInline ∈ vs ∧ ¬ (v ≠ .csp1 ∧ namesTrusted vs = true) ∧
        ¬ (v = .csp3 ∧ Keyword.strictDynamic ∈ vs) := by
  have hd : Keyword.unsafeInline ≠ Keyword.strictDynamic := by decide
  by_cases ht : v ≠ .csp1 ∧ namesTrusted vs = true
  · simp [ht, unsafeInline_not_mem_scriptValuesUnder hn ht.1 ht.2]
  cases v with
  | csp1 =>
    have hlooks : looksLikeNonceOrHash Keyword.unsafeInline = false := by decide
    simp only [scriptValuesUnder]
    rw [List.mem_erase_of_ne hd]
    split <;> simp [hlooks]
  | csp2 =>
    have ht : namesTrusted vs = false := by simpa using ht
    simp only [scriptValuesUnder]
    rw [List.mem_erase_of_ne hd]
    simp [ht]
  | csp3 =>
    have ht : namesTrusted vs = false := by simpa using ht
    by_cases hs : Keyword.strictDynamic ∈ vs
    · simp [scriptValuesUnder, hs, survivesStrictDynamic]
    · simp [scriptValuesUnder, hs, ht]

theorem runsInline_iff {v : Version} {p : Policy} (hn : p.scriptValues.Nodup) :
    p.RunsInline v ↔ Keyword.unsafeInline ∈ (p.effective v).scriptValues := by
  rw [scriptValues_effective, unsafeInline_mem_scriptValuesUnder hn, RunsInline,
    ← hasStrictDynamic_iff, ← hasScriptNonces_or_hasScriptHashes, Bool.or_eq_true]

theorem scriptUnsafeInline_effective {v : Version} {p : Policy} (hn : p.scriptValues.Nodup) :
    Check.scriptUnsafeInline (p.effective v) =
      if p.RunsInline v then [Check.inlineRuns p.scriptName] else [] := by
  simp only [Check.scriptUnsafeInline, scriptName_effective, List.contains_iff_mem,
    ← runsInline_iff hn]

/-- Either reason to pass over the keyword is told with it. -/
theorem exists_mem_ignoredUnder_iff {v : Version} {name : String} {vs : List String} :
    (∃ f ∈ ignoredUnder v name vs, f.value = some Keyword.unsafeInline) ↔
      Keyword.unsafeInline ∈ vs ∧
        ((v ≠ .csp1 ∧ namesTrusted vs = true) ∨ (v = .csp3 ∧ Keyword.strictDynamic ∈ vs)) := by
  have hgone : survivesStrictDynamic Keyword.unsafeInline = false := by decide
  have hbeside : (∃ f ∈ (if v ≠ .csp1 ∧ namesTrusted vs ∧ Keyword.unsafeInline ∈ vs
        then [ignoredBesideTrusted name] else []), f.value = some Keyword.unsafeInline) ↔
      Keyword.unsafeInline ∈ vs ∧ v ≠ .csp1 ∧ namesTrusted vs = true := by
    split
    case isTrue h => simp [h, ignoredBesideTrusted]
    case isFalse h => simpa using fun hi hv ht => h ⟨hv, ht, hi⟩
  have hstrict : (∃ f ∈ (if v = .csp3 ∧ Keyword.strictDynamic ∈ vs
        then (vs.filter (!survivesStrictDynamic ·)).map (ignoredByStrictDynamic name) else []),
        f.value = some Keyword.unsafeInline) ↔
      Keyword.unsafeInline ∈ vs ∧ v = .csp3 ∧ Keyword.strictDynamic ∈ vs := by
    split
    case isTrue h => simp [h, ignoredByStrictDynamic, hgone]
    case isFalse h => simpa using fun _ hv hs => h ⟨hv, hs⟩
  simp only [ignoredUnder, List.mem_append, or_and_right, exists_or]
  rw [hbeside, hstrict, and_or_left]

theorem exists_mem_ignoredFindings_iff {v : Version} {p : Policy} :
    (∃ f ∈ p.ignoredFindings v, f.value = some Keyword.unsafeInline) ↔
      Keyword.unsafeInline ∈ p.scriptValues ∧ ¬ p.RunsInline v := by
  rw [ignoredFindings_eq, exists_mem_ignoredUnder_iff, RunsInline, ← hasStrictDynamic_iff,
    ← hasScriptNonces_or_hasScriptHashes, Bool.or_eq_true]
  tauto

end Policy

namespace Collection

theorem scriptUnsafeInline_evaluate (v : Version) (b : BypassLists) (c : Collection) :
    (c.evaluate v b).findings.filter (·.topic = .scriptUnsafeInline) =
      c.flatMap fun p => Check.scriptUnsafeInline (p.effective v) :=
  filter_topic_evaluate_eq (· = .scriptUnsafeInline) rfl rfl rfl
    Check.tells_scriptUnsafeInline (by decide) v c

theorem ignored_evaluate (v : Version) (b : BypassLists) (c : Collection) :
    (c.evaluate v b).findings.filter (·.topic = .ignored) = c.ignoredFindings v := by
  have hparsed : Check.speakers (· = .ignored) Check.parsedChecks Check.parsedKindsEach = [] := rfl
  have heffective : Check.speakers (· = .ignored) (Check.effectiveChecks b)
      Check.effectiveKindsEach = [] := rfl
  simpa [hparsed, heffective] using filter_topic_evaluate (· = .ignored) v b c

/-- The report goes through the policies that were read, and so does what is told to be ignored. For
each policy the check reports the keyword exactly if inline scripts run; the resolver tells that it
is ignored exactly if it is listed and not reported. -/
theorem inline_reported_or_ignored (headers : List String) (v : Version) (b : BypassLists) :
    ((parse headers).evaluate v b).findings.filter (·.topic = .scriptUnsafeInline) =
      ((parse headers).flatMap fun p => Check.scriptUnsafeInline (p.effective v)) ∧
    ((parse headers).evaluate v b).findings.filter (·.topic = .ignored) =
      (parse headers).flatMap (Policy.ignoredFindings v) ∧
    ∀ p ∈ parse headers,
      Check.scriptUnsafeInline (p.effective v) =
        (if p.RunsInline v then [⟨.scriptUnsafeInline, .high, p.scriptName,
          some Keyword.unsafeInline,
          "'unsafe-inline' allows the execution of unsafe in-page scripts and event handlers."⟩]
        else []) ∧
      ((∃ f ∈ p.ignoredFindings v, f.value = some Keyword.unsafeInline) ↔
        Keyword.unsafeInline ∈ p.scriptValues ∧ Check.scriptUnsafeInline (p.effective v) = []) := by
  refine ⟨scriptUnsafeInline_evaluate v b _, ignored_evaluate v b _, fun p hp => ?_⟩
  obtain ⟨text, -, rfl⟩ := List.mem_map.1 hp
  have hn : (Policy.parse text).scriptValues.Nodup :=
    Policy.nodup_scriptValues fun d hd => (Policy.settled_parse text d hd).nodup_values
  have hreport := Policy.scriptUnsafeInline_effective (v := v) hn
  refine ⟨hreport, ?_⟩
  rw [Policy.exists_mem_ignoredFindings_iff, hreport]
  split
  case isTrue hruns => simp [hruns]
  case isFalse hruns => simp [hruns]

def mixedHeaders : List String :=
  ["script-src 'unsafe-inline' 'nonce-abc', default-src 'unsafe-inline' 'strict-dynamic'",
    "script-src 'self'"]

def nonceExample : Policy := Policy.parse "script-src 'unsafe-inline' 'nonce-abc'"

theorem inline_reported_or_ignored_mixedHeaders :
    ((parse mixedHeaders).evaluate .csp2 .builtIn).findings.filter (·.topic = .scriptUnsafeInline) =
      [Check.inlineRuns "default-src"] ∧
    nonceExample ∈ parse mixedHeaders ∧
    Check.scriptUnsafeInline (nonceExample.effective .csp2) = [] ∧
    ∃ f ∈ nonceExample.ignoredFindings .csp2, f.value = some Keyword.unsafeInline := by
  obtain ⟨hreport, -, heach⟩ := inline_reported_or_ignored mixedHeaders .csp2 .builtIn
  have hp : nonceExample ∈ parse mixedHeaders := by decide +kernel
  obtain ⟨hruns, hignored⟩ := heach nonceExample hp
  have hquiet : Check.scriptUnsafeInline (nonceExample.effective .csp2) = [] := by
    rw [hruns]
    decide +kernel
  refine ⟨?_, hp, hquiet, hignored.2 ⟨by decide +kernel, hquiet⟩⟩
  rw [hreport]
  decide +kernel

end Collection

end ContentPolicy
