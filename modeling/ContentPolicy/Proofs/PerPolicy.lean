import ContentPolicy.Proofs.Bypasses

/-!
Policies are judged one at a time; only Trusted Types are asked of the collection as a whole.
-/

namespace ContentPolicy

namespace Check

/-- A search through the policies that never breaks off is a look at each of them. -/
theorem ofResult_gather_eq_perPolicy (name : String) {f : Policy → Except Fault (List Finding)}
    (h : ∀ p, ∃ fs, f p = .ok fs) :
    ofResult name (gather f) = perPolicy name fun p => told (f p) := by
  have hg : gather f = fun c : Collection => .ok (c.flatMap fun p => told (f p)) :=
    funext fun c => gather_total fun p _ => h p
  rw [perPolicy, ofFindings, hg]

theorem run_perPolicy_append (name : String) (g : Policy → List Finding) (c d : Collection) :
    (perPolicy name g).run (c ++ d) =
      ⟨((perPolicy name g).run c).findings ++ ((perPolicy name g).run d).findings, none, c ++ d⟩ := by
  simp only [perPolicy, ofFindings, ofResult, List.flatMap_append]

def trustedTypesName : String := "check_requires_trusted_types_for_scripts"

/-- With texts in the lists, each check looks at one policy at a time, but for the one that is
satisfied by any of them. -/
theorem exists_eq_perPolicy {b : BypassLists} (hb : b.AllTexts) :
    ∀ k ∈ parsedChecks ++ effectiveChecks b,
      k.name ≠ trustedTypesName → ∃ g, k = perPolicy k.name g := by
  have each (name : String) (g : Policy → List Finding) :
      (perPolicy name g).name ≠ trustedTypesName →
        ∃ g', perPolicy name g = perPolicy (perPolicy name g).name g' := fun _ => ⟨g, rfl⟩
  have hscript : ∀ p, ∃ fs, scriptAllowlistBypass b p = .ok fs :=
    fun p => ⟨_, scriptAllowlistBypass_eq_ok hb p⟩
  simp only [parsedChecks, grammarChecks, strictChecks, effectiveChecks, List.cons_append,
    List.nil_append, List.forall_mem_cons]
  refine ⟨each _ _, each _ _, each _ _, each _ _, each _ _, each _ _, each _ _,
    fun h => absurd rfl h, each _ _, each _ _, each _ _, each _ _, each _ _,
    fun _ => ⟨_, ofResult_gather_eq_perPolicy _ hscript⟩,
    fun _ => ⟨_, ofResult_gather_eq_perPolicy _ (objectAllowlistBypass_total hb)⟩,
    each _ _, each _ _, each _ _, each _ _, ?_⟩
  exact fun k hk => absurd hk List.not_mem_nil

/-- Without any policy that asks for them, what is told does not depend on what the policies are. -/
theorem exists_requiresTrustedTypesForScripts_eq :
    ∃ advice, ∀ c : Collection, requiresTrustedTypesForScripts c =
      if c.any requiresTrustedTypes then [] else [advice] :=
  ⟨_, fun _ => rfl⟩

/-- One of the policies is enough, on whichever side it stands. -/
theorem requiresTrustedTypesForScripts_append (c d : Collection) :
    (requiresTrustedTypesForScripts (c ++ d) = [] ↔
      requiresTrustedTypesForScripts c = [] ∨ requiresTrustedTypesForScripts d = []) ∧
    (requiresTrustedTypesForScripts (c ++ d) ≠ [] →
      ∃ f, requiresTrustedTypesForScripts (c ++ d) = [f] ∧
        requiresTrustedTypesForScripts c = [f] ∧ requiresTrustedTypesForScripts d = [f]) := by
  obtain ⟨advice, h⟩ := exists_requiresTrustedTypesForScripts_eq
  rw [h (c ++ d), h c, h d, List.any_append]
  cases c.any requiresTrustedTypes <;> cases d.any requiresTrustedTypes <;> simp

end Check

namespace Collection

theorem effective_append (v : Version) (c d : Collection) :
    effective v (c ++ d) = c.effective v ++ d.effective v := List.map_append

theorem ignoredFindings_append (v : Version) (c d : Collection) :
    ignoredFindings v (c ++ d) = c.ignoredFindings v ++ d.ignoredFindings v := List.flatMap_append

/-- Of policies that come together the same is enforced, and the same is told by each check, as of
those that came first and then of those that came last. Trusted Types are missed only where they
are missed on both sides, and then once. -/
theorem judged_apart {b : BypassLists} (hb : b.AllTexts) (v : Version) (c d : Collection) :
    effective v (c ++ d) = c.effective v ++ d.effective v ∧
    ignoredFindings v (c ++ d) = c.ignoredFindings v ++ d.ignoredFindings v ∧
    (∀ k ∈ Check.parsedChecks ++ Check.effectiveChecks b, k.name ≠ Check.trustedTypesName →
      k.run (c ++ d) = ⟨(k.run c).findings ++ (k.run d).findings, none, c ++ d⟩) ∧
    (Check.requiresTrustedTypesForScripts (c ++ d) = [] ↔
      Check.requiresTrustedTypesForScripts c = [] ∨
        Check.requiresTrustedTypesForScripts d = []) ∧
    (Check.requiresTrustedTypesForScripts (c ++ d) ≠ [] →
      ∃ f, Check.requiresTrustedTypesForScripts (c ++ d) = [f] ∧
        Check.requiresTrustedTypesForScripts c = [f] ∧
        Check.requiresTrustedTypesForScripts d = [f]) := by
  refine ⟨effective_append v c d, ignoredFindings_append v c d, fun k hk hname => ?_,
    Check.requiresTrustedTypesForScripts_append c d⟩
  obtain ⟨g, hg⟩ := Check.exists_eq_perPolicy hb k hk hname
  rw [hg]
  exact Check.run_perPolicy_append k.name g c d

def placesExample : BypassLists := .ofStrings ["//cdn.example.com/x"] [] [] []

def allowlistCheckExample : Check :=
  .ofResult "check_script_allowlist_bypass" (Check.gather (Check.scriptAllowlistBypass placesExample))

def laxExample : Collection := [{
  directives := [("script-src", ["'self'", "cdn.example.com"])]
  nodup_names := by decide }]

def typedExample : Collection := [{
  directives := [("script-src", ["b.example.com"]), ("require-trusted-types-for", ["'script'"])]
  nodup_names := by decide }]

theorem judged_apart_laxExample :
    placesExample.AllTexts ∧
    allowlistCheckExample ∈ Check.parsedChecks ++ Check.effectiveChecks placesExample ∧
    allowlistCheckExample.name ≠ Check.trustedTypesName ∧
    allowlistCheckExample.run (laxExample ++ typedExample) =
      ⟨(allowlistCheckExample.run laxExample).findings ++
        (allowlistCheckExample.run typedExample).findings, none, laxExample ++ typedExample⟩ ∧
    (allowlistCheckExample.run laxExample).findings.map (·.severity) = [.mediumMaybe, .high] ∧
    (allowlistCheckExample.run typedExample).findings.map (·.severity) = [.mediumMaybe] ∧
    Check.requiresTrustedTypesForScripts laxExample ≠ [] ∧
    Check.requiresTrustedTypesForScripts (laxExample ++ typedExample) = [] := by
  have hb : placesExample.AllTexts := ⟨["//cdn.example.com/x"], [], [], [], rfl⟩
  have hk : allowlistCheckExample ∈
      Check.parsedChecks ++ Check.effectiveChecks placesExample := by
    simp [Check.effectiveChecks, allowlistCheckExample]
  have hname : allowlistCheckExample.name ≠ Check.trustedTypesName := by decide
  obtain ⟨-, -, hrun, htypes, -⟩ := judged_apart hb .csp3 laxExample typedExample
  refine ⟨hb, hk, hname, hrun _ hk hname, ?_, ?_, ?_, htypes.2 (.inr ?_)⟩
  · decide +kernel
  · decide +kernel
  · decide +kernel
  · decide +kernel

end Collection

end ContentPolicy
