import ContentPolicy.Policy.Parser
import ContentPolicy.Proofs.Kinds
import ContentPolicy.Proofs.Resolution

/-!
When `report-uri` is called out of date: no browser before the third version enforces a `report-to`,
so the check speaks up there.
-/

namespace ContentPolicy

namespace Check

def isReportUriDeprecation (f : Finding) : Bool :=
  f.directive = Directive.reportUri && f.topic = .deprecatedDirective

theorem countP_deprecatedDirective (p : Policy) :
    (deprecatedDirective p).countP isReportUriDeprecation =
      if p.has Directive.reportUri && !p.has Directive.reportTo then 1 else 0 := by
  have hother {name description : String} (hn : name ≠ Directive.reportUri) (q : Bool) :
      (if q then [(⟨.deprecatedDirective, .info, name, none, description⟩ : Finding)] else
        []).countP isReportUriDeprecation = 0 := by
    cases q <;> simp [isReportUriDeprecation, hn]
  unfold deprecatedDirective
  rw [List.countP_append, List.countP_append, List.countP_append, hother (by decide),
    hother (by decide), hother (by decide)]
  cases p.has Directive.reportUri && !p.has Directive.reportTo <;> simp [isReportUriDeprecation]

theorem countP_flatMap_of_ite {α : Type} {g : α → List Finding} {r : Finding → Bool}
    {q : α → Bool} (h : ∀ a, (g a).countP r = if q a then 1 else 0) (l : List α) :
    (l.flatMap g).countP r = l.countP q := by
  induction l with
  | nil => rfl
  | cons a l ih => rw [List.flatMap_cons, List.countP_append, h, ih, List.countP_cons, Nat.add_comm]

end Check

namespace Policy

theorem has_effective_reportUri (v : Version) (p : Policy) :
    (p.effective v).has Directive.reportUri = p.has Directive.reportUri :=
  has_effective v p (by decide)

theorem has_effective_reportTo (v : Version) (p : Policy) :
    (p.effective v).has Directive.reportTo = (v = .csp3 && p.has Directive.reportTo) := by
  have hnewer : Directive.sinceCsp3.contains Directive.reportTo = true := by decide
  rw [Bool.eq_iff_iff, has_iff, names_effective, List.mem_filter, ← has_iff, hnewer]
  simp [and_comm]

end Policy

namespace Collection

theorem countP_isReportUriDeprecation (v : Version) (b : BypassLists) (c : Collection) :
    (c.evaluate v b).findings.countP Check.isReportUriDeprecation =
      c.countP fun p => p.has Directive.reportUri && !(v = .csp3 && p.has Directive.reportTo) := by
  let q : Topic → Bool := (· = .deprecatedDirective)
  have hsaid : (c.evaluate v b).findings.filter (q ·.topic) =
      c.flatMap fun p => Check.deprecatedDirective (p.effective v) :=
    filter_topic_evaluate_eq q rfl rfl rfl Check.tells_deprecatedDirective (by decide) v c
  have hsays (p : Policy) :
      (Check.deprecatedDirective (p.effective v)).countP Check.isReportUriDeprecation =
        if p.has Directive.reportUri && !(v = .csp3 && p.has Directive.reportTo) then 1 else 0 := by
    rw [Check.countP_deprecatedDirective, Policy.has_effective_reportUri,
      Policy.has_effective_reportTo]
  calc (c.evaluate v b).findings.countP Check.isReportUriDeprecation
    _ = ((c.evaluate v b).findings.filter (q ·.topic)).countP Check.isReportUriDeprecation := by
        rw [List.countP_filter]
        exact List.countP_congr fun f _ => by simp [Check.isReportUriDeprecation, q]
    _ = c.countP _ := by rw [hsaid, Check.countP_flatMap_of_ite hsays]

/-- To leave out those with `r` changes no count exactly if none of those counted has it. -/
theorem countP_eq_countP_and_not_iff {α : Type} (q r : α → Bool) (l : List α) :
    l.countP q = l.countP (fun a => q a && !r a) ↔ ∀ a ∈ l, q a = true → r a = false := by
  have hsplit : l.countP q = l.countP (fun a => q a && r a) + l.countP (fun a => q a && !r a) := by
    rw [List.countP_eq_countP_filter_add l q r, List.countP_filter, List.countP_filter]
  have hboth : l.countP (fun a => q a && r a) = 0 ↔ ∀ a ∈ l, q a = true → r a = false := by
    simp [List.countP_eq_zero]
  rw [← hboth]
  omega

/-- Once for each policy that has a `report-uri`, and no `report-to` that the version knows. So it
is once for each that has no `report-to` at all exactly if the version knows it, or if no policy
has both. -/
theorem countP_reportUri_evaluate (v : Version) (b : BypassLists) (c : Collection) :
    (c.evaluate v b).findings.countP Check.isReportUriDeprecation =
      c.countP (fun p => p.has Directive.reportUri && !(v = .csp3 && p.has Directive.reportTo)) ∧
    ((c.evaluate v b).findings.countP Check.isReportUriDeprecation =
        c.countP (fun p => p.has Directive.reportUri && !p.has Directive.reportTo) ↔
      v = .csp3 ∨
        ∀ p ∈ c, p.has Directive.reportUri = true → p.has Directive.reportTo = false) := by
  refine ⟨countP_isReportUriDeprecation v b c, ?_⟩
  rw [countP_isReportUriDeprecation]
  by_cases hv : v = .csp3
  · simp [hv]
  · simp only [hv, decide_false, Bool.false_and, Bool.not_false, Bool.and_true, false_or]
    exact countP_eq_countP_and_not_iff _ _ c

def reportExample : Collection := parse ["report-uri /a; report-to b"]

theorem reportUri_overlooks_reportTo_reportExample :
    reportExample.countP (fun p => p.has Directive.reportUri && !p.has Directive.reportTo) = 0 ∧
      (reportExample.evaluate .csp2 .builtIn).findings.countP Check.isReportUriDeprecation = 1 := by
  decide +kernel

end Collection

end ContentPolicy
