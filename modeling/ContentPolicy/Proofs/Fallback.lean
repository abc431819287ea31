import ContentPolicy.Check.Strict
import ContentPolicy.Policy.Parser
import ContentPolicy.Proofs.StrictPolicy

/-!
What old browsers fall back on where trust is passed on. Any dot is taken for a part of a host, also
one of a nonce.
-/

namespace ContentPolicy.Check

open Source

def ListsPlace (vs : List String) : Prop := ∃ v ∈ vs, isQuoted v = false ∧ isPlace v = true

def HidesDot (vs : List String) : Prop := ∃ v ∈ vs, isQuoted v = true ∧ '.' ∈ v.toList

/-- No quoted value but keywords, and nonces and hashes that could be the base64 form of
something. -/
def QuotesSoundly (vs : List String) : Prop :=
  ∀ v ∈ vs, isQuoted v = true →
    isKeyword v = true ∨ isStrictNonce v = true ∨ isStrictHash v = true

instance (vs : List String) : Decidable (ListsPlace vs) :=
  inferInstanceAs (Decidable (∃ v ∈ vs, isQuoted v = false ∧ isPlace v = true))

instance (vs : List String) : Decidable (HidesDot vs) :=
  inferInstanceAs (Decidable (∃ v ∈ vs, isQuoted v = true ∧ '.' ∈ v.toList))

theorem isPlace_of_isQuoted {value : String} (hq : isQuoted value = true) :
    isPlace value = true ↔ '.' ∈ value.toList := by
  have hbare : ∀ place ∈ ["http:", "https:", "*"], isQuoted place = false := by decide
  have hplace : value ∉ ["http:", "https:", "*"] := fun hm =>
    absurd hq (by simp [hbare value hm])
  rw [isPlace, Bool.or_eq_true, List.contains_iff_mem, List.contains_iff_mem,
    or_iff_right hplace]

theorem any_isPlace_iff {vs : List String} :
    vs.any isPlace = true ↔ ListsPlace vs ∨ HidesDot vs := by
  rw [List.any_eq_true]
  constructor
  · rintro ⟨v, hv, hp⟩
    cases hq : isQuoted v with
    | false => exact .inl ⟨v, hv, hq, hp⟩
    | true => exact .inr ⟨v, hv, hq, (isPlace_of_isQuoted hq).1 hp⟩
  · rintro (⟨v, hv, -, hp⟩ | ⟨v, hv, hq, hdot⟩)
    · exact ⟨v, hv, hp⟩
    · exact ⟨v, hv, (isPlace_of_isQuoted hq).2 hdot⟩

theorem listsPlace_congr {vs ws : List String}
    (h : ∀ v, isQuoted v = false → (v ∈ vs ↔ v ∈ ws)) : ListsPlace vs ↔ ListsPlace ws := by
  refine exists_congr fun v => ?_
  constructor
  · rintro ⟨hv, hq, hp⟩
    exact ⟨(h v hq).1 hv, hq, hp⟩
  · rintro ⟨hv, hq, hp⟩
    exact ⟨(h v hq).2 hv, hq, hp⟩

theorem not_hidesDot_of_quotesSoundly {vs : List String} (h : QuotesSoundly vs) :
    ¬ HidesDot vs :=
  fun ⟨v, hv, hq, hdot⟩ => not_mem_of_strict (.inr rfl) (h v hv hq) hdot

section Advice

variable {p : Policy} (h : p.hasStrictDynamic = true)
include h

theorem allowlistFallback_eq_nil_iff :
    allowlistFallback p = [] ↔ ListsPlace p.scriptValues ∨ HidesDot p.scriptValues := by
  rw [← any_isPlace_iff, allowlistFallback, h, Bool.true_and]
  cases p.scriptValues.any isPlace <;> simp

theorem allowlistFallback_eq_advice_iff :
    allowlistFallback p = [fallbackAdvice p.scriptName] ↔
      ¬ (ListsPlace p.scriptValues ∨ HidesDot p.scriptValues) := by
  rw [← any_isPlace_iff, allowlistFallback, h, Bool.true_and]
  cases p.scriptValues.any isPlace <;> simp

end Advice

/-- The advice is given if there is no place to fall back on and no dot between ticks. So it is
given where it should be, unless a dot between ticks stands in for a place that is missing; and of
two policies with the same unquoted values both get it or none, unless there is no place and only
one of them has such a dot. No keyword has one, nor has a nonce or a hash of base64 text. -/
theorem allowlistFallback_iff {p : Policy} (h : p.hasStrictDynamic = true) :
    fallbackAdvice p.scriptName = ⟨.allowlistFallback, .strictCsp, p.scriptName, none,
      "Consider adding https: and http: url schemes (ignored by browsers supporting 'strict-dynamic') to be backward compatible with older browsers."⟩ ∧
      (allowlistFallback p = [] ↔ ListsPlace p.scriptValues ∨ HidesDot p.scriptValues) ∧
      (allowlistFallback p = [fallbackAdvice p.scriptName] ↔
        ¬ (ListsPlace p.scriptValues ∨ HidesDot p.scriptValues)) ∧
      ((allowlistFallback p = [fallbackAdvice p.scriptName] ↔ ¬ ListsPlace p.scriptValues) ↔
        (HidesDot p.scriptValues → ListsPlace p.scriptValues)) ∧
      (∀ q : Policy, q.hasStrictDynamic = true →
        (∀ v, isQuoted v = false → (v ∈ p.scriptValues ↔ v ∈ q.scriptValues)) →
        ((allowlistFallback p = [] ↔ allowlistFallback q = []) ↔
          ListsPlace p.scriptValues ∨ (HidesDot p.scriptValues ↔ HidesDot q.scriptValues))) ∧
      (QuotesSoundly p.scriptValues → ¬ HidesDot p.scriptValues) := by
  have hnil := allowlistFallback_eq_nil_iff h
  have hadvice := allowlistFallback_eq_advice_iff h
  refine ⟨rfl, hnil, hadvice, ?_, fun q hq hsame => ?_, not_hidesDot_of_quotesSoundly⟩
  · rw [hadvice, not_or, and_iff_left_iff_imp, not_imp_not]
  · have hplaces : ListsPlace p.scriptValues ↔ ListsPlace q.scriptValues := listsPlace_congr hsame
    rw [hnil, allowlistFallback_eq_nil_iff hq, ← hplaces]
    by_cases hlists : ListsPlace p.scriptValues <;> simp [hlists]

/-- Two policies that differ in a nonce of base64 text. -/
theorem allowlistFallback_iff_nonceExample :
    allowlistFallback (.parse "script-src 'strict-dynamic' a") = [] ↔
      allowlistFallback (.parse "script-src 'strict-dynamic' 'nonce-a+b' a") = [] := by
  have hplain : (Policy.parse "script-src 'strict-dynamic' a").hasStrictDynamic = true := by
    decide +kernel
  have hnonce :
      (Policy.parse "script-src 'strict-dynamic' 'nonce-a+b' a").hasStrictDynamic = true := by
    decide +kernel
  have hvalues : (Policy.parse "script-src 'strict-dynamic' a").scriptValues =
      ["'strict-dynamic'", "a"] := by decide +kernel
  have hmore : (Policy.parse "script-src 'strict-dynamic' 'nonce-a+b' a").scriptValues =
      ["'strict-dynamic'", "'nonce-a+b'", "a"] := by decide +kernel
  refine ((allowlistFallback_iff hplain).2.2.2.2.1 _ hnonce fun v hv => ?_).2 (.inr ?_)
  · rw [hvalues, hmore]
    have hne : v ≠ "'nonce-a+b'" := by
      rintro rfl
      exact absurd hv (by decide)
    simp [hne]
  · rw [hvalues, hmore]
    decide

/-- The dot of a nonce silences the advice, though nothing is there to fall back on. -/
theorem nonce_silences_advice :
    isNonce "'nonce-a.b'" = true ∧
      (Policy.parse "script-src 'strict-dynamic' 'nonce-a.b'").scriptValues =
        ["'strict-dynamic'", "'nonce-a.b'"] ∧
      ¬ ListsPlace ["'strict-dynamic'", "'nonce-a.b'"] ∧
      allowlistFallback (.parse "script-src 'strict-dynamic' 'nonce-a.b'") = [] ∧
      allowlistFallback (.parse "script-src 'strict-dynamic'") =
        [fallbackAdvice Directive.scriptSrc] := by
  decide +kernel

end ContentPolicy.Check
