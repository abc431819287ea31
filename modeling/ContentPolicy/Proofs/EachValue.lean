import ContentPolicy.Check.Basic
import ContentPolicy.Proofs.Resolution

/-!
Checks that look at one value of one directive at a time.
-/

namespace ContentPolicy

namespace Policy

/-- All that the directives give is what this one gives, if the others give nothing. -/
theorem flatMap_directives {β : Type} {p : Policy} {name : String} (h : p.has name = true)
    {g : String × List String → List β} (hg : ∀ d, d.1 ≠ name → g d = []) :
    p.directives.flatMap g = g (name, p.values name) := by
  obtain ⟨front, back, hds⟩ := List.append_of_mem (mem_directives_of_has h)
  have hn := p.nodup_names
  rw [hds, List.map_append, List.map_cons, List.nodup_append, List.nodup_cons] at hn
  obtain ⟨-, ⟨hback, -⟩, hfront⟩ := hn
  have hfront : front.flatMap g = [] := List.flatMap_eq_nil_iff.2 fun d hd =>
    hg d (hfront _ (List.mem_map_of_mem hd) _ List.mem_cons_self)
  have hback : back.flatMap g = [] := List.flatMap_eq_nil_iff.2 fun d hd =>
    hg d fun he => hback (List.mem_map.2 ⟨d, hd, he⟩)
  rw [hds, List.flatMap_append, List.flatMap_cons, hfront, hback, List.nil_append, List.append_nil]

end Policy

namespace Check

def Concerns (name value : String) (f : Finding) : Prop :=
  f.directive = name ∧ f.value = some value

instance (name value : String) : DecidablePred (Concerns name value) := fun f =>
  inferInstanceAs (Decidable (f.directive = name ∧ f.value = some value))

/-- A finding is of some value of some directive. -/
theorem mem_eachValue_iff {g : String → String → List Finding} {p : Policy} {f : Finding} :
    f ∈ eachValue g p ↔ ∃ name, ∃ value ∈ p.values name, f ∈ g name value := by
  simp only [eachValue, List.mem_flatMap]
  constructor
  · rintro ⟨d, hd, value, hv, hf⟩
    exact ⟨d.1, value, by rwa [Policy.values_of_mem hd], hf⟩
  · rintro ⟨name, value, hv, hf⟩
    exact ⟨_, Policy.mem_directives_of_has (Policy.has_of_mem_values hv), value, hv, hf⟩

section EachValue

variable {g : String → String → List Finding}
  (hg : ∀ name value, ∀ f ∈ g name value, Concerns name value f)
include hg

theorem of_mem_eachValue {p : Policy} {f : Finding} (hf : f ∈ eachValue g p) {value : String}
    (hv : f.value = some value) : value ∈ p.values f.directive ∧ f ∈ g f.directive value := by
  obtain ⟨name, v, hmem, hf⟩ := mem_eachValue_iff.1 hf
  obtain ⟨rfl, hvalue⟩ := hg name v f hf
  rw [hvalue] at hv
  cases hv
  exact ⟨hmem, hf⟩

theorem exists_mem_eachValue_iff {p : Policy} {name value : String} :
    (∃ f ∈ eachValue g p, f.directive = name ∧ f.value = some value) ↔
      value ∈ p.values name ∧ g name value ≠ [] := by
  constructor
  · rintro ⟨f, hf, rfl, hv⟩
    have hmem := of_mem_eachValue hg hf hv
    exact ⟨hmem.1, List.ne_nil_of_mem hmem.2⟩
  · rintro ⟨hv, hne⟩
    obtain ⟨f, hf⟩ := List.exists_mem_of_ne_nil _ hne
    exact ⟨f, mem_eachValue_iff.2 ⟨name, value, hv, hf⟩, hg name value f hf⟩

/- Of one value of one directive -/

theorem filter_concerns_of_ne {name value n v : String} (h : n ≠ name ∨ v ≠ value) :
    (g n v).filter (Concerns name value) = [] := by
  refine List.filter_eq_nil_iff.2 fun f hf hc => ?_
  have hf := hg n v f hf
  have hc : Concerns name value f := of_decide_eq_true hc
  obtain hn | hv := h
  · exact hn (hf.1.symm.trans hc.1)
  · exact hv (Option.some.inj (hf.2.symm.trans hc.2))

theorem filter_concerns_self (name value : String) :
    (g name value).filter (Concerns name value) = g name value :=
  List.filter_eq_self.2 fun f hf => decide_eq_true (hg name value f hf)

theorem filter_concerns_values (name value : String) (vs : List String) :
    (vs.flatMap (g name)).filter (Concerns name value) =
      (List.replicate (vs.count value) (g name value)).flatten := by
  induction vs with
  | nil => rfl
  | cons v r ih =>
    rw [List.flatMap_cons, List.filter_append, ih]
    by_cases hv : v = value
    · rw [hv, filter_concerns_self hg, List.count_cons_self, List.replicate_succ, List.flatten_cons]
    · rw [filter_concerns_of_ne hg (.inr hv), List.count_cons_of_ne hv, List.nil_append]

/-- What is told of one value of one directive is what is found in it, once for each time that it is
listed. The other values and directives are nothing to it. -/
theorem filter_eachValue (p : Policy) (name value : String) :
    (eachValue g p).filter (Concerns name value) =
      (List.replicate ((p.values name).count value) (g name value)).flatten := by
  have hother (d : String × List String) (hd : d.1 ≠ name) :
      (d.2.flatMap (g d.1)).filter (Concerns name value) = [] := by
    rw [List.filter_flatMap]
    exact List.flatMap_eq_nil_iff.2 fun v _ => filter_concerns_of_ne hg (.inl hd)
  rw [eachValue, List.filter_flatMap]
  cases hp : p.has name with
  | true => rw [Policy.flatMap_directives hp hother, filter_concerns_values hg]
  | false =>
    have hnone : ∀ d ∈ p.directives, d.1 ≠ name := by
      rintro d hd rfl
      rw [Policy.has_iff.2 (List.mem_map_of_mem hd)] at hp
      cases hp
    rw [Policy.values_of_not_has hp]
    exact List.flatMap_eq_nil_iff.2 fun d hd => hother d (hnone d hd)

end EachValue

end Check

end ContentPolicy
