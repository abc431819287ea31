import ContentPolicy.Proofs.Reading

/-!
The directives in force for a list of names, each kept at its first place.
-/

namespace ContentPolicy

/-- The entries of the list, each once, by their first places. -/
structure IsFirsts (rs l : List String) : Prop where
  nodup : rs.Nodup
  mem_iff : ∀ n, n ∈ rs ↔ n ∈ l
  by_first_place : rs.Pairwise fun a b => l.idxOf a < l.idxOf b

section Firsts

variable {rs rs' l : List String} {a b : String}

/-- Entries that are left out do not change which of two others comes first. -/
theorem idxOf_lt_of_filter {keeps : String → Bool} (ha : keeps a = true) (hb : keeps b = true)
    (h : (l.filter keeps).idxOf a < (l.filter keeps).idxOf b) : l.idxOf a < l.idxOf b := by
  induction l with
  | nil => exact absurd h (Nat.lt_irrefl _)
  | cons c r ih =>
    cases hc : keeps c with
    | false =>
      have hca : c ≠ a := fun he => by simp [he, ha] at hc
      have hcb : c ≠ b := fun he => by simp [he, hb] at hc
      rw [List.filter_cons_of_neg (by simp [hc])] at h
      rw [List.idxOf_cons_ne _ hca, List.idxOf_cons_ne _ hcb]
      exact Nat.succ_lt_succ (ih h)
    | true =>
      rw [List.filter_cons_of_pos hc] at h
      by_cases hcb : c = b
      · subst hcb
        rw [List.idxOf_cons_self] at h
        exact absurd h (Nat.not_lt_zero _)
      · by_cases hca : c = a
        · subst hca
          rw [List.idxOf_cons_self, List.idxOf_cons_ne _ hcb]
          exact Nat.succ_pos _
        · rw [List.idxOf_cons_ne _ hca, List.idxOf_cons_ne _ hcb] at h ⊢
          exact Nat.succ_lt_succ (ih (Nat.lt_of_succ_lt_succ h))

theorem pairwise_eraseDups (l : List String) :
    l.eraseDups.Pairwise fun a b => l.idxOf a < l.idxOf b := by
  induction l using filterTail_induction fun v u : String => !u == v with
  | nil => exact .nil
  | cons v r ih =>
    have hother : ∀ u ∈ (r.filter fun u => !u == v).eraseDups, (!u == v) = true := fun u hu =>
      (List.mem_filter.1 (List.mem_eraseDups.1 hu)).2
    have hne : ∀ u ∈ (r.filter fun u => !u == v).eraseDups, v ≠ u := by
      rintro u hu rfl
      simpa using hother v hu
    rw [List.eraseDups_cons]
    refine .cons (fun u hu => ?_) (ih.imp_of_mem fun {u w} hu hw h => ?_)
    · rw [List.idxOf_cons_self, List.idxOf_cons_ne _ (hne u hu)]
      exact Nat.succ_pos _
    · rw [List.idxOf_cons_ne _ (hne u hu), List.idxOf_cons_ne _ (hne w hw)]
      exact Nat.succ_lt_succ (idxOf_lt_of_filter (hother u hu) (hother w hw) h)

theorem isFirsts_eraseDups (l : List String) : IsFirsts l.eraseDups l where
  nodup := nodup_eraseDups
  mem_iff _ := List.mem_eraseDups
  by_first_place := pairwise_eraseDups l

theorem IsFirsts.unique (h : IsFirsts rs l) (h' : IsFirsts rs' l) : rs = rs' := by
  have hperm : rs.Perm rs' := (List.perm_ext_iff_of_nodup h.nodup h'.nodup).2 fun n =>
    (h.mem_iff n).trans (h'.mem_iff n).symm
  refine hperm.eq_of_pairwise (fun a b _ _ hab hba => ?_) h.by_first_place h'.by_first_place
  exact absurd hba (Nat.lt_asymm hab)

end Firsts

namespace Policy

variable (p : Policy)

/-- Also a `default-src` that is missing stands for itself. -/
theorem effectiveName_effectiveName (name : String) :
    p.effectiveName (p.effectiveName name) = p.effectiveName name := by
  by_cases h : (p.has name || !Directive.isFetch name) = true
  · have hname : p.effectiveName name = name := if_pos h
    rw [hname, hname]
  · have hname : p.effectiveName name = Directive.defaultSrc := if_neg h
    rw [hname, effectiveName, ite_self]

theorem effectiveNames_effectiveNames (ns : List String) :
    p.effectiveNames (p.effectiveNames ns) = p.effectiveNames ns := by
  have hself : ∀ name ∈ p.effectiveNames ns, p.effectiveName name = name := by
    intro name hn
    obtain ⟨m, -, rfl⟩ := List.mem_map.1 (List.mem_eraseDups.1 hn)
    exact effectiveName_effectiveName p m
  rw [effectiveNames, List.map_congr_left hself, List.map_id']
  exact eraseDups_eq_self nodup_eraseDups

/-- The names in force are those of the given names, each once and by its first place, and they are
in force for themselves. In what a version enforces, the same directive is in force for a name that
is none of the newer ones. -/
theorem effectiveNames_resolve (ns : List String) :
    (∀ rs, IsFirsts rs (ns.map p.effectiveName) ↔ rs = p.effectiveNames ns) ∧
      p.effectiveNames (p.effectiveNames ns) = p.effectiveNames ns ∧
      ∀ v name, name ∉ Directive.sinceCsp3 →
        (p.effective v).effectiveName name = p.effectiveName name := by
  have hfirsts : IsFirsts (p.effectiveNames ns) (ns.map p.effectiveName) := isFirsts_eraseDups _
  exact ⟨fun rs => ⟨fun h => h.unique hfirsts, fun h => h ▸ hfirsts⟩,
    effectiveNames_effectiveNames p ns, fun v _ hn => effectiveName_effective v p hn⟩

def bareExample : Policy where
  directives := [("worker-src", ["*"]), ("img-src", [])]
  nodup_names := by decide

theorem effectiveNames_resolve_bareExample :
    bareExample.effectiveNames ["script-src", "img-src", "sandbox", "object-src", "img-src"] =
        ["default-src", "img-src", "sandbox"] ∧
      (bareExample.effective .csp1).effectiveName "script-src" = "default-src" := by
  have hmap : ["script-src", "img-src", "sandbox", "object-src", "img-src"].map
      bareExample.effectiveName = ["default-src", "img-src", "sandbox", "default-src", "img-src"] := by
    decide +kernel
  have hfirsts : IsFirsts ["default-src", "img-src", "sandbox"]
      ["default-src", "img-src", "sandbox", "default-src", "img-src"] := by
    refine ⟨by decide, fun n => ?_, by decide⟩
    simp only [List.mem_cons]
    tauto
  have hscript : bareExample.effectiveName "script-src" = "default-src" := by decide +kernel
  obtain ⟨hunique, -, hkept⟩ := effectiveNames_resolve bareExample
    ["script-src", "img-src", "sandbox", "object-src", "img-src"]
  exact ⟨((hunique _).1 (hmap ▸ hfirsts)).symm,
    (hkept .csp1 "script-src" (by decide)).trans hscript⟩

/- A directive that the version drops falls back. -/
example : bareExample.effectiveName "worker-src" = "worker-src" ∧
    (bareExample.effective .csp1).effectiveName "worker-src" = "default-src" := by decide +kernel

end Policy

end ContentPolicy
