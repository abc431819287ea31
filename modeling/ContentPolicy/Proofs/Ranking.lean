import ContentPolicy.Finding

/-!
The order of a report, and its worst severity. There is one ranking of the findings, and it begins
with the worst.
-/

namespace ContentPolicy

theorem Severity.eq_of_number_eq {s t : Severity} (h : s.number = t.number) : s = t := by
  cases s <;> cases t <;> first | rfl | exact absurd h (by decide)

theorem Severity.number_le_none (s : Severity) : s.number ≤ Severity.none.number := by
  cases s <;> decide

namespace Finding

variable {fs gs hs : List Finding} {s t : Severity}

/-- The findings with the worst first, and those of one severity in the order that they had. -/
structure IsRanking (gs fs : List Finding) : Prop where
  perm : gs.Perm fs
  worst_first : gs.Pairwise fun f g => f.severity.number ≤ g.severity.number
  stable : ∀ s : Severity, gs.filter (·.severity = s) = fs.filter (·.severity = s)

theorem ranked_trans (f g h : Finding) (hfg : decide (f.severity.number ≤ g.severity.number) = true)
    (hgh : decide (g.severity.number ≤ h.severity.number) = true) :
    decide (f.severity.number ≤ h.severity.number) = true := by
  rw [decide_eq_true_eq] at *
  exact Nat.le_trans hfg hgh

theorem ranked_total (f g : Finding) :
    (decide (f.severity.number ≤ g.severity.number) ||
      decide (g.severity.number ≤ f.severity.number)) = true := by
  simpa using Nat.le_total _ _

theorem isRanking_sort (fs : List Finding) : IsRanking (sort fs) fs where
  perm := List.mergeSort_perm fs _
  worst_first := (List.pairwise_mergeSort ranked_trans ranked_total fs).imp of_decide_eq_true
  stable s := by
    have hsame : (fs.filter (·.severity = s)).Pairwise fun f g =>
        decide (f.severity.number ≤ g.severity.number) = true := by
      refine List.pairwise_of_forall_mem_list fun f hf g hg => ?_
      have hf : f.severity = s := by simpa using (List.mem_filter.1 hf).2
      have hg : g.severity = s := by simpa using (List.mem_filter.1 hg).2
      rw [hf, hg]
      exact decide_eq_true (Nat.le_refl _)
    -- they are in order already, so sorting leaves them a sublist, and there are no more of them
    have hsub : (fs.filter (·.severity = s)).Sublist (sort fs) :=
      List.sublist_mergeSort ranked_trans ranked_total hsame List.filter_sublist
    have hfilter := hsub.filter (·.severity = s)
    rw [List.filter_filter, List.filter_congr fun f _ => Bool.and_self _] at hfilter
    have hperm := (List.mergeSort_perm fs fun f g => f.severity.number ≤ g.severity.number).filter
      (·.severity = s)
    exact (hfilter.eq_of_length hperm.length_eq.symm).symm

theorem mem_of_filter_eq
    (h : ∀ s : Severity, gs.filter (·.severity = s) = hs.filter (·.severity = s)) {f : Finding}
    (hf : f ∈ gs) : f ∈ hs := by
  have hgroup : f ∈ gs.filter (·.severity = f.severity) := List.mem_filter.2 ⟨hf, by simp⟩
  rw [h] at hgroup
  exact (List.mem_filter.1 hgroup).1

theorem number_head_le {f g : Finding}
    (h : (f :: gs).Pairwise fun f g => f.severity.number ≤ g.severity.number)
    (hg : g ∈ f :: gs) : f.severity.number ≤ g.severity.number := by
  cases hg with
  | head => exact Nat.le_refl _
  | tail _ hg => exact List.rel_of_pairwise_cons h hg

/-- Each head is in the other list too, so neither is worse than the other, and both are the first
of their severity. -/
theorem eq_of_filter_eq (hg : gs.Pairwise fun f g => f.severity.number ≤ g.severity.number)
    (hh : hs.Pairwise fun f g => f.severity.number ≤ g.severity.number)
    (h : ∀ s : Severity, gs.filter (·.severity = s) = hs.filter (·.severity = s)) : gs = hs := by
  induction gs generalizing hs with
  | nil =>
    refine (List.eq_nil_iff_forall_not_mem.2 fun f hf => ?_).symm
    exact absurd (mem_of_filter_eq (fun s => (h s).symm) hf) List.not_mem_nil
  | cons f gs ih =>
    cases hs with
    | nil => exact absurd (mem_of_filter_eq h List.mem_cons_self) List.not_mem_nil
    | cons g hs =>
      have hfg := number_head_le hg (mem_of_filter_eq (fun s => (h s).symm) List.mem_cons_self)
      have hgf := number_head_le hh (mem_of_filter_eq h List.mem_cons_self)
      have hsame : f.severity = g.severity := Severity.eq_of_number_eq (Nat.le_antisymm hfg hgf)
      have hfirst := h f.severity
      rw [List.filter_cons_of_pos (by simp), List.filter_cons_of_pos (by simp [hsame])] at hfirst
      obtain ⟨rfl, -⟩ := List.cons.inj hfirst
      refine congrArg (f :: ·) (ih hg.of_cons hh.of_cons fun s => ?_)
      have hrest := h s
      by_cases hs : f.severity = s
      · simpa [hs] using hrest
      · simpa [hs] using hrest

theorem IsRanking.unique (hg : IsRanking gs fs) (hh : IsRanking hs fs) : gs = hs :=
  eq_of_filter_eq hg.worst_first hh.worst_first fun s => (hg.stable s).trans (hh.stable s).symm

theorem sort_sort (fs : List Finding) : sort (sort fs) = sort fs :=
  List.mergeSort_of_pairwise (List.pairwise_mergeSort ranked_trans ranked_total fs)

/-- No finding is worse than this, and one of them is as bad unless there is nothing bad. -/
structure IsWorst (s : Severity) (fs : List Finding) : Prop where
  least : ∀ f ∈ fs, s.number ≤ f.severity.number
  attained : s = .none ∨ ∃ f ∈ fs, f.severity = s

theorem isWorst_foldl (fs : List Finding) (s : Severity) :
    let worst := fs.foldl (fun s f => if f.severity.number < s.number then f.severity else s) s
    worst.number ≤ s.number ∧ (∀ f ∈ fs, worst.number ≤ f.severity.number) ∧
      (worst = s ∨ ∃ f ∈ fs, f.severity = worst) := by
  induction fs generalizing s with
  | nil => exact ⟨Nat.le_refl _, List.forall_mem_nil _, .inl rfl⟩
  | cons f fs ih =>
    simp only [List.foldl_cons, List.mem_cons, forall_eq_or_imp, exists_eq_or_imp]
    split
    case isTrue hlt =>
      obtain ⟨hle, hleast, hattained⟩ := ih f.severity
      refine ⟨Nat.le_trans hle (Nat.le_of_lt hlt), ⟨hle, hleast⟩, .inr ?_⟩
      exact hattained.imp_left Eq.symm
    case isFalse hge =>
      obtain ⟨hle, hleast, hattained⟩ := ih s
      exact ⟨hle, ⟨Nat.le_trans hle (Nat.not_lt.1 hge), hleast⟩, hattained.imp_right .inr⟩

theorem isWorst_highest (fs : List Finding) : IsWorst (highest fs) fs :=
  let ⟨_, hleast, hattained⟩ := isWorst_foldl fs .none
  ⟨hleast, hattained⟩

theorem IsWorst.number_le (hs : IsWorst s fs) (ht : IsWorst t fs) : s.number ≤ t.number := by
  obtain rfl | ⟨f, hf, rfl⟩ := ht.attained
  · exact s.number_le_none
  · exact hs.least f hf

theorem IsWorst.unique (hs : IsWorst s fs) (ht : IsWorst t fs) : s = t :=
  Severity.eq_of_number_eq (Nat.le_antisymm (hs.number_le ht) (ht.number_le hs))

theorem IsWorst.perm (hs : IsWorst s fs) (h : fs.Perm gs) : IsWorst s gs where
  least f hf := hs.least f (h.mem_iff.2 hf)
  attained := hs.attained.imp_right fun ⟨f, hf, he⟩ => ⟨f, h.mem_iff.1 hf, he⟩

theorem highest_eq_of_perm (h : fs.Perm gs) : highest fs = highest gs :=
  ((isWorst_highest fs).perm h).unique (isWorst_highest gs)

theorem isWorst_head {f : Finding}
    (h : (f :: gs).Pairwise fun f g => f.severity.number ≤ g.severity.number) :
    IsWorst f.severity (f :: gs) where
  least _ hg := number_head_le h hg
  attained := .inr ⟨f, List.mem_cons_self, rfl⟩

theorem IsRanking.highest_eq (h : IsRanking gs fs) :
    highest fs = (gs.head?.map severity).getD .none := by
  rw [highest_eq_of_perm h.perm.symm]
  cases gs with
  | nil => rfl
  | cons f gs => exact (isWorst_highest _).unique (isWorst_head h.worst_first)

theorem IsWorst.append (hs : IsWorst s fs) (ht : IsWorst t gs) (h : s.number ≤ t.number) :
    IsWorst s (fs ++ gs) where
  least f hf := by
    cases List.mem_append.1 hf with
    | inl hf => exact hs.least f hf
    | inr hf => exact Nat.le_trans h (ht.least f hf)
  attained := hs.attained.imp_right fun ⟨f, hf, he⟩ => ⟨f, List.mem_append_left gs hf, he⟩

theorem number_highest_append (fs gs : List Finding) :
    (highest (fs ++ gs)).number = min (highest fs).number (highest gs).number := by
  have hf := isWorst_highest fs
  have hg := isWorst_highest gs
  cases Nat.le_total (highest fs).number (highest gs).number with
  | inl h => rw [(isWorst_highest _).unique (hf.append hg h), Nat.min_eq_left h]
  | inr h =>
    rw [highest_eq_of_perm List.perm_append_comm, (isWorst_highest _).unique (hg.append hf h),
      Nat.min_eq_right h]

/-- The sorted findings are their one ranking, and sorting them again changes nothing. The worst
severity is that of the first of them, and none without any. It is the same in any order, and of two
lists in one it is the worse. -/
theorem ranking_and_worst (fs : List Finding) :
    (∀ gs, IsRanking gs fs ↔ gs = sort fs) ∧ sort (sort fs) = sort fs ∧
      highest fs = ((sort fs).head?.map severity).getD .none ∧
      (∀ gs, gs.Perm fs → highest gs = highest fs) ∧
      ∀ gs, (highest (fs ++ gs)).number = min (highest fs).number (highest gs).number := by
  have hsort := isRanking_sort fs
  refine ⟨fun gs => ⟨fun h => h.unique hsort, fun h => h ▸ hsort⟩, sort_sort fs, hsort.highest_eq,
    fun gs h => highest_eq_of_perm h, number_highest_append fs⟩

def toldOf (value : String) (s : Severity) : Finding := ⟨.srcHttp, s, "img-src", some value, ""⟩

/- Two pairs of one severity, and others between the two of each. -/
def tiedExample : List Finding :=
  [toldOf "a" .info, toldOf "b" .medium, toldOf "c" .info, toldOf "d" .none, toldOf "e" .medium]

theorem ranking_and_worst_tiedExample :
    sort tiedExample = [toldOf "b" .medium, toldOf "e" .medium, toldOf "a" .info, toldOf "c" .info,
      toldOf "d" .none] ∧ highest tiedExample.reverse = .medium := by
  have hranking : IsRanking [toldOf "b" .medium, toldOf "e" .medium, toldOf "a" .info,
      toldOf "c" .info, toldOf "d" .none] tiedExample :=
    ⟨by decide, by decide, fun s => by cases s <;> decide⟩
  obtain ⟨hunique, -, -, horder, -⟩ := ranking_and_worst tiedExample
  refine ⟨((hunique _).1 hranking).symm, ?_⟩
  rw [horder _ (List.reverse_perm _)]
  decide

end Finding

end ContentPolicy
