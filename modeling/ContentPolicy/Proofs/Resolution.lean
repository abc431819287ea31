import ContentPolicy.Policy.Effective
import Mathlib.Data.List.Basic

/-!
What is enforced of a policy, said for the list of its directives and for the list of its script
values.
-/

namespace ContentPolicy

namespace Policy

def namesTrusted (vs : List String) : Bool := vs.any Source.isNonce || vs.any Source.isHash

/-- Trust that is passed on replaces all that is given to places, to the site itself and to pages. -/
def survivesStrictDynamic (value : String) : Bool :=
  Source.isQuoted value && value != Keyword.self && value != Keyword.unsafeInline

def scriptValuesUnder (v : Version) (vs : List String) : List String :=
  match v with
  | .csp1 =>
    (if namesTrusted vs then vs.filter (!looksLikeNonceOrHash ·) else vs).erase
      Keyword.strictDynamic
  | .csp2 =>
    (if namesTrusted vs then vs.erase Keyword.unsafeInline else vs).erase Keyword.strictDynamic
  | .csp3 =>
    if Keyword.strictDynamic ∈ vs then vs.filter survivesStrictDynamic
    else if namesTrusted vs then vs.erase Keyword.unsafeInline else vs

def directivesUnder (v : Version) (p : Policy) : List (String × List String) :=
  (p.directives.filter fun d => v = .csp3 || !Directive.sinceCsp3.contains d.1).map fun d =>
    if d.1 = p.scriptName then (d.1, scriptValuesUnder v d.2) else d

def ignoredBesideTrusted (name : String) : Finding :=
  ⟨.ignored, .none, name, some Keyword.unsafeInline,
    "unsafe-inline is ignored if a nonce or a hash is present. (CSP2 and above)"⟩

def ignoredByStrictDynamic (name value : String) : Finding :=
  ⟨.ignored, .none, name, some value,
    "Because of strict-dynamic this entry is ignored in CSP3 and above"⟩

/-- What is told of the script values that are off: at most once of the inline scripts beside a
nonce or a hash, and once of each occurrence that does not survive `'strict-dynamic'`. -/
def ignoredUnder (v : Version) (name : String) (vs : List String) : List Finding :=
  (if v ≠ .csp1 ∧ namesTrusted vs ∧ Keyword.unsafeInline ∈ vs then [ignoredBesideTrusted name]
  else []) ++
  (if v = .csp3 ∧ Keyword.strictDynamic ∈ vs then
    (vs.filter (!survivesStrictDynamic ·)).map (ignoredByStrictDynamic name)
  else [])

theorem isOffByStrictDynamic_eq (value : String) :
    isOffByStrictDynamic value = !survivesStrictDynamic value := by
  simp [isOffByStrictDynamic, survivesStrictDynamic, bne, Bool.or_assoc]

theorem diff_eq_filter_not_mem (vs off : List String)
    (h : ∀ x ∈ off, vs.count x ≤ off.count x) : vs.diff off = vs.filter (· ∉ off) := by
  -- A value that goes takes one of its namesakes off the list of removals; no later value misses it,
  -- because there were enough of them.
  induction vs generalizing off with
  | nil => simp
  | cons a vs ih =>
    by_cases ha : a ∈ off
    · have hcount : ∀ x ∈ off, vs.count x ≤ (off.erase a).count x := by
        intro x hx
        have hx := h x hx
        by_cases hxa : x = a
        · subst hxa
          rw [List.count_cons_self] at hx
          rw [List.count_erase_self]
          omega
        · rwa [List.count_cons_of_ne (Ne.symm hxa), ← List.count_erase_of_ne (l := off) hxa] at hx
      have hkeep : ∀ x ∈ vs, decide (x ∉ off.erase a) = decide (x ∉ off) := by
        intro x hx
        have hmem : x ∈ off.erase a ↔ x ∈ off := by
          refine ⟨List.mem_of_mem_erase, fun ho => ?_⟩
          have hpos : 0 < vs.count x := List.count_pos_iff.2 hx
          exact List.count_pos_iff.1 (Nat.lt_of_lt_of_le hpos (hcount x ho))
        simp [hmem]
      rw [List.cons_diff_of_mem ha,
        ih _ fun x hx => hcount x (List.mem_of_mem_erase hx), List.filter_congr hkeep]
      simp [ha]
    · have hcount : ∀ x ∈ off, vs.count x ≤ off.count x := fun x hx =>
        Nat.le_trans List.count_le_count_cons (h x hx)
      rw [List.cons_diff_of_not_mem ha, ih off hcount]
      simp [ha]

/-- Removing each value that is off leaves the others, whichever of them were removed before. -/
theorem diff_append_filter (isOff : String → Bool) (before vs : List String)
    (hb : ∀ x ∈ before, isOff x = true) :
    vs.diff (before ++ vs.filter isOff) = vs.filter (!isOff ·) := by
  have hoff : ∀ x ∈ before ++ vs.filter isOff, isOff x = true := by
    intro x hx
    cases List.mem_append.1 hx with
    | inl hx => exact hb x hx
    | inr hx => exact (List.mem_filter.1 hx).2
  rw [diff_eq_filter_not_mem]
  · refine List.filter_congr fun x hx => ?_
    cases ho : isOff x with
    | true => simp [hx, ho]
    | false => simpa [ho] using fun hx => absurd (hb x hx) (by simp [ho])
  · intro x hx
    rw [List.count_append, List.count_filter (hoff x hx)]
    omega

theorem hasScriptNonces_or_hasScriptHashes (p : Policy) :
    (p.hasScriptNonces || p.hasScriptHashes) = namesTrusted p.scriptValues := rfl

theorem hasStrictDynamic_iff (p : Policy) :
    p.hasStrictDynamic = true ↔ Keyword.strictDynamic ∈ p.scriptValues := by
  simp [hasStrictDynamic]

theorem offByNonce_eq (v : Version) (p : Policy) :
    p.offByNonce v =
      if !namesTrusted p.scriptValues then []
      else if v = .csp1 then p.scriptValues.filter looksLikeNonceOrHash
      else if Keyword.unsafeInline ∈ p.scriptValues then [Keyword.unsafeInline] else [] := by
  rw [offByNonce, hasScriptNonces_or_hasScriptHashes]
  cases namesTrusted p.scriptValues <;> cases v <;> simp [Version.knowsNonces]

theorem offByStrictDynamic_eq (v : Version) (p : Policy) :
    p.offByStrictDynamic v =
      if Keyword.strictDynamic ∉ p.scriptValues then []
      else if v = .csp3 then p.scriptValues.filter (!survivesStrictDynamic ·)
      else [Keyword.strictDynamic] := by
  have hoff : isOffByStrictDynamic = fun value => !survivesStrictDynamic value :=
    funext isOffByStrictDynamic_eq
  simp only [offByStrictDynamic, hasStrictDynamic_iff, hoff]
  by_cases hs : Keyword.strictDynamic ∈ p.scriptValues <;> cases v <;>
    simp [hs, Version.knowsStrictDynamic]

/-- Looking for a value first makes no difference to its removal. -/
theorem diff_present {ws vs : List String} (value : String) (h : ws ⊆ vs) :
    ws.diff (if value ∉ vs then [] else [value]) = ws.erase value := by
  by_cases hv : value ∈ vs
  · simp [hv]
  · simp [hv, List.erase_of_not_mem fun hw => hv (h hw)]

/-- All removals together. -/
theorem diff_off (v : Version) (p : Policy) :
    p.scriptValues.diff (p.offByNonce v ++ p.offByStrictDynamic v) =
      scriptValuesUnder v p.scriptValues := by
  rw [offByNonce_eq, offByStrictDynamic_eq]
  generalize p.scriptValues = vs
  cases v with
  | csp1 =>
    have hf : vs.diff (vs.filter looksLikeNonceOrHash) = vs.filter (!looksLikeNonceOrHash ·) :=
      diff_append_filter looksLikeNonceOrHash [] vs (by simp)
    cases ht : namesTrusted vs with
    | false => simpa [scriptValuesUnder, ht] using diff_present _ (List.Subset.refl vs)
    | true =>
      simp only [scriptValuesUnder, ht, Bool.not_true, if_true, Bool.false_eq_true, if_false,
        List.diff_append, hf, reduceCtorEq]
      exact diff_present _ List.filter_sublist.subset
  | csp2 =>
    have hu : vs.diff (if Keyword.unsafeInline ∉ vs then [] else [Keyword.unsafeInline]) =
      vs.erase Keyword.unsafeInline := diff_present _ (List.Subset.refl vs)
    cases ht : namesTrusted vs with
    | false => simpa [scriptValuesUnder, ht] using diff_present _ (List.Subset.refl vs)
    | true =>
      rw [ite_not] at hu
      simp only [scriptValuesUnder, ht, Bool.not_true, if_true, Bool.false_eq_true, if_false,
        List.diff_append, hu, reduceCtorEq]
      exact diff_present _ (List.erase_subset)
  | csp3 =>
    by_cases hs : Keyword.strictDynamic ∈ vs
    · simp only [scriptValuesUnder, hs, not_true_eq_false, if_false, if_true, reduceCtorEq]
      -- what a nonce turns off is turned off again
      rw [diff_append_filter]
      · simp
      · intro x hx
        have hx : x = Keyword.unsafeInline := by grind
        simp [hx, survivesStrictDynamic]
    · simp only [scriptValuesUnder, hs, not_false_eq_true, if_false, if_true, reduceCtorEq,
        List.append_nil]
      cases ht : namesTrusted vs with
      | false => simp
      | true => simpa using diff_present Keyword.unsafeInline (List.Subset.refl vs)

theorem newerDirectives_contains (v : Version) (name : String) :
    (!(newerDirectives v).contains name) = (v = .csp3 || !Directive.sinceCsp3.contains name) := by
  cases v <;> simp [newerDirectives, Version.knowsStrictDynamic]

theorem directives_effective (v : Version) (p : Policy) :
    (p.effective v).directives = directivesUnder v p := by
  have hvalues : ∀ d ∈ p.directives,
      editValues p.scriptName
        (fun vs => (p.offByNonce v ++ p.offByStrictDynamic v).foldl List.erase vs) d =
      if d.1 = p.scriptName then (d.1, scriptValuesUnder v d.2) else d := by
    intro d hd
    by_cases hn : d.1 = p.scriptName
    · have hv : p.scriptValues = d.2 := by
        rw [scriptValues, effectiveValues, ← scriptName, ← hn]
        exact values_of_mem hd
      rw [editValues, if_pos hn, if_pos hn, ← List.diff_eq_foldl, ← hv, diff_off]
    · rw [editValues, if_neg hn, if_neg hn]
  have hnames : ∀ d, (editValues p.scriptName
      (fun vs => (p.offByNonce v ++ p.offByStrictDynamic v).foldl List.erase vs) d).1 = d.1 :=
    congrFun (fst_editValues _ _)
  simp only [effective, without, modify, List.filter_map, Function.comp_def, hnames,
    newerDirectives_contains]
  exact List.map_congr_left fun d hd => hvalues d (List.mem_filter.1 hd).1

theorem ignoredFindings_eq (v : Version) (p : Policy) :
    p.ignoredFindings v = ignoredUnder v p.scriptName p.scriptValues := by
  rw [ignoredFindings, ignoredValues, offByNonce_eq, offByStrictDynamic_eq, ignoredUnder]
  generalize p.scriptValues = vs
  by_cases hu : Keyword.unsafeInline ∈ vs <;> by_cases hs : Keyword.strictDynamic ∈ vs <;>
    cases ht : namesTrusted vs <;> cases v <;>
    simp [hu, hs, Version.knowsNonces, Version.knowsStrictDynamic, ignoredBesideTrusted,
      ignoredByStrictDynamic, Function.comp_def]

/-- What a browser of each version goes by, and what it is told to ignore. -/
theorem effective_resolves (v : Version) (p : Policy) :
    (p.effective v).directives = directivesUnder v p ∧
      p.ignoredFindings v = ignoredUnder v p.scriptName p.scriptValues :=
  ⟨directives_effective v p, ignoredFindings_eq v p⟩

theorem has_of_mem_values {p : Policy} {name value : String} (h : value ∈ p.values name) :
    p.has name = true := by
  by_contra hn
  rw [values_of_not_has (by simpa using hn)] at h
  exact absurd h List.not_mem_nil

theorem nodup_values {p : Policy} (hp : ∀ d ∈ p.directives, d.2.Nodup) (name : String) :
    (p.values name).Nodup := by
  cases hn : p.has name with
  | false =>
    rw [values_of_not_has hn]
    exact .nil
  | true => exact hp _ (mem_directives_of_has hn)

/- Names that the resolver cannot drop are seen alike before and after it. -/

theorem names_effective (v : Version) (p : Policy) :
    (p.effective v).names =
      p.names.filter fun n => v = .csp3 || !Directive.sinceCsp3.contains n := by
  rw [effective, names_without, names_modify]
  simp only [newerDirectives_contains]

theorem has_of_has_effective {v : Version} {p : Policy} {name : String}
    (h : (p.effective v).has name = true) : p.has name = true := by
  rw [has_iff, names_effective] at h
  exact has_iff.2 (List.mem_filter.1 h).1

theorem has_effective (v : Version) (p : Policy) {name : String}
    (h : name ∉ Directive.sinceCsp3) : (p.effective v).has name = p.has name := by
  rw [Bool.eq_iff_iff, has_iff, has_iff, names_effective]
  simp [h]

theorem defaultSrc_not_newer : Directive.defaultSrc ∉ Directive.sinceCsp3 := by decide

theorem scriptSrc_not_newer : Directive.scriptSrc ∉ Directive.sinceCsp3 := by decide

theorem causingXss_not_newer : ∀ name ∈ Directive.causingXss, name ∉ Directive.sinceCsp3 := by
  decide

/-- The version drops no name that the fallback looks at. -/
theorem effectiveName_effective (v : Version) (p : Policy) {name : String}
    (h : name ∉ Directive.sinceCsp3) :
    (p.effective v).effectiveName name = p.effectiveName name := by
  rw [effectiveName, effectiveName, has_effective v p h]

theorem effectiveNames_effective (v : Version) (p : Policy) {ns : List String}
    (h : ∀ name ∈ ns, name ∉ Directive.sinceCsp3) :
    (p.effective v).effectiveNames ns = p.effectiveNames ns := by
  rw [effectiveNames, effectiveNames]
  congr 1
  exact List.map_congr_left fun name hn => effectiveName_effective v p (h name hn)

theorem effectiveName_eq (p : Policy) (name : String) :
    p.effectiveName name = name ∨ p.effectiveName name = Directive.defaultSrc := by
  unfold effectiveName
  split
  · exact .inl rfl
  · exact .inr rfl

theorem effectiveName_not_newer (p : Policy) {name : String}
    (h : name ∉ Directive.sinceCsp3) : p.effectiveName name ∉ Directive.sinceCsp3 := by
  cases effectiveName_eq p name with
  | inl he => rw [he]; exact h
  | inr he => rw [he]; exact defaultSrc_not_newer

theorem scriptName_effective (v : Version) (p : Policy) :
    (p.effective v).scriptName = p.scriptName :=
  effectiveName_effective v p scriptSrc_not_newer

theorem scriptName_not_newer (p : Policy) : p.scriptName ∉ Directive.sinceCsp3 :=
  effectiveName_not_newer p scriptSrc_not_newer

theorem scriptValuesUnder_nil (v : Version) : scriptValuesUnder v [] = [] := by
  cases v <;> rfl

/-- The values go one occurrence at a time, for two reasons that can both name the same value; what
stays is one filter all the same. -/
theorem values_effective (v : Version) (p : Policy) {name : String}
    (h : name ∉ Directive.sinceCsp3) :
    (p.effective v).values name =
      if name = p.scriptName then scriptValuesUnder v (p.values name) else p.values name := by
  cases hp : p.has name with
  | false =>
    have he : (p.effective v).has name = false := by rw [has_effective v p h, hp]
    rw [values_of_not_has he, values_of_not_has hp, scriptValuesUnder_nil, ite_self]
  | true =>
    have hkept : (name, p.values name) ∈ p.directives.filter fun d =>
        v = .csp3 || !Directive.sinceCsp3.contains d.1 :=
      List.mem_filter.2 ⟨mem_directives_of_has hp, by simp [h]⟩
    apply values_of_mem
    rw [directives_effective]
    refine List.mem_map.2 ⟨_, hkept, ?_⟩
    split <;> rfl

theorem scriptValues_effective (v : Version) (p : Policy) :
    (p.effective v).scriptValues = scriptValuesUnder v p.scriptValues := by
  have hv := values_effective v p (scriptName_not_newer p)
  rw [if_pos rfl] at hv
  rw [scriptValues, effectiveValues, ← scriptName, scriptName_effective, hv]
  rfl

/-- No version adds a value or moves one. -/
theorem scriptValuesUnder_sublist (v : Version) (vs : List String) :
    (scriptValuesUnder v vs).Sublist vs := by
  cases v with
  | csp1 =>
    refine List.erase_sublist.trans ?_
    split
    · exact List.filter_sublist
    · exact .refl vs
  | csp2 =>
    refine List.erase_sublist.trans ?_
    split
    · exact List.erase_sublist
    · exact .refl vs
  | csp3 =>
    simp only [scriptValuesUnder]
    split
    · exact List.filter_sublist
    · split
      · exact List.erase_sublist
      · exact .refl vs

/-- A value that no edit of the version is about is there after the edits if it was before. -/
theorem mem_scriptValuesUnder {v : Version} {vs : List String} {value : String}
    (hi : value ≠ Keyword.unsafeInline)
    (hn : v = .csp1 → looksLikeNonceOrHash value = false)
    (hd : v ≠ .csp3 → value ≠ Keyword.strictDynamic)
    (hs : v = .csp3 → survivesStrictDynamic value = true) :
    value ∈ scriptValuesUnder v vs ↔ value ∈ vs := by
  cases v with
  | csp1 =>
    simp only [scriptValuesUnder]
    rw [List.mem_erase_of_ne (hd (by decide))]
    split
    · simp [hn rfl]
    · rfl
  | csp2 =>
    simp only [scriptValuesUnder]
    rw [List.mem_erase_of_ne (hd (by decide))]
    split
    · exact List.mem_erase_of_ne hi
    · rfl
  | csp3 =>
    simp only [scriptValuesUnder]
    split
    · simp [hs rfl]
    · split
      · exact List.mem_erase_of_ne hi
      · rfl

theorem mem_scriptValuesUnder_none (v : Version) (vs : List String) :
    Keyword.none ∈ scriptValuesUnder v vs ↔ Keyword.none ∈ vs :=
  mem_scriptValuesUnder (by decide) (fun _ => by decide) (fun _ => by decide) fun _ => by decide

theorem mem_scriptValuesUnder_unsafeEval (v : Version) (vs : List String) :
    Keyword.unsafeEval ∈ scriptValuesUnder v vs ↔ Keyword.unsafeEval ∈ vs :=
  mem_scriptValuesUnder (by decide) (fun _ => by decide) (fun _ => by decide) fun _ => by decide

theorem values_effective_sublist (v : Version) (p : Policy) {name : String}
    (h : name ∉ Directive.sinceCsp3) :
    ((p.effective v).values name).Sublist (p.values name) := by
  rw [values_effective v p h]
  split
  · exact scriptValuesUnder_sublist v _
  · exact .refl _

end Policy

end ContentPolicy
