import ContentPolicy.Proofs.CleanReport

/-!
What a browser enforces is enforced as it stands: a second pass has nothing to do.
-/

namespace ContentPolicy

namespace Source

/-- The prefixes that an old browser is cleaned of are those of all nonces and hashes. -/
theorem looksLikeNonceOrHash_of_trusted {value : String}
    (h : isNonce value = true ∨ isHash value = true) :
    Policy.looksLikeNonceOrHash value = true := by
  have hall : ∀ opening ∈ trustedOpenings,
      "'nonce-".toList <+: opening.toList ∨ "'sha".toList <+: opening.toList := by decide
  obtain ⟨opening, ho, hp⟩ := exists_opening h
  simp only [Policy.looksLikeNonceOrHash, Bool.or_eq_true, List.isPrefixOf_iff_prefix]
  exact (hall opening ho).imp (·.trans hp) (·.trans hp)

end Source

namespace Policy

/-- Nothing in the values is off for the version: what it does not know is not there, and neither is
what it turns off beside a nonce, a hash or `'strict-dynamic'`. -/
structure Resolved (v : Version) (vs : List String) : Prop where
  no_trusted : v = .csp1 → namesTrusted vs = false
  no_strictDynamic : v ≠ .csp3 → Keyword.strictDynamic ∉ vs
  no_unsafeInline : v ≠ .csp1 → namesTrusted vs = true → Keyword.unsafeInline ∉ vs
  survive : v = .csp3 → Keyword.strictDynamic ∈ vs → ∀ x ∈ vs, survivesStrictDynamic x = true

variable {v : Version} {vs : List String}

theorem Resolved.scriptValuesUnder_eq (h : Resolved v vs) : scriptValuesUnder v vs = vs := by
  cases v with
  | csp1 =>
    have hd := h.no_strictDynamic (by decide)
    simp [scriptValuesUnder, h.no_trusted rfl, List.erase_of_not_mem hd]
  | csp2 =>
    have hd := h.no_strictDynamic (by decide)
    cases ht : namesTrusted vs with
    | false => simp [scriptValuesUnder, ht, List.erase_of_not_mem hd]
    | true =>
      have hi := h.no_unsafeInline (by decide) ht
      simp [scriptValuesUnder, ht, List.erase_of_not_mem hi, List.erase_of_not_mem hd]
  | csp3 =>
    by_cases hd : Keyword.strictDynamic ∈ vs
    · simpa [scriptValuesUnder, hd] using h.survive rfl hd
    · cases ht : namesTrusted vs with
      | false => simp [scriptValuesUnder, hd, ht]
      | true =>
        have hi := h.no_unsafeInline (by decide) ht
        simp [scriptValuesUnder, hd, ht, List.erase_of_not_mem hi]

theorem Resolved.ignoredUnder_eq_nil (h : Resolved v vs) (name : String) :
    ignoredUnder v name vs = [] := by
  have hinline : ¬ (v ≠ .csp1 ∧ namesTrusted vs = true ∧ Keyword.unsafeInline ∈ vs) :=
    fun ⟨hv, ht, hi⟩ => h.no_unsafeInline hv ht hi
  rw [ignoredUnder, if_neg hinline, List.nil_append]
  split
  case isTrue hd =>
    rw [List.map_eq_nil_iff, List.filter_eq_nil_iff]
    intro x hx
    simp [h.survive hd.1 hd.2 x hx]
  case isFalse => rfl

theorem namesTrusted_iff : namesTrusted vs = true ↔
    ∃ x ∈ vs, Source.isNonce x = true ∨ Source.isHash x = true := by
  simp only [namesTrusted, Bool.or_eq_true, List.any_eq_true, and_or_left, exists_or]

section Trusted

variable {isTrusted : String → Bool}
  (h : ∀ x, isTrusted x = true → Source.isNonce x = true ∨ Source.isHash x = true)
include h

/-- Nothing else that goes is a nonce or a hash. -/
theorem any_scriptValuesUnder (hv : v ≠ .csp1) :
    (scriptValuesUnder v vs).any isTrusted = vs.any isTrusted := by
  rw [Bool.eq_iff_iff, List.any_eq_true, List.any_eq_true]
  refine exists_congr fun x => and_congr_left fun hx => ?_
  have hs := survives_of_trusted (h x hx)
  have hinline : x ≠ Keyword.unsafeInline := by
    rintro rfl
    exact absurd hs (by decide)
  have hdynamic : x ≠ Keyword.strictDynamic := by
    rintro rfl
    exact absurd (h _ hx) (by decide)
  exact mem_scriptValuesUnder hinline (fun hc => absurd hc hv) (fun _ => hdynamic) fun _ => hs

theorem any_scriptValuesUnder_csp1 : (scriptValuesUnder .csp1 vs).any isTrusted = false := by
  rw [List.any_eq_false]
  intro x hx ht
  have htrusted := h x ht
  have hlooks := Source.looksLikeNonceOrHash_of_trusted htrusted
  have hvs : x ∈ vs := (scriptValuesUnder_sublist _ _).subset hx
  have hnames : namesTrusted vs = true := namesTrusted_iff.2 ⟨x, hvs, htrusted⟩
  simp only [scriptValuesUnder, hnames, if_true] at hx
  have hkept := (List.mem_filter.1 (List.mem_of_mem_erase hx)).2
  simp [hlooks] at hkept

theorem any_scriptValuesUnder_eq :
    (scriptValuesUnder v vs).any isTrusted = (v ≠ .csp1 && vs.any isTrusted) := by
  by_cases hv : v = .csp1
  · simp [hv, any_scriptValuesUnder_csp1 h]
  · simp [hv, any_scriptValuesUnder h hv]

end Trusted

theorem namesTrusted_scriptValuesUnder :
    namesTrusted (scriptValuesUnder v vs) = (v ≠ .csp1 && namesTrusted vs) := by
  have hn : (scriptValuesUnder v vs).any Source.isNonce = (v ≠ .csp1 && vs.any Source.isNonce) :=
    any_scriptValuesUnder_eq fun x hx => .inl hx
  have hh : (scriptValuesUnder v vs).any Source.isHash = (v ≠ .csp1 && vs.any Source.isHash) :=
    any_scriptValuesUnder_eq fun x hx => .inr hx
  rw [namesTrusted, hn, hh, namesTrusted, Bool.and_or_distrib_left]

section Nodup

variable (hn : vs.Nodup)
include hn

theorem strictDynamic_mem_scriptValuesUnder :
    Keyword.strictDynamic ∈ scriptValuesUnder v vs ↔ v = .csp3 ∧ Keyword.strictDynamic ∈ vs := by
  cases v with
  | csp1 =>
    have hf : (if namesTrusted vs then vs.filter (!looksLikeNonceOrHash ·) else vs).Nodup := by
      split
      · exact hn.filter _
      · exact hn
    simp [scriptValuesUnder, hf.mem_erase_iff]
  | csp2 =>
    have hf : (if namesTrusted vs then vs.erase Keyword.unsafeInline else vs).Nodup := by
      split
      · exact hn.erase _
      · exact hn
    simp [scriptValuesUnder, hf.mem_erase_iff]
  | csp3 => simp [mem_scriptValuesUnder_csp3 survives_strictDynamic]

theorem unsafeInline_not_mem_scriptValuesUnder (hv : v ≠ .csp1) (ht : namesTrusted vs = true) :
    Keyword.unsafeInline ∉ scriptValuesUnder v vs := by
  have hgone : Keyword.unsafeInline ∉ vs.erase Keyword.unsafeInline := hn.not_mem_erase
  cases v with
  | csp1 => exact absurd rfl hv
  | csp2 =>
    simp only [scriptValuesUnder, ht, if_true]
    exact fun hm => hgone (List.mem_of_mem_erase hm)
  | csp3 =>
    simp only [scriptValuesUnder, ht, if_true]
    split
    · simp [survivesStrictDynamic]
    · exact hgone

/-- Of values that are there once, one pass leaves nothing to do. -/
theorem resolved_scriptValuesUnder : Resolved v (scriptValuesUnder v vs) where
  no_trusted hv := by simp [namesTrusted_scriptValuesUnder, hv]
  no_strictDynamic hv hd := hv ((strictDynamic_mem_scriptValuesUnder hn).1 hd).1
  no_unsafeInline hv ht := by
    rw [namesTrusted_scriptValuesUnder, Bool.and_eq_true] at ht
    exact unsafeInline_not_mem_scriptValuesUnder hn hv ht.2
  survive := by
    rintro rfl hd x hx
    have hvs := ((strictDynamic_mem_scriptValuesUnder hn).1 hd).2
    simp only [scriptValuesUnder, hvs, if_true] at hx
    exact (List.mem_filter.1 hx).2

end Nodup

theorem nodup_scriptValues {p : Policy} (h : ∀ d ∈ p.directives, d.2.Nodup) :
    p.scriptValues.Nodup := nodup_values h p.scriptName

/- What the version leaves of the three reasons for its edits. -/

theorem hasScriptNonces_effective (v : Version) (p : Policy) :
    (p.effective v).hasScriptNonces = (v ≠ .csp1 && p.hasScriptNonces) := by
  rw [hasScriptNonces, scriptValues_effective]
  exact any_scriptValuesUnder_eq fun x hx => .inl hx

theorem hasScriptHashes_effective (v : Version) (p : Policy) :
    (p.effective v).hasScriptHashes = (v ≠ .csp1 && p.hasScriptHashes) := by
  rw [hasScriptHashes, scriptValues_effective]
  exact any_scriptValuesUnder_eq fun x hx => .inr hx

theorem hasStrictDynamic_effective (v : Version) {p : Policy} (hn : p.scriptValues.Nodup) :
    (p.effective v).hasStrictDynamic = (v = .csp3 && p.hasStrictDynamic) := by
  rw [Bool.eq_iff_iff, hasStrictDynamic_iff, scriptValues_effective,
    strictDynamic_mem_scriptValuesUnder hn, ← hasStrictDynamic_iff]
  simp

/-- A policy with nothing in it that is newer than the version or off for it is enforced as it is. -/
theorem effective_eq_self {p : Policy}
    (hn : ∀ name ∈ p.names, (v = .csp3 || !Directive.sinceCsp3.contains name) = true)
    (hs : Resolved v p.scriptValues) : p.effective v = p := by
  apply ext
  rw [directives_effective, directivesUnder, List.filter_eq_self.2]
  · refine (List.map_congr_left fun d hd => ?_).trans (List.map_id _)
    split
    case isTrue hname =>
      have hvalues : p.scriptValues = d.2 := by
        rw [scriptValues, effectiveValues, ← scriptName, ← hname]
        exact values_of_mem hd
      rw [← hvalues, hs.scriptValuesUnder_eq, hvalues]
      rfl
    case isFalse => rfl
  · exact fun d hd => hn d.1 (List.mem_map_of_mem hd)

/-- With each value once in its list, what a version enforces of a policy is all that it enforces of
that, and there it ignores nothing. The first version is left without nonces and hashes, the first
two are left without `'strict-dynamic'`; all that is not lost so is as in the policy. -/
theorem effective_effective (v : Version) {p : Policy} (h : ∀ d ∈ p.directives, d.2.Nodup) :
    (p.effective v).effective v = p.effective v ∧ (p.effective v).ignoredFindings v = [] ∧
      (p.effective v).hasScriptNonces = (v ≠ .csp1 && p.hasScriptNonces) ∧
      (p.effective v).hasScriptHashes = (v ≠ .csp1 && p.hasScriptHashes) ∧
      (p.effective v).hasStrictDynamic = (v = .csp3 && p.hasStrictDynamic) := by
  have hn := nodup_scriptValues h
  have hs : Resolved v (p.effective v).scriptValues := by
    rw [scriptValues_effective]
    exact resolved_scriptValuesUnder hn
  refine ⟨effective_eq_self (fun name hm => ?_) hs, ?_, hasScriptNonces_effective v p,
    hasScriptHashes_effective v p, hasStrictDynamic_effective v hn⟩
  · rw [names_effective] at hm
    exact (List.mem_filter.1 hm).2
  · rw [ignoredFindings_eq]
    exact hs.ignoredUnder_eq_nil _

def entangledExample : Policy where
  directives := [
    ("default-src", ["'unsafe-inline'", "'strict-dynamic'", "'nonce-123'", "'sha256-foobar'",
      "'self'", "https:"]), ("report-to", ["foo.bar"]), ("worker-src", ["*"])]
  nodup_names := by decide

theorem effective_effective_entangledExample :
    (∀ d ∈ entangledExample.directives, d.2.Nodup) ∧
      (entangledExample.effective .csp2).directives =
        [("default-src", ["'nonce-123'", "'sha256-foobar'", "'self'", "https:"])] ∧
      (entangledExample.effective .csp2).effective .csp2 = entangledExample.effective .csp2 ∧
      (entangledExample.effective .csp1).hasScriptNonces = false ∧
      (entangledExample.effective .csp3).ignoredFindings .csp3 = [] := by
  have h : ∀ d ∈ entangledExample.directives, d.2.Nodup := by decide
  have hnonces : (entangledExample.effective .csp1).hasScriptNonces =
      (Version.csp1 ≠ .csp1 && entangledExample.hasScriptNonces) :=
    (effective_effective .csp1 h).2.2.1
  exact ⟨h, by decide +kernel, (effective_effective .csp2 h).1, hnonces,
    (effective_effective .csp3 h).2.1⟩

/- A value that comes back goes once in each pass. -/
example : ∃ p : Policy, p.directives = [("script-src", ["'strict-dynamic'", "'strict-dynamic'"])] ∧
    (p.effective .csp1).effective .csp1 ≠ p.effective .csp1 :=
  ⟨⟨_, by decide⟩, rfl, by decide +kernel⟩

end Policy

end ContentPolicy
