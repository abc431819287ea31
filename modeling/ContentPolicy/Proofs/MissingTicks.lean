import ContentPolicy.Proofs.EachValue
import ContentPolicy.Proofs.Normalization
import ContentPolicy.Proofs.Reading
import ContentPolicy.Proofs.StrictPolicy

/-!
The advice about ticks: whoever follows it is not told again, unless there is no text to put in
ticks.
-/

namespace ContentPolicy

namespace Source

def ticked (value : String) : String := "'" ++ value ++ "'"

theorem toList_ticked (value : String) :
    (ticked value).toList = '\x27' :: (value.toList ++ ['\x27']) := by
  rw [ticked, String.toList_append, String.toList_append]
  rfl

theorem isQuoted_ticked (value : String) : isQuoted (ticked value) = true := by
  rw [isQuoted, toList_ticked]
  rfl

theorem payload?_ticked {opening value : String} {rest : List Char}
    (h : value.toList = opening.toList ++ rest) (hr : rest ≠ []) (hbreak : '\n' ∉ rest) :
    payload? ("'" ++ opening) (ticked value) = some rest := by
  refine payload?_eq_some_iff.2 ⟨hr, hbreak, .inl ?_⟩
  rw [toList_ticked, h, String.toList_append, List.append_assoc, List.append_assoc]
  rfl

theorem not_blank_ticked {value : String} (hw : Token.IsWord value.toList) :
    ∀ c ∈ (ticked value).toList, isBlank c = false := by
  intro c hc
  rw [toList_ticked, List.mem_cons, List.mem_append, List.mem_singleton] at hc
  obtain rfl | hc | rfl := hc
  · decide
  · exact Token.isBlank_of_isPlain (hw.2 c hc)
  · decide

end Source

namespace Check

open Source

section LostTicks

variable {value : String}

/-- What the values without ticks are told by, with the tick in front. -/
theorem ticked_openings : bareOpenings.map ("'" ++ ·) = trustedOpenings := by decide

theorem ticked_opening_mem {o : String} (ho : o ∈ bareOpenings) : "'" ++ o ∈ trustedOpenings :=
  ticked_openings ▸ List.mem_map_of_mem ho

/-- No opening begins another. -/
theorem opening_unique : ∀ o ∈ bareOpenings, ∀ o' ∈ bareOpenings,
    o.toList <+: o'.toList → o = o' := by decide +kernel

/-- A value that lacks ticks is a keyword without them, or begins as a nonce or a hash does. -/
theorem word_or_opening (h : lacksTicks value = true) :
    value ∈ Keyword.allBare ∨ ∃ o ∈ bareOpenings, ∃ rest, value.toList = o.toList ++ rest ∧
      (value ∈ bareOpenings ↔ rest = []) := by
  rw [lacksTicks, Bool.or_eq_true, List.contains_iff_mem, List.any_eq_true] at h
  refine h.imp_right ?_
  rintro ⟨o, ho, hprefix⟩
  obtain ⟨rest, hrest⟩ := List.isPrefixOf_iff_prefix.1 hprefix
  refine ⟨o, ho, rest, hrest.symm, fun hv => ?_, ?_⟩
  · rw [opening_unique o ho value hv ⟨rest, hrest⟩] at hrest
    exact List.append_right_eq_self.1 hrest
  · rintro rfl
    rw [List.append_nil] at hrest
    exact String.toList_inj.1 hrest ▸ ho

theorem isKeyword_ticked (h : value ∈ Keyword.allBare) :
    isKeyword (ticked value) = true ∧ Text.lower (ticked value) = ticked value ∧
      value ∉ bareOpenings := by
  have hall : ∀ word ∈ Keyword.allBare, isKeyword (ticked word) = true ∧
      Text.lower (ticked word) = ticked word ∧ word ∉ bareOpenings := by decide +kernel
  exact hall value h

/-- With any text behind the opening, the ticks make it a nonce or a hash. -/
theorem trusted_ticked {o : String} (ho : o ∈ bareOpenings) {rest : List Char}
    (h : value.toList = o.toList ++ rest) (hr : rest ≠ []) (hbreak : '\n' ∉ rest) :
    isNonce (ticked value) = true ∨ isHash (ticked value) = true :=
  trusted_of_payload? (ticked_opening_mem ho) (payload?_ticked h hr hbreak)

theorem not_known_ticked_opening : ∀ o ∈ bareOpenings, isKeyword (ticked o) = false ∧
    isHash (ticked o) = false ∧ isNonce (ticked o) = false := by decide +kernel

theorem not_keyword_lower_ticked {o : String} (ho : o ∈ bareOpenings) {rest : List Char}
    (h : value.toList = o.toList ++ rest) : isKeyword (Text.lower (ticked value)) = false := by
  refine not_isKeyword_lower (ticked_opening_mem ho) ⟨rest ++ ['\x27'], ?_⟩
  rw [toList_ticked, h, String.toList_append, List.append_assoc, List.append_assoc]
  rfl

variable (hw : Token.IsWord value.toList) (hl : lacksTicks value = true)
include hw hl

/-- The directives with words of their own aside, ticks help wherever there is a text. -/
theorem knowsQuoted_ticked {name : String} (hn : name ≠ Directive.trustedTypes)
    (hn' : name ≠ Directive.requireTrustedTypesFor) :
    knowsQuoted name (ticked value) = true ↔ value ∉ bareOpenings := by
  have hclass : knowsQuoted name (ticked value) =
      (isKeyword (ticked value) || isHash (ticked value) || isNonce (ticked value)) := by
    simp [knowsQuoted, hn, hn']
  rw [hclass]
  obtain hword | ⟨o, ho, rest, hrest, hbare⟩ := word_or_opening hl
  · obtain ⟨hkeyword, -, hnot⟩ := isKeyword_ticked hword
    simp [hkeyword, hnot]
  rw [hbare]
  by_cases hr : rest = []
  · have hknown := not_known_ticked_opening value (hbare.2 hr)
    simp [hknown, hr]
  · have hbreak : '\n' ∉ rest := fun hmem => by
      have hplain := hw.2 '\n' (hrest ▸ List.mem_append_right _ hmem)
      exact absurd (Token.isBlank_of_isPlain hplain) (by decide)
    have htrusted := trusted_ticked ho hrest hr hbreak
    simp only [hr, not_false_eq_true, iff_true, Bool.or_eq_true]
    tauto

/-- The reader leaves the value as it is written with ticks. -/
theorem normalize_ticked : Source.normalize (ticked value) = ticked value := by
  have htrim : Text.trim isBlank (ticked value).toList = (ticked value).toList :=
    Text.trim_eq_self (not_blank_ticked hw)
  have hscheme : isUrlScheme (ticked value) = false := isUrlScheme_of_isQuoted (isQuoted_ticked value)
  simp only [Source.normalize, htrim, String.ofList_toList, hscheme, Bool.or_false]
  obtain hword | ⟨o, ho, rest, hrest, -⟩ := word_or_opening hl
  · rw [(isKeyword_ticked hword).2.1, ite_self]
  · rw [not_keyword_lower_ticked ho hrest]
    rfl

end LostTicks

theorem concerns_keywordFindings (name value : String) :
    ∀ f ∈ keywordFindings name value, Concerns name value f := by
  intro f hf
  unfold keywordFindings at hf
  split at hf
  · exact List.mem_singleton.1 hf ▸ ⟨rfl, rfl⟩
  split at hf
  · exact List.mem_singleton.1 hf ▸ ⟨rfl, rfl⟩
  · cases hf

theorem mem_invalidKeyword_iff {p : Policy} {name value : String} :
    (∃ f ∈ invalidKeyword p, f.directive = name ∧ f.value = some value) ↔
      value ∈ p.values name ∧ (lacksTicks value = true ∨
        isQuoted value = true ∧ knowsQuoted name value = false) := by
  rw [invalidKeyword, exists_mem_eachValue_iff concerns_keywordFindings]
  refine and_congr_right fun _ => ?_
  unfold keywordFindings
  cases lacksTicks value <;> cases isQuoted value <;> cases knowsQuoted name value <;> simp

def AdvisesTicks (f : Finding) : Prop :=
  "Did you forget to surround".toList <+: f.description.toList

instance : DecidablePred AdvisesTicks := fun f =>
  inferInstanceAs (Decidable ("Did you forget to surround".toList <+: f.description.toList))

/-- The other text begins with the value, and that with a tick. -/
theorem lacksTicks_of_advisesTicks {p : Policy} {f : Finding} (hf : f ∈ invalidKeyword p)
    {value : String} (hv : f.value = some value) (ha : AdvisesTicks f) :
    value ∈ p.values f.directive ∧ lacksTicks value = true := by
  obtain ⟨hmem, hf⟩ := of_mem_eachValue concerns_keywordFindings hf hv
  refine ⟨hmem, ?_⟩
  unfold keywordFindings at hf
  split at hf
  case isTrue hl => exact hl
  case isFalse =>
    split at hf
    case isTrue hq =>
      rw [Bool.and_eq_true] at hq
      obtain ⟨r, hr⟩ := toList_of_isQuoted hq.1
      rw [AdvisesTicks, List.mem_singleton.1 hf, String.toList_append, hr] at ha
      simp at ha
    case isFalse => cases hf

/-- Whoever follows the advice writes the value as the reader would, and is not told of it again, in
whatever policy it stands. Only for an opening with nothing behind it the advice is of no use. -/
theorem ticks_clear_advice {text value : String} {f : Finding}
    (hf : f ∈ invalidKeyword (.parse text)) (hv : f.value = some value) (ha : AdvisesTicks f) :
    Source.normalize (ticked value) = ticked value ∧
      ∀ name, name ≠ Directive.trustedTypes → name ≠ Directive.requireTrustedTypesFor →
        ∀ q : Policy, (∃ g ∈ invalidKeyword q, g.directive = name ∧ g.value = some (ticked value)) ↔
          value ∈ bareOpenings ∧ ticked value ∈ q.values name := by
  obtain ⟨hmem, hl⟩ := lacksTicks_of_advisesTicks hf hv ha
  have hdirective := Policy.mem_directives_of_has (Policy.has_of_mem_values hmem)
  have hw : Token.IsWord value.toList :=
    (Policy.settled_parse text _ hdirective).isWord_value value hmem
  refine ⟨normalize_ticked hw hl, fun name hn hn' q => ?_⟩
  have hquoted := isQuoted_ticked value
  have hknows := knowsQuoted_ticked hw hl hn hn'
  rw [mem_invalidKeyword_iff, lacksTicks_of_isQuoted hquoted, ← Bool.not_eq_true, hknows, not_not]
  simp only [hquoted, Bool.false_eq_true, true_and, false_or]
  exact and_comm

theorem ticks_clear_advice_nonceExample :
    (∃ f ∈ invalidKeyword (.parse "Script-Src nonce-it's\xe9 'self'"),
      f.value = some "nonce-it's\xe9" ∧ AdvisesTicks f) ∧
      Source.normalize "'nonce-it's\xe9'" = "'nonce-it's\xe9'" ∧
      ¬ ∃ g ∈ invalidKeyword (.parse "Script-Src 'nonce-it's\xe9' 'self'"),
        g.directive = "script-src" ∧ g.value = some "'nonce-it's\xe9'" := by
  have htold : ∃ f ∈ invalidKeyword (.parse "Script-Src nonce-it's\xe9 'self'"),
      f.value = some "nonce-it's\xe9" ∧ AdvisesTicks f := by decide +kernel
  obtain ⟨f, hf, hv, ha⟩ := htold
  obtain ⟨hkept, hclear⟩ := ticks_clear_advice hf hv ha
  refine ⟨⟨f, hf, hv, ha⟩, hkept, fun hg => ?_⟩
  have hbare : "nonce-it's\xe9" ∉ bareOpenings := by decide
  exact hbare ((hclear "script-src" (by decide) (by decide) _).1 hg).1

end Check

end ContentPolicy
