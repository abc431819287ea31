import ContentPolicy.Proofs.LetterCase
import ContentPolicy.Proofs.SourceClass
import ContentPolicy.Proofs.Words

/-!
What the reader makes of a value, whatever its characters are.
-/

namespace ContentPolicy.Source

open Text (small)

theorem isLatin1_of_isSchemeTail {c : Char} (h : isSchemeTail c = true) :
    Token.isLatin1 c = true := by
  simp only [isSchemeTail, Bool.or_eq_true, decide_eq_true_eq] at h
  obtain ((hletter | rfl) | rfl) | rfl := h
  · have hascii := Text.isAscii_of_isAlphanum hletter
    simp only [Text.isAscii, decide_eq_true_eq] at hascii
    rw [Token.isLatin1, decide_eq_true_eq]
    omega
  all_goals decide

/-- No character of a scheme is a separator, and none is beyond ASCII. -/
theorem plain_of_isSchemeTail {c : Char} (h : isSchemeTail c = true) :
    Token.isPlain c = true ∧ Text.isAscii c = true :=
  Text.latin1_induction
    (motive := fun c => isSchemeTail c = true → Token.isPlain c = true ∧ Text.isAscii c = true)
    (by decide +kernel) (isLatin1_of_isSchemeTail h) h

theorem isSchemeTail_toLower (c : Char) : isSchemeTail c.toLower = isSchemeTail c :=
  Text.toLower_induction (motive := fun c d => isSchemeTail d = isSchemeTail c) (fun _ => rfl)
    (by decide) c

theorem isAlpha_toLower (c : Char) : c.toLower.isAlpha = c.isAlpha :=
  Text.toLower_induction (motive := fun c d => d.isAlpha = c.isAlpha) (fun _ => rfl) (by decide) c

theorem isSchemeText_iff {cs : List Char} : isSchemeText cs = true ↔
    ∃ c r, cs = c :: (r ++ [':']) ∧ c.isAlpha = true ∧ ∀ x ∈ r, isSchemeTail x = true := by
  cases cs with
  | nil => simp [isSchemeText]
  | cons c r =>
    simp only [isSchemeText, Bool.and_eq_true, beq_iff_eq, List.all_eq_true]
    constructor
    · rintro ⟨⟨hletter, hlast⟩, htail⟩
      exact ⟨c, r.dropLast, by rw [List.dropLast_append_getLast? ':' hlast], hletter, htail⟩
    · rintro ⟨d, s, hcs, hletter, htail⟩
      obtain ⟨rfl, rfl⟩ := List.cons.inj hcs
      rw [List.dropLast_concat, List.getLast?_concat]
      exact ⟨⟨hletter, rfl⟩, htail⟩

section SchemeText

variable {cs : List Char} (h : isSchemeText cs = true)
include h

theorem plain_of_isSchemeText : ∀ x ∈ cs, Token.isPlain x = true ∧ Text.isAscii x = true := by
  obtain ⟨c, r, rfl, hletter, htail⟩ := isSchemeText_iff.1 h
  intro x hx
  rw [List.mem_cons, List.mem_append, List.mem_singleton] at hx
  obtain rfl | hx | rfl := hx
  · exact plain_of_isSchemeTail (by simp [isSchemeTail, Char.isAlphanum, hletter])
  · exact plain_of_isSchemeTail (htail x hx)
  · decide

theorem isWord_of_isSchemeText : Token.IsWord cs := by
  refine ⟨?_, fun x hx => (plain_of_isSchemeText h x hx).1⟩
  rintro rfl
  cases h

theorem isSchemeText_small : isSchemeText (small cs) = true := by
  obtain ⟨c, r, rfl, hletter, htail⟩ := isSchemeText_iff.1 h
  refine isSchemeText_iff.2 ⟨c.toLower, small r, ?_, ?_, fun x hx => ?_⟩
  · simp [small]
  · rw [isAlpha_toLower, hletter]
  · obtain ⟨y, hy, rfl⟩ := List.mem_map.1 hx
    rw [isSchemeTail_toLower, htail y hy]

theorem dropFinalBreak_of_isSchemeText : Text.dropFinalBreak cs = cs := by
  refine if_neg fun hlast => ?_
  have hblank := Token.isBlank_of_isPlain (plain_of_isSchemeText h _ (List.mem_of_getLast? hlast)).1
  exact absurd hblank (by decide)

end SchemeText

def stripped (value : String) : String := .ofList (Text.trim isBlank value.toList)

theorem stripped_stripped (value : String) : stripped (stripped value) = stripped value := by
  rw [stripped, stripped, String.toList_ofList, Text.trim_trim]

theorem isUrlScheme_stripped (value : String) :
    isUrlScheme (stripped value) = isSchemeText (stripped value).toList := by
  have hbreak : Text.dropFinalBreak (stripped value).toList = (stripped value).toList := by
    refine if_neg fun hlast => ?_
    rw [stripped, String.toList_ofList] at hlast
    exact absurd (Text.not_sep_of_getLast?_trim hlast) (by decide)
  rw [isUrlScheme, hbreak]

theorem isUrlScheme_lower {value : String} (h : isSchemeText value.toList = true) :
    isUrlScheme (Text.lower value) = true := by
  have hlower : (Text.lower value).toList = small value.toList := by
    rw [Text.lower, String.toList_ofList,
      Text.lowerChars_of_isAscii fun c hc => (plain_of_isSchemeText h c hc).2]
  have hsmall := isSchemeText_small h
  rw [isUrlScheme, hlower, dropFinalBreak_of_isSchemeText hsmall, hsmall]

section Classes

variable {value : String}

theorem not_trusted_of_isUrlScheme (h : isUrlScheme value = true) :
    ¬ (isKeyword value = true ∨ isNonce value = true ∨ isHash value = true) := by
  intro ht
  rw [isUrlScheme_of_isQuoted (isQuoted_of_trusted ht)] at h
  cases h

theorem not_trusted_of_isKeyword (h : isKeyword value = true) :
    ¬ (isNonce value = true ∨ isHash value = true) := by
  have hall : ∀ keyword ∈ Keyword.all,
      ¬ (isNonce keyword = true ∨ isHash keyword = true) := by decide +kernel
  exact hall value (List.contains_iff_mem.1 h)

/-- Also in small letters, no keyword begins as a nonce or a hash does. -/
theorem not_isKeyword_lower {opening : String} (ho : opening ∈ trustedOpenings)
    (h : opening.toList <+: value.toList) : isKeyword (Text.lower value) = false := by
  have hall : ∀ opening ∈ trustedOpenings, (opening.toList.all Text.isAscii) = true ∧
      small opening.toList = opening.toList ∧
      ∀ keyword ∈ Keyword.all, ¬ opening.toList <+: keyword.toList := by decide +kernel
  obtain ⟨hascii, hsmall, hnone⟩ := hall opening ho
  obtain ⟨r, hr⟩ := h
  have hlower : opening.toList <+: (Text.lower value).toList := by
    have hkept := Text.small_prefix_lowerChars (List.all_eq_true.1 hascii) r
    rwa [hsmall, hr, ← String.toList_ofList (l := Text.lowerChars value.toList)] at hkept
  rw [isKeyword, ← Bool.not_eq_true, List.contains_iff_mem]
  exact fun hmem => hnone _ hmem hlower

theorem countP_classes_le_one (value : String) :
    [isKeyword, isNonce, isHash, isUrlScheme].countP (· value) ≤ 1 := by
  have hscheme : isUrlScheme value = true →
      ¬ (isKeyword value = true ∨ isNonce value = true ∨ isHash value = true) :=
    not_trusted_of_isUrlScheme
  have hkeyword : isKeyword value = true → ¬ (isNonce value = true ∨ isHash value = true) :=
    not_trusted_of_isKeyword
  have hhash : isHash value = true → isNonce value = false := fun h => by
    rw [isNonce, nonce?_eq_none_of_isHash h]
    rfl
  cases hs : isUrlScheme value <;> cases hk : isKeyword value <;> cases hh : isHash value <;>
    cases hn : isNonce value <;> simp_all

/-- The classes that the resolver and the checks go by, beside the keywords. -/
def textClasses : List (String → Bool) :=
  [isNonce, isStrictNonce, isHash, isStrictHash, isUrlScheme]

theorem eq_of_not_trusted {other : String} (hv : ¬ (isNonce value = true ∨ isHash value = true))
    (ho : ¬ (isNonce other = true ∨ isHash other = true))
    (hs : isUrlScheme value = isUrlScheme other) :
    ∀ recognizes ∈ textClasses, recognizes value = recognizes other := by
  have hnone {v : String} (h : ¬ (isNonce v = true ∨ isHash v = true)) :
      (isNonce v = false ∧ isHash v = false) ∧ isStrictNonce v = false ∧ isStrictHash v = false := by
    simp only [← Bool.not_eq_true]
    exact ⟨not_or.1 h, fun hn => h (.inl (isNonce_of_isStrictNonce hn)),
      fun hh => h (.inr (isHash_of_isStrictHash hh))⟩
  obtain ⟨⟨hn, hh⟩, hsn, hsh⟩ := hnone hv
  obtain ⟨⟨hn', hh'⟩, hsn', hsh'⟩ := hnone ho
  simp only [textClasses, List.forall_mem_cons, hn, hn', hh, hh', hsn, hsn', hsh, hsh', hs]
  simp

end Classes

theorem normalize_stripped (value : String) : normalize (stripped value) = normalize value := by
  have hs : String.ofList (Text.trim isBlank (stripped value).toList) = stripped value :=
    stripped_stripped value
  rw [normalize, hs]
  rfl

theorem normalize_cases (value : String) : normalize value = stripped value ∨
    normalize value = Text.lower (stripped value) ∧
      (isKeyword (normalize value) = true ∨ isSchemeText (stripped value).toList = true) := by
  have hn : normalize value = if isKeyword (Text.lower (stripped value)) ||
      isUrlScheme (stripped value) then Text.lower (stripped value) else stripped value := rfl
  rw [← isUrlScheme_stripped, hn]
  split
  case isTrue h =>
    rw [Bool.or_eq_true] at h
    exact .inr ⟨rfl, h⟩
  case isFalse => exact .inl rfl

theorem normalize_normalize (value : String) : normalize (normalize value) = normalize value := by
  obtain h | ⟨-, hkeyword | hscheme⟩ := normalize_cases value
  · rw [h, normalize_stripped, h]
  · have hall : ∀ keyword ∈ Keyword.all, normalize keyword = keyword := by decide +kernel
    rw [isKeyword, List.contains_iff_mem] at hkeyword
    exact hall (normalize value) hkeyword
  · rw [← normalize_stripped value]
    exact (isWord_normalize (isWord_of_isSchemeText hscheme)).2

theorem textClasses_normalize (value : String) :
    ∀ recognizes ∈ textClasses, recognizes (normalize value) = recognizes (stripped value) := by
  obtain h | ⟨hlower, hkeyword | hscheme⟩ := normalize_cases value
  · intro recognizes _
    rw [h]
  · have hplain : isUrlScheme (normalize value) = false :=
      isUrlScheme_of_isQuoted (isQuoted_of_trusted (.inl hkeyword))
    refine eq_of_not_trusted (not_trusted_of_isKeyword hkeyword) (fun ht => ?_) ?_
    · obtain ⟨opening, ho, hprefix⟩ := exists_opening ht
      rw [hlower, not_isKeyword_lower ho hprefix] at hkeyword
      cases hkeyword
    · rw [hplain, eq_comm, ← Bool.not_eq_true, isUrlScheme_stripped]
      intro hscheme
      rw [hlower, isUrlScheme_lower hscheme] at hplain
      cases hplain
  · have hbefore : isUrlScheme (stripped value) = true := by rwa [isUrlScheme_stripped]
    have hafter : isUrlScheme (normalize value) = true := by rw [hlower, isUrlScheme_lower hscheme]
    exact eq_of_not_trusted (fun ht => not_trusted_of_isUrlScheme hafter (.inr ht))
      (fun ht => not_trusted_of_isUrlScheme hbefore (.inr ht)) (hafter.trans hbefore.symm)

/-- The reader has nothing more to do on what it made of a value, and what it made is of the classes
that the value was of without the blanks around it. It is of one class at most, the strict nonces and
hashes being among the others. -/
theorem normalize_settles (value : String) :
    normalize (normalize value) = normalize value ∧
      (∀ recognizes ∈ textClasses, recognizes (normalize value) = recognizes (stripped value)) ∧
      [isKeyword, isNonce, isHash, isUrlScheme].countP (· (normalize value)) ≤ 1 ∧
      (isStrictNonce value = true → isNonce value = true) ∧
      (isStrictHash value = true → isHash value = true) :=
  ⟨normalize_normalize value, textClasses_normalize value, countP_classes_le_one _,
    isNonce_of_isStrictNonce, isHash_of_isStrictHash⟩

/-- The Kelvin sign has the small letter k for its small form, and a line break may follow a nonce. -/
theorem normalize_settles_kelvinExample :
    normalize "\t'BLOC\u212a'\xa0" = "'block'" ∧ normalize "'block'" = "'block'" ∧
      isHash "'block'" = isHash (stripped "\t'BLOC\u212a'\xa0") ∧
      isNonce "'nonce-a+/_-=='\n" = true := by
  have hblock : normalize "\t'BLOC\u212a'\xa0" = "'block'" := by decide +kernel
  obtain ⟨hagain, hclasses, -⟩ := normalize_settles "\t'BLOC\u212a'\xa0"
  rw [hblock] at hagain hclasses
  exact ⟨hblock, hagain, hclasses isHash (by simp [textClasses]),
    (normalize_settles "'nonce-a+/_-=='\n").2.2.2.1 (by decide)⟩

end ContentPolicy.Source
