import ContentPolicy.Source
import Mathlib.Data.List.Basic

/-!
The classes of source expressions, each said by the characters that it is spelled with.
-/

namespace ContentPolicy

namespace Text

/-- A text that ends in no line break is told from itself with one more. -/
theorem dropFinalBreak_eq_iff {cs ds : List Char} (h : ds.getLast? ≠ some '\n') :
    dropFinalBreak cs = ds ↔ cs = ds ∨ cs = ds ++ ['\n'] := by
  unfold dropFinalBreak
  split
  case isTrue hc =>
    have happ : cs.dropLast ++ ['\n'] = cs := List.dropLast_append_getLast? '\n' hc
    constructor
    · rintro rfl
      exact .inr happ.symm
    · rintro (rfl | rfl)
      · exact absurd hc h
      · simp
  case isFalse hc =>
    constructor
    · exact .inl
    · rintro (rfl | rfl)
      · rfl
      · simp at hc

end Text

namespace Source

theorem payload?_eq_some_iff {opening value : String} {cs : List Char} :
    payload? opening value = some cs ↔ cs ≠ [] ∧ '\n' ∉ cs ∧
      (value.toList = opening.toList ++ (cs ++ ['\x27']) ∨
        value.toList = opening.toList ++ (cs ++ ['\x27']) ++ ['\n']) := by
  have hlast : (opening.toList ++ (cs ++ ['\x27'])).getLast? ≠ some '\n' := by simp
  rw [← Text.dropFinalBreak_eq_iff hlast, payload?, Option.bind_eq_some_iff]
  simp only [List.isPrefixOf?_eq_some_iff_append_eq]
  constructor
  · rintro ⟨r, hr, h⟩
    split at h
    case isTrue hc =>
      simp only [Bool.and_eq_true, beq_iff_eq, Bool.not_eq_true', List.isEmpty_eq_false_iff,
        List.contains_eq_mem, decide_eq_false_iff_not] at hc
      cases h
      refine ⟨hc.1.2, hc.2, ?_⟩
      rw [← hr, List.dropLast_append_getLast? '\x27' hc.1.1]
    case isFalse => cases h
  · rintro ⟨hne, hbreak, hcs⟩
    exact ⟨cs ++ ['\x27'], hcs.symm, by simp [hne, hbreak]⟩

def trustedOpenings : List String := "'nonce-" :: hashOpenings

theorem prefix_of_payload? {opening value : String} {cs : List Char}
    (h : payload? opening value = some cs) : opening.toList <+: value.toList := by
  obtain ⟨-, -, h | h⟩ := payload?_eq_some_iff.1 h
  · exact ⟨_, h.symm⟩
  · exact ⟨_, by rw [h, List.append_assoc]⟩

theorem trusted_of_payload? {opening value : String} {cs : List Char}
    (ho : opening ∈ trustedOpenings) (h : payload? opening value = some cs) :
    isNonce value = true ∨ isHash value = true := by
  have hsome := Option.isSome_of_eq_some h
  cases List.mem_cons.1 ho with
  | inl ho =>
    rw [ho] at hsome
    exact .inl hsome
  | inr ho => exact .inr (List.findSome?_isSome_iff.2 ⟨opening, ho, hsome⟩)

theorem exists_hash_opening {value : String} (h : isHash value = true) :
    ∃ opening ∈ hashOpenings, opening.toList <+: value.toList := by
  obtain ⟨cs, hcs⟩ := Option.isSome_iff_exists.1 h
  obtain ⟨opening, ho, hp⟩ := List.exists_of_findSome?_eq_some hcs
  exact ⟨opening, ho, prefix_of_payload? hp⟩

/-- Every nonce and every hash begins with one of five openings. -/
theorem exists_opening {value : String} (h : isNonce value = true ∨ isHash value = true) :
    ∃ opening ∈ trustedOpenings, opening.toList <+: value.toList := by
  cases h with
  | inl h =>
    obtain ⟨cs, hcs⟩ := Option.isSome_iff_exists.1 h
    exact ⟨_, List.mem_cons_self, prefix_of_payload? hcs⟩
  | inr h =>
    obtain ⟨opening, ho, hp⟩ := exists_hash_opening h
    exact ⟨opening, List.mem_cons_of_mem _ ho, hp⟩

theorem isQuoted_of_trusted {value : String}
    (h : isKeyword value = true ∨ isNonce value = true ∨ isHash value = true) :
    isQuoted value = true := by
  cases h with
  | inl h =>
    have hall : ∀ keyword ∈ Keyword.all, isQuoted keyword = true := by decide
    exact hall value (List.contains_iff_mem.1 h)
  | inr h =>
    have hall : ∀ opening ∈ trustedOpenings, opening.toList.head? = some '\x27' := by decide
    obtain ⟨opening, ho, r, hr⟩ := exists_opening h
    rw [isQuoted, ← hr, List.head?_append, hall opening ho]
    rfl

theorem isNonce_of_isStrictNonce {value : String} (h : isStrictNonce value = true) :
    isNonce value = true := Option.isSome_of_any h

theorem isHash_of_isStrictHash {value : String} (h : isStrictHash value = true) :
    isHash value = true := Option.isSome_of_any h

/-- No opening of a hash is one of a nonce. -/
theorem nonce?_eq_none_of_isHash {value : String} (h : isHash value = true) :
    nonce? value = none := by
  have hapart : ∀ opening ∈ hashOpenings,
      ¬ (opening.toList <+: "'nonce-".toList ∨ "'nonce-".toList <+: opening.toList) := by decide
  obtain ⟨opening, ho, hp⟩ := exists_hash_opening h
  cases hn : nonce? value with
  | none => rfl
  | some cs =>
    exact absurd (List.prefix_or_prefix_of_prefix hp (prefix_of_payload? hn)) (hapart opening ho)

theorem toList_of_isQuoted {value : String} (h : isQuoted value = true) :
    ∃ r, value.toList = '\x27' :: r := by
  rw [isQuoted, beq_iff_eq] at h
  exact ⟨value.toList.tail, List.eq_cons_of_mem_head? h⟩

/-- A tick stands before no scheme and before no host. -/
theorem schemeFree_of_isQuoted {value : String} (h : isQuoted value = true) :
    schemeFree value = value := by
  obtain ⟨r, hr⟩ := toList_of_isQuoted h
  have hword : Text.isWord '\x27' = false := by decide
  have hscheme : dropScheme value.toList = value.toList := by simp [dropScheme, hr, hword]
  have hslashes : "//".toList.isPrefixOf? value.toList = none := by simp [hr, List.isPrefixOf?]
  rw [schemeFree, hscheme, hslashes, Option.getD_none, String.ofList_toList]

/-- A scheme begins with a letter. -/
theorem isUrlScheme_of_isQuoted {value : String} (h : isQuoted value = true) :
    isUrlScheme value = false := by
  obtain ⟨r, hr⟩ := toList_of_isQuoted h
  rw [isUrlScheme, hr, Text.dropFinalBreak]
  split
  · cases r <;> rfl
  · rfl

end Source

end ContentPolicy
