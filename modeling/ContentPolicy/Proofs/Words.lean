import ContentPolicy.Policy.Parser
import ContentPolicy.Proofs.LetterCase
import Mathlib.Data.List.Basic
import Mathlib.Data.List.Nodup
import Mathlib.Data.List.TakeWhile

/-!
The words of a policy, and what the reader makes of them. To do it again changes nothing.
-/

namespace ContentPolicy

/-- To drop repetitions is to go on with what the head keeps of the tail, which is no longer than
the tail. -/
theorem filterTail_induction {α : Type} (keeps : α → α → Bool) {motive : List α → Prop}
    (nil : motive []) (cons : ∀ a r, motive (r.filter (keeps a)) → motive (a :: r))
    (l : List α) : motive l := by
  induction hn : l.length using Nat.strongRecOn generalizing l with
  | ind n ih =>
    cases l with
    | nil => exact nil
    | cons a r =>
      have hle := List.length_filter_le (keeps a) r
      rw [List.length_cons] at hn
      exact cons a r (ih _ (by omega) _ rfl)

namespace Token

def isPlain (c : Char) : Bool := isLatin1 c && !Source.isBlank c && c != ';'

def IsWord (w : List Char) : Prop := w ≠ [] ∧ ∀ c ∈ w, isPlain c = true

theorem isBlank_of_isPlain {c : Char} (h : isPlain c = true) : Source.isBlank c = false := by
  simp only [isPlain, Bool.and_eq_true, Bool.not_eq_true'] at h
  exact h.1.2

theorem ne_semicolon_of_isPlain {c : Char} (h : isPlain c = true) : (c == ';') = false := by
  simp only [isPlain, Bool.and_eq_true, bne, Bool.not_eq_true'] at h
  exact h.2

theorem isLatin1_of_isPlain {c : Char} (h : isPlain c = true) : isLatin1 c = true := by
  simp only [isPlain, Bool.and_eq_true] at h
  exact h.1.1

end Token

namespace Text

open Token

def SmallForm (c : Char) : Prop :=
  lowerChar c ≠ [] ∧ (lowerChar c).flatMap lowerChar = lowerChar c ∧
    (lowerChar c).all isLatin1 = true ∧ (isPlain c = true → (lowerChar c).all isPlain = true)

instance (c : Char) : Decidable (SmallForm c) :=
  inferInstanceAs (Decidable (_ ∧ _ ∧ _ ∧ _))

theorem smallForm_ofNat : ∀ n < 256, SmallForm (Char.ofNat n) := by decide +kernel

theorem latin1_induction {motive : Char → Prop} (ofNat : ∀ n < 256, motive (Char.ofNat n))
    {c : Char} (h : isLatin1 c = true) : motive c := by
  have hn : c.toNat < 256 := by
    simp only [isLatin1, decide_eq_true_eq] at h
    omega
  rw [← Char.ofNat_toNat c]
  exact ofNat c.toNat hn

theorem smallForm_of_isLatin1 {c : Char} (h : isLatin1 c = true) : SmallForm c :=
  latin1_induction smallForm_ofNat h

/-- The sigma, which looks at its neighbours, is not in Latin-1. -/
theorem lowerFrom_of_isLatin1 {cs : List Char} (inWord : Bool) (h : ∀ c ∈ cs, isLatin1 c = true) :
    lowerFrom inWord cs = cs.flatMap lowerChar := by
  induction cs generalizing inWord with
  | nil => rfl
  | cons c r ih =>
    have hc : c ≠ '\u03a3' := by
      rintro rfl
      exact absurd (h _ List.mem_cons_self) (by decide)
    rw [lowerFrom, ih _ fun x hx => h x (List.mem_cons_of_mem _ hx)]
    simp [hc]

theorem lowerChars_of_isLatin1 {cs : List Char} (h : ∀ c ∈ cs, isLatin1 c = true) :
    lowerChars cs = cs.flatMap lowerChar := lowerFrom_of_isLatin1 false h

theorem isLatin1_lowerChars {cs : List Char} (h : ∀ c ∈ cs, isLatin1 c = true) :
    ∀ x ∈ lowerChars cs, isLatin1 x = true := by
  intro x hx
  rw [lowerChars_of_isLatin1 h] at hx
  obtain ⟨c, hc, hx⟩ := List.mem_flatMap.1 hx
  exact List.all_eq_true.1 (smallForm_of_isLatin1 (h c hc)).2.2.1 x hx

theorem lowerChars_lowerChars {cs : List Char} (h : ∀ c ∈ cs, isLatin1 c = true) :
    lowerChars (lowerChars cs) = lowerChars cs := by
  rw [lowerChars_of_isLatin1 (isLatin1_lowerChars h), lowerChars_of_isLatin1 h,
    List.flatMap_assoc]
  exact List.flatMap_congr fun c hc => (smallForm_of_isLatin1 (h c hc)).2.1

theorem isWord_lowerChars {w : List Char} (h : IsWord w) : IsWord (lowerChars w) := by
  have hl : ∀ c ∈ w, isLatin1 c = true := fun c hc => isLatin1_of_isPlain (h.2 c hc)
  rw [lowerChars_of_isLatin1 hl]
  constructor
  · cases w with
    | nil => exact absurd rfl h.1
    | cons c r =>
      rw [List.flatMap_cons]
      exact List.append_ne_nil_of_left_ne_nil
        (smallForm_of_isLatin1 (hl c List.mem_cons_self)).1 _
  · intro x hx
    obtain ⟨c, hc, hx⟩ := List.mem_flatMap.1 hx
    exact List.all_eq_true.1 ((smallForm_of_isLatin1 (hl c hc)).2.2.2 (h.2 c hc)) x hx

section Separators

variable {isSep : Char → Bool}

theorem words_append_sep {s : Char} (h : isSep s = true) (cs r : List Char) :
    words isSep (cs ++ s :: r) = words isSep cs ++ words isSep r := by
  rw [words, List.splitOnP_append_cons _ _ h, List.filter_append]
  rfl

theorem words_sep_cons {s : Char} (h : isSep s = true) (r : List Char) :
    words isSep (s :: r) = words isSep r := words_append_sep h [] r

theorem words_eq_singleton {w : List Char} (hw : w ≠ []) (h : ∀ c ∈ w, isSep c = false) :
    words isSep w = [w] := by
  rw [words, List.splitOnP_eq_singleton h]
  simp [hw]

theorem ne_nil_of_mem_words {w cs : List Char} (h : w ∈ words isSep cs) : w ≠ [] := by
  have hw := (List.mem_filter.1 h).2
  simpa using hw

theorem words_eq_nil_iff {cs : List Char} : words isSep cs = [] ↔ ∀ c ∈ cs, isSep c = true := by
  induction cs with
  | nil => simp [words]
  | cons c r ih =>
    cases hc : isSep c with
    | true => rw [words_sep_cons hc, ih, List.forall_mem_cons, and_iff_right hc]
    | false =>
      have hone : words isSep (c :: r) ≠ [] := by
        rw [words, List.splitOnP_cons_eq_if_modifyHead, hc]
        cases hs : r.splitOnP isSep with
        | nil => exact absurd hs (List.splitOnP_ne_nil isSep r)
        | cons u us => simp
      simp [hone, hc]

theorem of_mem_splitOnP {w cs : List Char} (h : w ∈ cs.splitOnP isSep) :
    ∀ c ∈ w, c ∈ cs ∧ isSep c = false := by
  induction cs generalizing w with
  | nil =>
    rw [List.splitOnP_nil, List.mem_singleton] at h
    simp [h]
  | cons a r ih =>
    have hr {u : List Char} (hu : u ∈ r.splitOnP isSep) : ∀ c ∈ u, c ∈ a :: r ∧ isSep c = false :=
      fun c hc => (ih hu c hc).imp_left (List.mem_cons_of_mem _)
    rw [List.splitOnP_cons_eq_if_modifyHead] at h
    cases ha : isSep a with
    | true =>
      rw [if_pos ha] at h
      cases h with
      | head => simp
      | tail _ h => exact hr h
    | false =>
      rw [if_neg (by simp [ha])] at h
      cases hs : r.splitOnP isSep with
      | nil => simp [hs] at h
      | cons u us =>
        rw [hs, List.modifyHead_cons] at h
        cases h with
        | head =>
          intro c hc
          cases hc with
          | head => exact ⟨List.mem_cons_self, ha⟩
          | tail _ hc => exact hr (hs ▸ List.mem_cons_self) c hc
        | tail _ h => exact hr (hs ▸ List.mem_cons_of_mem _ h)

theorem words_dropWhile (cs : List Char) : words isSep (cs.dropWhile isSep) = words isSep cs := by
  induction cs with
  | nil => rfl
  | cons c r ih =>
    cases hc : isSep c with
    | true => rw [List.dropWhile_cons_of_pos hc, ih, words_sep_cons hc]
    | false => rw [List.dropWhile_cons_of_neg (by simp [hc])]

theorem words_dropWhile_reverse (cs : List Char) :
    words isSep (cs.dropWhile isSep).reverse = words isSep cs.reverse := by
  induction cs with
  | nil => rfl
  | cons c r ih =>
    cases hc : isSep c with
    | true =>
      rw [List.dropWhile_cons_of_pos hc, ih, List.reverse_cons, words_append_sep hc]
      exact (List.append_nil _).symm
    | false => rw [List.dropWhile_cons_of_neg (by simp [hc])]

theorem words_trim (cs : List Char) : words isSep (trim isSep cs) = words isSep cs := by
  rw [trim, words_dropWhile_reverse, List.reverse_reverse, words_dropWhile]

theorem mem_dropWhile_of_not_sep {cs : List Char} {c : Char} (h : c ∈ cs) (hc : isSep c = false) :
    c ∈ cs.dropWhile isSep := by
  rw [← List.takeWhile_append_dropWhile (p := isSep) (l := cs)] at h
  cases List.mem_append.1 h with
  | inl h => simp [List.mem_takeWhile_imp h] at hc
  | inr h => exact h

theorem trim_eq_nil {cs : List Char} (h : ∀ c ∈ cs, isSep c = true) : trim isSep cs = [] := by
  rw [trim, List.dropWhile_eq_nil_iff.2 h]
  rfl

theorem mem_trim_of_not_sep {cs : List Char} {c : Char} (h : c ∈ cs) (hc : isSep c = false) :
    c ∈ trim isSep cs := by
  have hfront := List.mem_reverse.2 (mem_dropWhile_of_not_sep h hc)
  exact List.mem_reverse.2 (mem_dropWhile_of_not_sep hfront hc)

theorem mem_of_mem_trim {cs : List Char} {c : Char} (h : c ∈ trim isSep cs) : c ∈ cs := by
  have h := (List.dropWhile_sublist isSep).subset (List.mem_reverse.1 h)
  exact (List.dropWhile_sublist isSep).subset (List.mem_reverse.1 h)

theorem not_sep_of_head?_dropWhile {cs : List Char} {c : Char}
    (h : (cs.dropWhile isSep).head? = some c) : isSep c = false := by
  have hnot := List.head?_dropWhile_not isSep cs
  rwa [h] at hnot

theorem not_sep_of_getLast?_trim {cs : List Char} {c : Char}
    (h : (trim isSep cs).getLast? = some c) : isSep c = false := by
  rw [trim, List.getLast?_reverse] at h
  exact not_sep_of_head?_dropWhile h

theorem dropWhile_eq_self_of_head? {cs : List Char}
    (h : ∀ c, cs.head? = some c → isSep c = false) : cs.dropWhile isSep = cs := by
  cases cs with
  | nil => rfl
  | cons c r => exact List.dropWhile_cons_of_neg (by simp [h c rfl])

/-- What neither begins nor ends with a separator stays whole. -/
theorem trim_eq_self_of_ends {cs : List Char} (hhead : ∀ c, cs.head? = some c → isSep c = false)
    (hlast : ∀ c, cs.getLast? = some c → isSep c = false) : trim isSep cs = cs := by
  rw [trim, dropWhile_eq_self_of_head? hhead, dropWhile_eq_self_of_head?, List.reverse_reverse]
  rwa [List.head?_reverse]

theorem trim_eq_self {cs : List Char} (h : ∀ c ∈ cs, isSep c = false) : trim isSep cs = cs :=
  trim_eq_self_of_ends (fun c hc => h c (List.mem_of_head? hc))
    fun c hc => h c (List.mem_of_getLast? hc)

/-- What is trimmed has no separator at either end. -/
theorem trim_trim (cs : List Char) : trim isSep (trim isSep cs) = trim isSep cs := by
  refine trim_eq_self_of_ends (fun c hc => ?_) fun c hc => not_sep_of_getLast?_trim hc
  have hfront : trim isSep cs <+: cs.dropWhile isSep := by
    rw [← List.reverse_suffix, trim, List.reverse_reverse]
    exact List.dropWhile_suffix _
  obtain ⟨r, hr⟩ := List.head?_eq_some_iff.1 hc
  obtain ⟨after, hafter⟩ := hfront
  have hin : (cs.dropWhile isSep).head? = some c := by
    rw [← hafter, hr]
    rfl
  exact not_sep_of_head?_dropWhile hin

theorem mem_intercalate {sep : List Char} {ws : List (List Char)} {c : Char}
    (h : c ∈ sep.intercalate ws) : c ∈ sep ∨ ∃ w ∈ ws, c ∈ w := by
  induction ws with
  | nil => exact absurd h List.not_mem_nil
  | cons w r ih =>
    cases r with
    | nil =>
      rw [List.intercalate_singleton] at h
      exact .inr ⟨w, List.mem_cons_self, h⟩
    | cons u us =>
      rw [List.intercalate_cons_cons, List.append_assoc] at h
      cases List.mem_append.1 h with
      | inl h => exact .inr ⟨w, List.mem_cons_self, h⟩
      | inr h =>
        cases List.mem_append.1 h with
        | inl h => exact .inl h
        | inr h =>
          obtain hc | ⟨x, hx, hc⟩ := ih h
          · exact .inl hc
          · exact .inr ⟨x, List.mem_cons_of_mem _ hx, hc⟩

/-- Only one blank stands between two words, so no empty word comes back. -/
theorem words_intercalate {s : Char} (hs : isSep s = true) {ws : List (List Char)}
    (h : ∀ w ∈ ws, w ≠ [] ∧ ∀ c ∈ w, isSep c = false) :
    words isSep (List.intercalate [s] ws) = ws := by
  induction ws with
  | nil => rfl
  | cons w r ih =>
    have hw := h w List.mem_cons_self
    have hr := ih fun u hu => h u (List.mem_cons_of_mem _ hu)
    cases r with
    | nil => rw [List.intercalate_singleton, words_eq_singleton hw.1 hw.2]
    | cons u us =>
      rw [List.intercalate_cons_cons, List.append_assoc, List.singleton_append,
        words_append_sep hs, hr, words_eq_singleton hw.1 hw.2]
      rfl

end Separators

end Text

namespace Source

open Token

/-- A word stays a word, and is normal after one pass. -/
theorem isWord_normalize {value : String} (h : IsWord value.toList) :
    IsWord (normalize value).toList ∧ normalize (normalize value) = normalize value := by
  have htrim {v : String} (hv : IsWord v.toList) : Text.trim isBlank v.toList = v.toList :=
    Text.trim_eq_self fun c hc => isBlank_of_isPlain (hv.2 c hc)
  have hlower : (Text.lower value).toList = Text.lowerChars value.toList := String.toList_ofList
  have hlow : IsWord (Text.lower value).toList := hlower ▸ Text.isWord_lowerChars h
  have hagain : Text.lower (Text.lower value) = Text.lower value := by
    rw [Text.lower, hlower,
      Text.lowerChars_lowerChars fun c hc => isLatin1_of_isPlain (h.2 c hc)]
    rfl
  have hn : normalize value =
      if isKeyword (Text.lower value) || isUrlScheme value then Text.lower value else value := by
    simp only [normalize, htrim h, String.ofList_toList]
  have hnl : normalize (Text.lower value) = Text.lower value := by
    simp only [normalize, htrim hlow, String.ofList_toList, hagain, ite_self]
  cases hk : isKeyword (Text.lower value) || isUrlScheme value with
  | true => rw [hn, hk, if_pos rfl]; exact ⟨hlow, hnl⟩
  | false => rw [hn, hk]; exact ⟨h, by simpa [hk] using hn⟩

theorem isSchemeText_eq_false {cs : List Char} (h : '/' ∈ cs) : isSchemeText cs = false := by
  rw [← Bool.not_eq_true]
  intro hscheme
  cases cs with
  | nil => cases h
  | cons c r =>
    simp only [isSchemeText, Bool.and_eq_true, beq_iff_eq, List.all_eq_true] at hscheme
    obtain ⟨⟨hletter, hlast⟩, htail⟩ := hscheme
    cases h with
    | head => exact absurd hletter (by decide)
    | tail _ h =>
      have hr : '/' ∈ r.dropLast ++ [':'] := by rwa [List.dropLast_append_getLast? ':' hlast]
      cases List.mem_append.1 hr with
      | inl hr => exact absurd (htail _ hr) (by decide)
      | inr hr => exact absurd hr (by decide)

/-- A slash is in no keyword and in no scheme. -/
theorem normalize_eq_self {w : List Char} (hw : ∀ c ∈ w, isBlank c = false) (hs : '/' ∈ w) :
    normalize (.ofList w) = .ofList w := by
  have htrim : Text.trim isBlank w = w := Text.trim_eq_self hw
  have hkeyword : isKeyword (Text.lower (.ofList w)) = false := by
    have hall : ∀ keyword ∈ Keyword.all, '/' ∉ keyword.toList := by decide
    rw [isKeyword, ← Bool.not_eq_true, List.contains_iff_mem]
    intro hk
    refine hall _ hk ?_
    rw [Text.lower, String.toList_ofList, String.toList_ofList]
    exact (Text.mem_lowerChars_iff (by decide) (by decide)).2 hs
  have hbreak : Text.dropFinalBreak w = w := by
    refine if_neg fun hlast => ?_
    exact absurd (hw _ (List.mem_of_getLast? hlast)) (by decide)
  have hscheme : isUrlScheme (.ofList w) = false := by
    rw [isUrlScheme, String.toList_ofList, hbreak]
    exact isSchemeText_eq_false hs
  simp [normalize, htrim, hkeyword, hscheme]

/-- Neither to lower a text nor to trim it puts a slash in. -/
theorem slash_mem_of_normalize {w : List Char} (h : '/' ∈ (normalize (.ofList w)).toList) :
    '/' ∈ w := by
  have hin : '/' ∈ Text.trim isBlank w := by
    simp only [normalize, String.toList_ofList] at h
    split at h
    · rw [Text.lower, String.toList_ofList, String.toList_ofList] at h
      exact (Text.mem_lowerChars_iff (by decide) (by decide)).1 h
    · rwa [String.toList_ofList] at h
  exact Text.mem_of_mem_trim hin

end Source

end ContentPolicy
