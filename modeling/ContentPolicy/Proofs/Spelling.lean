import ContentPolicy.Proofs.FirstMention
import ContentPolicy.Proofs.Reading
import Mathlib.Data.Set.List

/-!
How a policy may be spelled: what is read of a text depends on its words only, not on the blanks
around them.
-/

namespace ContentPolicy

namespace Token

def IsSpelledWord (w : List Char) : Prop :=
  w ≠ [] ∧ ∀ c ∈ w, Source.isBlank c = false ∧ c ≠ ';'

instance (w : List Char) : Decidable (IsSpelledWord w) :=
  decidable_of_iff ((!w.isEmpty && w.all fun c => !Source.isBlank c && c != ';') = true)
    (by simp [IsSpelledWord])

/-- The text has these words. Blanks stand where they like, and at least one between two words. -/
inductive Spells : List Char → List (List Char) → Prop where
  | nothing : Spells [] []
  | blank {c : Char} {cs : List Char} {ws : List (List Char)} (hc : Source.isBlank c = true)
      (h : Spells cs ws) : Spells (c :: cs) ws
  | lastWord {w : List Char} (hw : IsSpelledWord w) : Spells w [w]
  | word {w cs : List Char} {c : Char} {ws : List (List Char)} (hw : IsSpelledWord w)
      (hc : Source.isBlank c = true) (h : Spells cs ws) : Spells (w ++ c :: cs) (w :: ws)

theorem Spells.words_eq {cs : List Char} {ws : List (List Char)} (h : Spells cs ws) :
    Text.words Source.isBlank cs = ws := by
  induction h with
  | nothing => rfl
  | blank hc h ih => rw [Text.words_sep_cons hc, ih]
  | lastWord hw => exact Text.words_eq_singleton hw.1 fun c hc => (hw.2 c hc).1
  | word hw hc h ih =>
    rw [Text.words_append_sep hc, Text.words_eq_singleton hw.1 fun c hc => (hw.2 c hc).1, ih]
    rfl

theorem Spells.isBlank_of_nil {cs : List Char} (h : Spells cs []) :
    ∀ c ∈ cs, Source.isBlank c = true := by
  generalize hws : ([] : List (List Char)) = ws at h
  induction h with
  | nothing => exact List.forall_mem_nil _
  | blank hc h ih => exact List.forall_mem_cons.2 ⟨hc, ih hws⟩
  | lastWord hw => cases hws
  | word hw hc h ih => cases hws

theorem isBlank_of_not_isLatin1 {c : Char} (h : isLatin1 c = false) : Source.isBlank c = false := by
  rw [Bool.eq_false_iff]
  intro hb
  have hblanks : ['\t', '\n', '\x0b', '\x0c', '\r', ' ', '\xa0'].all isLatin1 = true := by decide
  rw [List.all_eq_true.1 hblanks c (List.contains_iff_mem.1 hb)] at h
  cases h

/-- Trimming takes blanks only, so a character beyond Latin-1 stays. -/
theorem ofChars_of_foreign {cs : List Char} {c : Char} (hc : c ∈ cs)
    (hforeign : isLatin1 c = false) :
    ofChars cs = .foreign (.ofList (Text.trim Source.isBlank cs)) := by
  have hin : c ∈ Text.trim Source.isBlank cs :=
    Text.mem_trim_of_not_sep hc (isBlank_of_not_isLatin1 hforeign)
  have hall : ¬ (Text.trim Source.isBlank cs).all isLatin1 = true := by
    intro hall
    rw [List.all_eq_true.1 hall c hin] at hforeign
    cases hforeign
  rw [ofChars, if_neg hall]

theorem mention?_ofChars_of_foreign {cs : List Char} {c : Char} (hc : c ∈ cs)
    (hforeign : isLatin1 c = false) : (ofChars cs).mention? = none := by
  rw [ofChars_of_foreign hc hforeign]
  rfl

theorem ne_semicolon_of_isBlank {c : Char} (h : Source.isBlank c = true) : c ≠ ';' := by
  rintro rfl
  exact absurd h (by decide)

theorem Spells.semicolon_not_mem {cs : List Char} {ws : List (List Char)} (h : Spells cs ws) :
    ';' ∉ cs := by
  induction h with
  | nothing => exact List.not_mem_nil
  | blank hc h ih => exact List.not_mem_cons_of_ne_of_not_mem (ne_semicolon_of_isBlank hc).symm ih
  | lastWord hw => exact fun hm => (hw.2 _ hm).2 rfl
  | word hw hc h ih =>
    intro hm
    cases List.mem_append.1 hm with
    | inl hm => exact (hw.2 _ hm).2 rfl
    | inr hm =>
      exact List.not_mem_cons_of_ne_of_not_mem (ne_semicolon_of_isBlank hc).symm ih hm

/-- A character in front begins a word of its own or makes the first word longer. -/
theorem Spells.cons {c : Char} {cs : List Char} {ws : List (List Char)} (h : Spells cs ws)
    (hb : Source.isBlank c = false) (hs : c ≠ ';') : ∃ us, Spells (c :: cs) us := by
  have hword {w : List Char} (hw : ∀ x ∈ w, Source.isBlank x = false ∧ x ≠ ';') :
      IsSpelledWord (c :: w) :=
    ⟨List.cons_ne_nil c w, List.forall_mem_cons.2 ⟨⟨hb, hs⟩, hw⟩⟩
  cases h with
  | nothing => exact ⟨_, .lastWord (hword (List.forall_mem_nil _))⟩
  | blank hc h => exact ⟨_, .word (hword (List.forall_mem_nil _)) hc h⟩
  | lastWord hw => exact ⟨_, .lastWord (hword hw.2)⟩
  | word hw hc h => exact ⟨_, .word (hword hw.2) hc h⟩

/-- Every text has words, and it is spelled by them. -/
theorem exists_spells {cs : List Char} (h : ';' ∉ cs) : ∃ ws, Spells cs ws := by
  induction cs with
  | nil => exact ⟨[], .nothing⟩
  | cons c r ih =>
    obtain ⟨ws, hr⟩ := ih fun hm => h (List.mem_cons_of_mem c hm)
    cases hb : Source.isBlank c with
    | true => exact ⟨ws, .blank hb hr⟩
    | false =>
      refine hr.cons hb ?_
      rintro rfl
      exact h List.mem_cons_self

theorem Spells.isSpelledWord {cs : List Char} {ws : List (List Char)} (h : Spells cs ws) :
    ∀ w ∈ ws, IsSpelledWord w := by
  induction h with
  | nothing => exact List.forall_mem_nil _
  | blank hc h ih => exact ih
  | lastWord hw => exact List.forall_mem_singleton.2 hw
  | word hw hc h ih => exact List.forall_mem_cons.2 ⟨hw, ih⟩

theorem isLatin1_of_isBlank {c : Char} (h : Source.isBlank c = true) : isLatin1 c = true := by
  by_contra hc
  rw [isBlank_of_not_isLatin1 (Bool.not_eq_true _ ▸ hc)] at h
  cases h

theorem Spells.all_isLatin1_iff {cs : List Char} {ws : List (List Char)} (h : Spells cs ws) :
    (∀ c ∈ cs, isLatin1 c = true) ↔ ∀ w ∈ ws, ∀ c ∈ w, isLatin1 c = true := by
  induction h with
  | nothing => simp
  | blank hc h ih => simp [isLatin1_of_isBlank hc, ih]
  | lastWord hw => simp
  | word hw hc h ih => simp [or_imp, forall_and, isLatin1_of_isBlank hc, ih]

end Token

structure Spelling where
  text : List Char
  words : List (List Char)
  spells : Token.Spells text words

namespace Spelling

/-- The first word names a directive, in small letters, and the others are its values, each in its
normal form and once. A token beyond Latin-1 mentions nothing, whatever its name. -/
def mention? (s : Spelling) : Option Mention :=
  if s.text.all fun c => c.toNat ≤ 0xff then
    match s.words with
    | [] => none
    | w :: ws => some (Text.lower (.ofList w),
      (ws.map fun v => Source.normalize (.ofList v)).eraseDups)
  else none

theorem words_trim_text (s : Spelling) :
    Text.words Source.isBlank (Text.trim Source.isBlank s.text) = s.words := by
  rw [Text.words_trim, s.spells.words_eq]

theorem words_ne_nil (s : Spelling) (h : Text.trim Source.isBlank s.text ≠ []) : s.words ≠ [] := by
  intro hnil
  have hspells := s.spells
  rw [hnil] at hspells
  exact h (Text.trim_eq_nil hspells.isBlank_of_nil)

theorem mention?_ofChars_text (s : Spelling) : (Token.ofChars s.text).mention? = s.mention? := by
  cases h : s.text.all fun c => c.toNat ≤ 0xff with
  | true =>
    rw [Token.ofChars_of_isLatin1 (List.all_eq_true.1 h), s.spells.words_eq, mention?, if_pos h]
    cases s.words with
    | nil => rfl
    | cons w ws =>
      simp only [Text.lower, String.toList_ofList]
      rfl
  | false =>
    obtain ⟨c, hc, hforeign⟩ := List.all_eq_false.1 h
    rw [Token.mention?_ofChars_of_foreign hc (Bool.eq_false_iff.2 hforeign), mention?,
      if_neg (Bool.eq_false_iff.1 h)]

end Spelling

namespace Policy

def spell (ss : List Spelling) : String := .ofList ([';'].intercalate (ss.map Spelling.text))

/-- Each text between two semicolons has words, and the whole is these texts put together again. -/
theorem exists_spell (text : String) : ∃ ss, spell ss = text := by
  have hparts : ∀ cs ∈ text.toList.splitOn ';', cs ∈ Set.range Spelling.text := by
    intro cs hcs
    rw [List.splitOn_eq_splitOnP] at hcs
    have hno : ';' ∉ cs := fun hm => by simpa using (Text.of_mem_splitOnP hcs _ hm).2
    obtain ⟨ws, h⟩ := Token.exists_spells hno
    exact ⟨⟨cs, ws, h⟩, rfl⟩
  obtain ⟨ss, hss⟩ : text.toList.splitOn ';' ∈ Set.range (List.map Spelling.text) := by
    rw [Set.range_list_map]
    exact hparts
  refine ⟨ss, ?_⟩
  rw [spell, hss, List.intercalate_splitOn, String.ofList_toList]

/-- Tokens without words, and those beyond Latin-1, mention nothing. -/
theorem mentions_spell (ss : List Spelling) :
    mentions (spell ss) = ss.filterMap Spelling.mention? := by
  rw [mentions, tokens, spell, String.toList_ofList, ← List.splitOn_eq_splitOnP]
  cases ss with
  | nil => rfl
  | cons s r =>
    have hno : ∀ cs ∈ (s :: r).map Spelling.text, ';' ∉ cs := by
      intro cs hcs
      obtain ⟨u, -, rfl⟩ := List.mem_map.1 hcs
      exact u.spells.semicolon_not_mem
    rw [List.splitOn_intercalate _ hno (List.cons_ne_nil _ _),
      List.filterMap_map, List.filterMap_map]
    exact List.filterMap_congr fun u _ => u.mention?_ofChars_text

/-- A value that is read stands among the words of a token behind the name. -/
theorem exists_word_of_mem_values {ss : List Spelling} {name value : String}
    (h : value ∈ (parse (spell ss)).values name) :
    ∃ token ∈ ss, (∀ c ∈ token.text, Token.isLatin1 c = true) ∧
      ∃ w ws v, token.words = w :: ws ∧ Text.lower (.ofList w) = name ∧ v ∈ ws ∧
        Source.normalize (.ofList v) = value := by
  rw [values, directives_parse, Mention.lookup_firsts, mentions_spell] at h
  cases hlookup : (ss.filterMap Spelling.mention?).lookup name with
  | none => simp [hlookup] at h
  | some vs =>
    rw [hlookup, Option.getD_some] at h
    obtain ⟨before, after, hms, -⟩ := List.lookup_eq_some_iff.1 hlookup
    have hmem : (name, vs) ∈ ss.filterMap Spelling.mention? := by simp [hms]
    obtain ⟨token, htoken, hmention⟩ := List.mem_filterMap.1 hmem
    refine ⟨token, htoken, ?_⟩
    simp only [Spelling.mention?] at hmention
    split at hmention
    case isTrue hlatin =>
      refine ⟨List.all_eq_true.1 hlatin, ?_⟩
      cases hwords : token.words with
      | nil => simp [hwords] at hmention
      | cons w ws =>
        rw [hwords] at hmention
        cases hmention
        obtain ⟨v, hv, hvalue⟩ := List.mem_map.1 (List.mem_eraseDups.1 h)
        exact ⟨w, ws, v, rfl, rfl, hv, hvalue⟩
    case isFalse => cases hmention

/-- Every text is a spelling, and of every spelling the first mention of each name is read, in the
order of the names. Where trimming leaves something of a token there is a first word. -/
theorem parse_spell : (∀ text, ∃ ss, spell ss = text) ∧
    (∀ s : Spelling, Text.words Source.isBlank (Text.trim Source.isBlank s.text) = s.words ∧
      (Text.trim Source.isBlank s.text ≠ [] → s.words ≠ [])) ∧
    ∀ ss, (parse (spell ss)).names = ((ss.filterMap Spelling.mention?).map Prod.fst).eraseDups ∧
      ∀ name, (parse (spell ss)).directives.lookup name =
        (ss.filterMap Spelling.mention?).lookup name := by
  refine ⟨exists_spell, fun s => ⟨s.words_trim_text, s.words_ne_nil⟩, fun ss => ⟨?_, fun name => ?_⟩⟩
  · rw [names, directives_parse, Mention.names_firsts, mentions_spell]
  · rw [directives_parse, Mention.lookup_firsts, mentions_spell]

example : (parse ("; \xa0;IMG-SRC\tA\x0b 'SELF' 'self'\n;font-src\x1cb\x85 c;" ++
    "sandbox \u0100;Sandbox x")).directives =
      [("img-src", ["A", "'self'"]), ("font-src\x1cb\x85", ["c"]), ("sandbox", ["x"])] := by
  decide +kernel

end Policy

end ContentPolicy
