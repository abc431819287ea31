import ContentPolicy.Policy.Printer
import ContentPolicy.Proofs.Resolution
import ContentPolicy.Proofs.Words

/-!
Policies that come out of the reader. Their names and values are words in their final form, and the
resolver keeps them so.
-/

namespace ContentPolicy

open Token

structure IsSettled (name : String) (values : List String) : Prop where
  isWord_name : IsWord name.toList
  lower_name : Text.lower name = name
  nodup_values : values.Nodup
  isWord_value : ∀ value ∈ values, IsWord value.toList
  normalize_value : ∀ value ∈ values, Source.normalize value = value

theorem IsSettled.sublist {name : String} {values vs : List String} (h : IsSettled name values)
    (hs : vs.Sublist values) : IsSettled name vs where
  isWord_name := h.isWord_name
  lower_name := h.lower_name
  nodup_values := h.nodup_values.sublist hs
  isWord_value := fun value hv => h.isWord_value value (hs.subset hv)
  normalize_value := fun value hv => h.normalize_value value (hs.subset hv)

theorem nodup_eraseDups {vs : List String} : vs.eraseDups.Nodup := by
  induction vs using filterTail_induction fun v u : String => !u == v with
  | nil => exact .nil
  | cons v r ih =>
    rw [List.eraseDups_cons]
    refine List.nodup_cons.2 ⟨fun hv => ?_, ih⟩
    simpa using (List.mem_filter.1 (List.mem_eraseDups.1 hv)).2

theorem eraseDups_eq_self {vs : List String} (h : vs.Nodup) : vs.eraseDups = vs := by
  induction vs with
  | nil => rfl
  | cons v r ih =>
    have hr : r.filter (fun u => !u == v) = r := by
      refine List.filter_eq_self.2 fun u hu => ?_
      have hne : u ≠ v := by
        rintro rfl
        exact (List.nodup_cons.1 h).1 hu
      simp [hne]
    rw [List.eraseDups_cons, hr, ih (List.nodup_cons.1 h).2]

theorem countP_eraseDups_insert {l r : List String} {w : String} (q : String → Bool) :
    (l ++ w :: r).eraseDups.countP q =
      (l ++ r).eraseDups.countP q + if q w = true ∧ w ∉ l ++ r then 1 else 0 := by
  by_cases hw : w ∈ l ++ r
  · have hperm : (l ++ w :: r).eraseDups.Perm (l ++ r).eraseDups := by
      refine (List.perm_ext_iff_of_nodup nodup_eraseDups nodup_eraseDups).2 fun x => ?_
      rw [List.mem_eraseDups, List.mem_eraseDups, List.perm_middle.mem_iff, List.mem_cons]
      exact or_iff_right_of_imp fun hx => hx ▸ hw
    rw [hperm.countP_eq, if_neg fun h => h.2 hw, Nat.add_zero]
  · have hnew : w ∉ (l ++ r).eraseDups := mt List.mem_eraseDups.1 hw
    have hperm : (l ++ w :: r).eraseDups.Perm (w :: (l ++ r).eraseDups) := by
      refine (List.perm_ext_iff_of_nodup nodup_eraseDups
        (List.nodup_cons.2 ⟨hnew, nodup_eraseDups⟩)).2 fun x => ?_
      rw [List.mem_eraseDups, List.perm_middle.mem_iff, List.mem_cons, List.mem_cons,
        List.mem_eraseDups]
    rw [hperm.countP_eq, List.countP_cons]
    simp only [hw, not_false_eq_true, and_true]

namespace Token

theorem isSettled_ofWords {ws : List (List Char)} (h : ∀ w ∈ ws, IsWord w) {name : String}
    {values : List String} (hd : ofWords ws = .directive name values) : IsSettled name values := by
  cases ws with
  | nil => simp [ofWords] at hd
  | cons w r =>
    simp only [ofWords, directive.injEq] at hd
    obtain ⟨rfl, rfl⟩ := hd
    have hw := h w List.mem_cons_self
    have hmem : ∀ value ∈ (r.map fun v => Source.normalize (.ofList v)).eraseDups,
        ∃ v : String, IsWord v.toList ∧ Source.normalize v = value := by
      intro value hv
      obtain ⟨v, hvr, rfl⟩ := List.mem_map.1 (List.mem_eraseDups.1 hv)
      have hword := h v (List.mem_cons_of_mem _ hvr)
      exact ⟨.ofList v, by rwa [String.toList_ofList], rfl⟩
    refine ⟨?_, ?_, nodup_eraseDups, ?_, ?_⟩
    · rw [String.toList_ofList]
      exact Text.isWord_lowerChars hw
    · rw [Text.lower, String.toList_ofList,
        Text.lowerChars_lowerChars fun c hc => isLatin1_of_isPlain (hw.2 c hc)]
    · intro value hv
      obtain ⟨v, hword, rfl⟩ := hmem value hv
      exact (Source.isWord_normalize hword).1
    · intro value hv
      obtain ⟨v, hword, rfl⟩ := hmem value hv
      exact (Source.isWord_normalize hword).2

theorem ofChars_of_isLatin1 {cs : List Char} (h : ∀ c ∈ cs, isLatin1 c = true) :
    ofChars cs = ofWords (Text.words Source.isBlank cs) := by
  have ht : (Text.trim Source.isBlank cs).all isLatin1 = true :=
    List.all_eq_true.2 fun c hc => h c (Text.mem_of_mem_trim hc)
  rw [ofChars, if_pos ht, Text.words_trim]

theorem isSettled_ofChars {cs : List Char} (hs : ∀ c ∈ cs, (c == ';') = false) {name : String}
    {values : List String} (hd : ofChars cs = .directive name values) : IsSettled name values := by
  by_cases hl : (Text.trim Source.isBlank cs).all isLatin1 = true
  · rw [ofChars, if_pos hl] at hd
    refine isSettled_ofWords (fun w hw => ⟨Text.ne_nil_of_mem_words hw, fun c hc => ?_⟩) hd
    have hin := Text.of_mem_splitOnP (List.mem_filter.1 hw).1 c hc
    have hlatin := List.all_eq_true.1 hl c hin.1
    simp [isPlain, hlatin, hin.2, bne, hs c (Text.mem_of_mem_trim hin.1)]
  · simp [ofChars, hl] at hd

/-- The directive that a settled one is read as, once it is written, is itself. -/
theorem ofWords_of_isSettled {name : String} {values : List String} (h : IsSettled name values) :
    ofWords ((name :: values).map String.toList) = .directive name values := by
  have hname : String.ofList (Text.lowerChars name.toList) = name := h.lower_name
  have hvalues : (values.map String.toList).map (fun v => Source.normalize (.ofList v)) = values := by
    rw [List.map_map, List.map_congr_left (g := id), List.map_id]
    intro value hv
    simp [h.normalize_value value hv]
  rw [List.map_cons, ofWords, hname, hvalues, eraseDups_eq_self h.nodup_values]

end Token

namespace Policy

def Settled (p : Policy) : Prop := ∀ d ∈ p.directives, IsSettled d.1 d.2

theorem settled_empty : Settled empty := fun _ hd => absurd hd List.not_mem_nil

theorem Settled.addNew {p : Policy} (h : p.Settled) {name : String} {values : List String}
    (hn : IsSettled name values) : (p.addNew name values).Settled := by
  intro d hd
  rw [directives_addNew] at hd
  split at hd
  · exact h d hd
  · cases List.mem_append.1 hd with
    | inl hd => exact h d hd
    | inr hd =>
      rw [List.mem_singleton.1 hd]
      exact hn

theorem settled_add {text : String} {s : Reading} {t : Token} (h : s.policy.Settled)
    (ht : ∀ name values, t = .directive name values → IsSettled name values) :
    (s.add text t).policy.Settled := by
  cases t with
  | blank => exact h
  | foreign u => exact h
  | directive name values =>
    rw [Reading.add]
    split
    · exact h
    · exact h.addNew (ht name values rfl)

theorem settled_foldl_add {text : String} {ts : List Token} {s : Reading} (h : s.policy.Settled)
    (ht : ∀ t ∈ ts, ∀ name values, t = .directive name values → IsSettled name values) :
    (ts.foldl (Reading.add text) s).policy.Settled := by
  induction ts generalizing s with
  | nil => exact h
  | cons t r ih =>
    exact ih (settled_add h (ht t List.mem_cons_self)) fun u hu => ht u (List.mem_cons_of_mem _ hu)

/-- The reader makes words of names and values, and puts each value once. -/
theorem settled_parse (text : String) : (parse text).Settled := by
  refine settled_foldl_add settled_empty fun t ht name values hd => ?_
  obtain ⟨cs, hcs, rfl⟩ := List.mem_map.1 ht
  exact isSettled_ofChars (fun c hc => (Text.of_mem_splitOnP hcs c hc).2) hd

theorem exists_of_mem_effective {v : Version} {p : Policy} {d : String × List String}
    (h : d ∈ (p.effective v).directives) :
    ∃ vs, (d.1, vs) ∈ p.directives ∧ d.2.Sublist vs := by
  rw [directives_effective, directivesUnder] at h
  obtain ⟨e, he, rfl⟩ := List.mem_map.1 h
  refine ⟨e.2, ?_, ?_⟩
  · have hm := (List.mem_filter.1 he).1
    split
    · exact hm
    · exact hm
  · split
    · exact scriptValuesUnder_sublist v e.2
    · exact .refl _

/-- The resolver only takes away. -/
theorem Settled.effective {p : Policy} (h : p.Settled) (v : Version) :
    (p.effective v).Settled := by
  intro d hd
  obtain ⟨vs, hm, hs⟩ := exists_of_mem_effective hd
  exact (h _ hm).sublist hs

def wordsOf (d : String × List String) : List (List Char) := (d.1 :: d.2).map String.toList

def writtenChars (ds : List (String × List String)) : List Char :=
  ds.flatMap fun d => [' '].intercalate (wordsOf d) ++ [';', ' ']

theorem toList_serialize (p : Policy) : p.serialize.toList = writtenChars p.directives := by
  have hblank : " ".toList = [' '] := rfl
  have hend : "; ".toList = [';', ' '] := rfl
  simp only [serialize, String.toList_join, writtenChars, List.flatMap_map, String.toList_append,
    String.toList_intercalate, hblank, hend, wordsOf]

theorem isWord_wordsOf {d : String × List String} (h : IsSettled d.1 d.2) :
    ∀ w ∈ wordsOf d, IsWord w := by
  intro w hw
  obtain ⟨s, hs, rfl⟩ := List.mem_map.1 hw
  cases hs with
  | head => exact h.isWord_name
  | tail _ hs => exact h.isWord_value s hs

section Written

variable {lead : List Char} (hl : lead = [] ∨ lead = [' '])
include hl

theorem isPlain_of_mem_written {d : String × List String} (h : IsSettled d.1 d.2) {c : Char}
    (hc : c ∈ lead ++ [' '].intercalate (wordsOf d)) : c = ' ' ∨ isPlain c = true := by
  cases List.mem_append.1 hc with
  | inl hc =>
    obtain rfl | rfl := hl
    · exact absurd hc List.not_mem_nil
    · exact .inl (List.mem_singleton.1 hc)
  | inr hc =>
    obtain hc | ⟨w, hw, hc⟩ := Text.mem_intercalate hc
    · exact .inl (List.mem_singleton.1 hc)
    · exact .inr ((isWord_wordsOf h w hw).2 c hc)

/-- All directives but the first have the blank before them that ends the one before. -/
theorem ofChars_written {d : String × List String} (h : IsSettled d.1 d.2) :
    ofChars (lead ++ [' '].intercalate (wordsOf d)) = .directive d.1 d.2 := by
  have hblank : Source.isBlank ' ' = true := by decide
  have hlatin : ∀ c ∈ lead ++ [' '].intercalate (wordsOf d), isLatin1 c = true := by
    intro c hc
    obtain rfl | hc := isPlain_of_mem_written hl h hc
    · decide
    · exact isLatin1_of_isPlain hc
  have hwords : Text.words Source.isBlank (lead ++ [' '].intercalate (wordsOf d)) = wordsOf d := by
    have hd := Text.words_intercalate hblank fun w hw =>
      ⟨(isWord_wordsOf h w hw).1, fun c hc => isBlank_of_isPlain ((isWord_wordsOf h w hw).2 c hc)⟩
    obtain rfl | rfl := hl
    · exact hd
    · exact (Text.words_sep_cons hblank _).trans hd
  rw [ofChars_of_isLatin1 hlatin, hwords, wordsOf, ofWords_of_isSettled h]

theorem ofChars_splitOnP_written {ds : List (String × List String)}
    (h : ∀ d ∈ ds, IsSettled d.1 d.2) :
    ((lead ++ writtenChars ds).splitOnP (· == ';')).map ofChars =
      ds.map (fun d => .directive d.1 d.2) ++ [.blank] := by
  induction ds generalizing lead with
  | nil => obtain rfl | rfl := hl <;> rfl
  | cons d r ih =>
    have hd := h d List.mem_cons_self
    have hsplit : lead ++ writtenChars (d :: r) =
        (lead ++ [' '].intercalate (wordsOf d)) ++ ';' :: ([' '] ++ writtenChars r) := by
      simp [writtenChars]
    have hnone : ∀ c ∈ lead ++ [' '].intercalate (wordsOf d), (c == ';') = false := by
      intro c hc
      obtain rfl | hc := isPlain_of_mem_written hl hd hc
      · decide
      · exact ne_semicolon_of_isPlain hc
    rw [hsplit, List.splitOnP_append_cons_of_forall_mem hnone _ rfl, List.map_cons,
      ofChars_written hl hd, ih (.inr rfl) fun e he => h e (List.mem_cons_of_mem _ he)]
    rfl

end Written

/-- Names that are new each make one directive, in their order. -/
theorem foldl_add_directives (text : String) {ds : List (String × List String)} {s : Reading}
    (hn : (s.policy.names ++ ds.map Prod.fst).Nodup) :
    ((ds.map fun d => Token.directive d.1 d.2).foldl (Reading.add text) s).policy.directives =
      s.policy.directives ++ ds := by
  induction ds generalizing s with
  | nil => simp
  | cons d r ih =>
    have hnew : s.policy.has d.1 = false := by
      have hd := (List.nodup_append.1 hn).2.2
      by_contra hh
      have hm : d.1 ∈ s.policy.names := has_iff.1 (by simpa using hh)
      exact hd d.1 hm d.1 List.mem_cons_self rfl
    have hnames : ((s.policy.addNew d.1 d.2).names ++ r.map Prod.fst).Nodup := by
      simpa [names, directives_addNew, hnew] using hn
    rw [List.map_cons, List.foldl_cons, Reading.add, hnew]
    rw [if_neg (by decide), ih hnames, directives_addNew, hnew]
    simp

/-- The printer writes a settled policy so that it is read back. -/
theorem Settled.parse_serialize {p : Policy} (h : p.Settled) : parse p.serialize = p := by
  have htokens : tokens p.serialize = p.directives.map (fun d => .directive d.1 d.2) ++ [.blank] := by
    rw [tokens, toList_serialize]
    exact ofChars_splitOnP_written (.inl rfl) h
  have hn : (empty.names ++ p.directives.map Prod.fst).Nodup := p.nodup_names
  apply ext
  rw [parse, read, htokens, List.foldl_append]
  exact (foldl_add_directives p.serialize hn).trans (List.nil_append _)

/-- Policies that are read of some text, and what browsers make of them. -/
inductive Readable : Policy → Prop where
  | parsed (text : String) : Readable (parse text)
  | effective {p : Policy} (v : Version) (h : Readable p) : Readable (p.effective v)

theorem Readable.settled {p : Policy} (h : p.Readable) : p.Settled := by
  induction h with
  | parsed text => exact settled_parse text
  | effective v _ ih => exact ih.effective v

/-- One policy by itself is read back whatever commas are in it, and so the text that is written of
it tells it from all others. -/
theorem parse_serialize_of_readable :
    (∀ p : Policy, p.Readable → parse p.serialize = p) ∧
      ∀ p q : Policy, p.Readable → q.Readable → p.serialize = q.serialize → p = q := by
  have hread (p : Policy) (hp : p.Readable) : parse p.serialize = p := hp.settled.parse_serialize
  refine ⟨hread, fun p q hp hq h => ?_⟩
  calc
    p = parse p.serialize := (hread p hp).symm
    _ = parse q.serialize := by rw [h]
    _ = q := hread q hq

def emptiedExample : Policy :=
  (parse "SCRIPT-SRC 'nonce-a,' 'Strict-Dynamic';a,b C, 'SELF';sandbox").effective .csp1

theorem parse_serialize_emptiedExample :
    emptiedExample.directives = [("script-src", []), ("a,b", ["C,", "'self'"]), ("sandbox", [])] ∧
      parse emptiedExample.serialize = emptiedExample ∧
      emptiedExample = parse "script-src;A,B C, 'self' C,;; sandbox" := by
  have he : emptiedExample.Readable := .effective .csp1 (.parsed _)
  have hd : emptiedExample.directives =
      [("script-src", []), ("a,b", ["C,", "'self'"]), ("sandbox", [])] := by decide +kernel
  have hs : emptiedExample.serialize = (parse "script-src;A,B C, 'self' C,;; sandbox").serialize := by
    decide +kernel
  exact ⟨hd, parse_serialize_of_readable.1 _ he,
    parse_serialize_of_readable.2 _ _ he (.parsed _) hs⟩

end Policy

namespace Collection

/-- Policies that are read, and what any browser goes by of them, name each directive once and are
settled. Nothing more can be relied on: every settled policy is read of some text. -/
theorem settled_of_read :
    (∀ headers, ∀ p, p ∈ parse headers ∨ (∃ v, p ∈ (parse headers).effective v) →
      (p.directives.map Prod.fst).Nodup ∧ ∀ d ∈ p.directives, IsSettled d.1 d.2) ∧
    ∀ p : Policy, (∃ text, Policy.parse text = p) ↔ ∀ d ∈ p.directives, IsSettled d.1 d.2 := by
  constructor
  · intro headers p hp
    refine ⟨p.nodup_names, ?_⟩
    obtain hp | ⟨v, hp⟩ := hp
    · obtain ⟨text, -, rfl⟩ := List.mem_map.1 hp
      exact Policy.settled_parse text
    · obtain ⟨q, hq, rfl⟩ := List.mem_map.1 hp
      obtain ⟨text, -, rfl⟩ := List.mem_map.1 hq
      exact (Policy.settled_parse text).effective v
  · intro p
    constructor
    · rintro ⟨text, rfl⟩
      exact Policy.settled_parse text
    · intro hp
      exact ⟨p.serialize, Policy.Settled.parse_serialize hp⟩

def untidyHeader : String :=
  "SCRIPT-SRC\t'Unsafe-Inline' HTTPS:\xa0https: 'nonce-Ab\xc4' Cdn.Example,;script-src *;img-src \u0100"

theorem settled_of_read_untidyHeader :
    ∃ p ∈ (parse [untidyHeader]).effective .csp2,
      p.directives = [("script-src", ["https:", "'nonce-Ab\xc4'", "Cdn.Example,"])] ∧
        (p.directives.map Prod.fst).Nodup ∧ ∀ d ∈ p.directives, IsSettled d.1 d.2 := by
  have hread : ∃ p ∈ (parse [untidyHeader]).effective .csp2,
      p.directives = [("script-src", ["https:", "'nonce-Ab\xc4'", "Cdn.Example,"])] := by
    decide +kernel
  obtain ⟨p, hp, hd⟩ := hread
  exact ⟨p, hp, hd, settled_of_read.1 [untidyHeader] p (.inr ⟨.csp2, hp⟩)⟩

end Collection

end ContentPolicy
