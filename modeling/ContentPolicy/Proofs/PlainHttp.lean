import ContentPolicy.Check.Weakness
import ContentPolicy.Proofs.EachValue
import ContentPolicy.Proofs.Kinds
import ContentPolicy.Proofs.Normalization
import ContentPolicy.Proofs.Spelling

/-!
Sources that are fetched in the clear. The reader leaves a scheme as it is spelled, and only small
letters are looked for.
-/

namespace ContentPolicy

namespace Source

theorem isSchemeTail_of_sameButCase {scheme scheme' : List Char}
    (h : Text.SameButCase scheme scheme') (hs : ∀ c ∈ scheme, isSchemeTail c = true) :
    ∀ c ∈ scheme', isSchemeTail c = true := by
  have hsmall (cs : List Char) : (Text.small cs).all isSchemeTail = cs.all isSchemeTail := by
    simp only [Text.small, List.all_map, Function.comp_def, isSchemeTail_toLower]
  rw [← List.all_eq_true] at hs ⊢
  rw [← h.eq (f := (List.all · isSchemeTail)) hsmall]
  exact hs

end Source

/-- A source in a row of headers. There are other policy texts around its own, other tokens around
its own, and other words around it, the first of which is the name of the directive. -/
structure SourcePlace where
  earlier : List String
  later : List String
  before : List Spelling
  after : List Spelling
  name : List Char
  front : List (List Char)
  back : List (List Char)
  rest : List Char

namespace SourcePlace

def source (s : SourcePlace) (scheme : List Char) : List Char :=
  scheme ++ ':' :: '/' :: '/' :: s.rest

def IsIn (s : SourcePlace) (scheme : List Char) (headers : List String) : Prop :=
  ∃ token : Spelling, token.words = s.name :: (s.front ++ s.source scheme :: s.back) ∧
    Collection.texts headers = s.earlier ++ Policy.spell (s.before ++ token :: s.after) :: s.later

def others (s : SourcePlace) : List String :=
  s.front.map (fun w => Source.normalize (.ofList w)) ++
    s.back.map fun w => Source.normalize (.ofList w)

def listed (s : SourcePlace) (scheme : List Char) : List String :=
  s.front.map (fun w => Source.normalize (.ofList w)) ++ .ofList (s.source scheme) ::
    s.back.map fun w => Source.normalize (.ofList w)

def directiveName (s : SourcePlace) : String := Text.lower (.ofList s.name)

def IsRead (s : SourcePlace) : Prop :=
  (s.name :: s.rest :: (s.front ++ s.back)).all (·.all Token.isLatin1) = true

def IsFirst (s : SourcePlace) : Prop :=
  s.directiveName ∉ (s.before.filterMap Spelling.mention?).map Prod.fst

def IsListedTwice (s : SourcePlace) : Prop := .ofList (s.source "http".toList) ∈ s.others

/-- The check sees the source if its scheme is `http` in small letters, and sees no other in place
of it. -/
def Counts (s : SourcePlace) : Prop := s.IsRead ∧ s.IsFirst ∧ ¬ s.IsListedTwice

section Decidable

variable (s : SourcePlace)

instance : Decidable s.IsRead :=
  inferInstanceAs (Decidable ((s.name :: s.rest :: (s.front ++ s.back)).all
    (·.all Token.isLatin1) = true))

instance : Decidable s.IsFirst :=
  inferInstanceAs (Decidable
    (s.directiveName ∉ (s.before.filterMap Spelling.mention?).map Prod.fst))

instance : Decidable s.IsListedTwice :=
  inferInstanceAs (Decidable (.ofList (s.source "http".toList) ∈ s.others))

instance : Decidable s.Counts :=
  inferInstanceAs (Decidable (s.IsRead ∧ s.IsFirst ∧ ¬ s.IsListedTwice))

end Decidable

end SourcePlace

namespace Check

theorem saysHttp_iff {value : String} :
    saysHttp value = true ↔ ∃ rest : String, value = "http://" ++ rest := by
  rw [saysHttp, List.isPrefixOf_iff_prefix]
  constructor
  · rintro ⟨t, ht⟩
    refine ⟨.ofList t, String.toList_inj.1 ?_⟩
    exact ht.symm.trans (by simp)
  · rintro ⟨rest, rfl⟩
    exact ⟨rest.toList, String.toList_append.symm⟩

theorem concerns_httpFindings (name value : String) :
    ∀ f ∈ httpFindings name value, Concerns name value f := by
  intro f hf
  unfold httpFindings at hf
  split at hf
  case isTrue => exact List.mem_singleton.1 hf ▸ ⟨rfl, rfl⟩
  case isFalse => cases hf

theorem mem_srcHttp_iff {p : Policy} {name value : String} :
    (∃ f ∈ srcHttp p, f.directive = name ∧ f.value = some value) ↔
      value ∈ p.values name ∧ ∃ rest : String, value = "http://" ++ rest := by
  rw [srcHttp, exists_mem_eachValue_iff concerns_httpFindings, ← saysHttp_iff, httpFindings]
  cases saysHttp value <;> simp

def httpCount (ds : List (String × List String)) : Nat := (ds.flatMap Prod.snd).countP saysHttp

theorem httpCount_append (ds es : List (String × List String)) :
    httpCount (ds ++ es) = httpCount ds + httpCount es := by
  rw [httpCount, List.flatMap_append, List.countP_append, httpCount, httpCount]

theorem httpCount_singleton (name : String) (vs : List String) :
    httpCount [(name, vs)] = vs.countP saysHttp := by
  rw [httpCount, List.flatMap_singleton]

theorem length_flatMap_httpFindings (name : String) (vs : List String) :
    (vs.flatMap (httpFindings name)).length = vs.countP saysHttp := by
  have hone (value : String) :
      (httpFindings name value).length = if saysHttp value then 1 else 0 := by
    rw [httpFindings]
    split <;> rfl
  induction vs with
  | nil => rfl
  | cons v r ih =>
    rw [List.flatMap_cons, List.length_append, ih, List.countP_cons, Nat.add_comm, hone]

theorem length_srcHttp (p : Policy) : (srcHttp p).length = httpCount p.directives := by
  rw [srcHttp, eachValue]
  induction p.directives with
  | nil => rfl
  | cons d r ih =>
    have hcons : d :: r = [d] ++ r := rfl
    rw [List.flatMap_cons, List.length_append, length_flatMap_httpFindings, ih, hcons,
      httpCount_append, httpCount_singleton]

theorem severity_of_mem_srcHttp {p : Policy} {f : Finding} (h : f ∈ srcHttp p) :
    f.severity = .medium := by
  have hkind := List.mem_singleton.1 (tells_srcHttp p f h)
  exact congrArg Prod.snd hkind

end Check

namespace SourcePlace

/-- Every source that is read has its place, wherever it stands in the headers. -/
theorem exists_isIn {headers : List String} {p : Policy} (hp : p ∈ Collection.parse headers)
    {name value : String} (hv : value ∈ p.values name) {scheme rest : List Char}
    (h : value.toList = scheme ++ ':' :: '/' :: '/' :: rest) :
    ∃ s : SourcePlace, s.IsIn scheme headers ∧ s.directiveName = name ∧
      .ofList (s.source scheme) = value := by
  obtain ⟨text, htext, rfl⟩ := List.mem_map.1 hp
  obtain ⟨earlier, later, htexts⟩ := List.append_of_mem htext
  obtain ⟨ss, rfl⟩ := Policy.exists_spell text
  obtain ⟨token, htoken, -, w, ws, v, hwords, hname, hvw, hnormal⟩ :=
    Policy.exists_word_of_mem_values hv
  obtain ⟨before, after, rfl⟩ := List.append_of_mem htoken
  obtain ⟨front, back, rfl⟩ := List.append_of_mem hvw
  have hin : v ∈ token.words := by simp [hwords]
  have hslash : '/' ∈ v := by
    refine Source.slash_mem_of_normalize ?_
    simp [hnormal, h]
  have hvalue : .ofList v = value := by
    rw [← hnormal, Source.normalize_eq_self _ hslash]
    exact fun c hc => ((token.spells.isSpelledWord v hin).2 c hc).1
  have hsource : v = scheme ++ ':' :: '/' :: '/' :: rest := by
    rw [← h, ← hvalue, String.toList_ofList]
  refine ⟨⟨earlier, later, before, after, w, front, back, rest⟩, ⟨token, ?_, htexts⟩, hname, ?_⟩
  · rw [hwords, source, ← hsource]
  · rw [source, ← hsource, hvalue]

section Scheme

variable (s : SourcePlace) {scheme : List Char} (hs : ∀ c ∈ scheme, Source.isSchemeTail c = true)
include hs

/-- The colon is the first character that is none of a scheme. -/
theorem saysHttp_source :
    Check.saysHttp (.ofList (s.source scheme)) = true ↔ scheme = "http".toList := by
  have htake {cs : List Char} (r : List Char) (hcs : ∀ c ∈ cs, Source.isSchemeTail c = true) :
      (cs ++ ':' :: r).takeWhile Source.isSchemeTail = cs := by
    rw [List.takeWhile_append_of_pos hcs, List.takeWhile_cons_of_neg (by decide), List.append_nil]
  rw [Check.saysHttp, String.toList_ofList, List.isPrefixOf_iff_prefix]
  constructor
  · rintro ⟨t, ht⟩
    have hsource : "http".toList ++ ':' :: '/' :: '/' :: t = s.source scheme := by
      rw [String.toList_ofList] at ht ⊢
      exact ht
    calc
      scheme = (s.source scheme).takeWhile Source.isSchemeTail := (htake _ hs).symm
      _ = ("http".toList ++ ':' :: '/' :: '/' :: t).takeWhile Source.isSchemeTail := by rw [hsource]
      _ = "http".toList := htake _ (List.all_eq_true.1 (by decide))
  · rintro rfl
    exact ⟨s.rest, by simp [source]⟩

variable {token : Spelling}
  (htoken : token.words = s.name :: (s.front ++ s.source scheme :: s.back))
include htoken

theorem all_isLatin1_iff : (∀ c ∈ token.text, Token.isLatin1 c = true) ↔ s.IsRead := by
  have hscheme : ∀ c ∈ scheme, Token.isLatin1 c = true := fun c hc =>
    Source.isLatin1_of_isSchemeTail (hs c hc)
  have hmarks : Token.isLatin1 ':' = true ∧ Token.isLatin1 '/' = true := by decide
  have hsource : (∀ c ∈ s.source scheme, Token.isLatin1 c = true) ↔
      ∀ c ∈ s.rest, Token.isLatin1 c = true := by
    simp only [source, List.forall_mem_append, List.forall_mem_cons, hmarks, true_and]
    exact and_iff_right hscheme
  rw [token.spells.all_isLatin1_iff, htoken, IsRead]
  simp only [List.all_eq_true, List.forall_mem_cons, List.forall_mem_append, hsource]
  tauto

omit hs in
theorem normalize_source :
    Source.normalize (.ofList (s.source scheme)) = .ofList (s.source scheme) := by
  have hmem : s.source scheme ∈ token.words := by simp [htoken]
  refine Source.normalize_eq_self (fun c hc => ?_) (by simp [source])
  exact ((token.spells.isSpelledWord _ hmem).2 c hc).1

theorem mention?_eq_some (h : s.IsRead) :
    token.mention? = some (s.directiveName, (s.listed scheme).eraseDups) := by
  have hread : (token.text.all fun c => c.toNat ≤ 0xff) = true :=
    List.all_eq_true.2 ((all_isLatin1_iff s hs htoken).2 h)
  rw [Spelling.mention?, if_pos hread, htoken]
  simp only [List.map_append, List.map_cons, normalize_source s htoken]
  rfl

theorem mention?_eq_none (h : ¬ s.IsRead) : token.mention? = none := by
  refine if_neg fun hread => h ?_
  exact (all_isLatin1_iff s hs htoken).1 (List.all_eq_true.1 hread)

end Scheme

/-- Of the values of the token that say `http`, the source is one more only if its scheme is
`http` in small letters and it is not there twice. -/
theorem countP_listed (s : SourcePlace) {scheme : List Char}
    (hs : ∀ c ∈ scheme, Source.isSchemeTail c = true) :
    (s.listed scheme).eraseDups.countP Check.saysHttp =
      s.others.eraseDups.countP Check.saysHttp +
        if ¬ s.IsListedTwice ∧ scheme = "http".toList then 1 else 0 := by
  have hcond : Check.saysHttp (.ofList (s.source scheme)) = true ∧
      .ofList (s.source scheme) ∉ s.others ↔ ¬ s.IsListedTwice ∧ scheme = "http".toList := by
    rw [saysHttp_source s hs]
    constructor
    · rintro ⟨rfl, h⟩
      exact ⟨h, rfl⟩
    · rintro ⟨h, rfl⟩
      exact ⟨rfl, h⟩
  rw [listed, countP_eraseDups_insert, ← others, if_congr hcond rfl rfl]

theorem directives_parse_spell (s : SourcePlace) (token : Spelling) :
    (Policy.parse (Policy.spell (s.before ++ token :: s.after))).directives =
      Mention.firsts (s.before.filterMap Spelling.mention? ++
        (token.mention?.toList ++ s.after.filterMap Spelling.mention?)) := by
  rw [Policy.directives_parse, Policy.mentions_spell, List.filterMap_append, List.filterMap_cons]
  cases token.mention? <;> rfl

/-- How many sources the check tells of depends on the scheme of this one only if it counts, and
then only on whether the scheme is `http` in small letters. -/
theorem exists_length_token (s : SourcePlace) :
    ∃ n, ∀ (scheme : List Char) (token : Spelling), (∀ c ∈ scheme, Source.isSchemeTail c = true) →
      token.words = s.name :: (s.front ++ s.source scheme :: s.back) →
      (Check.srcHttp (.parse (Policy.spell (s.before ++ token :: s.after)))).length =
        n + if s.Counts ∧ scheme = "http".toList then 1 else 0 := by
  by_cases hread : s.IsRead
  · obtain ⟨l, r, hfirsts⟩ := Mention.firsts_insert (s.before.filterMap Spelling.mention?)
      (s.after.filterMap Spelling.mention?) s.directiveName
    refine ⟨Check.httpCount l +
      (if s.IsFirst then s.others.eraseDups.countP Check.saysHttp else 0) + Check.httpCount r, ?_⟩
    intro scheme token hs htoken
    rw [Check.length_srcHttp, directives_parse_spell, mention?_eq_some s hs htoken hread,
      Option.toList_some, List.singleton_append, hfirsts, Check.httpCount_append,
      Check.httpCount_append]
    by_cases hfirst : s.IsFirst
    · rw [if_neg hfirst, if_pos hfirst, Check.httpCount_singleton, countP_listed s hs]
      simp only [Counts, hread, hfirst, true_and]
      omega
    · rw [if_pos (not_not.1 hfirst), if_neg hfirst, if_neg fun h => hfirst h.1.2.1]
      rfl
  · refine ⟨Check.httpCount (Mention.firsts (s.before.filterMap Spelling.mention? ++
      s.after.filterMap Spelling.mention?)), ?_⟩
    intro scheme token hs htoken
    rw [Check.length_srcHttp, directives_parse_spell, mention?_eq_none s hs htoken hread,
      if_neg fun h => hread h.1.1]
    rfl

theorem exists_length_srcHttp (s : SourcePlace) :
    ∃ n, ∀ (scheme : List Char) (headers : List String),
      (∀ c ∈ scheme, Source.isSchemeTail c = true) → s.IsIn scheme headers →
      ((Collection.parse headers).flatMap Check.srcHttp).length =
        n + if s.Counts ∧ scheme = "http".toList then 1 else 0 := by
  obtain ⟨n, hn⟩ := s.exists_length_token
  refine ⟨((s.earlier.map Policy.parse).flatMap Check.srcHttp).length + n +
    ((s.later.map Policy.parse).flatMap Check.srcHttp).length, ?_⟩
  rintro scheme headers hs ⟨token, htoken, hheaders⟩
  rw [Collection.parse, hheaders, List.map_append, List.map_cons, List.flatMap_append,
    List.flatMap_cons, List.length_append, List.length_append, hn scheme token hs htoken]
  omega

end SourcePlace

namespace Check

def IsPlainHttp (value : String) : Prop :=
  ∃ scheme rest : String, Text.SameButCase scheme.toList "http".toList ∧
    value = scheme ++ "://" ++ rest

theorem isPlainHttp_of_saysHttp {value : String} (h : saysHttp value = true) :
    IsPlainHttp value := by
  obtain ⟨rest, rfl⟩ := saysHttp_iff.1 h
  exact ⟨"http", rest, rfl, by rw [String.append_assoc]; rfl⟩

/-- The sources in the clear are those that are told of if they all are in small letters. -/
theorem tells_plainHttp_iff {p : Policy} :
    (∀ name value : String, (∃ f ∈ srcHttp p, f.directive = name ∧ f.value = some value) ↔
        value ∈ p.values name ∧ IsPlainHttp value) ↔
      ∀ name, ∀ value ∈ p.values name, IsPlainHttp value →
        ∃ rest : String, value = "http://" ++ rest := by
  simp only [mem_srcHttp_iff]
  constructor
  · intro hall name value hv hplain
    exact ((hall name value).2 ⟨hv, hplain⟩).2
  · intro hsmall name value
    refine and_congr_right fun hv => ⟨fun h => ?_, hsmall name value hv⟩
    exact isPlainHttp_of_saysHttp (saysHttp_iff.2 h)

/-- The check tells of the values with the scheme `http` in small letters, each of one severity. So
it tells of all sources in the clear unless one has a capital in its scheme. To spell a scheme in
another case leaves the number of findings as it is, unless the source counts and just one of the
spellings is `http` in small letters. Every source that is read has a place to be spelled at. -/
theorem srcHttp_letterCase (headers : List String) :
    (∀ p ∈ Collection.parse headers,
      (∀ f ∈ srcHttp p, f.severity = .medium) ∧
      (∀ name value : String, (∃ f ∈ srcHttp p, f.directive = name ∧ f.value = some value) ↔
        value ∈ p.values name ∧ ∃ rest : String, value = "http://" ++ rest) ∧
      ((∀ name value : String, (∃ f ∈ srcHttp p, f.directive = name ∧ f.value = some value) ↔
          value ∈ p.values name ∧ IsPlainHttp value) ↔
        ∀ name, ∀ value ∈ p.values name, IsPlainHttp value →
          ∃ rest : String, value = "http://" ++ rest)) ∧
    (∀ (s : SourcePlace) (scheme scheme' : List Char) (headers' : List String),
      (∀ c ∈ scheme, Source.isSchemeTail c = true) → Text.SameButCase scheme scheme' →
      s.IsIn scheme headers → s.IsIn scheme' headers' →
      (((Collection.parse headers).flatMap srcHttp).length =
          ((Collection.parse headers').flatMap srcHttp).length ↔
        (s.Counts → (scheme = "http".toList ↔ scheme' = "http".toList)))) ∧
    ∀ p ∈ Collection.parse headers, ∀ name, ∀ value ∈ p.values name, ∀ scheme rest : List Char,
      value.toList = scheme ++ ':' :: '/' :: '/' :: rest →
      ∃ s : SourcePlace, s.IsIn scheme headers ∧ s.directiveName = name ∧
        .ofList (s.source scheme) = value := by
  refine ⟨?_, ?_, fun p hp name value hv scheme rest h => SourcePlace.exists_isIn hp hv h⟩
  · intro p _
    exact ⟨fun f => severity_of_mem_srcHttp, fun _ _ => mem_srcHttp_iff, tells_plainHttp_iff⟩
  · intro s scheme scheme' headers' hs hsame hin hin'
    obtain ⟨n, hn⟩ := s.exists_length_srcHttp
    have hone (a b : Prop) [Decidable a] [Decidable b] :
        (n + if a then 1 else 0) = (n + if b then 1 else 0) ↔ (a ↔ b) := by
      by_cases ha : a <;> by_cases hb : b <;> simp [ha, hb]
    rw [hn scheme headers hs hin,
      hn scheme' headers' (Source.isSchemeTail_of_sameButCase hsame hs) hin', hone]
    tauto

def twiceExample : SourcePlace where
  earlier := []
  later := ["object-src *"]
  before := []
  after := []
  name := "img-src".toList
  front := ["http://a.b".toList]
  back := []
  rest := "a.b".toList

theorem isIn_twiceExample {scheme : List Char} {headers : List String}
    (hw : Token.IsSpelledWord (twiceExample.source scheme))
    (h : Collection.texts headers = [.ofList ("img-src".toList ++ ' ' ::
      ("http://a.b".toList ++ ' ' :: twiceExample.source scheme)), "object-src *"]) :
    twiceExample.IsIn scheme headers := by
  have hname : Token.IsSpelledWord "img-src".toList := by decide
  have hother : Token.IsSpelledWord "http://a.b".toList := by decide
  have hblank : Source.isBlank ' ' = true := by decide
  have hwords := Token.Spells.word hname hblank (.word hother hblank (.lastWord hw))
  refine ⟨⟨_, _, hwords⟩, rfl, h.trans ?_⟩
  simp only [Policy.spell, twiceExample, List.nil_append, List.map_cons, List.map_nil,
    List.intercalate_singleton]

theorem srcHttp_letterCase_twiceExample :
    ((Collection.parse ["img-src http://a.b HTTP://a.b, object-src *"]).flatMap srcHttp).length =
      ((Collection.parse ["img-src http://a.b http://a.b, object-src *"]).flatMap srcHttp).length := by
  have hin : twiceExample.IsIn "HTTP".toList ["img-src http://a.b HTTP://a.b, object-src *"] :=
    isIn_twiceExample (by decide) (by decide +kernel)
  have hin' : twiceExample.IsIn "http".toList ["img-src http://a.b http://a.b, object-src *"] :=
    isIn_twiceExample (by decide) (by decide +kernel)
  have hcounts : ¬ twiceExample.Counts := by decide +kernel
  have hscheme : ∀ c ∈ "HTTP".toList, Source.isSchemeTail c = true :=
    List.all_eq_true.1 (by decide)
  exact ((srcHttp_letterCase _).2.1 twiceExample _ _ _ hscheme (by decide) hin hin').2
    fun h => absurd h hcounts

/-- A scheme in capitals is one of a source in the clear, and nothing is told of it. -/
theorem capitals_overlooked :
    (Policy.parse "img-src HTTP://a.b").values "img-src" = ["HTTP://a.b"] ∧
      IsPlainHttp "HTTP://a.b" ∧ srcHttp (.parse "img-src HTTP://a.b") = [] ∧
      (srcHttp (.parse "img-src http://a.b")).length = 1 :=
  ⟨by decide +kernel, ⟨"HTTP", "a.b", by decide, by decide⟩, by decide +kernel, by decide +kernel⟩

end Check

end ContentPolicy
