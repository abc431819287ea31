import ContentPolicy.Proofs.Words

/-!
What is read of a policy text is the row of its mentions, with each name kept where it comes first.
-/

namespace ContentPolicy

abbrev Mention := String × List String

namespace Mention

def firsts (ms : List Mention) : List Mention := ms.eraseDupsBy fun d e => d.1 == e.1

/-- The tail without the namesakes of the head is what `firsts` goes on with. -/
theorem namesake_induction {motive : List Mention → Prop} (nil : motive [])
    (cons : ∀ d r, motive (r.filter (·.1 != d.1)) → motive (d :: r)) (ms : List Mention) :
    motive ms := filterTail_induction (fun d e => e.1 != d.1) nil cons ms

theorem firsts_cons (d : Mention) (r : List Mention) :
    firsts (d :: r) = d :: firsts (r.filter (·.1 != d.1)) := by
  rw [firsts, List.eraseDupsBy_cons, firsts]
  simp only [bne, Bool.decide_eq_false]

theorem names_firsts (ms : List Mention) :
    (firsts ms).map Prod.fst = (ms.map Prod.fst).eraseDups := by
  induction ms using namesake_induction with
  | nil => rfl
  | cons d r ih =>
    rw [firsts_cons, List.map_cons, List.map_cons, List.eraseDups_cons, ih, List.filter_map]
    rfl

theorem lookup_filter_ne {ms : List Mention} {name other : String} (h : name ≠ other) :
    (ms.filter (·.1 != other)).lookup name = ms.lookup name := by
  induction ms with
  | nil => rfl
  | cons d r ih =>
    by_cases hd : d.1 = other
    · have hne : (name == d.1) = false := by simpa [hd] using h
      rw [List.filter_cons_of_neg (by simp [hd]), List.lookup_cons, hne, ih]
    · rw [List.filter_cons_of_pos (by simp [hd]), List.lookup_cons, List.lookup_cons, ih]

theorem lookup_firsts (name : String) (ms : List Mention) :
    (firsts ms).lookup name = ms.lookup name := by
  induction ms using namesake_induction with
  | nil => rfl
  | cons d r ih =>
    rw [firsts_cons, List.lookup_cons, List.lookup_cons, ih]
    by_cases hd : name = d.1
    · simp [hd]
    · rw [lookup_filter_ne hd]

/-- To choose among the names and to keep the first mentions are done in any order. -/
theorem firsts_filter (keeps : String → Bool) (ms : List Mention) :
    firsts (ms.filter (keeps ·.1)) = (firsts ms).filter (keeps ·.1) := by
  induction ms using namesake_induction with
  | nil => rfl
  | cons d r ih =>
    rw [firsts_cons]
    cases hd : keeps d.1 with
    | true =>
      have hpos (l : List Mention) : (d :: l).filter (keeps ·.1) = d :: l.filter (keeps ·.1) :=
        List.filter_cons_of_pos hd
      rw [hpos, hpos, firsts_cons, ← ih, List.filter_comm]
    | false =>
      have hgone : (r.filter (·.1 != d.1)).filter (keeps ·.1) = r.filter (keeps ·.1) := by
        rw [List.filter_filter]
        refine List.filter_congr fun e _ => ?_
        by_cases he : e.1 = d.1
        · simp [he, hd]
        · simp [he]
      rw [List.filter_cons_of_neg (by simp [hd]), List.filter_cons_of_neg (by simp [hd]), ← ih,
        hgone]

/-- What comes later counts only under names that did not come before. -/
theorem firsts_append (before after : List Mention) :
    firsts (before ++ after) =
      firsts before ++ (firsts after).filter fun d => !(before.map Prod.fst).contains d.1 := by
  induction before using namesake_induction generalizing after with
  | nil => simp [firsts]
  | cons d r ih =>
    have hnames : ∀ e : Mention, (!((r.filter (·.1 != d.1)).map Prod.fst).contains e.1 &&
        e.1 != d.1) = !((d :: r).map Prod.fst).contains e.1 := by
      intro e
      have hr : (r.filter (·.1 != d.1)).map Prod.fst = (r.map Prod.fst).filter (· != d.1) := by
        rw [List.filter_map]
        rfl
      rw [hr, List.map_cons]
      generalize r.map Prod.fst = ns
      by_cases hm : e.1 ∈ ns <;> by_cases he : e.1 = d.1 <;> simp [hm, he]
    rw [List.cons_append, firsts_cons, firsts_cons, List.filter_append, ih,
      firsts_filter (· != d.1) after, List.filter_filter]
    simp only [hnames, List.cons_append]

/-- A mention is kept or not by its name, and the others are kept whatever its values are. -/
theorem firsts_insert (before after : List Mention) (name : String) :
    ∃ l r, ∀ vs, firsts (before ++ (name, vs) :: after) =
      l ++ (if name ∈ before.map Prod.fst then [] else [(name, vs)]) ++ r := by
  refine ⟨firsts before, (firsts (after.filter (·.1 != name))).filter fun d =>
    !(before.map Prod.fst).contains d.1, fun vs => ?_⟩
  rw [firsts_append, firsts_cons, List.filter_cons, List.append_assoc]
  by_cases h : name ∈ before.map Prod.fst
  · rw [if_pos h, if_neg (by simpa using h)]
    rfl
  · rw [if_neg h, if_pos (by simpa using h)]
    rfl

end Mention

def Token.mention? : Token → Option Mention
  | .directive name values => some (name, values)
  | .blank | .foreign _ => none

namespace Policy

def mentions (text : String) : List Mention := (tokens text).filterMap Token.mention?

theorem has_addNew (p : Policy) (name : String) (values : List String) (n : String) :
    (p.addNew name values).has n = (p.has n || n == name) := by
  rw [Bool.eq_iff_iff, has_iff, names, directives_addNew]
  cases h : p.has name with
  | true =>
    have hn : n = name → p.has n = true := by
      rintro rfl
      exact h
    simpa [has, names] using hn
  | false => simp [has, names]

theorem directives_foldl_add (text : String) (ts : List Token) (s : Reading) :
    (ts.foldl (Reading.add text) s).policy.directives = s.policy.directives ++
      Mention.firsts ((ts.filterMap Token.mention?).filter (!s.policy.has ·.1)) := by
  -- The policy that the tokens find grows by each new name, and from then on that name is old.
  induction ts generalizing s with
  | nil => exact (List.append_nil _).symm
  | cons t r ih =>
    cases t with
    | blank => exact ih s
    | foreign u => exact ih _
    | directive name values =>
      have hm : Token.mention? (.directive name values) = some (name, values) := rfl
      rw [List.foldl_cons, ih, Reading.add, List.filterMap_cons_some hm]
      cases hn : s.policy.has name with
      | true => rw [if_pos rfl, List.filter_cons_of_neg (by simp [hn])]
      | false =>
        have hnew : ∀ d : Mention, (!(s.policy.addNew name values).has d.1) =
            (d.1 != name && !s.policy.has d.1) := by
          intro d
          rw [has_addNew, Bool.not_or, Bool.and_comm]
          rfl
        rw [if_neg (by decide), List.filter_cons_of_pos (by simp [hn]), Mention.firsts_cons,
          List.filter_filter, directives_addNew, hn, if_neg (by decide)]
        simp only [hnew, List.append_assoc, List.singleton_append]

theorem directives_parse (text : String) :
    (parse text).directives = Mention.firsts (mentions text) := by
  have h := directives_foldl_add text (tokens text) ⟨empty, []⟩
  rw [parse, read, h]
  simp [empty, has, names, mentions]

theorem mentions_append (s t : String) : mentions (s ++ ";" ++ t) = mentions s ++ mentions t := by
  have hsemicolon : ";".toList = [';'] := rfl
  rw [mentions, tokens, String.toList_append, String.toList_append, hsemicolon, List.append_assoc,
    List.singleton_append, List.splitOnP_append_cons _ _ (by decide), List.map_append,
    List.filterMap_append]
  rfl

theorem has_parse (text name : String) :
    (parse text).has name = ((mentions text).map Prod.fst).contains name := by
  rw [Bool.eq_iff_iff, has_iff, names, directives_parse, Mention.names_firsts, List.mem_eraseDups,
    List.contains_iff_mem]

/-- Text behind a policy text leaves all its directives as they are, and adds behind them those of
its own that have new names. -/
theorem directives_parse_append (s t : String) :
    (parse (s ++ ";" ++ t)).directives =
      (parse s).directives ++ (parse t).directives.filter fun d => !(parse s).has d.1 := by
  have hhas : (fun d : Mention => !(parse s).has d.1) =
      fun d => !((mentions s).map Prod.fst).contains d.1 := by
    funext d
    rw [has_parse]
  rw [hhas, directives_parse, directives_parse, directives_parse, mentions_append,
    Mention.firsts_append]

example : (parse ("img-src a" ++ ";" ++ "font-src b;IMG-SRC *")).directives =
    [("img-src", ["a"]), ("font-src", ["b"])] := by decide +kernel

end Policy

end ContentPolicy
