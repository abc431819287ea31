import ContentPolicy.Policy.Parser
import Mathlib.Algebra.GroupWithZero.Nat
import Mathlib.Data.List.Basic

/-!
How headers are cut into the texts of policies: at each comma with a blank behind it.
-/

namespace ContentPolicy

namespace Collection

theorem splitAtCommas_ne_nil (cs : List Char) : splitAtCommas cs ≠ [] := by
  induction cs using splitAtCommas.induct with
  | case1 => simp [splitAtCommas]
  | case2 r ih => simp [splitAtCommas]
  | case3 c r hc ih =>
    rw [splitAtCommas.eq_3 c r hc]
    cases hs : splitAtCommas r with
    | nil => exact absurd hs ih
    | cons a l => simp

theorem splitAtCommas_cons {c : Char} {r : List Char} (h : c = ',' → r.head? ≠ some ' ') :
    splitAtCommas (c :: r) = (splitAtCommas r).modifyHead (c :: ·) := by
  refine splitAtCommas.eq_3 c r fun u hc hr => ?_
  exact h hc (by simp [hr])

/-- A cut does not depend on what is around it. -/
theorem splitAtCommas_append (cs r : List Char) :
    splitAtCommas (cs ++ ',' :: ' ' :: r) = splitAtCommas cs ++ splitAtCommas r := by
  induction cs using splitAtCommas.induct with
  | case1 => rfl
  | case2 u ih => simp [splitAtCommas, ih]
  | case3 c u hc ih =>
    have hu : c = ',' → (u ++ ',' :: ' ' :: r).head? ≠ some ' ' := by
      intro he
      cases u with
      | nil => simp
      | cons a v =>
        intro ha
        have ha : a = ' ' := by simpa using ha
        exact hc v he (by rw [ha])
    rw [List.cons_append, splitAtCommas_cons hu, ih, splitAtCommas.eq_3 c u hc]
    cases hs : splitAtCommas u with
    | nil => exact absurd hs (splitAtCommas_ne_nil u)
    | cons a l => rfl

/-- With a comma and a blank between them, headers are cut as they are cut one by one. -/
theorem splitAtCommas_intercalate {ts : List (List Char)} (h : ts ≠ []) :
    splitAtCommas ([',', ' '].intercalate ts) = ts.flatMap splitAtCommas := by
  induction ts with
  | nil => exact absurd rfl h
  | cons t r ih =>
    cases r with
    | nil => simp
    | cons u us =>
      have hstep : [',', ' '].intercalate (t :: u :: us) =
          t ++ ',' :: ' ' :: [',', ' '].intercalate (u :: us) := by
        simp [List.intercalate_cons_cons]
      rw [hstep, splitAtCommas_append, ih (List.cons_ne_nil u us)]
      rfl

def countCommaBlanks (cs : List Char) : Nat := cs.tails.countP [',', ' '].isPrefixOf

theorem countCommaBlanks_cons (c : Char) (r : List Char) :
    countCommaBlanks (c :: r) =
      countCommaBlanks r + if [',', ' '].isPrefixOf (c :: r) then 1 else 0 := by
  rw [countCommaBlanks, List.tails, List.countP_cons]
  rfl

/-- Two cuts never share a character, so each place to cut at is one. -/
theorem length_splitAtCommas (cs : List Char) :
    (splitAtCommas cs).length = countCommaBlanks cs + 1 := by
  induction cs using splitAtCommas.induct with
  | case1 => rfl
  | case2 r ih =>
    rw [splitAtCommas, List.length_cons, ih, countCommaBlanks_cons, countCommaBlanks_cons]
    simp
  | case3 c r hc ih =>
    have hnot : [',', ' '].isPrefixOf (c :: r) = false := by
      cases r with
      | nil => simp [List.isPrefixOf]
      | cons a u =>
        by_contra hp
        simp only [Bool.not_eq_false, List.isPrefixOf_iff_prefix, List.cons_prefix_cons] at hp
        exact hc u hp.1.symm (by rw [hp.2.1])
    rw [splitAtCommas.eq_3 c r hc, List.length_modifyHead, ih, countCommaBlanks_cons, hnot]
    simp

theorem texts_join {headers : List String} (h : headers ≠ []) :
    texts [", ".intercalate headers] = texts headers := by
  have hsep : ", ".toList = [',', ' '] := rfl
  have hne : headers.map String.toList ≠ [] := by simpa using h
  simp only [texts, List.flatMap_cons, List.flatMap_nil, List.append_nil, splitHeader,
    String.toList_intercalate, hsep]
  rw [splitAtCommas_intercalate hne, List.map_flatMap, List.flatMap_map]
  rfl

theorem parse_join {headers : List String} (h : headers ≠ []) :
    parse [", ".intercalate headers] = parse headers := by
  rw [parse, texts_join h, parse]

theorem parse_append (headers more : List String) :
    parse (headers ++ more) = parse headers ++ parse more := by
  rw [parse, texts, List.flatMap_append, List.map_append]
  rfl

theorem length_parse (headers : List String) :
    (parse headers).length =
      headers.length + (headers.map fun h => countCommaBlanks h.toList).sum := by
  induction headers with
  | nil => rfl
  | cons h r ih =>
    have hone : (parse [h]).length = countCommaBlanks h.toList + 1 := by
      simp [parse, texts, splitHeader, length_splitAtCommas]
    have hcons : parse (h :: r) = parse [h] ++ parse r := parse_append [h] r
    rw [hcons, List.length_append, hone, ih, List.length_cons, List.map_cons, List.sum_cons]
    omega

end Collection

end ContentPolicy
