import ContentPolicy.Proofs.Headers
import ContentPolicy.Proofs.Reading

/-!
Which collections survive being written as a header: a word that ends in a comma is taken for the end
of a policy.
-/

namespace ContentPolicy

namespace Collection

theorem eq_of_splitAtCommas_eq_singleton {cs t : List Char} (h : splitAtCommas cs = [t]) :
    t = cs := by
  induction cs using splitAtCommas.induct generalizing t with
  | case1 => simpa [splitAtCommas] using h.symm
  | case2 r ih =>
    rw [splitAtCommas, List.cons.injEq] at h
    exact absurd h.2 (splitAtCommas_ne_nil r)
  | case3 c r hc ih =>
    rw [splitAtCommas.eq_3 c r hc] at h
    cases hs : splitAtCommas r with
    | nil => exact absurd hs (splitAtCommas_ne_nil r)
    | cons a l =>
      rw [hs, List.modifyHead_cons, List.cons.injEq] at h
      have hr : splitAtCommas r = [a] := by rw [hs, h.2]
      rw [← h.1, ih hr]

theorem length_splitAtCommas_cons {c : Char} {r : List Char} (h : c = ',' → r.head? ≠ some ' ') :
    (splitAtCommas (c :: r)).length = (splitAtCommas r).length := by
  rw [splitAtCommas_cons h, List.length_modifyHead]

/-- Inside of a word nothing is cut, so only its last character counts. -/
theorem length_splitAtCommas_word {w : List Char} (h : ' ' ∉ w) (r : List Char) :
    (splitAtCommas (w ++ r)).length = (splitAtCommas r).length +
      if w.getLast? = some ',' ∧ r.head? = some ' ' then 1 else 0 := by
  induction w with
  | nil => simp
  | cons c u ih =>
    have hu : ' ' ∉ u := fun hm => h (List.mem_cons_of_mem _ hm)
    cases u with
    | nil =>
      by_cases hc : c = ',' ∧ r.head? = some ' '
      · obtain ⟨rfl, hr⟩ := hc
        cases r with
        | nil => simp at hr
        | cons a v =>
          have ha : a = ' ' := by simpa using hr
          simp [ha, splitAtCommas]
      · have hcut : c = ',' → r.head? ≠ some ' ' := fun he hr => hc ⟨he, hr⟩
        simp [length_splitAtCommas_cons hcut, hc]
    | cons a v =>
      have ha : a ≠ ' ' := by
        rintro rfl
        exact hu List.mem_cons_self
      have hcut : c = ',' → (a :: v ++ r).head? ≠ some ' ' := fun _ => by simp [ha]
      rw [List.cons_append, length_splitAtCommas_cons hcut, ih hu, List.getLast?_cons_cons]

end Collection

open Token

/-- The words of a directive that another word follows. -/
def Policy.innerWords (p : Policy) : List String :=
  p.directives.flatMap fun d => (d.1 :: d.2).dropLast

def endsInComma (w : String) : Bool := w.toList.getLast? == some ','

theorem ne_blank_of_isPlain {c : Char} (h : isPlain c = true) : c ≠ ' ' := by
  rintro rfl
  exact absurd h (by decide)

namespace Collection

theorem length_splitAtCommas_words {ws : List String} (h : ∀ w ∈ ws, IsWord w.toList)
    (r : List Char) :
    (splitAtCommas ([' '].intercalate (ws.map String.toList) ++ ';' :: ' ' :: r)).length =
      (splitAtCommas r).length + ws.dropLast.countP endsInComma := by
  have hend : (splitAtCommas (';' :: ' ' :: r)).length = (splitAtCommas r).length := by
    rw [length_splitAtCommas_cons (by simp), length_splitAtCommas_cons (by simp)]
  have hplain {w : String} (hw : IsWord w.toList) : ' ' ∉ w.toList :=
    fun hm => ne_blank_of_isPlain (hw.2 _ hm) rfl
  induction ws with
  | nil => simpa using hend
  | cons w ws ih =>
    have hw := hplain (h w List.mem_cons_self)
    cases ws with
    | nil =>
      rw [List.map_cons, List.map_nil, List.intercalate_singleton, length_splitAtCommas_word hw,
        hend]
      simp
    | cons u us =>
      have hstep : [' '].intercalate ((w :: u :: us).map String.toList) ++ ';' :: ' ' :: r =
          w.toList ++ ' ' :: ([' '].intercalate ((u :: us).map String.toList) ++
            ';' :: ' ' :: r) := by
        simp [List.intercalate_cons_cons]
      have hu := ih fun x hx => h x (List.mem_cons_of_mem _ hx)
      rw [hstep, length_splitAtCommas_word hw, length_splitAtCommas_cons (by simp), hu,
        List.dropLast_cons_cons, List.countP_cons, Nat.add_assoc]
      simp [endsInComma]

/-- What is written is cut behind each word that ends in a comma and that another one follows. -/
theorem length_splitAtCommas_written {ds : List (String × List String)}
    (h : ∀ d ∈ ds, IsSettled d.1 d.2) :
    (splitAtCommas (Policy.writtenChars ds)).length =
      1 + (ds.flatMap fun d => (d.1 :: d.2).dropLast).countP endsInComma := by
  induction ds with
  | nil => rfl
  | cons d r ih =>
    have hd := h d List.mem_cons_self
    have hwords : ∀ w ∈ d.1 :: d.2, IsWord w.toList := by
      intro w hw
      cases hw with
      | head => exact hd.isWord_name
      | tail _ hw => exact hd.isWord_value w hw
    have hstep : Policy.writtenChars (d :: r) =
        [' '].intercalate ((d.1 :: d.2).map String.toList) ++
          ';' :: ' ' :: Policy.writtenChars r := by
      simp [Policy.writtenChars, Policy.wordsOf]
    rw [hstep, length_splitAtCommas_words hwords, ih fun e he => h e (List.mem_cons_of_mem _ he),
      List.flatMap_cons, List.countP_append]
    omega

theorem parse_singleton (header : String) :
    parse [header] = (splitHeader header).map Policy.parse := by
  simp [parse, texts]

theorem length_parse_serialize {p : Policy} (h : p.Settled) :
    (parse [p.serialize]).length = 1 + p.innerWords.countP endsInComma := by
  rw [parse_singleton, List.length_map, splitHeader, List.length_map, Policy.toList_serialize]
  exact length_splitAtCommas_written h

theorem parse_serialize_of_not_endsInComma {p : Policy} (h : p.Settled)
    (hc : ∀ w ∈ p.innerWords, endsInComma w = false) : parse [p.serialize] = [p] := by
  have hlen := length_parse_serialize h
  have hzero : p.innerWords.countP endsInComma = 0 :=
    List.countP_eq_zero.2 fun w hw => by simp [hc w hw]
  rw [hzero, parse_singleton, List.length_map, splitHeader, List.length_map,
    List.length_eq_one_iff] at hlen
  obtain ⟨t, ht⟩ := hlen
  rw [parse_singleton, splitHeader, ht, eq_of_splitAtCommas_eq_singleton ht]
  simp [h.parse_serialize]

/-- What comes out of the reader, and what browsers make of it. -/
inductive Readable : Collection → Prop where
  | parsed (headers : List String) : Readable (parse headers)
  | effective {c : Collection} (v : Version) (h : Readable c) : Readable (c.effective v)

theorem Readable.settled {c : Collection} (h : Readable c) : ∀ p ∈ c, p.Settled := by
  induction h with
  | parsed headers =>
    intro p hp
    obtain ⟨text, -, rfl⟩ := List.mem_map.1 hp
    exact Policy.settled_parse text
  | effective v _ ih =>
    intro p hp
    obtain ⟨q, hq, rfl⟩ := List.mem_map.1 hp
    exact (ih q hq).effective v

def innerWords (c : Collection) : List String := c.flatMap Policy.innerWords

theorem innerWords_cons (p : Policy) (c : Collection) :
    innerWords (p :: c) = p.innerWords ++ innerWords c := List.flatMap_cons

theorem parse_serializeEach_cons (p : Policy) (c : Collection) :
    parse (serializeEach (p :: c)) = parse [p.serialize] ++ parse c.serializeEach := by
  simp [parse, texts, serializeEach]

/-- The comma and the blank between two policies are cut at, whatever the policies are. -/
theorem parse_serialize_eq {c : Collection} (h : c ≠ []) :
    parse [c.serialize] = parse c.serializeEach :=
  parse_join (by simpa [serializeEach] using h)

section Settled

variable {c : Collection} (h : ∀ p ∈ c, p.Settled)
include h

theorem length_parse_serializeEach :
    (parse c.serializeEach).length = c.length + c.innerWords.countP endsInComma := by
  induction c with
  | nil => rfl
  | cons p r ih =>
    have hr := ih fun q hq => h q (List.mem_cons_of_mem _ hq)
    rw [parse_serializeEach_cons, List.length_append,
      length_parse_serialize (h p List.mem_cons_self), hr, innerWords_cons, List.countP_append,
      List.length_cons]
    omega

theorem parse_serializeEach_of_not_endsInComma
    (hc : ∀ w ∈ c.innerWords, endsInComma w = false) : parse c.serializeEach = c := by
  induction c with
  | nil => rfl
  | cons p r ih =>
    have hp : parse [p.serialize] = [p] :=
      parse_serialize_of_not_endsInComma (h p List.mem_cons_self) fun w hw =>
        hc w (List.mem_append_left _ hw)
    have hr : parse (serializeEach r) = r :=
      ih (fun q hq => h q (List.mem_cons_of_mem _ hq)) fun w hw => hc w (List.mem_append_right _ hw)
    rw [parse_serializeEach_cons, hp, hr]
    rfl

/-- One comma at the end of an inner word is enough to lose a policy. -/
theorem parse_serializeEach_eq_self_iff :
    parse c.serializeEach = c ↔ ∀ w ∈ c.innerWords, endsInComma w = false := by
  refine ⟨fun he w hw => ?_, parse_serializeEach_of_not_endsInComma h⟩
  have hlen := length_parse_serializeEach h
  rw [he] at hlen
  have hzero : c.innerWords.countP endsInComma = 0 := by omega
  simpa using List.countP_eq_zero.1 hzero w hw

end Settled

/-- Read back as one header or as one for each policy, a collection stays what it is exactly if no
word that another one follows ends in a comma; each that does makes one more policy. Only the
empty collection needs a header for each of its policies. -/
theorem round_trip {c : Collection} (h : Readable c) :
    (c ≠ [] →
      (parse [c.serialize] = c ↔ ∀ w ∈ c.innerWords, endsInComma w = false) ∧
      (parse [c.serialize]).length = c.length + c.innerWords.countP endsInComma) ∧
    (parse c.serializeEach = c ↔ ∀ w ∈ c.innerWords, endsInComma w = false) ∧
    (parse c.serializeEach).length = c.length + c.innerWords.countP endsInComma := by
  have hs := h.settled
  have hback := parse_serializeEach_eq_self_iff hs
  have hlen := length_parse_serializeEach hs
  refine ⟨fun hne => ?_, hback, hlen⟩
  rw [parse_serialize_eq hne]
  exact ⟨hback, hlen⟩

def tabExample : Collection := parse ["script-src a.example,\tb.example; object-src x,, img-src y"]

theorem round_trip_tabExample :
    Readable tabExample ∧ tabExample ≠ [] ∧ tabExample.length = 2 ∧
      (parse [tabExample.serialize]).length = 3 ∧
      ¬ (parse tabExample.serializeEach = tabExample) := by
  have hread : Readable tabExample := .parsed _
  have hne : tabExample ≠ [] := by decide +kernel
  have hlen : tabExample.length = 2 := by decide +kernel
  have hcount : tabExample.innerWords.countP endsInComma = 1 := by decide +kernel
  obtain ⟨hone, hiff, -⟩ := round_trip hread
  refine ⟨hread, hne, hlen, ?_, fun he => ?_⟩
  · rw [(hone hne).2, hlen, hcount]
  · have hnone := hiff.1 he "a.example," (by decide +kernel)
    exact absurd hnone (by decide +kernel)

end Collection

end ContentPolicy
