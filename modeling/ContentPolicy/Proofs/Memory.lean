import ContentPolicy.Policy.Basic
import Mathlib.Data.List.Basic

/-!
Policies in memory. Who is given a place can edit all that it leads to and nothing else; a copy leads
to new places only.
-/

namespace ContentPolicy

inductive Cell where
  | values (vs : List String)
  | directives (ds : List (String × Nat)) (nodup_names : (ds.map Prod.fst).Nodup)
  | policy (directives : Nat)
  | collection (policies : List Nat)

def Cell.refs : Cell → List Nat
  | .values _ => []
  | .directives ds _ => ds.map Prod.snd
  | .policy d => [d]
  | .collection ps => ps

abbrev Memory := List Cell

namespace Memory

def valuesAt (m : Memory) (p : Nat) : List String :=
  match m[p]? with
  | some (.values vs) => vs
  | _ => []

def directivesAt (m : Memory) (p : Nat) : List (String × List String) :=
  match m[p]? with
  | some (.directives ds _) => ds.map fun d => (d.1, m.valuesAt d.2)
  | _ => []

theorem nodup_directivesAt (m : Memory) (p : Nat) :
    ((m.directivesAt p).map Prod.fst).Nodup := by
  unfold directivesAt
  split
  case h_1 ds hn _ => rwa [List.map_map]
  case h_2 => exact .nil

def policyAt (m : Memory) (p : Nat) : Policy :=
  match m[p]? with
  | some (.policy d) => ⟨m.directivesAt d, m.nodup_directivesAt d⟩
  | _ => .empty

def collectionAt (m : Memory) (p : Nat) : Collection :=
  match m[p]? with
  | some (.collection ps) => ps.map m.policyAt
  | _ => []

inductive Leads (m : Memory) : Nat → Nat → Prop where
  | here (p : Nat) : Leads m p p
  | onward {p q r : Nat} {c : Cell} (hc : m[p]? = some c) (hq : q ∈ c.refs)
      (h : Leads m q r) : Leads m p r

variable {m m' m'' : Memory} {p q r e : Nat}

/-- All that the place leads to is as it was. -/
def SameFrom (m m' : Memory) (p : Nat) : Prop := ∀ q, m.Leads p q → m'[q]? = m[q]?

theorem SameFrom.onward (h : SameFrom m m' p) {c : Cell} (hc : m[p]? = some c)
    (hq : q ∈ c.refs) : SameFrom m m' q := fun x hx => h x (.onward hc hq hx)

theorem SameFrom.leads_iff (h : SameFrom m m' p) : m'.Leads p q ↔ m.Leads p q := by
  constructor
  · intro hl
    induction hl with
    | here p => exact .here p
    | onward hc hq _ ih =>
      rw [h _ (.here _)] at hc
      exact .onward hc hq (ih (h.onward hc hq))
  · intro hl
    induction hl with
    | here p => exact .here p
    | onward hc hq _ ih => exact .onward (h _ (.here _) ▸ hc) hq (ih (h.onward hc hq))

theorem SameFrom.valuesAt (h : SameFrom m m' p) : m'.valuesAt p = m.valuesAt p := by
  simp only [Memory.valuesAt, h p (.here p)]

theorem SameFrom.directivesAt (h : SameFrom m m' p) : m'.directivesAt p = m.directivesAt p := by
  simp only [Memory.directivesAt, h p (.here p)]
  split
  case h_1 ds hn hc =>
    refine List.map_congr_left fun d hd => ?_
    rw [(h.onward hc (List.mem_map_of_mem hd)).valuesAt]
  case h_2 => rfl

theorem SameFrom.policyAt (h : SameFrom m m' p) : m'.policyAt p = m.policyAt p := by
  simp only [Memory.policyAt, h p (.here p)]
  split
  case h_1 d hc => exact Policy.ext (h.onward hc List.mem_cons_self).directivesAt
  case h_2 => rfl

/-- Who reads a collection sees only what it leads to. -/
theorem SameFrom.collectionAt (h : SameFrom m m' p) : m'.collectionAt p = m.collectionAt p := by
  simp only [Memory.collectionAt, h p (.here p)]
  split
  case h_1 ps hc => exact List.map_congr_left fun x hx => (h.onward hc hx).policyAt
  case h_2 => rfl

def Live (m : Memory) (p : Nat) : Prop := ∀ q, m.Leads p q → q < m.length

theorem SameFrom.live (h : SameFrom m m' p) (hgrows : m.length ≤ m'.length) (hl : m.Live p) :
    m'.Live p := fun q hq => Nat.lt_of_lt_of_le (hl q (h.leads_iff.1 hq)) hgrows

theorem live_of_forall (h : ∀ c ∈ m, ∀ x ∈ c.refs, x < m.length) (hp : p < m.length) :
    m.Live p := by
  intro q hq
  induction hq with
  | here p => exact hp
  | onward hc hx _ ih => exact ih (h _ (List.mem_of_getElem? hc) _ hx)

structure Apart (m : Memory) (r e : Nat) : Prop where
  live_left : m.Live r
  live_right : m.Live e
  disjoint : ∀ q, m.Leads r q → ¬ m.Leads e q

theorem Apart.symm (h : Apart m r e) : Apart m e r :=
  ⟨h.live_right, h.live_left, fun q he hr => h.disjoint q hr he⟩

/-- What work on a place can do: edit the cells that the place leads to, and make new ones. What
else was there cannot come into its hands. -/
structure EditedAt (r : Nat) (m m' : Memory) : Prop where
  grows : m.length ≤ m'.length
  kept : ∀ q < m.length, ¬ m.Leads r q → m'[q]? = m[q]?
  live : m'.Live r
  within : ∀ q, m'.Leads r q → m.Leads r q ∨ m.length ≤ q

theorem EditedAt.refl (h : m.Live r) : EditedAt r m m :=
  ⟨Nat.le_refl _, fun _ _ _ => rfl, h, fun _ => .inl⟩

/-- Work goes on where it stopped: what is new by then belongs to it. -/
theorem EditedAt.trans (h : EditedAt r m m') (h' : EditedAt r m' m'') : EditedAt r m m'' where
  grows := Nat.le_trans h.grows h'.grows
  kept := by
    intro q hq hn
    have hn' : ¬ m'.Leads r q := by
      intro hl
      cases h.within q hl with
      | inl hl => exact hn hl
      | inr hge => omega
    rw [h'.kept q (Nat.lt_of_lt_of_le hq h.grows) hn', h.kept q hq hn]
  live := h'.live
  within := by
    intro q hl
    cases h'.within q hl with
    | inl hl => exact h.within q hl
    | inr hge => exact .inr (Nat.le_trans h.grows hge)

/-- Work on one of two places that are apart does not touch the other, and leaves them apart. -/
theorem EditedAt.sameFrom (h : EditedAt r m m') (ha : Apart m r e) : SameFrom m m' e :=
  fun q hq => h.kept q (ha.live_right q hq) fun hr => ha.disjoint q hr hq

/-- What is apart from a place stays so, whatever work is done on the place. -/
theorem EditedAt.apart (h : EditedAt r m m') (ha : Apart m r e) : Apart m' r e where
  live_left := h.live
  live_right := (h.sameFrom ha).live h.grows ha.live_right
  disjoint := by
    intro q hr he
    have hq := (h.sameFrom ha).leads_iff.1 he
    cases h.within q hr with
    | inl hl => exact ha.disjoint q hl hq
    | inr hge => exact absurd (ha.live_right q hq) (Nat.not_lt.2 hge)

structure Extends (m m' : Memory) : Prop where
  grows : m.length ≤ m'.length
  kept : ∀ q < m.length, m'[q]? = m[q]?
  fresh : ∀ q ≥ m.length, ∀ c, m'[q]? = some c → ∀ x ∈ c.refs, m.length ≤ x ∧ x < m'.length

theorem Extends.refl (m : Memory) : Extends m m where
  grows := Nat.le_refl _
  kept := fun _ _ => rfl
  fresh := by
    intro q hq c hc
    rw [List.getElem?_eq_none hq] at hc
    cases hc

theorem Extends.trans (h : Extends m m') (h' : Extends m' m'') : Extends m m'' where
  grows := Nat.le_trans h.grows h'.grows
  kept := fun q hq => by rw [h'.kept q (Nat.lt_of_lt_of_le hq h.grows), h.kept q hq]
  fresh := by
    intro q hq c hc x hx
    have hgrows := h.grows
    have hgrows' := h'.grows
    by_cases hlt : q < m'.length
    · rw [h'.kept q hlt] at hc
      have hx := h.fresh q hq c hc x hx
      omega
    · have hx := h'.fresh q (Nat.not_lt.1 hlt) c hc x hx
      omega

/-- From a new cell references lead to new cells only. -/
theorem Extends.leads_fresh (h : Extends m m') (hp : m.length ≤ p ∧ p < m'.length)
    (hl : m'.Leads p q) : m.length ≤ q ∧ q < m'.length := by
  induction hl with
  | here p => exact hp
  | onward hc hq _ ih => exact ih (h.fresh _ hp.1 _ hc _ hq)

theorem Extends.sameFrom (h : Extends m m') (hl : m.Live p) : SameFrom m m' p :=
  fun q hq => h.kept q (hl q hq)

/-- New places lead to new places, so what they lead to neither dangles nor meets what was there. -/
theorem Extends.live (h : Extends m m') (hp : m.length ≤ p ∧ p < m'.length) : m'.Live p :=
  fun _ hq => (h.leads_fresh hp hq).2

theorem Extends.apart (h : Extends m m') (hr : m.Live r) (hp : m.length ≤ p ∧ p < m'.length) :
    Apart m' r p where
  live_left := (h.sameFrom hr).live h.grows hr
  live_right := h.live hp
  disjoint := by
    intro q hq hpq
    have hold := hr q ((h.sameFrom hr).leads_iff.1 hq)
    exact absurd (h.leads_fresh hp hpq).1 (Nat.not_le.2 hold)

theorem extends_append {cells : List Cell}
    (h : ∀ c ∈ cells, ∀ x ∈ c.refs, m.length ≤ x ∧ x < m.length + cells.length) :
    Extends m (m ++ cells) where
  grows := by simp
  kept := fun q hq => List.getElem?_append_left hq
  fresh := by
    intro q hq c hc x hx
    rw [List.getElem?_append_right hq] at hc
    rw [List.length_append]
    exact h c (List.mem_of_getElem? hc) x hx

def numbered (n : Nat) (ds : List (String × List String)) : List (String × Nat) :=
  ds.mapIdx fun i d => (d.1, n + i)

theorem names_numbered (n : Nat) (ds : List (String × List String)) :
    (numbered n ds).map Prod.fst = ds.map Prod.fst := by
  refine List.ext_getElem (by simp [numbered]) fun i _ _ => ?_
  simp [numbered]

def policyCells (n : Nat) (p : Policy) : List Cell :=
  p.directives.map (fun d => .values d.2) ++ [
    .directives (numbered n p.directives) (names_numbered n p.directives ▸ p.nodup_names),
    .policy (n + p.directives.length)]

def storePolicy (m : Memory) (p : Policy) : Memory := m ++ policyCells m.length p

theorem length_storePolicy (m : Memory) (p : Policy) :
    (m.storePolicy p).length = m.length + p.directives.length + 2 := by
  simp [storePolicy, policyCells, Nat.add_assoc]

theorem extends_storePolicy (m : Memory) (p : Policy) : Extends m (m.storePolicy p) := by
  refine extends_append fun c hc x hx => ?_
  simp only [policyCells, List.mem_append, List.mem_map, List.mem_cons, List.not_mem_nil,
    or_false] at hc
  simp only [policyCells, List.length_append, List.length_map, List.length_cons, List.length_nil]
  obtain ⟨d, -, rfl⟩ | rfl | rfl := hc
  · cases hx
  · obtain ⟨d, hd, rfl⟩ := List.mem_map.1 hx
    obtain ⟨i, hi, rfl⟩ := List.mem_mapIdx.1 hd
    simp only
    omega
  · rw [List.mem_singleton.1 hx]
    omega

theorem getElem?_storePolicy (m : Memory) (p : Policy) (i : Nat) :
    (m.storePolicy p)[m.length + i]? = (policyCells m.length p)[i]? := by
  rw [storePolicy, List.getElem?_append_right (Nat.le_add_right _ _), Nat.add_sub_cancel_left]

/-- The values are first, then come the directives, and then the policy. -/
theorem valuesAt_storePolicy (m : Memory) (p : Policy) (i : Nat) (h : i < p.directives.length) :
    (m.storePolicy p).valuesAt (m.length + i) = p.directives[i].2 := by
  have hcell : (m.storePolicy p)[m.length + i]? = some (.values p.directives[i].2) := by
    rw [getElem?_storePolicy, policyCells, List.getElem?_append_left (by simpa using h)]
    simp [h]
  simp only [valuesAt, hcell]

theorem directivesAt_storePolicy (m : Memory) (p : Policy) :
    (m.storePolicy p).directivesAt (m.length + p.directives.length) = p.directives := by
  have hcell : (m.storePolicy p)[m.length + p.directives.length]? =
      some (.directives (numbered m.length p.directives)
        (names_numbered m.length p.directives ▸ p.nodup_names)) := by
    rw [getElem?_storePolicy, policyCells, List.getElem?_append_right (by simp)]
    simp
  simp only [directivesAt, hcell]
  refine List.ext_getElem (by simp [numbered]) fun i hi hi' => ?_
  simp [numbered, valuesAt_storePolicy m p i hi']

theorem policyAt_storePolicy (m : Memory) (p : Policy) :
    (m.storePolicy p).policyAt (m.length + p.directives.length + 1) = p := by
  have hcell : (m.storePolicy p)[m.length + p.directives.length + 1]? =
      some (.policy (m.length + p.directives.length)) := by
    rw [Nat.add_assoc, getElem?_storePolicy, policyCells, List.getElem?_append_right (by simp)]
    simp
  simp only [policyAt, hcell]
  exact Policy.ext (directivesAt_storePolicy m p)

def storeAll (m : Memory) : Collection → Memory × List Nat
  | [] => (m, [])
  | p :: c =>
    let (m', ps) := (m.storePolicy p).storeAll c
    (m', (m.length + p.directives.length + 1) :: ps)

/-- The policies are at new places, and later ones leave the earlier ones as they are. -/
theorem exists_storeAll (m : Memory) (c : Collection) :
    ∃ m' ps, m.storeAll c = (m', ps) ∧ Extends m m' ∧
      (∀ p ∈ ps, m.length ≤ p ∧ p < m'.length) ∧ ps.map m'.policyAt = c := by
  induction c generalizing m with
  | nil => exact ⟨m, [], rfl, .refl m, fun p hp => absurd hp List.not_mem_nil, rfl⟩
  | cons p c ih =>
    have hfirst := extends_storePolicy m p
    have hlength := length_storePolicy m p
    obtain ⟨m', ps, hstore, hext, hplaces, hmap⟩ := ih (m.storePolicy p)
    have hgrows := hext.grows
    have hlive : (m.storePolicy p).Live (m.length + p.directives.length + 1) :=
      hfirst.live ⟨by omega, by omega⟩
    refine ⟨m', (m.length + p.directives.length + 1) :: ps, by simp only [storeAll, hstore],
      hfirst.trans hext, List.forall_mem_cons.2 ⟨by omega, fun x hx => ?_⟩, ?_⟩
    · have hx := hplaces x hx
      omega
    · rw [List.map_cons, (hext.sameFrom hlive).policyAt, policyAt_storePolicy, hmap]

def copy (m : Memory) (r : Nat) : Memory × Nat :=
  let (m', ps) := m.storeAll (m.collectionAt r)
  (m' ++ [.collection ps], m'.length)

theorem Extends.push (h : Extends m m') {c : Cell}
    (hc : ∀ x ∈ c.refs, m.length ≤ x ∧ x < m'.length) : Extends m (m' ++ [c]) := by
  have hgrows := h.grows
  have hlength : (m' ++ [c]).length = m'.length + 1 := List.length_append
  refine ⟨by omega, fun q hq => ?_, fun q hq d hd x hx => ?_⟩
  · rw [List.getElem?_append_left (by omega), h.kept q hq]
  · by_cases hlt : q < m'.length
    · rw [List.getElem?_append_left hlt] at hd
      have hx := h.fresh q hq d hd x hx
      omega
    · rw [List.getElem?_append_right (Nat.not_lt.1 hlt)] at hd
      have hd := List.mem_singleton.1 (List.mem_of_getElem? hd)
      rw [hd] at hx
      have hx := hc x hx
      omega

/-- The copy says the same, at new places. -/
theorem copy_spec (m : Memory) (r : Nat) :
    ∃ m' e, m.copy r = (m', e) ∧ Extends m m' ∧ (m.length ≤ e ∧ e < m'.length) ∧
      m'.collectionAt e = m.collectionAt r := by
  obtain ⟨m', ps, hstore, hext, hplaces, hmap⟩ := exists_storeAll m (m.collectionAt r)
  have hcell : (m' ++ [Cell.collection ps])[m'.length]? = some (.collection ps) := by simp
  have hpush : Extends m (m' ++ [.collection ps]) := hext.push hplaces
  have hsame : ∀ p ∈ ps, policyAt (m' ++ [.collection ps]) p = m'.policyAt p := fun p hp =>
    SameFrom.policyAt fun q hq => List.getElem?_append_left (hext.live (hplaces p hp) q hq)
  refine ⟨_, m'.length, by rw [copy, hstore], hpush, ⟨hext.grows, by simp⟩, ?_⟩
  rw [← hmap, ← List.map_congr_left hsame]
  simp only [collectionAt, hcell]

def overwrite (m : Memory) (r : Nat) (c : Cell) : Memory := m.set r c

theorem length_overwrite (m : Memory) (r : Nat) (c : Cell) : (m.overwrite r c).length = m.length :=
  List.length_set

theorem getElem?_overwrite_self (h : r < m.length) (c : Cell) : (m.overwrite r c)[r]? = some c :=
  List.getElem?_set_self h

theorem getElem?_overwrite_of_ne (h : q ≠ r) (c : Cell) : (m.overwrite r c)[q]? = m[q]? :=
  List.getElem?_set_ne h.symm

/-- New cells do not lead back to an old one, so they do not see that it is overwritten. -/
theorem Extends.sameFrom_overwrite (h : Extends m m') (hr : r < m.length) (c : Cell)
    (hp : m.length ≤ p ∧ p < m'.length) : SameFrom m' (m'.overwrite r c) p := by
  intro q hq
  have hfresh := h.leads_fresh hp hq
  exact getElem?_overwrite_of_ne (by omega) c

theorem Extends.editedAt_overwrite (h : Extends m m') (hr : r < m.length) {c : Cell}
    (hc : ∀ x ∈ c.refs, m.length ≤ x ∧ x < m'.length) : EditedAt r m (m'.overwrite r c) := by
  have hgrows := h.grows
  have hlength := length_overwrite m' r c
  have hwithin : ∀ q, (m'.overwrite r c).Leads r q → q = r ∨ m.length ≤ q ∧ q < m'.length := by
    intro q hq
    cases hq with
    | here => exact .inl rfl
    | onward hd hp hl =>
      rw [getElem?_overwrite_self (Nat.lt_of_lt_of_le hr hgrows), Option.some.injEq] at hd
      have hnew := hc _ (hd ▸ hp)
      exact .inr (h.leads_fresh hnew ((h.sameFrom_overwrite hr c hnew).leads_iff.1 hl))
  refine ⟨by omega, fun q hq hn => ?_, fun q hq => ?_, fun q hq => ?_⟩
  · have hne : q ≠ r := by
      rintro rfl
      exact hn (.here q)
    rw [getElem?_overwrite_of_ne hne, h.kept q hq]
  · have hq := hwithin q hq
    omega
  · obtain rfl | hq := hwithin q hq
    · exact .inl (.here q)
    · exact .inr hq.1

/-- Whatever a collection should say, it can be edited so. -/
theorem exists_editedAt (h : m.Live r) (c : Collection) :
    ∃ m', EditedAt r m m' ∧ m'.collectionAt r = c := by
  obtain ⟨m', ps, -, hext, hplaces, hmap⟩ := exists_storeAll m c
  have hr : r < m.length := h r (.here r)
  have hcell := getElem?_overwrite_self (Nat.lt_of_lt_of_le hr hext.grows) (.collection ps)
  have hsame : ∀ p ∈ ps, (m'.overwrite r (.collection ps)).policyAt p = m'.policyAt p :=
    fun p hp => (hext.sameFrom_overwrite hr _ (hplaces p hp)).policyAt
  refine ⟨m'.overwrite r (.collection ps), hext.editedAt_overwrite hr hplaces, ?_⟩
  rw [← hmap, ← List.map_congr_left hsame]
  simp only [collectionAt, hcell]

end Memory

end ContentPolicy
