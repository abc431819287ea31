import ContentPolicy.Source

/-!
A policy lists its directives in the order of their first mention, each name once. Values may come
back; only the parser drops repetitions.
-/

namespace ContentPolicy

structure Policy where
  directives : List (String × List String)
  nodup_names : (directives.map Prod.fst).Nodup
deriving DecidableEq

/-- All its policies hold at once. -/
abbrev Collection := List Policy

namespace Policy

def empty : Policy := ⟨[], .nil⟩

def names (p : Policy) : List String := p.directives.map Prod.fst

theorem ext {p q : Policy} (h : p.directives = q.directives) : p = q := by
  cases p; cases q; cases h; rfl

def has (p : Policy) (name : String) : Bool := p.names.contains name

theorem has_iff {p : Policy} {name : String} : p.has name = true ↔ name ∈ p.names := by
  simp [has]

def values (p : Policy) (name : String) : List String := (p.directives.lookup name).getD []

theorem lookup_eq_some_of_mem {ds : List (String × List String)} {name : String}
    {vs : List String} (hn : (ds.map Prod.fst).Nodup) (h : (name, vs) ∈ ds) :
    ds.lookup name = some vs := by
  induction ds with
  | nil => simp at h
  | cons d r ih =>
    obtain ⟨n, ws⟩ := d
    simp only [List.map_cons, List.nodup_cons, List.mem_map, not_exists, not_and] at hn
    cases List.mem_cons.1 h with
    | inl h => cases h; simp
    | inr h =>
      have hne : (name == n) = false := beq_eq_false_iff_ne.2 fun he => hn.1 (name, vs) h he
      simp [List.lookup_cons, hne, ih hn.2 h]

theorem values_of_mem {p : Policy} {name : String} {vs : List String}
    (h : (name, vs) ∈ p.directives) : p.values name = vs := by
  simp [values, lookup_eq_some_of_mem p.nodup_names h]

theorem lookup_eq_none_iff {ds : List (String × List String)} {name : String} :
    ds.lookup name = none ↔ name ∉ ds.map Prod.fst := by
  induction ds with
  | nil => simp
  | cons d r ih =>
    by_cases h : name = d.1
    · simp [h]
    · have hb : (name == d.1) = false := beq_eq_false_iff_ne.2 h
      rw [List.lookup_cons, hb, List.map_cons, List.mem_cons, not_or]
      simpa [h] using ih

theorem values_of_not_has {p : Policy} {name : String} (h : p.has name = false) :
    p.values name = [] := by
  have hn : name ∉ p.names := by simpa [has] using h
  simp [values, lookup_eq_none_iff.2 hn]

theorem mem_directives_of_has {p : Policy} {name : String} (h : p.has name = true) :
    (name, p.values name) ∈ p.directives := by
  obtain ⟨⟨n, vs⟩, hd, rfl⟩ := List.mem_map.1 (has_iff.1 h)
  rwa [values_of_mem hd]

def editValues (name : String) (f : List String → List String) (d : String × List String) :
    String × List String := if d.1 = name then (d.1, f d.2) else d

theorem fst_editValues (name : String) (f : List String → List String) :
    Prod.fst ∘ editValues name f = Prod.fst := by
  funext d; by_cases h : d.1 = name <;> simp [editValues, h]

/- Keeps all names, so one list of values can be edited at will. -/
def modify (p : Policy) (name : String) (f : List String → List String) : Policy where
  directives := p.directives.map (editValues name f)
  nodup_names := by simpa [List.map_map, fst_editValues] using p.nodup_names

@[simp] theorem names_modify (p : Policy) (name : String) (f : List String → List String) :
    (p.modify name f).names = p.names := by
  simp [names, modify, List.map_map, fst_editValues]

theorem lookup_editValues (ds : List (String × List String)) (name n : String)
    (f : List String → List String) :
    (ds.map (editValues name f)).lookup n =
      if n = name then (ds.lookup n).map f else ds.lookup n := by
  induction ds with
  | nil => simp
  | cons d r ih =>
    obtain ⟨m, vs⟩ := d
    have he : (editValues name f (m, vs)).1 = m := congrFun (fst_editValues name f) (m, vs)
    rw [List.map_cons, List.lookup_cons, List.lookup_cons, he, ih]
    cases hn : n == m with
    | false => rfl
    | true =>
      have hm : n = m := by simpa using hn
      by_cases hk : m = name <;> simp [editValues, hm, hk]

theorem values_modify_self (p : Policy) {name : String} (f : List String → List String)
    (h : p.has name = true) : (p.modify name f).values name = f (p.values name) := by
  have hs := lookup_eq_some_of_mem p.nodup_names (mem_directives_of_has h)
  rw [values, modify, lookup_editValues, hs]
  simp

def addNew (p : Policy) (name : String) (values : List String) : Policy :=
  if h : p.has name then p else
    { directives := p.directives ++ [(name, values)]
      nodup_names := by
        have hn : name ∉ p.directives.map Prod.fst := by simpa [has, names] using h
        simp only [List.map_append, List.nodup_append, p.nodup_names, true_and]
        refine ⟨by simp, ?_⟩
        rintro a ha b hb rfl
        simp only [List.map_cons, List.map_nil, List.mem_singleton] at hb
        exact hn (hb ▸ ha) }

theorem directives_addNew (p : Policy) (name : String) (values : List String) :
    (p.addNew name values).directives =
      if p.has name then p.directives else p.directives ++ [(name, values)] := by
  unfold addNew; split <;> rfl

/-- The last list given for a name counts, at the place of the first. -/
def set (p : Policy) (name : String) (values : List String) : Policy :=
  (p.addNew name []).modify name fun _ => values

def ofDirectives (ds : List (String × List String)) : Policy :=
  ds.foldl (fun p d => p.set d.1 d.2) empty

def append (p : Policy) (name value : String) : Policy :=
  (p.addNew name []).modify name (· ++ [value])

/-- Takes away the first of the values that is equal. -/
def remove (p : Policy) (name value : String) : Policy := p.modify name (·.erase value)

def without (p : Policy) (names : List String) : Policy where
  directives := p.directives.filter fun d => !names.contains d.1
  nodup_names := p.nodup_names.sublist (List.filter_sublist.map _)

theorem names_without (p : Policy) (ns : List String) :
    (p.without ns).names = p.names.filter fun n => !ns.contains n := by
  simp [names, without, List.filter_map]; rfl

/-- The directive in force: itself, or `default-src` in place of a missing fetch directive. -/
def effectiveName (p : Policy) (name : String) : String :=
  if p.has name || !Directive.isFetch name then name else Directive.defaultSrc

def effectiveNames (p : Policy) (names : List String) : List String :=
  (names.map p.effectiveName).eraseDups

def effectiveValues (p : Policy) (name : String) : List String :=
  p.values (p.effectiveName name)

def scriptName (p : Policy) : String := p.effectiveName Directive.scriptSrc

def scriptValues (p : Policy) : List String := p.effectiveValues Directive.scriptSrc

def hasScriptNonces (p : Policy) : Bool := p.scriptValues.any Source.isNonce

def hasScriptHashes (p : Policy) : Bool := p.scriptValues.any Source.isHash

def hasStrictDynamic (p : Policy) : Bool := p.scriptValues.contains Keyword.strictDynamic

end Policy

namespace Collection

def hasScriptNonces (c : Collection) : Bool := c.any Policy.hasScriptNonces

def hasScriptHashes (c : Collection) : Bool := c.any Policy.hasScriptHashes

def hasStrictDynamic (c : Collection) : Bool := c.any Policy.hasStrictDynamic

end Collection

end ContentPolicy
