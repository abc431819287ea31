import ContentPolicy.Proofs.FirstMention
import ContentPolicy.Proofs.Spelling
import ContentPolicy.Session

/-!
The records of a reading: what is not blank becomes a directive or leaves one record.
-/

namespace ContentPolicy

namespace Policy

def pieces (text : String) : List (List Char) := text.toList.splitOnP (· == ';')

def isFilled (piece : List Char) : Bool := !piece.all Source.isBlank

def nameOf? (piece : List Char) : Option String :=
  if piece.all Token.isLatin1 then
    (Text.words Source.isBlank piece).head?.map fun w => .ofList (Text.lowerChars w)
  else none

def record? (text : String) (before : List (List Char)) (piece : List Char) : Option Event :=
  if piece.all Token.isLatin1 then
    ((nameOf? piece).filter (before.filterMap nameOf?).contains).map (.repeatedDirective · text)
  else some (.foreignDirective (.ofList (Text.trim Source.isBlank piece)))

def records (text : String) (before : List (List Char)) : List (List Char) → List Event
  | [] => []
  | piece :: r => (record? text before piece).toList ++ records text (before ++ [piece]) r

theorem records_concat (text : String) (before ps : List (List Char)) (piece : List Char) :
    records text before (ps ++ [piece]) =
      records text before ps ++ (record? text (before ++ ps) piece).toList := by
  induction ps generalizing before with
  | nil => simp [records]
  | cons p r ih => simp [records, ih]

inductive ReadsAs (piece : List Char) : Token → Prop where
  | blank (hb : ∀ c ∈ piece, Source.isBlank c = true) : ReadsAs piece .blank
  | foreign {c : Char} (hc : c ∈ piece) (hl : Token.isLatin1 c = false) :
    ReadsAs piece (.foreign (.ofList (Text.trim Source.isBlank piece)))
  | directive {name : String} (values : List String) (hn : nameOf? piece = some name) :
    ReadsAs piece (.directive name values)

theorem readsAs_ofChars (piece : List Char) : ReadsAs piece (Token.ofChars piece) := by
  cases hl : piece.all Token.isLatin1 with
  | true =>
    rw [Token.ofChars_of_isLatin1 (List.all_eq_true.1 hl)]
    cases hw : Text.words Source.isBlank piece with
    | nil => exact .blank (Text.words_eq_nil_iff.1 hw)
    | cons w ws => exact .directive _ (by simp [nameOf?, hl, hw])
  | false =>
    obtain ⟨c, hc, hforeign⟩ := List.all_eq_false.1 hl
    have hforeign := Bool.eq_false_iff.2 hforeign
    rw [Token.ofChars_of_foreign hc hforeign]
    exact .foreign hc hforeign

/-- After these pieces the reading knows the names that they mention, has told of them what there is
to tell, and has made a directive or a record of each that is not blank. -/
structure Accounts (text : String) (before : List (List Char)) (s : Reading) : Prop where
  names : ∀ name, s.policy.has name = (before.filterMap nameOf?).contains name
  events : s.events = records text [] before
  count : before.countP isFilled = s.policy.directives.length + s.events.length

section Step

variable {text : String} {before : List (List Char)} {piece : List Char} {s : Reading}

theorem isFilled_of_not_blank {c : Char} (hc : c ∈ piece) (hb : Source.isBlank c = false) :
    isFilled piece = true := by
  rw [isFilled, Bool.not_eq_true', List.all_eq_false]
  exact ⟨c, hc, Bool.eq_false_iff.1 hb⟩

theorem nameOf?_of_blank (hb : ∀ c ∈ piece, Source.isBlank c = true) : nameOf? piece = none := by
  rw [nameOf?, Text.words_eq_nil_iff.2 hb]
  simp

theorem record?_of_blank (hb : ∀ c ∈ piece, Source.isBlank c = true) :
    record? text before piece = none := by
  have hlatin : piece.all Token.isLatin1 = true :=
    List.all_eq_true.2 fun c hc => Token.isLatin1_of_isBlank (hb c hc)
  rw [record?, if_pos hlatin, nameOf?_of_blank hb]
  rfl

theorem not_all_of_foreign {c : Char} (hc : c ∈ piece) (hl : Token.isLatin1 c = false) :
    piece.all Token.isLatin1 = false :=
  List.all_eq_false.2 ⟨c, hc, Bool.eq_false_iff.1 hl⟩

theorem record?_of_name (text : String) (before : List (List Char)) {name : String}
    (hn : nameOf? piece = some name) :
    record? text before piece = if (before.filterMap nameOf?).contains name then
      some (.repeatedDirective name text) else none := by
  have hlatin : piece.all Token.isLatin1 = true := by
    by_contra h
    rw [nameOf?, if_neg h] at hn
    cases hn
  rw [record?, if_pos hlatin, hn, Option.filter_some]
  split <;> rfl

theorem isFilled_of_name {name : String} (hn : nameOf? piece = some name) :
    isFilled piece = true := by
  by_contra hf
  have hb : ∀ c ∈ piece, Source.isBlank c = true := by simpa [isFilled] using hf
  rw [nameOf?_of_blank hb] at hn
  cases hn

theorem nameOf?_of_foreign {c : Char} (hc : c ∈ piece) (hl : Token.isLatin1 c = false) :
    nameOf? piece = none := by
  rw [nameOf?, not_all_of_foreign hc hl]
  rfl

theorem names_concat_none (hn : nameOf? piece = none) :
    (before ++ [piece]).filterMap nameOf? = before.filterMap nameOf? := by
  simp [List.filterMap_append, hn]

theorem names_concat_some {name : String} (hn : nameOf? piece = some name) :
    (before ++ [piece]).filterMap nameOf? = before.filterMap nameOf? ++ [name] := by
  simp [List.filterMap_append, hn]

theorem records_concat_eq (h : Accounts text before s) :
    records text [] (before ++ [piece]) = s.events ++ (record? text before piece).toList := by
  rw [records_concat, ← h.events, List.nil_append]

theorem policy_add_directive (name : String) (values : List String) :
    (s.add text (.directive name values)).policy = s.policy.addNew name values := by
  rw [Reading.add]
  cases hp : s.policy.has name with
  | true => rw [if_pos rfl, addNew, dif_pos hp]
  | false => rfl

/-- A blank changes nothing, and any other piece makes a directive or a record. -/
theorem Accounts.add (h : Accounts text before s) (piece : List Char) :
    Accounts text (before ++ [piece]) (s.add text (Token.ofChars piece)) := by
  have hread := readsAs_ofChars piece
  generalize Token.ofChars piece = token at hread
  cases hread with
  | blank hb =>
    have hfilled : isFilled piece = false := by simpa [isFilled] using hb
    refine ⟨?_, ?_, ?_⟩
    · rw [names_concat_none (nameOf?_of_blank hb)]
      exact h.names
    · rw [records_concat_eq h, record?_of_blank hb, Option.toList_none, List.append_nil]
      rfl
    · rw [List.countP_append, List.countP_singleton, hfilled]
      exact h.count
  | foreign hc hl =>
    have hfilled := isFilled_of_not_blank hc (Token.isBlank_of_not_isLatin1 hl)
    refine ⟨?_, ?_, ?_⟩
    · rw [names_concat_none (nameOf?_of_foreign hc hl)]
      exact h.names
    · rw [records_concat_eq h, record?, not_all_of_foreign hc hl]
      rfl
    · rw [List.countP_append, List.countP_singleton, hfilled, h.count, Reading.add,
        List.length_append, List.length_singleton, if_pos rfl, Nat.add_assoc]
  | @directive name values hn =>
    have hfilled := isFilled_of_name hn
    have hrecord := record?_of_name text before hn
    rw [← h.names] at hrecord
    refine ⟨fun n => ?_, ?_, ?_⟩
    · rw [policy_add_directive, has_addNew, h.names, names_concat_some hn,
        List.contains_append, List.contains_cons, List.contains_nil, Bool.or_false]
    · rw [records_concat_eq h, hrecord, Reading.add]
      cases s.policy.has name <;> simp
    · rw [List.countP_append, List.countP_singleton, hfilled, h.count, Reading.add]
      cases hp : s.policy.has name with
      | true => simp [Nat.add_assoc]
      | false => simp [directives_addNew, hp, Nat.add_right_comm]

end Step

/-- Each piece is accounted for when it is read, and so are all in the end. -/
theorem Accounts.run {text : String} {before : List (List Char)} {s : Reading}
    (h : Accounts text before s) (ps : List (List Char)) :
    Accounts text (before ++ ps) ((ps.map Token.ofChars).foldl (Reading.add text) s) := by
  induction ps generalizing before s with
  | nil => rwa [List.append_nil]
  | cons piece r ih =>
    have hr := ih (h.add piece)
    rwa [List.append_assoc, List.singleton_append] at hr

end Policy

namespace Session

end Session

end ContentPolicy
