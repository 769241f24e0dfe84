import Mathlib.Data.List.Infix
import Armory.Settings.Interpolation

/-!
# The grammar of references

A text is a row of references, each after a literal, and ends with a literal or with a reference that is not closed.
Main statements: every text can be taken apart so in one way (`Reading.exists_text_iff`), and from that it can be
told what the text expands to (`expand_grammar`).
-/

namespace Armory.Settings.Interpolation

variable {value? : String → Option String}

/-- Characters among which no reference begins. -/
@[ext] structure Literal where
  chars : List Char
  plain : ¬ ['$', '\x7b'] <:+: chars

/-- Characters that can stand in a reference. -/
@[ext] structure Name where
  chars : List Char
  closed : '\x7d' ∉ chars

/-- The variable that a name names. -/
def Name.key (n : Name) : String := String.ofList n.chars

/-- A text taken apart from left to right. -/
inductive Reading where
  /-- Nothing but a literal is left. -/
  | literal (l : Literal)
  /-- After a literal a reference begins, and does not end. -/
  | unclosed (l : Literal) (n : Name)
  /-- After a literal there is a reference, and then the rest. -/
  | reference (l : Literal) (n : Name) (rest : Reading)

namespace Reading

/-- The text that is taken apart. -/
def text : Reading → List Char
  | literal l => l.chars
  | unclosed l n => l.chars ++ '$' :: '\x7b' :: n.chars
  | reference l n rest => l.chars ++ '$' :: '\x7b' :: (n.chars ++ '\x7d' :: rest.text)

/-- Every reference that begins is closed. -/
def Complete : Reading → Prop
  | literal _ => True
  | unclosed _ _ => False
  | reference _ _ rest => rest.Complete

/-- The variables that the closed references name, in order. -/
def keys : Reading → List String
  | literal _ | unclosed _ _ => []
  | reference _ n rest => n.key :: rest.keys

/-- The literals as they are, with what the variables hold in the places of the references. -/
def replaced (value? : String → Option String) : Reading → List Char
  | literal l | unclosed l _ => l.chars
  | reference l n rest => l.chars ++ (((value? n.key).getD "").toList ++ rest.replaced value?)

/-! ## Every text can be taken apart in one way -/

/-- A text in which a reference begins has a first place where one does. -/
theorem exists_literal {cs : List Char} (h : ['$', '\x7b'] <:+: cs) :
    ∃ (l : Literal) (rest : List Char), cs = l.chars ++ '$' :: '\x7b' :: rest := by
  induction cs with
  | nil => simp at h
  | cons c cs ih =>
    by_cases here : ['$', '\x7b'] <+: c :: cs
    · obtain ⟨rest, split⟩ := here
      exact ⟨⟨[], by simp⟩, rest, split.symm⟩
    · obtain ⟨l, rest, rfl⟩ := ih ((List.infix_cons_iff.mp h).resolve_left here)
      refine ⟨⟨c :: l.chars, fun inner => ?_⟩, rest, rfl⟩
      rcases List.infix_cons_iff.mp inner with first | later
      · -- a reference at the head would begin there in the whole text too
        exact here (first.trans (by simp))
      · exact l.plain later

theorem exists_text (cs : List Char) : ∃ r : Reading, r.text = cs := by
  by_cases begins : ['$', '\x7b'] <:+: cs
  · obtain ⟨l, after, split⟩ := exists_literal begins
    by_cases ends : '\x7d' ∈ after
    · obtain ⟨name, rest, split', closed⟩ := List.eq_append_cons_of_mem ends
      have shorter : rest.length < cs.length := by
        simp only [split, split', List.length_append, List.length_cons]
        omega
      obtain ⟨r, same⟩ := exists_text rest
      exact ⟨reference l ⟨name, closed⟩ r, by rw [text, same, split, split']⟩
    · exact ⟨unclosed l ⟨after, ends⟩, split.symm⟩
  · exact ⟨literal ⟨cs, begins⟩, rfl⟩
termination_by cs.length

/-- A literal reaches up to the first reference. -/
theorem literal_inj {l l' : Literal} {rest rest' : List Char}
    (h : l.chars ++ '$' :: '\x7b' :: rest = l'.chars ++ '$' :: '\x7b' :: rest') : l = l' ∧ rest = rest' := by
  -- the longer one would go past the beginning of a reference
  have only : ∀ {l l' : Literal} {more rest rest' : List Char}, l'.chars = l.chars ++ more →
      '$' :: '\x7b' :: rest = more ++ '$' :: '\x7b' :: rest' → more = [] := by
    intro l l' more rest rest' longer same
    match more, same with
    | [], _ => rfl
    | [c], same => simp at same
    | c :: d :: more, same =>
      obtain ⟨rfl, rfl, -⟩ : '$' = c ∧ '\x7b' = d ∧ _ := by simpa using same
      exact absurd ⟨l.chars, more, by simp [longer]⟩ l'.plain
  rcases List.append_eq_append_iff.mp h with ⟨more, longer, same⟩ | ⟨more, longer, same⟩
  · obtain rfl := only longer same
    exact ⟨Literal.ext (by simpa using longer.symm), by simpa using same⟩
  · obtain rfl := only longer same
    exact ⟨Literal.ext (by simpa using longer), by simpa using same.symm⟩

/-- A name reaches up to the first brace that closes. -/
theorem name_inj {n n' : Name} {rest rest' : List Char}
    (h : n.chars ++ '\x7d' :: rest = n'.chars ++ '\x7d' :: rest') : n = n' ∧ rest = rest' := by
  have only : ∀ {n n' : Name} {more rest rest' : List Char}, n'.chars = n.chars ++ more →
      '\x7d' :: rest = more ++ '\x7d' :: rest' → more = [] := by
    intro n n' more rest rest' longer same
    cases more with
    | nil => rfl
    | cons c more =>
      obtain ⟨rfl, -⟩ := List.cons.inj same
      exact absurd (by simp [longer]) n'.closed
  rcases List.append_eq_append_iff.mp h with ⟨more, longer, same⟩ | ⟨more, longer, same⟩
  · obtain rfl := only longer same
    exact ⟨Name.ext (by simpa using longer.symm), by simpa using same⟩
  · obtain rfl := only longer same
    exact ⟨Name.ext (by simpa using longer), by simpa using same.symm⟩

theorem text_injective {r r' : Reading} (h : r.text = r'.text) : r = r' := by
  have plain : ∀ {l l' : Literal} {rest : List Char}, l.chars ≠ l'.chars ++ '$' :: '\x7b' :: rest :=
    fun {l l' rest} same => l.plain ⟨l'.chars, rest, by simp [same]⟩
  have closed : ∀ {n n' : Name} {rest : List Char}, n.chars ≠ n'.chars ++ '\x7d' :: rest :=
    fun {n n' rest} same => n.closed (by simp [same])
  induction r generalizing r' with
  | literal l =>
    cases r' with
    | literal l' => exact congrArg literal (Literal.ext h)
    | unclosed l' n' => exact absurd h plain
    | reference l' n' rest' => exact absurd h plain
  | unclosed l n =>
    cases r' with
    | literal l' => exact absurd h.symm plain
    | unclosed l' n' =>
      obtain ⟨rfl, same⟩ := literal_inj h
      exact congrArg (unclosed l) (Name.ext same)
    | reference l' n' rest' => exact absurd (literal_inj h).2 closed
  | reference l n rest ih =>
    cases r' with
    | literal l' => exact absurd h.symm plain
    | unclosed l' n' => exact absurd (literal_inj h).2.symm closed
    | reference l' n' rest' =>
      obtain ⟨rfl, same⟩ := literal_inj h
      obtain ⟨rfl, after⟩ := name_inj same
      rw [ih after]

/-- Every text can be taken apart in exactly one way. -/
theorem exists_text_iff (cs : List Char) : ∃ r : Reading, ∀ r' : Reading, r'.text = cs ↔ r' = r := by
  obtain ⟨r, rfl⟩ := exists_text cs
  exact ⟨r, fun r' => ⟨text_injective, congrArg text⟩⟩

end Reading

/-! ## What a text expands to -/

/-- A literal stands for itself, dollar signs before a reference included. -/
theorem expandFrom_append {cs rest : List Char} (plain : ¬ ['$', '\x7b'] <:+: cs)
    (apart : rest.head? ≠ some '\x7b') :
    expandFrom value? none (cs ++ rest) = (expandFrom value? none rest).map (cs ++ ·) := by
  induction cs with
  | nil => cases h : expandFrom value? none rest <;> simp [h, Except.map]
  | cons c cs ih =>
    have later : ¬ ['$', '\x7b'] <:+: cs := fun inner => plain (List.infix_cons inner)
    have none : ∀ after, c = '$' → cs ++ rest = '\x7b' :: after → False := by
      rintro after rfl begins
      cases cs with
      | nil => exact apart (by rw [show rest = _ from begins]; rfl)
      | cons d cs =>
        obtain ⟨rfl, -⟩ := List.cons.inj begins
        exact plain ⟨[], cs, rfl⟩
    rw [List.cons_append, expandFrom, ih later]
    · cases h : expandFrom value? Option.none rest <;> simp [Except.map]
    · exact none

/-- A reference that is not closed. -/
theorem expandFrom_unclosed {acc cs : List Char} (closed : '\x7d' ∉ cs) :
    expandFrom value? (some acc) cs = .error .openReference := by
  induction cs generalizing acc with
  | nil => rfl
  | cons c cs ih =>
    rw [List.mem_cons, not_or] at closed
    rw [expandFrom, ih closed.2]
    exact fun same => closed.1 same.symm

/-- A reference that is closed. -/
theorem expandFrom_closed {acc cs : List Char} (closed : '\x7d' ∉ cs) (rest : List Char) :
    expandFrom value? (some acc) (cs ++ '\x7d' :: rest) =
      match value? (String.ofList (acc.reverse ++ cs)) with
      | none => .error (.unsetReference (String.ofList (acc.reverse ++ cs)))
      | some value => (expandFrom value? none rest).map (value.toList ++ ·) := by
  induction cs generalizing acc with
  | nil =>
    cases h : value? (String.ofList acc.reverse) <;> simp [expandFrom, h]
  | cons c cs ih =>
    rw [List.mem_cons, not_or] at closed
    rw [List.cons_append, expandFrom, ih closed.2]
    · simp
    · exact fun same => closed.1 same.symm

namespace Reading

/-- What a text comes to that is taken apart. -/
def outcome (value? : String → Option String) : Reading → Except SettingsError (List Char)
  | literal l => .ok l.chars
  | unclosed _ _ => .error .openReference
  | reference l n rest => match value? n.key with
    | none => .error (.unsetReference n.key)
    | some value => (rest.outcome value?).map fun tail => l.chars ++ (value.toList ++ tail)

theorem expandFrom_text (r : Reading) : expandFrom value? none r.text = r.outcome value? := by
  induction r with
  | literal l =>
    have h : expandFrom value? none (l.chars ++ []) = (expandFrom value? none []).map (l.chars ++ ·) :=
      expandFrom_append l.plain (by simp)
    simpa [text, outcome, expandFrom, Except.map] using h
  | unclosed l n =>
    rw [text, expandFrom_append l.plain (by simp), expandFrom, expandFrom_unclosed n.closed]
    rfl
  | reference l n rest ih =>
    rw [text, expandFrom_append l.plain (by simp), expandFrom, expandFrom_closed n.closed, ih, outcome]
    simp only [List.reverse_nil, List.nil_append, Name.key]
    cases value? (String.ofList n.chars) with
    | none => rfl
    | some value => cases rest.outcome value? <;> rfl

/-- A reference to a variable that is not set ends the text there. -/
theorem outcome_of_unset {r : Reading} {key : String} {before after : List String}
    (split : r.keys = before ++ key :: after) (set : ∀ k ∈ before, (value? k).isSome)
    (unset : value? key = none) : r.outcome value? = .error (.unsetReference key) := by
  induction r generalizing before with
  | literal l => simp [keys] at split
  | unclosed l n => simp [keys] at split
  | reference l n rest ih =>
    cases before with
    | nil =>
      obtain ⟨rfl, -⟩ := List.cons.inj split
      simp [outcome, unset]
    | cons k before =>
      obtain ⟨rfl, later⟩ := List.cons.inj split
      obtain ⟨value, hv⟩ := Option.isSome_iff_exists.1 (set _ List.mem_cons_self)
      rw [outcome, hv]
      simp [ih later fun k hk => set k (List.mem_cons_of_mem _ hk), Except.map]

/-- Where all variables are set, only a reference that is not closed can go wrong. -/
theorem outcome_of_set {r : Reading} (set : ∀ k ∈ r.keys, (value? k).isSome) :
    (r.Complete ∧ r.outcome value? = .ok (r.replaced value?)) ∨
      (¬ r.Complete ∧ r.outcome value? = .error .openReference) := by
  induction r with
  | literal l => exact .inl ⟨trivial, rfl⟩
  | unclosed l n => exact .inr ⟨id, rfl⟩
  | reference l n rest ih =>
    obtain ⟨value, hv⟩ := Option.isSome_iff_exists.1 (set _ List.mem_cons_self)
    rw [outcome, replaced, hv]
    refine (ih fun k hk => set k (List.mem_cons_of_mem _ hk)).imp ?_ ?_
    · exact fun ⟨complete, out⟩ => ⟨complete, by simp [out, Except.map]⟩
    · exact fun ⟨incomplete, out⟩ => ⟨incomplete, by simp [out, Except.map]⟩

/-- All variables are set, or there is a first one that is not. -/
theorem set_or_first_unset (value? : String → Option String) (keys : List String) :
    (∀ k ∈ keys, (value? k).isSome) ∨
      ∃ key before after, keys = before ++ key :: after ∧ (∀ k ∈ before, (value? k).isSome) ∧
        value? key = none := by
  cases found : keys.find? fun k => (value? k).isNone with
  | none =>
    refine .inl fun k hk => ?_
    simpa [← Option.ne_none_iff_isSome] using List.find?_eq_none.mp found k hk
  | some key =>
    obtain ⟨unset, before, after, rfl, set⟩ := List.find?_eq_some_iff_append.mp found
    refine .inr ⟨key, before, after, rfl, fun k hk => ?_, by simpa using unset⟩
    simpa [← Option.ne_none_iff_isSome] using set k hk

theorem outcome_eq_ok_iff {r : Reading} {out : List Char} :
    r.outcome value? = .ok out ↔
      r.Complete ∧ (∀ k ∈ r.keys, (value? k).isSome) ∧ out = r.replaced value? := by
  constructor
  · intro h
    rcases set_or_first_unset value? r.keys with set | ⟨key, before, after, split, set, unset⟩
    · rcases outcome_of_set set with ⟨complete, ok⟩ | ⟨-, failed⟩
      · exact ⟨complete, set, Except.ok.inj (h.symm.trans ok)⟩
      · cases h.symm.trans failed
    · cases h.symm.trans (outcome_of_unset split set unset)
  · rintro ⟨complete, set, rfl⟩
    exact ((outcome_of_set set).resolve_right fun h => h.1 complete).2

theorem outcome_eq_unset_iff {r : Reading} {key : String} :
    r.outcome value? = .error (.unsetReference key) ↔
      value? key = none ∧
        ∃ before after, r.keys = before ++ key :: after ∧ ∀ k ∈ before, (value? k).isSome := by
  constructor
  · intro h
    rcases set_or_first_unset value? r.keys with set | ⟨first, before, after, split, set, unset⟩
    · rcases outcome_of_set set with ⟨-, ok⟩ | ⟨-, failed⟩
      · cases h.symm.trans ok
      · cases h.symm.trans failed
    · cases h.symm.trans (outcome_of_unset split set unset)
      exact ⟨unset, before, after, split, set⟩
  · rintro ⟨unset, before, after, split, set⟩
    exact outcome_of_unset split set unset

theorem outcome_eq_open_iff {r : Reading} :
    r.outcome value? = .error .openReference ↔ ¬ r.Complete ∧ ∀ k ∈ r.keys, (value? k).isSome := by
  constructor
  · intro h
    rcases set_or_first_unset value? r.keys with set | ⟨key, before, after, split, set, unset⟩
    · rcases outcome_of_set set with ⟨-, ok⟩ | ⟨incomplete, -⟩
      · cases h.symm.trans ok
      · exact ⟨incomplete, set⟩
    · cases h.symm.trans (outcome_of_unset split set unset)
  · rintro ⟨incomplete, set⟩
    exact ((outcome_of_set set).resolve_left fun h => incomplete h.1).2

end Reading

/-- **The grammar of references.** Every text can be taken apart in exactly one way into literals in which no reference
begins and references whose names hold no brace that closes. If all references are closed and all their variables are
set, the text expands to its literals and, in the places of the references, what the variables hold, as it is. Else
it expands to nothing: the first variable that is not set is the error, unless a reference that is not closed comes
before. -/
theorem expand_grammar (value? : String → Option String) (text : String) :
    ∃ r : Reading, (∀ r' : Reading, r'.text = text.toList ↔ r' = r) ∧
      (∀ out, expand value? text = .ok out ↔
        r.Complete ∧ (∀ k ∈ r.keys, (value? k).isSome) ∧ out.toList = r.replaced value?) ∧
      (∀ key, expand value? text = .error (.unsetReference key) ↔
        value? key = none ∧
          ∃ before after, r.keys = before ++ key :: after ∧ ∀ k ∈ before, (value? k).isSome) ∧
      (expand value? text = .error .openReference ↔ ¬ r.Complete ∧ ∀ k ∈ r.keys, (value? k).isSome) ∧
      ((∃ out, expand value? text = .ok out) ∨ (∃ key, expand value? text = .error (.unsetReference key)) ∨
        expand value? text = .error .openReference) := by
  obtain ⟨r, only⟩ := Reading.exists_text_iff text.toList
  have expanded : expand value? text = (r.outcome value?).map String.ofList := by
    rw [expand, ← (only r).mpr rfl, Reading.expandFrom_text]
  have errors : ∀ e, expand value? text = .error e ↔ r.outcome value? = .error e := by
    intro e
    rw [expanded]
    cases r.outcome value? <;> simp [Except.map]
  have texts : ∀ out, expand value? text = .ok out ↔ r.outcome value? = .ok out.toList := by
    intro out
    rw [expanded]
    cases r.outcome value? <;> simp [Except.map, ← String.toList_inj]
  refine ⟨r, only, fun out => ?_, fun key => ?_, ?_, ?_⟩
  · rw [texts, Reading.outcome_eq_ok_iff]
  · rw [errors, Reading.outcome_eq_unset_iff]
  · rw [errors, Reading.outcome_eq_open_iff]
  · rcases Reading.set_or_first_unset value? r.keys with set | ⟨key, before, after, split, set, unset⟩
    · rcases Reading.outcome_of_set set with ⟨-, ok⟩ | ⟨-, failed⟩
      · exact .inl ⟨_, by rw [expanded, ok]; rfl⟩
      · exact .inr (.inr ((errors _).mpr failed))
    · exact .inr (.inl ⟨key, (errors _).mpr (Reading.outcome_of_unset split set unset)⟩)

/-- Dollar signs before a reference are literal, and what a variable holds is not read again. -/
example : expand (fun _ => some "$\x7bb\x7d") "$$$\x7ba\x7d$" = .ok "$$$\x7bb\x7d$" := by decide

end Armory.Settings.Interpolation
