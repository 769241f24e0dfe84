import Mathlib.Data.List.Basic
import Armory.Text.Lowercase

/-! Lower case once and again. Sets of code points are compared as the bits of one number each. The small forms of the
capitals are disjoint from the capitals, and from the few code points at which a small form could be taken for
something else (`smalls_disjoint`), so that each small letter is its own lower-case form. Main statements: a text in
lower case is its own lower-case form (`lowercase_lowercase`), and lower case neither makes nor loses white space
(`exists_lowerFrom_append`). -/
namespace Armory.Text

/-! ## Sets of code points -/

/-- A number of which the bits `0, step, …, count * step` are set. -/
def stripes (step : Nat) : Nat → Nat
  | 0 => 1
  | count + 1 => stripes step count <<< step ||| 1

theorem testBit_stripes (step : Nat) {k count : Nat} (few : k ≤ count) :
    (stripes step count).testBit (k * step) = true := by
  induction count generalizing k with
  | zero =>
    rw [Nat.le_zero.mp few, Nat.zero_mul, stripes, Nat.testBit_zero]
    rfl
  | succ count ih =>
    rw [stripes, Nat.testBit_or]
    cases k with
    | zero => simp
    | succ k => simp [Nat.testBit_shiftLeft, Nat.succ_mul, ih (Nat.le_of_succ_le_succ few)]

/-- What any of the parts sets is set. -/
def union {α : Type} (bits : α → Nat) (parts : List α) : Nat := parts.foldr (fun a rest => bits a ||| rest) 0

theorem testBit_union {α : Type} {bits : α → Nat} {parts : List α} {a : α} {n : Nat} (mem : a ∈ parts)
    (set : (bits a).testBit n = true) : (union bits parts).testBit n = true := by
  induction parts with
  | nil => cases mem
  | cons b parts ih =>
    rw [union, List.foldr_cons, Nat.testBit_or, Bool.or_eq_true]
    rcases List.mem_cons.mp mem with rfl | later
    · exact .inl set
    · exact .inr (ih later)

theorem not_testBit_of_disjoint {a b n : Nat} (disjoint : a &&& b = 0) (set : a.testBit n = true) :
    b.testBit n = false := by
  have neither := Nat.testBit_and a b n
  rw [disjoint, Nat.zero_testBit, set, Bool.true_and] at neither
  exact neither.symm

/-! ## Capitals and their small forms -/

/-- As many code points as a run has, at its steps, from a first one on. -/
def CaseRun.bitsFrom (run : CaseRun) (first : Nat) : Nat :=
  stripes run.step ((run.last - run.first) / run.step) <<< first

/-- The capitals of the runs. -/
def capitals : Nat := union (fun run : CaseRun => run.bitsFrom run.first) caseRuns

/-- The small forms of these capitals. -/
def smalls : Nat := union (fun run : CaseRun => run.bitsFrom (run.first + run.up - run.down)) caseRuns

/-- The capitals of ASCII, the dotted capital I, and white space. -/
def barredRanges : List (Nat × Nat) :=
  [(65, 90), (0x130, 0x130), (9, 13), (0x20, 0x20), (0x85, 0x85), (0xA0, 0xA0), (0x1680, 0x1680), (0x2000, 0x200A),
    (0x2028, 0x2029), (0x202F, 0x202F), (0x205F, 0x205F), (0x3000, 0x3000)]

/-- The code points of the ranges. -/
def barred : Nat := union (fun r => stripes 1 (r.2 - r.1) <<< r.1) barredRanges

theorem smalls_disjoint : smalls &&& capitals = 0 ∧ smalls &&& barred = 0 := by
  decide +kernel

theorem valid_caseRuns : ∀ run ∈ caseRuns, run.down ≤ run.first + run.up ∧
    (run.last + run.up - run.down < 0xD800 ∨
      0xDFFF < run.first + run.up - run.down ∧ run.last + run.up - run.down < 0x110000) := by
  decide +kernel

section Small

variable {run : CaseRun} {n : Nat}

theorem CaseRun.contains_iff :
    run.contains n = true ↔ run.first ≤ n ∧ n ≤ run.last ∧ (n - run.first) % run.step = 0 := by
  simp [CaseRun.contains, and_assoc]

/-- A code point of a run, as far behind another first one. -/
theorem CaseRun.testBit_bitsFrom (inside : run.contains n = true) (first : Nat) :
    (run.bitsFrom first).testBit (n - run.first + first) = true := by
  obtain ⟨-, greatest, place⟩ := contains_iff.mp inside
  have steps : (n - run.first) / run.step * run.step = n - run.first :=
    Nat.div_mul_cancel (Nat.dvd_of_mod_eq_zero place)
  have few : (n - run.first) / run.step ≤ (run.last - run.first) / run.step :=
    Nat.div_le_div_right (Nat.sub_le_sub_right greatest _)
  have set := testBit_stripes run.step few
  rw [steps] at set
  simp [bitsFrom, Nat.testBit_shiftLeft, set]

theorem testBit_capitals (mem : run ∈ caseRuns) (inside : run.contains n = true) : capitals.testBit n = true := by
  have set := CaseRun.testBit_bitsFrom inside run.first
  rw [Nat.sub_add_cancel (CaseRun.contains_iff.mp inside).1] at set
  exact testBit_union mem set

theorem testBit_smalls (mem : run ∈ caseRuns) (inside : run.contains n = true) :
    smalls.testBit (n + run.up - run.down) = true := by
  have set := CaseRun.testBit_bitsFrom inside (run.first + run.up - run.down)
  have least := (CaseRun.contains_iff.mp inside).1
  have down := (valid_caseRuns run mem).1
  have place : n - run.first + (run.first + run.up - run.down) = n + run.up - run.down := by omega
  rw [place] at set
  refine testBit_union mem ?_
  exact set

theorem testBit_barred (within : inRanges barredRanges n = true) : barred.testBit n = true := by
  obtain ⟨r, hr, within⟩ := List.any_eq_true.mp within
  obtain ⟨least, greatest⟩ : r.1 ≤ n ∧ n ≤ r.2 := by simpa using within
  have set := testBit_stripes 1 (Nat.sub_le_sub_right greatest r.1)
  refine testBit_union hr ?_
  simpa [Nat.testBit_shiftLeft, least] using set

/-- The small form of a capital is no capital of any run. -/
theorem contains_small {other : CaseRun} (mem : run ∈ caseRuns) (inside : run.contains n = true)
    (mem' : other ∈ caseRuns) : other.contains (n + run.up - run.down) = false := by
  have free := not_testBit_of_disjoint smalls_disjoint.1 (testBit_smalls mem inside)
  exact Bool.eq_false_iff.mpr fun again => Bool.eq_false_iff.mp free (testBit_capitals mem' again)

theorem barred_small (mem : run ∈ caseRuns) (inside : run.contains n = true) :
    inRanges barredRanges (n + run.up - run.down) = false := by
  have free := not_testBit_of_disjoint smalls_disjoint.2 (testBit_smalls mem inside)
  exact Bool.eq_false_iff.mpr fun within => Bool.eq_false_iff.mp free (testBit_barred within)

theorem toNat_small (mem : run ∈ caseRuns) (inside : run.contains n = true) :
    (Char.ofNat (n + run.up - run.down)).toNat = n + run.up - run.down := by
  obtain ⟨least, greatest, -⟩ := CaseRun.contains_iff.mp inside
  have valid : (n + run.up - run.down).isValidChar := by
    rcases (valid_caseRuns run mem).2 with low | ⟨high, few⟩
    · exact .inl (by omega)
    · exact .inr ⟨by omega, by omega⟩
  rw [Char.ofNat, dif_pos valid]
  rfl

end Small

theorem inRanges_iff {ranges : List (Nat × Nat)} {n : Nat} :
    inRanges ranges n = true ↔ ∃ r ∈ ranges, r.1 ≤ n ∧ n ≤ r.2 := by
  simp [inRanges]

/-- White space is barred. -/
theorem inRanges_of_isBlank {c : Char} (blank : isBlank c = true) : inRanges barredRanges c.toNat = true := by
  simp only [isBlank, Bool.or_eq_true, Bool.and_eq_true, decide_eq_true_eq, beq_iff_eq] at blank
  simp only [inRanges_iff, barredRanges, List.mem_cons, List.not_mem_nil, or_false, exists_eq_or_imp, exists_eq_left]
  omega

/-! ## One character -/

/-- A character that is its own lower-case form, wherever it stands. -/
def IsSmall (c : Char) : Prop := lowerChar c = [c] ∧ c ≠ 'Σ'

instance (c : Char) : Decidable (IsSmall c) := inferInstanceAs (Decidable (_ ∧ _))

theorem toLower_ascii : ∀ n < 128, IsSmall (Char.ofNat n).toLower ∧
    (isBlank (Char.ofNat n) = false → isBlank (Char.ofNat n).toLower = false) ∧
    ((n < 65 ∨ 90 < n) → (Char.ofNat n).toLower = Char.ofNat n) := by
  decide

/-- A character is its own lower-case form if it is no capital of ASCII or a run, and has no dot. -/
theorem isSmall_of_none {c : Char} (ascii : c.toNat < 128 → c.toLower = c) (dotless : c ≠ '\u0130')
    (free : caseRuns.find? (·.contains c.toNat) = none) : IsSmall c := by
  refine ⟨?_, ?_⟩
  · unfold lowerChar
    split
    · rename_i few
      rw [ascii few]
    · rw [if_neg (by simpa using dotless), free]
  · rintro rfl
    have capital : (caseRuns.find? (·.contains 'Σ'.toNat)).isSome := by decide
    rw [free] at capital
    cases capital

/-- The lower-case form of a character: one character or more, each of them small, and white space only of white
space. -/
structure Lowers (c : Char) (cs : List Char) : Prop where
  nonempty : cs ≠ []
  small : ∀ d ∈ cs, IsSmall d
  visible : isBlank c = false → ∀ d ∈ cs, isBlank d = false

theorem lowers_singleton {c d : Char} (small : IsSmall d) (visible : isBlank c = false → isBlank d = false) :
    Lowers c [d] where
  nonempty := List.cons_ne_nil _ _
  small e he := by rwa [List.mem_singleton.mp he]
  visible shows e he := by rw [List.mem_singleton.mp he, visible shows]

/-- The small form that a run of capitals gives. -/
theorem lowers_run {run : CaseRun} {c : Char} (mem : run ∈ caseRuns) (inside : run.contains c.toNat = true) :
    Lowers c [Char.ofNat (c.toNat + run.up - run.down)] := by
  have code := toNat_small mem inside
  have allowed := barred_small mem inside
  rw [← code] at allowed
  refine lowers_singleton (isSmall_of_none (fun few => ?_) (fun dotted => ?_) ?_) fun _ => ?_
  · have plain := (toLower_ascii _ few).2.2
    rw [Char.ofNat_toNat] at plain
    refine plain (Classical.byContradiction fun capital => ?_)
    exact absurd (inRanges_iff.mpr ⟨(65, 90), by decide, by omega, by omega⟩) (Bool.eq_false_iff.mp allowed)
  · rw [dotted] at allowed
    cases allowed
  · rw [List.find?_eq_none]
    intro other mem'
    rw [code, contains_small mem inside mem']
    exact Bool.false_ne_true
  · exact Bool.eq_false_iff.mpr fun blank => Bool.eq_false_iff.mp allowed (inRanges_of_isBlank blank)

theorem lowers_lowerChar {c : Char} (other : c ≠ 'Σ') : Lowers c (lowerChar c) := by
  by_cases few : c.toNat < 128
  · obtain ⟨small, visible, -⟩ := toLower_ascii _ few
    rw [Char.ofNat_toNat] at small visible
    rw [lowerChar, if_pos few]
    exact lowers_singleton small visible
  by_cases dotted : c = '\u0130'
  · subst dotted
    have form : lowerChar '\u0130' = ['i', '\u0307'] := rfl
    rw [form]
    refine ⟨List.cons_ne_nil _ _, ?_, fun _ => ?_⟩
    · exact List.forall_mem_cons.mpr ⟨by decide, List.forall_mem_singleton.mpr (by decide)⟩
    · exact List.forall_mem_cons.mpr ⟨by decide, List.forall_mem_singleton.mpr (by decide)⟩
  rw [lowerChar, if_neg few, if_neg (by simpa using dotted)]
  cases found : caseRuns.find? (·.contains c.toNat) with
  | some run =>
    have inside : run.contains c.toNat = true := by simpa using List.find?_some found
    exact lowers_run (List.mem_of_find?_eq_some found) inside
  | none => exact lowers_singleton (isSmall_of_none (fun ascii => absurd ascii few) dotted found) id

/-! ## Texts -/

/-- The first character of a text is lowered by itself, but for the form that a sigma takes. -/
theorem exists_lowerFrom_cons (before : List Char) (c : Char) (rest : List Char) :
    ∃ cs, Lowers c cs ∧ lowerFrom before (c :: rest) = cs ++ lowerFrom (c :: before) rest := by
  by_cases sigma : c = 'Σ'
  · subst sigma
    have lowers (d : Char) (form : d = 'ς' ∨ d = 'σ') : Lowers 'Σ' [d] := by
      rcases form with rfl | rfl <;> exact lowers_singleton (by decide) fun _ => by decide
    refine ⟨_, ?_, rfl⟩
    rw [if_pos (BEq.refl _)]
    split
    · exact lowers 'ς' (.inl rfl)
    · exact lowers 'σ' (.inr rfl)
  · refine ⟨lowerChar c, lowers_lowerChar sigma, ?_⟩
    rw [lowerFrom, if_neg (by simpa using sigma)]

theorem isSmall_of_mem_lowerFrom {before s : List Char} {d : Char} (hd : d ∈ lowerFrom before s) : IsSmall d := by
  induction s generalizing before with
  | nil => cases hd
  | cons c rest ih =>
    obtain ⟨cs, lowers, split⟩ := exists_lowerFrom_cons before c rest
    rw [split, List.mem_append] at hd
    rcases hd with here | later
    · exact lowers.small d here
    · exact ih later

/-- A text of small characters is its own lower-case form. -/
theorem lowerFrom_eq_self {s : List Char} (small : ∀ c ∈ s, IsSmall c) (before : List Char) :
    lowerFrom before s = s := by
  induction s generalizing before with
  | nil => rfl
  | cons c rest ih =>
    obtain ⟨⟨same, other⟩, rest_small⟩ := List.forall_mem_cons.mp small
    rw [lowerFrom, if_neg (by simpa using other), same, ih rest_small, List.singleton_append]

/-- **Lower case once is lower case for good.** -/
theorem lowercase_lowercase (s : List Char) : lowercase (lowercase s) = lowercase s :=
  lowerFrom_eq_self (fun _ => isSmall_of_mem_lowerFrom) []

/-- **Lower case makes no white space and loses no text**: a stretch without white space becomes another one, and
nothing only if it is nothing. -/
theorem exists_lowerFrom_append {w : List Char} (visible : ∀ c ∈ w, isBlank c = false) (before rest : List Char) :
    ∃ w' : List Char, (w' = [] ↔ w = []) ∧ (∀ c ∈ w', isBlank c = false) ∧
      lowerFrom before (w ++ rest) = w' ++ lowerFrom (w.reverse ++ before) rest := by
  induction w generalizing before with
  | nil => exact ⟨[], Iff.rfl, nofun, rfl⟩
  | cons c w ih =>
    obtain ⟨shows, visible⟩ := List.forall_mem_cons.mp visible
    obtain ⟨cs, lowers, split⟩ := exists_lowerFrom_cons before c (w ++ rest)
    obtain ⟨w', -, visible', split'⟩ := ih visible (c :: before)
    refine ⟨cs ++ w', by simp [lowers.nonempty], fun d hd => ?_, ?_⟩
    · rcases List.mem_append.mp hd with here | later
      · exact lowers.visible shows d here
      · exact visible' d later
    · rw [List.cons_append, split, split', List.reverse_cons, List.append_assoc, List.append_assoc,
        List.singleton_append]

theorem lowerFrom_space (before rest : List Char) :
    lowerFrom before (' ' :: rest) = ' ' :: lowerFrom (' ' :: before) rest := rfl

end Armory.Text
