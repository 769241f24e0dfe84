import Armory.Proofs.Store.Definitions

/-! The catalog that a service starts with, made of definitions in the order of their hashes. Main statement: it
defines each of their hashes once, has for engrams those whose names say so, and finds under a name that is no alias the
least hash of that name (`Startup.indexes_catalog`). -/
namespace Armory

/-! ## Tables made of lists -/

namespace Table

variable {κ α : Type}

/-- Where the keys of a list ascend, the table made of it has its entries just as they are. -/
theorem place_of_forall_lt {k : Hash} {a : α} {es : List (Hash × α)} (before : ∀ e ∈ es, e.1 < k) :
    place k a es = es ++ [(k, a)] := by
  induction es with
  | nil => rfl
  | cons e es ih =>
    obtain ⟨first, rest⟩ := List.forall_mem_cons.mp before
    rw [place, if_neg (UInt32.ne_of_lt first), if_neg (UInt32.lt_asymm first), ih rest, List.cons_append]

theorem ofList_of_ascending {es : List (Hash × α)} (ascending : es.Pairwise fun e f => e.1 < f.1) :
    ofList es = ⟨es⟩ := by
  suffices entries : (ofList es).entries = es by
    exact congrArg Table.mk entries
  unfold ofList
  -- the induction is on what is left, after entries whose keys come before all of its keys
  suffices goes : ∀ t : Table Hash α, (∀ e ∈ t.entries, ∀ f ∈ es, e.1 < f.1) →
      (es.foldl (fun t e => t.insert e.1 e.2) t).entries = t.entries ++ es from
    goes .empty nofun
  induction es with
  | nil => simp
  | cons f es ih =>
    intro t before
    obtain ⟨after, ascending⟩ := List.pairwise_cons.mp ascending
    have placed : (t.insert f.1 f.2).entries = t.entries ++ [f] :=
      place_of_forall_lt fun e he => before e he f List.mem_cons_self
    rw [List.foldl_cons, ih ascending, placed, List.append_assoc, List.singleton_append]
    intro e he g hg
    rw [placed, List.mem_append, List.mem_singleton] at he
    rcases he with he | rfl
    · exact before e he g (List.mem_cons_of_mem f hg)
    · exact after g hg

/-- Of repeated keys the first one counts. -/
theorem get?_ofListFirst [DecidableEq κ] [LT κ] [DecidableLT κ] (es : List (κ × α)) (k : κ) :
    (ofListFirst es).get? k = (es.find? fun e => decide (e.1 = k)).map (·.2) := by
  unfold ofListFirst
  suffices goes : ∀ t : Table κ α,
      (es.foldl (fun t e => if t.contains e.1 then t else t.insert e.1 e.2) t).get? k =
        (t.get? k).or ((es.find? fun e => decide (e.1 = k)).map (·.2)) by
    rw [goes, get?_empty, Option.none_or]
  induction es with
  | nil => simp
  | cons e es ih =>
    intro t
    rw [List.foldl_cons, ih]
    by_cases own : e.1 = k
    · subst own
      cases held : t.get? e.1 <;> simp [contains, held]
    · by_cases taken : t.contains e.1 <;> simp [taken, own]

end Table

/-- A text occurs in another iff it is a stretch of it. -/
theorem Text.occursIn_iff {needle s : List Char} : Text.occursIn needle s = true ↔ needle <:+: s := by
  have starts : ∀ s, (Text.afterStart? needle s).isSome ↔ needle <+: s := by
    intro s
    rw [Option.isSome_iff_exists]
    exact exists_congr fun rest => Text.afterStart?_eq_some_iff.trans eq_comm
  induction s with
  | nil => simp [Text.occursIn]
  | cons c s ih =>
    rw [Text.occursIn, Bool.or_eq_true, List.infix_cons_iff]
    exact or_congr (starts _) ih

/-! ## The catalog -/

/-- A catalog of definitions in the order of their hashes. -/
structure Catalog.Indexes (c : Catalog) (xs : List Definition) : Prop where
  /-- There is one definition for each hash. -/
  count : c.definitionCount = xs.length
  definition : ∀ h, c.definition? h = Definition.find? h xs
  /-- Engrams are the hashes whose names say so. -/
  engram : ∀ h, c.isEngram h = true ↔
    ∃ x ∈ xs, x.itemHash = h ∧ "engram".toList <:+: Text.lowercase x.name.toList
  /-- A name that is no alias means the least of the hashes that have it, if there is one. -/
  named : ∀ name, c.itemAliases.get? (normalizeName name) = none → ∀ h, c.itemHash? name = some h ↔
    (∃ x ∈ xs, x.itemHash = h ∧ normalizeName x.name = normalizeName name) ∧
      ∀ x ∈ xs, normalizeName x.name = normalizeName name → h ≤ x.itemHash
  unnamed : ∀ name, c.itemAliases.get? (normalizeName name) = none →
    (c.itemHash? name = none ↔ ∀ x ∈ xs, normalizeName x.name ≠ normalizeName name)

namespace Startup

variable {xs : List Definition}

/-- The first definition with some property, where the hashes ascend, is the one of the least hash. -/
theorem find?_map_eq_some_iff (ascending : Definition.Ascending xs) {p : Definition → Bool} {h : Hash} :
    (xs.find? p).map (·.itemHash) = some h ↔
      (∃ x ∈ xs, x.itemHash = h ∧ p x = true) ∧ ∀ x ∈ xs, p x = true → h ≤ x.itemHash := by
  induction xs with
  | nil => simp
  | cons y xs ih =>
    obtain ⟨after, ascending⟩ := List.pairwise_cons.mp ascending
    cases own : p y with
    | true =>
      rw [List.find?_cons_of_pos own, Option.map_some, Option.some.injEq]
      constructor
      · rintro rfl
        refine ⟨⟨y, List.mem_cons_self, rfl, own⟩, fun x hx _ => ?_⟩
        rcases List.mem_cons.mp hx with rfl | hx
        · exact UInt32.le_refl _
        · exact UInt32.le_of_lt (after x hx)
      · rintro ⟨⟨x, hx, rfl, -⟩, least⟩
        rcases List.mem_cons.mp hx with rfl | hx
        · rfl
        · have less := UInt32.lt_of_lt_of_le (after x hx) (least y List.mem_cons_self own)
          exact absurd less (UInt32.lt_irrefl _)
    | false =>
      have others : ∀ {q : Definition → Prop}, (∀ x ∈ y :: xs, p x = true → q x) ↔
          ∀ x ∈ xs, p x = true → q x := by
        intro q
        simp [own]
      rw [List.find?_cons_of_neg (by simp [own]), ih ascending, others]
      simp [own]

theorem itemHash?_catalog {name : String}
    (plain : (catalog xs).itemAliases.get? (normalizeName name) = none) :
    (catalog xs).itemHash? name =
      (xs.find? fun x => decide (normalizeName x.name = normalizeName name)).map (·.itemHash) := by
  have means : (catalog xs).itemName name = normalizeName name := by
    rw [Catalog.itemName, plain, Option.getD_none]
  rw [Catalog.itemHash?, means]
  refine (Table.get?_ofListFirst _ _).trans ?_
  rw [Catalog.Source.withNamedEngrams, List.find?_map, Option.map_map]
  rfl

theorem definitions_catalog (ascending : Definition.Ascending xs) :
    (catalog xs).definitions = ⟨xs.map fun x => (x.itemHash, x)⟩ :=
  Table.ofList_of_ascending (List.pairwise_map.mpr ascending)

/-- **The catalog of stored definitions.** -/
theorem indexes_catalog (ascending : Definition.Ascending xs) : (catalog xs).Indexes xs where
  count := by
    rw [Catalog.definitionCount, definitions_catalog ascending, Table.size, List.length_map]
  definition h := by
    rw [Catalog.definition?, definitions_catalog ascending, Table.get?]
    induction xs with
    | nil => rfl
    | cons x xs ih =>
      have later := ih (List.pairwise_cons.mp ascending).2
      by_cases own : x.itemHash = h
      · simp [Table.find, Definition.find?, own]
      · simpa [Table.find, Definition.find?, own] using later
  engram h := by
    have listed : (catalog xs).engramHashes = (xs.filter (·.namesEngram)).map (·.itemHash) := rfl
    rw [Catalog.isEngram, List.contains_iff_mem, listed]
    simp [Definition.namesEngram, Text.occursIn_iff, and_comm, and_left_comm]
  named name plain h := by
    rw [itemHash?_catalog plain, find?_map_eq_some_iff ascending]
    simp
  unnamed name plain := by
    rw [itemHash?_catalog plain]
    simp

end Startup
end Armory
