import Mathlib.Data.List.Nodup
import Mathlib.Data.List.Perm.Basic
import Armory.Startup

/-! The table of item definitions, seen as a list of definitions that all have different hashes. Writing puts each
definition in the place of the one with its hash, so the last one of a hash counts (`Definition.find?_putAll`), and
writing the same definitions again changes nothing (`Definition.putAll_again`). Every database that has been written
through its own operations holds such a list (`Store.Database.Written.holds`), and gives it back in the order of the
hashes (`Store.Database.Holds.load`). -/
namespace Armory

namespace Definition

variable {xs ys : List Definition} {x : Definition} {h : Hash}

/-- The first definition of a hash. -/
def find? (h : Hash) (xs : List Definition) : Option Definition := List.find? (·.itemHash == h) xs

/-- The hashes of definitions. -/
def hashes (xs : List Definition) : List Hash := xs.map (·.itemHash)

/-- Definitions in ascending order of their hashes, so that none comes twice. -/
def Ascending (xs : List Definition) : Prop := xs.Pairwise fun x y => x.itemHash < y.itemHash

/-- The definitions with one more, which takes the place of the one with its hash. -/
def put (xs : List Definition) (x : Definition) : List Definition :=
  if xs.any (·.itemHash == x.itemHash) then
    xs.map fun y => if y.itemHash == x.itemHash then x else y
  else xs ++ [x]

/-- The definitions with more of them put in, one after another. -/
def putAll (xs ys : List Definition) : List Definition := ys.foldl put xs

theorem find?_eq_some_iff (once : (hashes xs).Nodup) : find? h xs = some x ↔ x ∈ xs ∧ x.itemHash = h := by
  constructor
  · intro found
    exact ⟨List.mem_of_find?_eq_some found, by simpa using List.find?_some found⟩
  · rintro ⟨hx, rfl⟩
    cases found : find? x.itemHash xs with
    | none =>
      have other := List.find?_eq_none.mp found x hx
      simp at other
    | some y =>
      have hy : y ∈ xs := List.mem_of_find?_eq_some found
      have same : y.itemHash = x.itemHash := by simpa using List.find?_some found
      rw [List.inj_on_of_nodup_map once hy hx same]

theorem find?_perm (perm : xs.Perm ys) (once : (hashes xs).Nodup) (h : Hash) :
    find? h xs = find? h ys := by
  have once' : (hashes ys).Nodup := (perm.map itemHash).nodup once
  ext x
  rw [find?_eq_some_iff once, find?_eq_some_iff once', perm.mem_iff]

theorem isSome_find? : (find? h xs).isSome ↔ h ∈ hashes xs := by
  simp [find?, hashes]

/-! ## Putting definitions in -/

theorem hashes_put (xs : List Definition) (x : Definition) :
    hashes (put xs x) = if x.itemHash ∈ hashes xs then hashes xs else hashes xs ++ [x.itemHash] := by
  have taken : xs.any (·.itemHash == x.itemHash) = true ↔ x.itemHash ∈ hashes xs := by simp [hashes]
  unfold put
  simp only [taken]
  split
  · rw [hashes, hashes, List.map_map]
    refine List.map_congr_left fun y _ => ?_
    simp only [Function.comp, beq_iff_eq]
    split
    · exact Eq.symm ‹_›
    · rfl
  · simp [hashes]

theorem find?_put (xs : List Definition) (x : Definition) (h : Hash) :
    find? h (put xs x) = if x.itemHash = h then some x else find? h xs := by
  unfold put
  split
  · rename_i taken
    -- the one that is replaced keeps its hash
    have found : find? h (xs.map fun y => if y.itemHash == x.itemHash then x else y) =
        (find? h xs).map fun y => if y.itemHash == x.itemHash then x else y := by
      rw [find?, List.find?_map]
      congr 2
      funext y
      simp only [Function.comp, beq_iff_eq]
      split
      · rw [‹y.itemHash = x.itemHash›]
      · rfl
    rw [found]
    cases old : find? h xs with
    | none =>
      have other : ¬ x.itemHash = h := by
        rintro rfl
        obtain ⟨y, hy, same⟩ := List.any_eq_true.mp taken
        exact List.find?_eq_none.mp old y hy same
      rw [if_neg other, Option.map_none]
    | some y =>
      have own : y.itemHash = h := by simpa using List.find?_some old
      subst own
      by_cases same : y.itemHash = x.itemHash
      · simp [same]
      · simp [same, Ne.symm same]
  · rename_i free
    have absent : x.itemHash = h → find? h xs = none := by
      rintro rfl
      simpa [find?] using free
    by_cases own : x.itemHash = h
    · simp [find?, List.find?_append, own, show List.find? (·.itemHash == h) xs = none from absent own]
    · simp [find?, List.find?_append, own]

theorem nodup_put (once : (hashes xs).Nodup) (x : Definition) : (hashes (put xs x)).Nodup := by
  rw [hashes_put]
  split
  · exact once
  · rename_i new
    rw [List.nodup_append]
    refine ⟨once, List.nodup_singleton _, fun h hh h' hh' => ?_⟩
    rw [List.mem_singleton.mp hh']
    rintro rfl
    exact new hh

theorem nodup_putAll (once : (hashes xs).Nodup) (ys : List Definition) : (hashes (putAll xs ys)).Nodup := by
  induction ys generalizing xs with
  | nil => exact once
  | cons y ys ih => exact ih (nodup_put once y)

/-- **The last definition of a hash counts**, and a hash without a new one keeps what it had. -/
theorem find?_putAll (xs ys : List Definition) (h : Hash) :
    find? h (putAll xs ys) = (find? h ys.reverse).or (find? h xs) := by
  induction ys generalizing xs with
  | nil => simp [putAll, find?]
  | cons y ys ih =>
    have next : putAll xs (y :: ys) = putAll (put xs y) ys := rfl
    rw [next, ih, find?_put, List.reverse_cons]
    simp only [find?, List.find?_append]
    cases List.find? (·.itemHash == h) ys.reverse with
    | some z => simp
    | none => by_cases own : y.itemHash = h <;> simp [own]

/-- Lists with the same hashes in the same order are known by what they give for each hash. -/
theorem eq_of_find? (order : hashes xs = hashes ys) (once : (hashes xs).Nodup)
    (same : ∀ h, find? h xs = find? h ys) : xs = ys := by
  have once' : (hashes ys).Nodup := order ▸ once
  refine List.ext_getElem (by simpa [hashes] using congrArg List.length order) fun i hi hi' => ?_
  have hash : xs[i].itemHash = ys[i].itemHash := by
    have entries := List.getElem_of_eq order (by simpa [hashes] using hi)
    simpa [hashes] using entries
  have own := (find?_eq_some_iff once).mpr ⟨List.getElem_mem hi, rfl⟩
  rw [same, hash, (find?_eq_some_iff once').mpr ⟨List.getElem_mem hi', rfl⟩] at own
  exact (Option.some.inj own).symm

theorem hashes_putAll_of_subset (known : ∀ y ∈ ys, y.itemHash ∈ hashes xs) :
    hashes (putAll xs ys) = hashes xs := by
  induction ys generalizing xs with
  | nil => rfl
  | cons y ys ih =>
    obtain ⟨first, rest⟩ := List.forall_mem_cons.mp known
    have kept : hashes (put xs y) = hashes xs := by rw [hashes_put, if_pos first]
    have next : putAll xs (y :: ys) = putAll (put xs y) ys := rfl
    rw [next, ih (by rwa [kept]), kept]

/-- **Putting the same definitions in again changes nothing.** -/
theorem putAll_again (once : (hashes xs).Nodup) (ys : List Definition) :
    putAll (putAll xs ys) ys = putAll xs ys := by
  have found : ∀ h, find? h (putAll (putAll xs ys) ys) = find? h (putAll xs ys) := by
    intro h
    rw [find?_putAll, find?_putAll]
    cases find? h ys.reverse <;> rfl
  refine eq_of_find? (hashes_putAll_of_subset fun y hy => ?_) ?_ found
  · rw [← isSome_find?, find?_putAll]
    have new : (find? y.itemHash ys.reverse).isSome := by
      rw [isSome_find?, hashes, List.map_reverse, List.mem_reverse]
      exact List.mem_map_of_mem hy
    simp [new]
  · exact nodup_putAll (nodup_putAll once ys) ys

/-! ## The order of the hashes -/

/-- Definitions in the order of their hashes. -/
def inOrder (xs : List Definition) : List Definition :=
  xs.mergeSort fun x y => decide (x.itemHash ≤ y.itemHash)

theorem find?_inOrder (once : (hashes xs).Nodup) (h : Hash) : find? h (inOrder xs) = find? h xs :=
  (find?_perm (List.mergeSort_perm _ _).symm once h).symm

theorem ascending_inOrder (once : (hashes xs).Nodup) : Ascending (inOrder xs) := by
  have sorted : (inOrder xs).Pairwise fun x y => decide (x.itemHash ≤ y.itemHash) = true :=
    List.pairwise_mergeSort (fun x y z => by simpa using UInt32.le_trans)
      (fun x y => by simpa using UInt32.le_total x.itemHash y.itemHash) _
  have apart : (inOrder xs).Pairwise fun x y => x.itemHash ≠ y.itemHash :=
    List.pairwise_map.mp (((List.mergeSort_perm xs _).map itemHash).symm.nodup once)
  exact sorted.imp₂ (fun x y less different => UInt32.lt_of_le_of_ne (by simpa using less) different) apart

end Definition

/-! ## The database -/

theorem Guardian.ofCode_code (g : Guardian) : ofCode g.code = g := by cases g <;> decide

namespace Store

open Definition

theorem hashOf_toNat (column : String) (h : Hash) : hashOf column h.toNat = .ok h := by
  have small : h.toNat < 4294967296 := h.toNat_lt
  have size : Bits.size 32 = 4294967296 := by decide +kernel
  have fits : Bits.holdsEither 32 h.toNat = true := by
    simp [Bits.holdsEither, Bits.holds, size, small]
  have same : ((h.toNat : Int) % (4294967296 : Nat)).toNat = h.toNat := by omega
  rw [hashOf, if_pos fits, size, same, UInt32.ofNat_toNat]

theorem DefinitionRow.toDefinition_ofDefinition (x : Definition) :
    (DefinitionRow.ofDefinition x).toDefinition = .ok x := by
  simp only [DefinitionRow.ofDefinition, toDefinition, hashOf_toNat, Tier.ofCode_code,
    Guardian.ofCode_code]
  rfl

namespace Database

variable {d : Database} {xs : List Definition}

/-- A database can be used, and holds definitions that all have different hashes. -/
structure Holds (d : Database) (xs : List Definition) : Prop where
  isOpen : d.closed = false
  migrated : d.migrated = true
  rows : d.definitions = xs.map .ofDefinition
  once : (hashes xs).Nodup

theorem ofDefinition_hash_eq_iff (x y : Definition) :
    (DefinitionRow.ofDefinition y).itemHash = (DefinitionRow.ofDefinition x).itemHash ↔
      y.itemHash = x.itemHash := by
  rw [← UInt32.toNat_inj, ← Int.ofNat_inj]
  rfl

theorem putDefinition_eq (rows : d.definitions = xs.map .ofDefinition) (x : Definition) :
    d.putDefinition (.ofDefinition x) = { d with definitions := (put xs x).map .ofDefinition } := by
  have taken : (d.definitions.any fun r => r.itemHash == (DefinitionRow.ofDefinition x).itemHash) =
      xs.any (·.itemHash == x.itemHash) := by
    rw [rows, List.any_map]
    refine List.any_congr rfl fun y => ?_
    rw [Bool.eq_iff_iff]
    simpa using ofDefinition_hash_eq_iff x y
  unfold putDefinition put
  rw [taken]
  split
  · rw [rows, List.map_map, List.map_map]
    refine congrArg (fun rs => { d with definitions := rs }) (List.map_congr_left fun y _ => ?_)
    simp only [Function.comp, beq_iff_eq, ofDefinition_hash_eq_iff]
    split <;> rfl
  · rw [rows, List.map_append]
    rfl

theorem foldl_putDefinition (rows : d.definitions = xs.map .ofDefinition) (ys : List Definition) :
    ys.foldl (fun d y => d.putDefinition (.ofDefinition y)) d =
      { d with definitions := (putAll xs ys).map .ofDefinition } := by
  induction ys generalizing d xs with
  | nil => rw [putAll, List.foldl_nil, List.foldl_nil, ← rows]
  | cons y ys ih =>
    rw [List.foldl_cons, putDefinition_eq rows, ih rfl]
    rfl

/-- What a database holds after definitions have been written into it. -/
theorem Holds.upsert (h : d.Holds xs) (ys : List Definition) :
    d.upsertDefinitions ys =
      (.ok ys.length, { d with definitions := (putAll xs ys).map .ofDefinition }) := by
  unfold upsertDefinitions
  split
  · rename_i closed
    simp [h.isOpen] at closed
  · rename_i fresh _
    simp [h.migrated] at fresh
  · rw [foldl_putDefinition h.rows]

theorem Holds.holds_upsert (h : d.Holds xs) (ys : List Definition) :
    (d.upsertDefinitions ys).2.Holds (putAll xs ys) := by
  rw [h.upsert]
  exact ⟨h.isOpen, h.migrated, rfl, nodup_putAll h.once ys⟩

/-- **A database gives back what it holds**, in the order of the hashes. -/
theorem Holds.load (h : d.Holds xs) : d.loadDefinitions = .ok (inOrder xs) := by
  have usable : d.unusable? "item_definitions" = none := by simp [unusable?, h.isOpen, h.migrated]
  have sorted : (d.definitions.mergeSort fun a b => decide (a.itemHash ≤ b.itemHash)) =
      (inOrder xs).map .ofDefinition := by
    rw [h.rows]
    refine (List.map_mergeSort fun x _ y _ => ?_).symm
    simp [DefinitionRow.ofDefinition, UInt32.le_iff_toNat_le]
  have read : ∀ ys : List Definition,
      (ys.map DefinitionRow.ofDefinition).mapM DefinitionRow.toDefinition = Except.ok ys := by
    intro ys
    induction ys with
    | nil => rfl
    | cons y ys ih =>
      rw [List.map_cons, List.mapM_cons, DefinitionRow.toDefinition_ofDefinition, ih]
      rfl
  rw [loadDefinitions, usable, sorted]
  exact read _

/-- A database into which nothing but its own operations has written. -/
inductive Written : Database → Prop
  | fresh {d : Database} : d.closed = false → d.migrated = true → d.definitions = [] → Written d
  | upsert {d : Database} (h : Written d) (xs : List Definition) : Written (d.upsertDefinitions xs).2
  | answer {d : Database} (h : Written d) (c : Call) : Written (d.answer c).2

/-- A call about loadouts or unknown names leaves the definitions as they are. -/
theorem Holds.answer (h : d.Holds xs) (c : Call) : (d.answer c).2.Holds xs := by
  obtain ⟨isOpen, migrated, rows, once⟩ := h
  cases c <;> simp only [Database.answer] <;> split <;> try split
  all_goals exact ⟨isOpen, migrated, rows, once⟩

/-- **What has been written is held.** -/
theorem Written.holds (written : d.Written) : ∃ xs, d.Holds xs := by
  induction written with
  | fresh isOpen migrated empty => exact ⟨[], isOpen, migrated, empty, .nil⟩
  | upsert _ ys ih =>
    obtain ⟨xs, held⟩ := ih
    exact ⟨_, held.holds_upsert ys⟩
  | answer _ c ih =>
    obtain ⟨xs, held⟩ := ih
    exact ⟨xs, held.answer c⟩

end Database
end Store
end Armory
