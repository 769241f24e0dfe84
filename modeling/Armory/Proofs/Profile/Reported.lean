import Mathlib.Data.List.Basic
import Mathlib.Data.List.Induction
import Armory.Proofs.Profile.Possession

/-! What a profile of a snapshot goes back to. Main statements: the first character is one that nobody was
played after (`Profile.lastPlayed_current?`), what a loadout lists is worn (`Profile.worn_of_loadout?`), and what
is carried unworn is an entry of the character's inventory (`Profile.carries_of_mem_contents`). -/
namespace Armory

variable {s : Snapshot} {c : Catalog} {detailedOnly : Bool} {id : CharacterId} {b : Bucket} {i : Item}
  {l : Loadout} {ch : Character}

/-! ## The character played last -/

namespace Time.Instant

theorem notAfter_total (a b : Instant) : (a.notAfter b || b.notAfter a) = true := by
  simp only [notAfter, Bool.or_eq_true, Bool.and_eq_true, decide_eq_true_eq, beq_iff_eq]
  omega

theorem notAfter_trans {a b c : Instant} (h : a.notAfter b = true) (h' : b.notAfter c = true) :
    a.notAfter c = true := by
  simp only [notAfter, Bool.or_eq_true, Bool.and_eq_true, decide_eq_true_eq, beq_iff_eq] at *
  omega

end Time.Instant

theorem Character.pairwise_latestFirst (cs : List Character) :
    (latestFirst cs).Pairwise fun a b => b.lastPlayed.notAfter a.lastPlayed = true := by
  refine List.pairwise_mergeSort (fun a b c h h' => ?_) (fun a b => ?_) cs
  · exact Time.Instant.notAfter_trans h' h
  · exact Time.Instant.notAfter_total b.lastPlayed a.lastPlayed

/-- A character of a snapshot after which no other one was played. -/
def Snapshot.LastPlayed (s : Snapshot) (ch : Character) : Prop :=
  (∃ reported ∈ s.characters, reported.character = ch) ∧
    ∀ reported ∈ s.characters, reported.character.lastPlayed.notAfter ch.lastPlayed = true

theorem Profile.lastPlayed_current? (h : (assemble s c detailedOnly).current? = some ch) :
    s.LastPlayed ch := by
  have sorted := Character.pairwise_latestFirst (s.characters.map (·.character))
  have same : ∀ {x}, x ∈ Character.latestFirst (s.characters.map (·.character)) ↔
      x ∈ s.characters.map (·.character) := List.mem_mergeSort
  obtain ⟨rest, first⟩ : ∃ rest,
      Character.latestFirst (s.characters.map (·.character)) = ch :: rest := List.head?_eq_some_iff.mp h
  rw [first] at sorted same
  obtain ⟨latest, -⟩ := List.pairwise_cons.mp sorted
  refine ⟨List.mem_map.mp (same.mp List.mem_cons_self), fun reported hr => ?_⟩
  rcases List.mem_cons.mp (same.mpr (List.mem_map_of_mem hr)) with self | later
  · rw [self]
    simpa using Time.Instant.notAfter_total ch.lastPlayed ch.lastPlayed
  · exact latest _ later

/-! ## What is worn and what is carried -/

namespace Catalog

/-- Whether an item belongs into a bucket. -/
def inBucket (c : Catalog) (b : Bucket) (i : Item) : Bool := c.bucketOf? i.bucketHash == some b

theorem inBucket_iff : c.inBucket b i = true ↔ c.bucketOf? i.bucketHash = some b := beq_iff_eq

/-- An item put into a loadout, if it belongs into a bucket. -/
def fit (c : Catalog) (l : Loadout) (i : Item) : Loadout :=
  match c.bucketOf? i.bucketHash with
  | some b => l.insert b i
  | none => l

theorem loadoutOf_eq_foldl (c : Catalog) (items : List Item) :
    c.loadoutOf items = items.foldl c.fit .empty := rfl

/-- A loadout made of items has in a bucket the last one that belongs there. -/
theorem get?_loadoutOf (c : Catalog) (items : List Item) (b : Bucket) :
    (c.loadoutOf items).get? b = (items.filter (c.inBucket b)).getLast? := by
  rw [loadoutOf_eq_foldl]
  -- the fold adds items at the end, so the induction takes the last one off
  induction items using List.reverseRecOn with
  | nil => rfl
  | append_singleton before i ih =>
    rw [List.foldl_append, List.foldl_cons, List.foldl_nil, List.filter_append]
    cases named : c.bucketOf? i.bucketHash with
    | none => simp [fit, inBucket, named, ih]
    | some b' =>
      by_cases same : b = b'
      · simp [fit, inBucket, named, same]
      · simp [fit, inBucket, named, same, Ne.symm same, ih]

theorem mem_of_get?_loadoutOf {items : List Item} (h : (c.loadoutOf items).get? b = some i) : i ∈ items := by
  rw [get?_loadoutOf] at h
  exact (List.mem_filter.mp (List.mem_of_getLast? h)).1

end Catalog

/-- What a character wears. -/
def Snapshot.worn (s : Snapshot) (c : Catalog) (e : CharacterSnapshot) : List Item :=
  (s.wornItems c e).map (·.1)

theorem Snapshot.equippedOn_of_mem_worn {e : CharacterSnapshot} (h : i ∈ s.worn c e) :
    i.equippedOn e.character.id = true := by
  simp only [worn, wornItems, resolveAll, List.map_map, List.mem_map, Function.comp_apply] at h
  obtain ⟨raw, -, rfl⟩ := h
  simp [Item.equippedOn, Item.ownedBy, Catalog.resolve]

namespace Profile

/-- The loadout of a character in a profile of a snapshot lists what that character wears. -/
theorem worn_of_loadout? (found : (assemble s c detailedOnly).loadout? id = some l)
    (h : l.get? b = some i) : i.equippedOn id = true := by
  obtain ⟨reported, -, rfl, rfl⟩ := exists_of_get?_ofList found
  exact Snapshot.equippedOn_of_mem_worn (Catalog.mem_of_get?_loadoutOf h)

end Profile

/-- A character of a snapshot carries an entry without wearing it, by all that the snapshot says. -/
def Snapshot.Carries (s : Snapshot) (id : CharacterId) (raw : RawItem) : Prop :=
  (∃ reported ∈ s.characters, reported.character.id = id ∧ raw ∈ reported.inventory) ∧
    ∀ details, s.details? raw = some details → details.isEquipped = false

/-- What lies unworn in a bucket of a character is an entry that the character carries. -/
theorem Profile.carries_of_mem_contents
    (h : i ∈ ((assemble s c detailedOnly).contents id b).items) (unworn : i.isEquipped = false) :
    ∃ raw, s.Carries id raw ∧ raw.instanceId = i.instanceId := by
  obtain ⟨reported, hr, hid, ⟨raw, -, rfl⟩ | ⟨raw, hraw, rfl⟩⟩ := mem_contents_assemble h
  · cases unworn
  · refine ⟨raw, ⟨⟨reported, hr, hid, hraw⟩, fun details hd => ?_⟩, rfl⟩
    simpa [Catalog.resolve, hd] using unworn

end Armory
