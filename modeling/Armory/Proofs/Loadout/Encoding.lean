import Armory.Loadout.Stored
import Armory.Proofs.Json.RoundTrip

/-! The text of a stored loadout. What is written for a loadout is a plain value, each reference is read back from
its record, and each key names its bucket, so a stored loadout is read back from its text
(`StoredLoadout.decode?_encode`). Main statement: so it is for every loadout that any text gives, which may spell it in
another way (`StoredLoadout.encode_canonical`). -/
namespace Armory.StoredLoadout

/-- Taking the entries of a list one by one succeeds where each of them can be taken. -/
theorem mapM_eq_map {α β : Type} {f : α → Option β} {g : α → β} (taken : ∀ a, f a = some (g a))
    (xs : List α) : xs.mapM f = some (xs.map g) := by
  rw [funext taken]
  exact List.mapM_pure

/-- A record is read as it was written, if no known key stands in it twice. -/
theorem record?_record {known : List String} {fields : List (String × Json)}
    (once : ∀ k ∈ known, (fields.filter (·.1 == k)).length ≤ 1) :
    (Json.record fields).record? known = some ⟨fields, true⟩ := by
  have taken : (fields.map fun f => ((some f.1, f.2) : Json.Text × Json)).mapM
      (fun x => x.1.map (·, x.2)) = some fields := by
    rw [List.mapM_map]
    exact (mapM_eq_map (g := id) (fun _ => rfl) fields).trans (by rw [List.map_id])
  simp only [Json.record, Json.record?, taken, Option.bind_eq_bind, Option.bind_some]
  exact if_pos (List.all_eq_true.mpr fun k hk => decide_eq_true (once k hk))

/-! ## References -/

theorem plain_itemToJson (i : StoredItem) : Json.Plain (itemToJson i) := by
  refine .record fun f hf => ?_
  simp only [List.mem_cons, List.not_mem_nil, or_false] at hf
  rcases hf with rfl | rfl | rfl
  · exact .int _
  · cases i.instanceId with
    | none => exact .null
    | some id => exact .text id
  · exact .int _

theorem word?_nat_toNat (h : Hash) : (Json.nat h.toNat).word? = some h := by
  have size : h.toNat < UInt32.size := h.toNat_lt
  simp [Json.nat, Json.word?, size]

theorem nullable?_textOrNull (t : Option String) :
    Json.nullable? Json.text? (Json.textOrNull t) = some t := by
  cases t <;> rfl

/-- A reference is read back from its record. -/
theorem itemOfJson?_itemToJson (i : StoredItem) : itemOfJson? (itemToJson i) = some i := by
  rw [itemOfJson?, itemToJson, record?_record (by simp)]
  simp [Json.Record.required, Json.Record.optional, Json.Record.get?, List.lookup_cons, word?_nat_toNat,
    nullable?_textOrNull]

/-! ## Loadouts -/

theorem plain_toJson (l : StoredLoadout) : Json.Plain l.toJson := by
  refine .record fun f hf => ?_
  obtain ⟨e, -, rfl⟩ := List.mem_map.mp hf
  exact plain_itemToJson e.2

/-- A bucket that is not among those of some references has none. -/
theorem lookup_of_fresh {es : List (Bucket × StoredItem)} {b : Bucket} (fresh : b ∉ es.map (·.1)) :
    es.lookup b = none := by
  rw [List.lookup_eq_none_iff]
  intro e he
  simpa using fun same : b = e.1 => fresh (same ▸ List.mem_map.mpr ⟨e, he, rfl⟩)

/-- Inserting references bucket by bucket gives each bucket its own, as long as no bucket comes twice. -/
theorem get?_foldl_insert {es : List (Bucket × StoredItem)} (once : (es.map (·.1)).Nodup)
    (l : StoredLoadout) (b : Bucket) :
    (es.foldl (fun l e => l.insert e.1 e.2) l).get? b = (es.lookup b).or (l.get? b) := by
  induction es generalizing l with
  | nil => rfl
  | cons e es ih =>
    obtain ⟨c, i⟩ := e
    obtain ⟨fresh, once⟩ := List.nodup_cons.mp once
    rw [List.foldl_cons, ih once]
    by_cases h : b = c
    · subst h
      simp [lookup_of_fresh fresh, insert]
    · have other : (b == c) = false := by simpa using h
      simp [List.lookup_cons, other, insert, h]

theorem lookup_filterMap (f : Bucket → Option StoredItem) (bs : List Bucket) (b : Bucket) :
    (bs.filterMap fun c => (f c).map (c, ·)).lookup b = if b ∈ bs then f b else none := by
  induction bs with
  | nil => rfl
  | cons c bs ih =>
    cases hf : f c with
    | none =>
      rw [List.filterMap_cons_none (by simp [hf]), ih]
      by_cases h : b = c
      · subst h
        simp [hf]
      · simp [h]
    | some i =>
      rw [List.filterMap_cons_some (by simp [hf]; rfl)]
      by_cases h : b = c
      · subst h
        simp [hf]
      · have other : (b == c) = false := by simpa using h
        simp [List.lookup_cons, other, ih, h]

theorem lookup_entries (l : StoredLoadout) (b : Bucket) : l.entries.lookup b = l.get? b := by
  rw [entries, lookup_filterMap, if_pos (Bucket.mem_all b)]

/-- No bucket comes twice among the references. -/
theorem entries_nodup (l : StoredLoadout) : (l.entries.map (·.1)).Nodup := by
  rw [List.Nodup, List.pairwise_map]
  refine (Bucket.filterMap_all_ascends l.get?).imp fun {e e'} before same => ?_
  rw [same] at before
  exact Nat.lt_irrefl _ before

/-- A stored loadout is what its references make. -/
theorem foldl_insert_entries (l : StoredLoadout) :
    l.entries.foldl (fun l e => l.insert e.1 e.2) empty = l := by
  ext1
  funext b
  rw [get?_foldl_insert l.entries_nodup, lookup_entries]
  cases l.get? b <;> rfl

theorem entries?_toJson (l : StoredLoadout) :
    l.toJson.entries? itemOfJson? = some (l.entries.map fun e => (e.1.key, e.2)) := by
  rw [toJson, Json.record, Json.entries?, List.map_map, List.mapM_map]
  exact mapM_eq_map (fun e => by simp [itemOfJson?_itemToJson]) l.entries

theorem ofJson?_toJson (l : StoredLoadout) : ofJson? l.toJson = some l := by
  have buckets : (l.entries.map fun e => (e.1.key, e.2)).mapM
      (fun e => (Bucket.ofKey? e.1).map (·, e.2)) = some l.entries := by
    rw [List.mapM_map, mapM_eq_map (g := id) (fun e => by simp [Bucket.ofKey?_key]), List.map_id]
  rw [ofJson?, entries?_toJson]
  simp only [Option.bind_eq_bind, Option.bind_some, buckets, foldl_insert_entries]
  rfl

/-- **A stored loadout is read back from its text.** -/
theorem decode?_encode (l : StoredLoadout) : decode? l.encode = some l := by
  rw [decode?, encode, (plain_toJson l).parse?_compact, Option.bind_some, ofJson?_toJson]

/-- **The text of a loadout says all of it.** It is an object of the references under the names of their buckets, in the
order of the buckets, and the loadout is read back from it, whichever buckets have a reference, and whatever the hashes
and the instance ids are. Hence what any text gives, with whatever spelling, order and repetitions of its keys, is what
the text written for it gives as well. -/
theorem encode_canonical :
    (∀ l : StoredLoadout,
      Json.parse? l.encode = some (.record (l.entries.map fun e => (e.1.key, itemToJson e.2))) ∧
      decode? l.encode = some l) ∧
    ∀ text : String, (decode? text).bind (fun l => decode? l.encode) = decode? text := by
  refine ⟨fun l => ⟨(plain_toJson l).parse?_compact, decode?_encode l⟩, fun text => ?_⟩
  cases decode? text with
  | none => rfl
  | some l => exact decode?_encode l

example : (empty.insert .kinetic ⟨7, some "a\"\\\x01😀", 9⟩).encode =
    "\x7b\"Kinetic\":\x7b\"itemHash\":7,\"itemInstanceId\":\"a\\\"\\\\\\u0001😀\",\"bucketHash\":9\x7d\x7d" := by
  decide +kernel

end Armory.StoredLoadout
