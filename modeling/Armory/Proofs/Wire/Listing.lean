import Armory.Proofs.Profile.Order
import Armory.Proofs.Profile.Views
import Armory.Wire.Payload

/-! From what the game sends to the items of a profile. What characters wear and carry is sent in tables of its own,
under the keys of the characters. Main statement: a profile lists every entry that is sent once, and nothing else
(`Wire.items_as_sent`). -/
namespace Armory

/-! ## Details -/

namespace Snapshot

variable {s : Snapshot} {c : Catalog}

/-- Whether details are reported for an item. -/
def hasDetails (s : Snapshot) (i : Item) : Bool := (i.instanceId.bind s.instances.get?).isSome

theorem detailed_of_mem_resolveAll {owner : Option CharacterId} {worn : Bool} {raws : List RawItem}
    {e : Item × Bool} (h : e ∈ s.resolveAll c owner worn raws) : e.2 = s.hasDetails e.1 := by
  obtain ⟨raw, -, rfl⟩ := List.mem_map.mp h
  rfl

theorem detailed_of_mem_resolvedGear {e : Item × Bool} (h : e ∈ s.resolvedGear c) :
    e.2 = s.hasDetails e.1 := by
  rcases List.mem_append.mp h with vault | gear
  · exact detailed_of_mem_resolveAll vault
  · obtain ⟨reported, -, gear⟩ := List.mem_flatMap.mp gear
    rcases List.mem_append.mp gear with worn | carried
    · exact detailed_of_mem_resolveAll worn
    · exact detailed_of_mem_resolveAll carried

end Snapshot

namespace Profile

/-- Where details are asked for, those items are listed that have some, and no currencies. -/
theorem items_assemble_detailed (s : Snapshot) (c : Catalog) :
    (assemble s c true).items = ((s.resolvedGear c).map (·.1)).filter s.hasDetails := by
  have currencies : (s.currencyItems c).filter (·.2) = [] := by
    rw [List.filter_eq_nil_iff]
    intro e he
    obtain ⟨raw, -, rfl⟩ := List.mem_map.mp he
    exact Bool.false_ne_true
  have gear : (s.resolvedGear c).filter (·.2) = (s.resolvedGear c).filter (s.hasDetails ∘ (·.1)) :=
    List.filter_congr fun e he => Snapshot.detailed_of_mem_resolvedGear he
  simp only [assemble, Snapshot.resolvedItems_eq, Bool.not_true, Bool.false_or, List.filter_append,
    currencies, gear, List.nil_append, List.filter_map]

end Profile

namespace Wire

variable {c : Catalog} {p : ProfilePayload} {v : Json}

/-! ## What is sent -/

/-- An entry by what it is of, and whose. -/
structure Listed where
  itemHash : Hash
  quantity : Nat
  instanceId : Option String
  owner : Option CharacterId
  deriving DecidableEq

/-- An item, listed. -/
def listItem (i : Item) : Listed := ⟨i.itemHash, i.quantity, i.instanceId, i.owner⟩

/-- An entry that is sent, listed for an owner; an empty id stands for none. -/
def WireItem.listed (owner : Option CharacterId) (w : WireItem) : Listed :=
  ⟨w.itemHash, w.quantity, if w.instanceId = some "" then none else w.instanceId, owner⟩

/-- The id of the character under a key. -/
def idUnder (key : String) (ch : Character) : CharacterId := if ch.id = "" then key else ch.id

/-- The entries of a table that are sent under a key of the characters. -/
def ProfilePayload.sentUnder (p : ProfilePayload) (t : Table String (List WireItem)) : List Listed :=
  t.entries.flatMap fun e => (p.characters.get? e.1).elim [] fun ch =>
    e.2.map (·.listed (some (idUnder e.1 ch)))

/-- All entries that are sent, except under keys that are none of a character. -/
def ProfilePayload.sent (p : ProfilePayload) : List Listed :=
  p.currencies.map (·.listed none) ++ p.inventory.map (·.listed none) ++
    (p.sentUnder p.worn ++ p.sentUnder p.carried)

/-! ## A payload that was read has its tables in order -/

section Reading

variable {α : Type} {P : α → Prop} {f : Json → Option α} {r : Json.Record} {key : String} {x : Option α}

theorem of_nullable? {v : Json} {a : α} (h : ∀ v a, f v = some a → P a)
    (read : Json.nullable? f v = some (some a)) : P a := by
  unfold Json.nullable? at read
  split at read
  · cases read
  · obtain ⟨b, taken, same⟩ := Option.map_eq_some_iff.mp read
    cases same
    exact h _ _ taken

/-- What every value has that is read has the value of a field, if there is one. -/
theorem of_optional (h : ∀ v a, f v = some a → P a) (read : r.optional key f = some x) : ∀ a ∈ x, P a := by
  intro a ha
  obtain rfl : x = some a := ha
  unfold Json.Record.optional at read
  split at read
  · cases read
  · exact of_nullable? h read

theorem of_nullable (h : ∀ v a, f v = some a → P a) (read : r.nullable key f = some x) : ∀ a ∈ x, P a := by
  intro a ha
  obtain rfl : x = some a := ha
  unfold Json.Record.nullable at read
  split at read
  · split at read <;> cases read
  · exact of_nullable? h read

/-- And so has the value under the `data` of a field. -/
theorem of_wrapped (h : ∀ v a, f v = some a → P a) (read : wrapped r key f = some x) : ∀ a ∈ x, P a := by
  obtain ⟨y, outer, rfl⟩ := Option.map_eq_some_iff.mp read
  intro a ha
  have data : ∀ v z, dataOf? f v = some z → ∀ a ∈ z, P a := by
    intro v z taken
    obtain ⟨r, -, read⟩ := Option.bind_eq_some_iff.mp taken
    exact of_nullable h read
  exact of_optional data outer (some a) (Option.join_eq_some_iff.mp ha) a rfl

end Reading

/-- A payload whose tables have their keys in order. -/
structure ProfilePayload.Ordered (p : ProfilePayload) : Prop where
  characters : p.characters.Ordered
  carried : p.carried.Ordered
  worn : p.worn.Ordered

theorem ordered_tableOf? {α : Type} {f : Json → Option α} {t : Table String α} (h : tableOf? f v = some t) :
    t.Ordered := by
  obtain ⟨es, -, rfl⟩ := Option.map_eq_some_iff.mp h
  exact Table.ordered_ofList es

/-- A table that may be missing. -/
theorem ordered_getD {α : Type} {f : Json → Option α} {r : Json.Record} {key : String}
    {t : Option (Table String α)} (h : wrapped r key (tableOf? f) = some t) : (t.getD .empty).Ordered := by
  cases t with
  | none => exact Table.ordered_empty
  | some t => exact of_wrapped (fun _ _ => ordered_tableOf?) h t rfl

theorem ProfilePayload.ordered_ofJson? (h : ofJson? c v = some p) : p.Ordered := by
  unfold ofJson? at h
  obtain ⟨r, -, h⟩ := Option.bind_eq_some_iff.mp h
  obtain ⟨owner, -, h⟩ := Option.bind_eq_some_iff.mp h
  obtain ⟨inventory, -, h⟩ := Option.bind_eq_some_iff.mp h
  obtain ⟨currencies, -, h⟩ := Option.bind_eq_some_iff.mp h
  obtain ⟨characters, readCharacters, h⟩ := Option.bind_eq_some_iff.mp h
  obtain ⟨carried, readCarried, h⟩ := Option.bind_eq_some_iff.mp h
  obtain ⟨worn, readWorn, h⟩ := Option.bind_eq_some_iff.mp h
  obtain ⟨instances, -, h⟩ := Option.bind_eq_some_iff.mp h
  cases h
  exact ⟨ordered_getD readCharacters, ordered_getD readCarried, ordered_getD readWorn⟩

/-! ## What is listed -/

theorem listed_toRaw (w : WireItem) (d : Option InstanceData) (owner : Option CharacterId) (worn : Bool) :
    listItem (c.resolve w.toRaw d owner worn) = w.listed owner := by
  have id : w.instanceId.filter (· != "") = if w.instanceId = some "" then none else w.instanceId := by
    cases w.instanceId with
    | none => rfl
    | some id => by_cases empty : id = "" <;> simp [empty]
  simp only [listItem, WireItem.listed, Catalog.resolve, WireItem.toRaw, id]

/-- Entries that are sent are listed one by one. -/
theorem listed_resolveAll (s : Snapshot) (owner : Option CharacterId) (worn : Bool) (ws : List WireItem) :
    (s.resolveAll c owner worn (ws.map (·.toRaw))).map (fun e => listItem e.1) = ws.map (·.listed owner) := by
  simp only [Snapshot.resolveAll, List.map_map]
  exact List.map_congr_left fun w _ => listed_toRaw w _ owner worn

/-- What is sent in a table for the characters, gone through by the characters. -/
theorem perm_sentUnder (ordered : p.Ordered) {t : Table String (List WireItem)} (ht : t.Ordered) :
    (p.characters.entries.flatMap fun e =>
      ((t.get? e.1).getD []).map (·.listed (some (idUnder e.1 e.2)))).Perm (p.sentUnder t) := by
  have joined := Table.perm_joined ordered.characters ht fun key ch ws =>
    ws.map (WireItem.listed (some (idUnder key ch)))
  refine (List.Perm.of_eq ?_).trans joined
  refine congrArg (List.flatMap · _) (funext fun e => ?_)
  cases t.get? e.1 <;> rfl

theorem currencies_toSnapshot (requested : Membership) :
    ((p.toSnapshot requested).currencyItems c).map (fun e => listItem e.1) =
      p.currencies.map (·.listed none) := by
  simp only [Snapshot.currencyItems, ProfilePayload.toSnapshot, List.map_map]
  exact List.map_congr_left fun w _ => listed_toRaw w _ none false

/-- The items of a snapshot of a payload are what is sent. -/
theorem items_toSnapshot (ordered : p.Ordered) (requested : Membership) :
    ((Profile.assemble (p.toSnapshot requested) c false).items.map listItem).Perm p.sent := by
  have id : ∀ (key : String) (ch : Character),
      (if ch.id = "" then { ch with id := key } else ch).id = idUnder key ch := by
    intro key ch
    unfold idUnder
    split <;> rfl
  have vault : ((p.toSnapshot requested).resolveAll c none false (p.toSnapshot requested).profileInventory).map
      (fun e => listItem e.1) = p.inventory.map (·.listed none) :=
    listed_resolveAll _ none false p.inventory
  have gear : ((p.toSnapshot requested).characters.flatMap fun e =>
        (p.toSnapshot requested).wornItems c e ++ (p.toSnapshot requested).carriedItems c e).map
          (fun e => listItem e.1) =
      p.characters.entries.flatMap fun e =>
        ((p.worn.get? e.1).getD []).map (·.listed (some (idUnder e.1 e.2))) ++
          ((p.carried.get? e.1).getD []).map (·.listed (some (idUnder e.1 e.2))) := by
    rw [List.map_flatMap, ProfilePayload.toSnapshot, List.flatMap_map]
    refine congrArg (List.flatMap · _) (funext fun e => ?_)
    simp only [List.map_append, Snapshot.wornItems, Snapshot.carriedItems, rawItems, listed_resolveAll, id]
  rw [Profile.items_assemble, Snapshot.resolvedGear]
  simp only [List.map_append, List.map_map, Function.comp_def, currencies_toSnapshot, vault, gear, ProfilePayload.sent]
  rw [← List.append_assoc]
  refine ((List.flatMap_append_perm _ _ _).symm.trans ?_).append_left _
  exact (perm_sentUnder ordered ordered.worn).append (perm_sentUnder ordered ordered.carried)

/-- **A profile lists what is sent, once, and nothing else.** A payload was read, and its characters come in any
order. Then the profile has one item for each entry that is sent as a currency or for the whole account, which nobody
owns, and for each entry that is worn or carried under the key of a character, which that character owns. Where
details are asked for, exactly the items stay, in their order, that are no currencies and have details, and
characters, loadouts and equipment are the same. -/
theorem items_as_sent (decoded : ProfilePayload.ofJson? c v = some p) (requested : Membership) {s : Snapshot}
    (h : (p.toSnapshot requested).Reordered s) :
    let all := Profile.assemble s c false
    let detailed := Profile.assemble s c true
    (all.items.map listItem).Perm p.sent ∧
      (∃ currencies others, all.items = currencies ++ others ∧
        currencies.map listItem = p.currencies.map (·.listed none) ∧
        detailed.items = others.filter fun i => (i.instanceId.bind p.instances.get?).isSome) ∧
      detailed.characters = all.characters ∧ detailed.loadouts = all.loadouts ∧
      detailed.equipments = all.equipments := by
  intro all detailed
  have sent := items_toSnapshot (c := c) (ProfilePayload.ordered_ofJson? decoded) requested
  have currencies : ((s.currencyItems c).map (·.1)).map listItem = p.currencies.map (·.listed none) := by
    rw [h.currencyItems, List.map_map]
    exact currencies_toSnapshot requested
  have details : s.hasDetails = fun i => (i.instanceId.bind p.instances.get?).isSome := by
    funext i
    rw [Snapshot.hasDetails, h.instances]
    rfl
  refine ⟨(h.items.map listItem).trans sent, ⟨_, _, Profile.items_assemble s c, currencies, ?_⟩, rfl, rfl,
    rfl⟩
  rw [← details]
  exact Profile.items_assemble_detailed s c

/-! ### Entries that are sent under odd keys -/

/-- An entry of an inventory. -/
def entryJson (hash quantity : Nat) (id : Option String) : Json :=
  .record [("itemHash", .nat hash), ("itemInstanceId", .textOrNull id), ("quantity", .nat quantity)]

/-- Some entries of an inventory. -/
def entriesJson (entries : List Json) : Json := .record [("items", .arr entries)]

/-- Something under `data`. -/
def dataJson (v : Json) : Json := .record [("data", v)]

/-- A payload with a character that has an id and one that has none. Something is worn under a key that is none of a
character, and one instance id is empty. -/
def delivery : Json :=
  .record [
    ("profileCurrencies", dataJson (entriesJson [entryJson 1 500 none])),
    ("profileInventory", dataJson (entriesJson [entryJson 2 1 (some "20")])),
    ("characters", dataJson (.record [("a", .record [("characterId", .text "titan")]), ("b", .record [])])),
    ("characterEquipment", dataJson (.record [("a", entriesJson [entryJson 3 1 (some "30")]),
      ("c", entriesJson [entryJson 4 1 (some "40")])])),
    ("characterInventories", dataJson (.record [("b", entriesJson [entryJson 5 3 (some "")])])),
    ("itemComponents", .record [("instances", dataJson (.record [("30", .record [])]))])]

/-- The snapshot of a payload with its characters the other way round. -/
def turned (p : ProfilePayload) : Snapshot :=
  let s := p.toSnapshot ⟨"person", 2, "person"⟩
  { s with characters := s.characters.reverse }

/-- The currency, the item of the account, what the titan wears and what the other one carries are listed, and with
details only what the titan wears. -/
theorem items_as_sent_delivery :
    ∃ p, ProfilePayload.ofJson? .standard delivery = some p ∧
      ((Profile.assemble (turned p) .standard false).items.map listItem).Perm
        [⟨1, 500, none, none⟩, ⟨2, 1, some "20", none⟩, ⟨3, 1, some "30", some "titan"⟩,
          ⟨5, 3, none, some "b"⟩] ∧
      (Profile.assemble (turned p) .standard true).items.map listItem =
        [⟨3, 1, some "30", some "titan"⟩] := by
  have read : (ProfilePayload.ofJson? .standard delivery).map (fun p =>
      (p.sent, (Profile.assemble (turned p) .standard true).items.map listItem)) =
        some ([⟨1, 500, none, none⟩, ⟨2, 1, some "20", none⟩, ⟨3, 1, some "30", some "titan"⟩,
          ⟨5, 3, none, some "b"⟩], [⟨3, 1, some "30", some "titan"⟩]) := by decide +kernel
  obtain ⟨p, decoded, evaluated⟩ := Option.map_eq_some_iff.mp read
  obtain ⟨sent, detailed⟩ := Prod.mk.inj evaluated
  have reordered : (p.toSnapshot ⟨"person", 2, "person"⟩).Reordered (turned p) :=
    ⟨rfl, List.reverse_perm _, rfl, rfl, rfl⟩
  obtain ⟨listed, -⟩ := items_as_sent decoded ⟨"person", 2, "person"⟩ reordered
  exact ⟨p, decoded, sent ▸ listed, detailed⟩

end Wire
end Armory
