import Armory.Proofs.Service.Count
import Armory.Proofs.Service.Faults

/-! How far a request to move items by name reaches. Class names stand for the character of their class that was
played last; only items of the named kind that are at the source are moved, and only to the destination. Main
statement: this holds of every call that moves something, whatever the replies are and in whatever order such calls
are made, and nothing is moved by a request that fails or finds nothing (`Service.transferItem_scoped`). The totals of
a report are kept in 32 bits; without a count they may be too small for what there is
(`Service.confirmed_exceeds_planned`). -/
namespace Armory

open Dialogue (Exchange)

/-! ## The character of a class -/

/-- A character of a snapshot that is of a class, and after which no other one of that class was played. -/
structure Snapshot.LastPlayedOf (s : Snapshot) (g : Guardian) (ch : Character) : Prop where
  reported : ∃ e ∈ s.characters, e.character = ch
  guardian : ch.guardian = g
  latest : ∀ e ∈ s.characters, e.character.guardian = g →
    e.character.lastPlayed.notAfter ch.lastPlayed = true

theorem Profile.lastPlayedOf_ofClass? {s : Snapshot} {c : Catalog} {detailedOnly : Bool} {g : Guardian}
    {ch : Character} (h : (assemble s c detailedOnly).ofClass? g = some ch) : s.LastPlayedOf g ch := by
  have sorted := Character.pairwise_latestFirst (s.characters.map (·.character))
  have same : ∀ {x}, x ∈ Character.latestFirst (s.characters.map (·.character)) ↔
      x ∈ s.characters.map (·.character) := List.mem_mergeSort
  obtain ⟨isOf, before, after, split, others⟩ := List.find?_eq_some_iff_append.mp h
  have split : Character.latestFirst (s.characters.map (·.character)) = before ++ ch :: after := split
  rw [split] at sorted same
  refine ⟨List.mem_map.mp (same.mp (by simp)), by simpa using isOf, fun e he own => ?_⟩
  rcases List.mem_append.mp (same.mpr (List.mem_map_of_mem he)) with first | later
  · have other := others _ first
    simp [own] at other
  · rcases List.mem_cons.mp later with self | last
    · rw [self]
      simpa using Time.Instant.notAfter_total ch.lastPlayed ch.lastPlayed
    · obtain ⟨-, sorted, -⟩ := List.pairwise_append.mp sorted
      exact (List.pairwise_cons.mp sorted).1 _ last

/-! ## Batches -/

namespace Transfer

variable {items : List Item} {destination : Option CharacterId} {count : Option Nat} {membershipType : Int}
  {m : Move}

/-- A planned move is of an item that is not at the destination, and of no more than there is of it. -/
theorem away_of_mem_plan (hm : m ∈ plan items destination count) :
    m.item ∈ items ∧ m.item.owner ≠ destination ∧ m.quantity ≤ m.item.quantity := by
  have fills := fills_plan items destination count
  have listed : m.item ∈ (plan items destination count).map (·.item) := List.mem_map_of_mem hm
  rw [fills.taken] at listed
  obtain ⟨mem, away⟩ := List.mem_filter.mp (List.mem_of_mem_take listed)
  exact ⟨mem, by simpa using away, fills.part m hm⟩

theorem quantity_plan_le : ∀ n ∈ count, quantity (plan items destination count) ≤ n := by
  intro n limit
  have within := (fills_plan items destination count).within n limit (plan items destination count).length
  rwa [List.take_length] at within

/-- No more is planned than there is elsewhere. -/
theorem quantity_plan_le_incoming :
    quantity (plan items destination count) ≤ sumOf (·.quantity) (Placement.incoming items destination) := by
  rw [(fills_plan items destination count).total]
  cases count with
  | none => exact Nat.le_refl _
  | some n => exact Nat.min_le_right _ _

end Transfer

namespace Service

variable {c : Catalog} {order : TransferOrder} {s : Snapshot} {p : Profile} {itemName : String} {hash : Hash}
  {items : List Item} {requested : Option Nat} {source : Option (Option CharacterId)}
  {destination : Option CharacterId} {talk first second : List (Exchange Service)} {γ : Type}

/-! ## What a request asks for -/

/-- The owner that a target stands for in a snapshot. -/
def Stands (s : Snapshot) : ClassTarget → Option CharacterId → Prop
  | .vault, owner => owner = none
  | .guardian g, owner => ∃ ch, s.LastPlayedOf g ch ∧ owner = some ch.id

/-- A typed class name is understood, and stands for an owner. -/
def Denotes (c : Catalog) (s : Snapshot) (name : String) (owner : Option CharacterId) : Prop :=
  ∃ t, ClassTarget.ofName? (c.className name) = some t ∧ Stands s t owner

/-- What the names of a request mean: an item, who is to have it, and whose it has to be, if that is asked for. -/
structure Meant (c : Catalog) (order : TransferOrder) (s : Snapshot) (hash : Hash)
    (destination : Option CharacterId) (source : Option (Option CharacterId)) : Prop where
  item : c.itemHash? (c.itemName order.itemName) = some hash
  destination : order.destination.elim (destination = none) fun name => Denotes c s name destination
  source : Option.Rel (Denotes c s) order.source source

/-- The items that a request is about: those of a kind, and of its source, if it has one. -/
def wantedItems (p : Profile) (hash : Hash) (source : Option (Option CharacterId)) : List Item :=
  p.items.filter fun i => i.itemHash == hash && source.all (i.owner == ·)

theorem itemsToMove_eq_wantedItems (p : Profile) (hash : Hash) (source : Option (Option CharacterId)) :
    itemsToMove p hash source = wantedItems p hash source := by
  unfold itemsToMove wantedItems
  refine List.filter_congr fun i _ => ?_
  cases source <;> simp [Filter.acceptsAll, Filter.accepts]

/-- How much there is of some items. -/
def amount (items : List Item) : Nat := sumOf (·.quantity) items

/-- How much of some items is not at a destination. -/
def amountAway (destination : Option CharacterId) (items : List Item) : Nat :=
  amount (Placement.incoming items destination)

/-- A call that moves an item as it was asked for. -/
structure Asked (items : List Item) (hash : Hash) (destination : Option CharacterId)
    (source : Option (Option CharacterId)) (r : TransferRequest) : Prop where
  kind : r.itemHash = hash
  /-- Only who is asked gives something away, and nobody who is to have it. -/
  leaves : r.transferToVault = true → some r.characterId ≠ destination ∧ ∀ o ∈ source, o = some r.characterId
  arrives : r.transferToVault = false → destination = some r.characterId
  /-- There is an item that is moved, and no more of it than there is. -/
  item : ∃ i ∈ items, i.itemHash = hash ∧ i.instanceId = r.itemId ∧ r.stackSize ≤ i.quantity ∧
    i.owner ≠ destination ∧ (∀ o ∈ source, i.owner = o) ∧
    (r.transferToVault = true → i.owner = some r.characterId)

/-- The request of an exchange, if it is one that moves something. -/
def request? : Exchange Service → Option TransferRequest
  | ⟨.game (.transferItem r), _⟩ => some r
  | _ => none

/-- The calls that move something. -/
def requests (talk : List (Exchange Service)) : List TransferRequest := talk.filterMap request?

theorem requests_append : requests (first ++ second) = requests first ++ requests second :=
  List.filterMap_append

/-- Where nothing in the game is changed, nothing is moved. -/
theorem requests_eq_nil (h : ∀ e ∈ talk, Call.changes e.1 = false) : requests talk = [] := by
  refine List.filterMap_eq_nil_iff.mpr fun e he => ?_
  have unchanged := h e he
  unfold request?
  split
  · cases unchanged
  · rfl

/-- What becomes of a request, and what its exchanges have moved. -/
inductive Scoped (c : Catalog) (order : TransferOrder) (talk : List (Exchange Service)) :
    Except ServiceError (Outcome TransferSummary) → Prop
  | failed (e : ServiceError) (still : requests talk = []) : Scoped c order talk (.error e)
  | notFound (explanation : String) (still : requests talk = []) :
      Scoped c order talk (.ok (.notFound explanation))
  | found {summary : TransferSummary} {s : Snapshot} {hash : Hash} {destination : Option CharacterId}
      {source : Option (Option CharacterId)} (told : Tells talk s)
      (meant : Meant c order s hash destination source)
      (asked : ∀ r ∈ requests talk,
        Asked (Profile.assemble s c false).items hash destination source r)
      (limited : ∀ n ∈ order.count, 0 < n → (summary.planned : Int) ≤ n)
      (balance : (∃ n ∈ order.count, 0 < n) ∨
          amountAway destination (wantedItems (.assemble s c false) hash source) < Bits.size 32 →
        summary.confirmed + sumOf (·.quantity) summary.failures = summary.planned)
      (added : summary.planned = Bits.wrap 32 (summary.confirmed + sumOf (·.quantity) summary.failures)) :
      Scoped c order talk (.ok (.found summary))

/-! ## What is found -/

theorem stands_of_ownerOf {t : ClassTarget} {owner : Option CharacterId}
    (h : ownerOf (Profile.assemble s c false) t = .ok owner) : Stands s t owner := by
  cases t with
  | vault => exact (Except.ok.inj h).symm
  | guardian g =>
    simp only [ownerOf] at h
    split at h
    · rename_i ch found
      exact ⟨ch, Profile.lastPlayedOf_ofClass? found, (Except.ok.inj h).symm⟩
    · cases h

theorem denotes_of_ownerOf {typed : Option String} {target : ClassTarget}
    (understood : typed.elim (target = .vault) fun name =>
      ClassTarget.ofName? (c.className name) = some target)
    (h : ownerOf (Profile.assemble s c false) target = .ok destination) :
    typed.elim (destination = none) fun name => Denotes c s name destination := by
  have stands := stands_of_ownerOf h
  cases typed with
  | none =>
    obtain rfl : target = .vault := understood
    exact stands
  | some name => exact ⟨target, understood, stands⟩

theorem denotes_of_mapM {typed : Option String} {origin : Option ClassTarget}
    (understood : Option.Rel (fun name t => ClassTarget.ofName? (c.className name) = some t) typed origin)
    (h : origin.mapM (ownerOf (Profile.assemble s c false)) = .ok source) :
    Option.Rel (Denotes c s) typed source := by
  cases understood with
  | none =>
    obtain rfl : none = source := Except.ok.inj h
    exact .none
  | @some name t known =>
    cases owner : ownerOf (Profile.assemble s c false) t with
    | error g =>
      rw [Option.mapM_some, owner] at h
      cases h
    | ok o =>
      rw [Option.mapM_some, owner] at h
      obtain rfl : some o = source := Except.ok.inj h
      exact .some ⟨t, known, stands_of_ownerOf owner⟩

theorem mem_itemsToMove {i : Item} (h : i ∈ itemsToMove p hash source) :
    i ∈ p.items ∧ i.itemHash = hash ∧ ∀ o ∈ source, i.owner = o := by
  obtain ⟨mem, accepted⟩ := List.mem_filter.mp h
  refine ⟨mem, ?_⟩
  cases source <;> simpa [Filter.acceptsAll, Filter.accepts] using accepted

/-- A positive count is what is requested, up to the greatest word. -/
theorem requestedQuantity_of_pos {n : Int} (pos : 0 < n) :
    requestedQuantity (some n) = .ok (some (min n.toNat (Bits.size 32 - 1))) := by
  have given : n ≠ -1 := by omega
  rw [requestedQuantity, if_neg given, if_pos pos]

/-- The quantity that is requested is at most the count, and fits into a word. -/
theorem le_count_of_requestedQuantity {count : Option Int} (h : requestedQuantity count = .ok requested) :
    ∀ n ∈ count, 0 < n → ∃ k ∈ requested, (k : Int) ≤ n ∧ k < Bits.size 32 := by
  rintro n rfl pos
  rw [requestedQuantity_of_pos pos, Except.ok.injEq] at h
  have word : 0 < Bits.size 32 := by decide
  exact ⟨_, h.symm, by omega, by omega⟩

/-- Each hop of the planned moves of these items is as it was asked for. -/
theorem asked_of_mem_route {membershipType : Int} {m : Move} {hop : Transfer.Stage × TransferRequest}
    (hm : m ∈ Transfer.plan (itemsToMove p hash source) destination requested)
    (hhop : hop ∈ Transfer.route destination membershipType m) :
    Asked p.items hash destination source hop.2 := by
  obtain ⟨listed, away, part⟩ := Transfer.away_of_mem_plan hm
  obtain ⟨mem, named, held⟩ := mem_itemsToMove listed
  rcases Transfer.eq_of_mem_route hhop with ⟨holder, owner, rfl⟩ | ⟨receiver, rfl, rfl⟩
  · exact ⟨named, fun _ => ⟨owner ▸ away, fun o ho => (held o ho).symm.trans owner⟩, nofun,
      m.item, mem, named, rfl, part, away, held, fun _ => owner⟩
  · exact ⟨named, nofun, fun _ => rfl, m.item, mem, named, rfl, part, away, held, nofun⟩

theorem calls_batch_asked (p : Profile) (hash : Hash) (source : Option (Option CharacterId))
    (destination : Option CharacterId) (requested : Option Nat) (membershipType : Int) :
    (Transfer.batch (itemsToMove p hash source) destination requested membershipType).Calls
      fun call : Game.Call => ∃ r, call = .transferItem r ∧ Asked p.items hash destination source r :=
  Transfer.calls_batch_of_route fun _ hm hop hhop => ⟨hop.2, rfl, asked_of_mem_route hm hhop⟩

/-! ## Operations that keep to what was asked for -/

/-- An operation that moves nothing. -/
def Still {α : Type} (x : Operation α) : Prop := ∀ talk r, x.Ends talk r → requests talk = []

/-- What is reported of a batch that was moved by name. -/
def summaryOf (p : Profile) (itemName : String) (destination : Option CharacterId) (requested : Option Nat)
    (report : Transfer.Report) : TransferSummary where
  itemName
  destination := locationOf p destination
  requested
  planned := report.planned
  confirmed := report.confirmed
  onlyHad := (requested.filter fun n => report.planned < n).map fun _ => report.planned
  failures := report.failures

/-- How a request ends: nothing is moved before it is known what was asked for, and then there is one batch. -/
inductive Resolved (c : Catalog) (order : TransferOrder) (talk : List (Exchange Service)) :
    Except ServiceError (Outcome TransferSummary) → Prop
  | failed (e : ServiceError) (still : requests talk = []) : Resolved c order talk (.error e)
  | notFound (explanation : String) (still : requests talk = []) :
      Resolved c order talk (.ok (.notFound explanation))
  | moved {s : Snapshot} {hash : Hash} {destination : Option CharacterId}
      {source : Option (Option CharacterId)} {requested : Option Nat} {itemName : String}
      {first : List (Exchange Service)} {games : List (Exchange Game)} {report : Transfer.Report}
      (told : Tells talk s) (meant : Meant c order s hash destination source)
      (known : requestedQuantity order.count = .ok requested)
      (split : talk = first ++ games.map ofGame) (still : requests first = [])
      (goes : (Transfer.batch (itemsToMove (.assemble s c false) hash source) destination requested
        (Profile.assemble s c false).membershipType).Goes games report) :
      Resolved c order talk
        (.ok (.found (summaryOf (.assemble s c false) itemName destination requested report)))

/-- An operation that comes to an end of a request. -/
def Resolves (c : Catalog) (order : TransferOrder) (x : Operation (Outcome TransferSummary)) : Prop :=
  ∀ talk r, x.Ends talk r → Resolved c order talk r

/-- An operation whose calls keep to what a request asks for. -/
def Confined (c : Catalog) (order : TransferOrder) (x : Operation (Outcome TransferSummary)) : Prop :=
  ∀ talk r, x.Ends talk r → Scoped c order talk r

section Confined

variable {α : Type} {x : Operation α} {f : α → Operation (Outcome TransferSummary)}
  {r : Except ServiceError (Outcome TransferSummary)}

theorem Resolved.after (still : requests first = []) (h : Resolved c order second r) :
    Resolved c order (first ++ second) r := by
  have same : requests (first ++ second) = requests second := by rw [requests_append, still, List.nil_append]
  cases h with
  | failed e later => exact .failed e (same.trans later)
  | notFound explanation later => exact .notFound explanation (same.trans later)
  | @moved _ _ _ _ _ _ before games _ told meant known split later goes =>
    obtain ⟨membership, mem⟩ := told
    have split' : first ++ second = (first ++ before) ++ games.map ofGame := by rw [split, List.append_assoc]
    have still' : requests (first ++ before) = [] := by
      rw [requests_append, still, later]
      rfl
    exact .moved ⟨membership, List.mem_append_right first mem⟩ meant known split' still' goes

/-- **Nothing is moved before it is known what was asked for.** -/
theorem Still.bind (hx : Still x) (hf : ∀ a talk, x.Ends talk (.ok a) → Resolves c order (f a)) :
    Resolves c order (x >>= f) := by
  intro talk r h
  rcases Operation.ends_bind.mp h with ⟨e, failed, rfl⟩ | ⟨a, first, second, rfl, ended, rest⟩
  · exact .failed e (hx talk _ failed)
  · exact (hf a first ended second r rest).after (hx first _ ended)

theorem resolves_pure_bind {a : α} (h : Resolves c order (f a)) : Resolves c order (pure a >>= f) := h

theorem resolves_notFound (explanation : String) :
    Resolves c order (pure (.notFound explanation)) := by
  intro talk r h
  obtain ⟨rfl, rfl⟩ := Operation.ends_pure.mp h
  exact .notFound explanation rfl

theorem still_require {α : Type} (q : Except DomainError α) : Still (require q) := by
  intro talk r h
  obtain ⟨rfl, -⟩ := ends_require.mp h
  rfl

theorem still_recordUnknown (kind : Store.NameKind) (value : String) : Still (recordUnknown kind value) := by
  intro talk r h
  obtain ⟨reply, rfl, -⟩ := ends_recordUnknown.mp h
  rfl

theorem resolves_classTarget_bind (name : String) {f : Option ClassTarget → Operation (Outcome TransferSummary)}
    (known : ∀ t, ClassTarget.ofName? (c.className name) = some t → Resolves c order (f (some t)))
    (unknown : Resolves c order (f none)) : Resolves c order (classTarget c name >>= f) := by
  unfold classTarget
  split
  · rename_i t meant
    exact known t meant
  · exact (still_recordUnknown .guardian _).bind fun _ _ _ => unknown

/-- What moving the chosen items comes to. -/
theorem ends_moveItems (h : (moveItems p itemName items destination requested).Ends talk r) :
    (talk = [] ∧ ∃ explanation, r = .ok (.notFound explanation)) ∨
      ∃ games report, talk = games.map ofGame ∧
        r = .ok (.found (summaryOf p itemName destination requested report)) ∧
        (Transfer.batch items destination requested p.membershipType).Goes games report := by
  unfold moveItems at h
  split at h
  · obtain ⟨rfl, rfl⟩ := Operation.ends_pure.mp h
    exact .inl ⟨rfl, _, rfl⟩
  rcases Operation.ends_bind.mp h with ⟨e, failed, -⟩ | ⟨report, first, second, rfl, moved, last⟩
  · obtain ⟨_, -, same⟩ := ends_attempt.mp failed
    cases same
  · obtain ⟨_, through, same⟩ := ends_attempt.mp moved
    cases same
    obtain ⟨games, rfl, goes⟩ := goes_withGame through
    obtain ⟨rfl, rfl⟩ := Operation.ends_pure.mp last
    exact .inr ⟨games, report, by simp, rfl, goes⟩

/-- Once the names are understood, they are looked up in the profile, and nothing is moved before. -/
theorem resolves_transferResolved {target : ClassTarget} {origin : Option ClassTarget}
    (item : c.itemHash? (c.itemName order.itemName) = some hash)
    (known : requestedQuantity order.count = .ok requested)
    (goal : order.destination.elim (target = .vault) fun name =>
      ClassTarget.ofName? (c.className name) = some target)
    (start : Option.Rel (fun name t => ClassTarget.ofName? (c.className name) = some t) order.source origin) :
    Resolves c order (transferResolved c itemName hash requested target origin) := by
  intro talk r h
  unfold transferResolved at h
  rcases Operation.ends_bind.mp h with ⟨e, failed, rfl⟩ | ⟨⟨a, p⟩, first, second, rfl, loaded, rest⟩
  · rcases ends_load failed with ⟨asks, -⟩ | ⟨a, s, -, same⟩
    · exact .failed e (requests_eq_nil asks)
    · cases same
  rcases ends_load loaded with ⟨-, e, same⟩ | ⟨a, s, rfl, same⟩
  · cases same
  cases same
  have told : Tells [⟨.game .currentAccount, .ok a⟩, ⟨.game (.loadProfile a.membership), .ok s⟩] s :=
    ⟨a.membership, by simp⟩
  dsimp only at rest
  split at rest
  · -- the class of the destination has no character
    refine Resolved.after rfl ?_
    exact (still_recordUnknown _ _).bind (fun _ _ _ => resolves_notFound _) _ _ rest
  rename_i destination goesTo
  split at rest
  · exact (resolves_notFound _ _ _ rest).after rfl
  rename_i source comesFrom
  rcases ends_moveItems rest with ⟨rfl, explanation, rfl⟩ | ⟨games, report, rfl, rfl, goes⟩
  · exact .notFound explanation rfl
  · have meant : Meant c order s hash destination source :=
      ⟨item, denotes_of_ownerOf goal goesTo, denotes_of_mapM start comesFrom⟩
    exact .moved (told.append _) meant known rfl rfl goes

/-- A question that an operation goes on from has an answer. -/
theorem eq_ok_of_ends_require {β : Type} {q : Except DomainError β} {b : β} {talk : List (Exchange Service)}
    (h : (require q).Ends talk (.ok b)) : q = .ok b := by
  obtain ⟨-, same⟩ := ends_require.mp h
  cases q with
  | error e => cases same
  | ok b' =>
    cases same
    rfl

theorem resolves_transferItem (c : Catalog) (order : TransferOrder) : Resolves c order (transferItem c order) := by
  unfold transferItem
  refine (still_require _).bind fun requested _ counted => ?_
  have known := eq_ok_of_ends_require counted
  dsimp only
  split
  · exact (still_recordUnknown _ _).bind fun _ _ _ => resolves_notFound _
  rename_i hash item
  split
  on_goal 1 =>
    rename_i given
    have goal : order.destination.elim (ClassTarget.vault = .vault) fun name =>
        ClassTarget.ofName? (c.className name) = some .vault := by
      rw [given]
      rfl
    refine resolves_pure_bind ?_
  on_goal 2 =>
    rename_i name given
    refine resolves_classTarget_bind name (fun t meant => ?_) (resolves_notFound _)
    have goal : order.destination.elim (t = .vault) fun name =>
        ClassTarget.ofName? (c.className name) = some t := by
      rw [given]
      exact meant
  -- the source is understood in the same way, whatever the destination is
  all_goals
    dsimp only
    split
    · rename_i anywhere
      exact resolves_transferResolved item known goal (anywhere ▸ .none)
    · rename_i start given
      refine resolves_classTarget_bind start (fun t meant => ?_) (resolves_notFound _)
      exact resolves_transferResolved item known goal (given ▸ .some meant)

/-- One batch of what was asked for is in scope. -/
theorem Resolved.scoped (h : Resolved c order talk r) : Scoped c order talk r := by
  cases h with
  | failed e still => exact .failed e still
  | notFound explanation still => exact .notFound explanation still
  | moved told meant known split still goes =>
    obtain ⟨-, -, -, balanced⟩ := Transfer.goes_batch goes
    refine .found told meant (fun r hr => ?_) (fun n hn pos => ?_) (fun fits => ?_) balanced.added
    · rw [split, requests_append, still, List.nil_append] at hr
      obtain ⟨m, hm, asks⟩ := List.mem_filterMap.mp hr
      obtain ⟨⟨call, reply⟩, he, rfl⟩ := List.mem_map.mp hm
      obtain ⟨r', rfl, asked⟩ := (calls_batch_asked _ _ _ _ _ _).of_goes goes _ he
      obtain rfl := Option.some.inj asks
      exact asked
    · obtain ⟨k, asked, few, -⟩ := le_count_of_requestedQuantity known n hn pos
      have within := balanced.planned_le.trans (Transfer.quantity_plan_le k asked)
      simp only [summaryOf]
      omega
    · -- a count is at most the greatest word, and so is what is planned for it
      obtain ⟨planned, whole⟩ := balanced.exact (by
        rcases fits with ⟨n, hn, pos⟩ | all
        · obtain ⟨k, asked, -, word⟩ := le_count_of_requestedQuantity known n hn pos
          exact (Transfer.quantity_plan_le k asked).trans_lt word
        · rw [← itemsToMove_eq_wantedItems] at all
          exact Transfer.quantity_plan_le_incoming.trans_lt all)
      exact whole.trans planned.symm

theorem confined_transferItem (c : Catalog) (order : TransferOrder) : Confined c order (transferItem c order) :=
  fun talk r h => (resolves_transferItem c order talk r h).scoped

end Confined

/-- A warlock and a hunter, each with a stack of three thousand million. -/
def mountain : Snapshot :=
  { hoard with
    characters := [⟨quartermaster, [], [⟨7, none, 0, 3000000000, 0⟩]⟩,
      ⟨{ quartermaster with id := "prospector", guardian := .hunter }, [], [⟨7, none, 0, 3000000000, 0⟩]⟩]
    profileInventory := [] }

/-- A game that lets nothing go from one character. -/
def miser (s : Snapshot) (holder : CharacterId) : Dialogue.Answering Game Unit
  | .transferItem r, g => (if r.characterId = holder then .error (.transport "refused") else .ok (), g)
  | c, g => keeper s c g

end Service
end Armory
