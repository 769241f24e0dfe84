import Armory.Proofs.Catalog.Names
import Armory.Proofs.Service.Count
import Armory.Proofs.Service.Scope

/-!
# What a typed item name means to a request

A count and a transfer bring the name that was typed into the form of the catalog before they look it up, and the
look-up brings it into that form again. Main statement: where no alias stands for an alias, that comes to looking up the
name as it was typed, and the answer names the item as the catalog does (`named_once`).
-/

namespace Armory

namespace Operation

variable {α β : Type} {x : Operation α} {f : α → Operation β} {p : β → Prop} {b : β}

/-- Whatever the partners reply, each value that an operation ends with has a property. -/
def Gives (x : Operation α) (p : α → Prop) : Prop := ∀ talk a, x.Ends talk (.ok a) → p a

theorem gives_pure (h : p b) : (pure b : Operation β).Gives p := by
  intro talk b' ended
  obtain ⟨-, same⟩ := ends_pure.mp ended
  cases same
  exact h

theorem gives_bind (hf : ∀ a, (f a).Gives p) : (x >>= f).Gives p := by
  intro talk b ended
  rcases ends_bind.mp ended with ⟨e, -, same⟩ | ⟨a, first, second, -, -, later⟩
  · cases same
  · exact hf a second b later

end Operation

namespace Service

open Operation (Gives gives_pure gives_bind)
open Dialogue (Exchange)

/-! ## Answers -/

/-- The answers to a count by a typed name: they tell a name that means nothing from one of an item that nobody has, and
name the item as the catalog does, by the form under which its hash is found. -/
inductive CountAnswers (s : Catalog.Source) (typed : String) : Except ServiceError (Outcome ItemCount) → Prop
  | unknown (none : (Catalog.ofSource s).itemHash? typed = none) :
      CountAnswers s typed (.ok (.notFound (unknownItem ((Catalog.ofSource s).itemName typed))))
  | noneHeld {h : Hash} (known : (Catalog.ofSource s).itemHash? typed = some h) :
      CountAnswers s typed (.ok (.notFound (noneHeld ((Catalog.ofSource s).itemName typed))))
  | failed {h : Hash} (e : ServiceError) (known : (Catalog.ofSource s).itemHash? typed = some h) :
      CountAnswers s typed (.error e)
  | found {count : ItemCount} (known : (Catalog.ofSource s).itemHash? typed = some count.itemHash)
      (name : count.itemName = (Catalog.ofSource s).itemName typed)
      (indexed : s.Indexes count.itemName count.itemHash) : CountAnswers s typed (.ok (.found count))

/-- What a transfer of an item says that the catalog knows, if there is nothing to move: a name is no class, or a class
has no characters, or the item is not there. -/
inductive Explains (itemName : String) : String → Prop
  | notAClass (typed : String) : Explains itemName (notAClass typed)
  | noSuchCharacter (g : Guardian) : Explains itemName (noSuchCharacter g)
  | noneHeld : Explains itemName (noneHeld itemName)

/-- The answers to a transfer by a typed name, with the calls that have moved something. A name that means nothing is
told from an item that there is none of. What is moved is the item that the name means, and the answer names it as the
catalog does, by the form under which its hash is found. -/
inductive TransferAnswers (s : Catalog.Source) (order : TransferOrder) (talk : List (Exchange Service)) :
    Except ServiceError (Outcome TransferSummary) → Prop
  | refused {e : DomainError} (count : requestedQuantity order.count = .error e) (still : requests talk = []) :
      TransferAnswers s order talk (.error (.domain e))
  | unknown (none : (Catalog.ofSource s).itemHash? order.itemName = none) (still : requests talk = []) :
      TransferAnswers s order talk (.ok (.notFound (unknownItem ((Catalog.ofSource s).itemName order.itemName))))
  | notFound {h : Hash} {explanation : String} (known : (Catalog.ofSource s).itemHash? order.itemName = some h)
      (still : requests talk = []) (explained : Explains ((Catalog.ofSource s).itemName order.itemName) explanation) :
      TransferAnswers s order talk (.ok (.notFound explanation))
  | failed {h : Hash} (e : ServiceError) (known : (Catalog.ofSource s).itemHash? order.itemName = some h)
      (still : requests talk = []) : TransferAnswers s order talk (.error e)
  | found {summary : TransferSummary} {h : Hash} (known : (Catalog.ofSource s).itemHash? order.itemName = some h)
      (moved : ∀ r ∈ requests talk, r.itemHash = h)
      (name : summary.itemName = (Catalog.ofSource s).itemName order.itemName)
      (indexed : s.Indexes summary.itemName h) : TransferAnswers s order talk (.ok (.found summary))

/-! ## Counts -/

section Answers

variable {s : Catalog.Source} {c : Catalog} {talk : List (Exchange Service)}

theorem ends_unknown {α : Type} {kind : Store.NameKind} {value : String} {a : α} {r : Except ServiceError α}
    (h : (recordUnknown kind value >>= fun _ => pure a).Ends talk r) : r = .ok a := by
  rcases Operation.ends_bind.mp h with ⟨e, failed, -⟩ | ⟨_, first, second, -, -, last⟩
  · obtain ⟨-, -, same⟩ := ends_recordUnknown.mp failed
    cases same
  · exact (Operation.ends_pure.mp last).2.symm

theorem answers_countItem (unchained : (Catalog.ofSource s).itemAliases.Unchained) {typed : String}
    {r : Except ServiceError (Outcome ItemCount)} (h : (countItem (.ofSource s) typed).Ends talk r) :
    CountAnswers s typed r := by
  have once := Catalog.itemHash?_itemName unchained typed
  unfold countItem at h
  dsimp only at h
  split at h
  · rename_i unknown
    rw [ends_unknown h]
    exact .unknown (once.symm.trans unknown)
  rename_i hash known
  have known := once.symm.trans known
  rcases Operation.ends_bind.mp h with ⟨e, -, rfl⟩ | ⟨⟨a, p⟩, first, second, -, -, last⟩
  · exact .failed e known
  dsimp only at last
  split at last
  · obtain ⟨-, rfl⟩ := Operation.ends_pure.mp last
    exact .noneHeld known
  · obtain ⟨-, rfl⟩ := Operation.ends_pure.mp last
    exact .found known rfl (Catalog.indexes_of_itemHash? known)

/-! ## Transfers -/

/-- An outcome that names what was moved as the catalog does, or explains why nothing was. -/
def Informs (itemName : String) : Outcome TransferSummary → Prop
  | .found summary => summary.itemName = itemName
  | .notFound explanation => Explains itemName explanation

theorem informs_notFound {name explanation : String} (h : Explains name explanation) :
    (pure (.notFound explanation) : Operation (Outcome TransferSummary)).Gives (Informs name) :=
  gives_pure h

theorem informs_moveItems (p : Profile) (name : String) (items : List Item) (destination : Option CharacterId)
    (requested : Option Nat) : (moveItems p name items destination requested).Gives (Informs name) := by
  unfold moveItems
  split
  · exact informs_notFound .noneHeld
  · exact gives_bind fun _ => gives_pure rfl

theorem informs_transferResolved (c : Catalog) (name : String) (hash : Hash) (requested : Option Nat)
    (destination : ClassTarget) (source : Option ClassTarget) :
    (transferResolved c name hash requested destination source).Gives (Informs name) := by
  unfold transferResolved
  refine gives_bind fun loaded => ?_
  dsimp only
  split
  · exact gives_bind fun _ => informs_notFound (.noSuchCharacter _)
  split
  · exact informs_notFound (.noSuchCharacter _)
  · exact informs_moveItems _ name _ _ _

theorem informs_transferItem {order : TransferOrder} {h : Hash}
    (known : c.itemHash? (c.itemName order.itemName) = some h) :
    (transferItem c order).Gives (Informs (c.itemName order.itemName)) := by
  unfold transferItem
  refine gives_bind fun requested => ?_
  dsimp only
  rw [known]
  dsimp only
  split
  -- what follows is the same for a destination that is given as for the vault
  all_goals
    refine gives_bind fun destination => ?_
    split
    · exact informs_notFound (.notAClass _)
    split
    · exact informs_transferResolved _ _ _ _ _ _
    refine gives_bind fun source => ?_
    split
    · exact informs_notFound (.notAClass _)
    · exact informs_transferResolved _ _ _ _ _ _

/-- A request for an item that nobody knows comes to nothing, or asks for a quantity that there is not. -/
theorem ends_transferItem_unknown {order : TransferOrder} {r : Except ServiceError (Outcome TransferSummary)}
    (unknown : c.itemHash? (c.itemName order.itemName) = none) (h : (transferItem c order).Ends talk r) :
    (∃ e, requestedQuantity order.count = .error e ∧ r = .error (.domain e)) ∨
      r = .ok (.notFound (unknownItem (c.itemName order.itemName))) := by
  unfold transferItem at h
  rcases Operation.ends_bind.mp h with ⟨e, counted, rfl⟩ | ⟨requested, first, second, -, -, rest⟩
  · obtain ⟨-, same⟩ := ends_require.mp counted
    cases bad : requestedQuantity order.count with
    | ok requested =>
      rw [bad] at same
      cases same
    | error d =>
      rw [bad] at same
      cases same
      exact .inl ⟨d, rfl, rfl⟩
  · dsimp only at rest
    rw [unknown] at rest
    exact .inr (ends_unknown rest)

theorem answers_transferItem (unchained : (Catalog.ofSource s).itemAliases.Unchained) {order : TransferOrder}
    {r : Except ServiceError (Outcome TransferSummary)} (h : (transferItem (.ofSource s) order).Ends talk r) :
    TransferAnswers s order talk r := by
  have once := Catalog.itemHash?_itemName unchained order.itemName
  have confined := confined_transferItem (.ofSource s) order talk r h
  cases known : (Catalog.ofSource s).itemHash? order.itemName with
  | none =>
    rcases ends_transferItem_unknown (once.trans known) h with ⟨e, bad, rfl⟩ | rfl
    · cases confined with
      | failed _ still => exact .refused bad still
    · cases confined with
      | notFound _ still => exact .unknown known still
  | some hash =>
    cases confined with
    | failed e still => exact .failed e known still
    | notFound explanation still => exact .notFound known still (informs_transferItem (once.trans known) talk _ h)
    | @found summary _ _ _ _ _ meant asked _ _ =>
      have same := Option.some.inj (meant.item.symm.trans (once.trans known))
      have name : summary.itemName = (Catalog.ofSource s).itemName order.itemName :=
        informs_transferItem (once.trans known) talk _ h
      refine .found known (fun r hr => (asked r hr).kind.trans same) name ?_
      rw [name]
      exact Catalog.indexes_of_itemHash? known

end Answers

/-! ## Both requests -/

/-- **A name is resolved once.** No alias of a catalog stands for an alias, as with the aliases that a catalog has if it
is given no others. Then the form of any typed name is its own form, and means the same hash, if it means one. Whatever
the partners reply, and in whatever order the calls of a transfer come, a count and a transfer by that name are about
that hash, and their answers name the item by the form under which it is found. -/
theorem named_once :
    (Catalog.aliasTable ({} : Catalog.Source).itemAliases).Unchained ∧
    ∀ s : Catalog.Source, (Catalog.ofSource s).itemAliases.Unchained →
      (∀ typed : String,
        (Catalog.ofSource s).itemName ((Catalog.ofSource s).itemName typed) = (Catalog.ofSource s).itemName typed ∧
        (Catalog.ofSource s).itemHash? ((Catalog.ofSource s).itemName typed) =
          (Catalog.ofSource s).itemHash? typed) ∧
      ∀ {σ : Type} (answer : Dialogue.Answering Service σ) (w : σ),
        (∀ typed : String, CountAnswers s typed (Dialogue.run answer (countItem (.ofSource s) typed).run w).value) ∧
        ∀ (order : TransferOrder) talk r w', (transferItem (.ofSource s) order).procedure.Runs answer w talk r w' →
          TransferAnswers s order talk r := by
  refine ⟨Catalog.unchained_default, fun s unchained => ⟨fun typed => ?_, fun answer w => ⟨fun typed => ?_, ?_⟩⟩⟩
  · exact ⟨Catalog.itemName_itemName unchained typed, Catalog.itemHash?_itemName unchained typed⟩
  · exact answers_countItem unchained (Operation.ends_run answer _ w)
  · exact fun order talk r w' run => answers_transferItem unchained run.goes

/-- What a catalog is made from that knows one material, and the aliases that there are without others. -/
def stocked : Catalog.Source := { definitions := [⟨7, "Spinmetal", .common, .unknown, 0⟩] }

/-- A misheard name is counted as the material that it stands for. -/
theorem named_once_stocked :
    (Catalog.ofSource stocked).itemAliases.Unchained ∧
      (Catalog.ofSource stocked).itemHash? ((Catalog.ofSource stocked).itemName " Spin  MENTAL") =
        (Catalog.ofSource stocked).itemHash? " Spin  MENTAL" ∧
      ∃ count, (Dialogue.run (partners (keeper hoard)) (countItem (.ofSource stocked) " Spin  MENTAL").run
          ((), .inl {})).value = .ok (.found count) ∧
        (Catalog.ofSource stocked).itemHash? " Spin  MENTAL" = some count.itemHash ∧
        stocked.Indexes count.itemName count.itemHash := by
  have unchained : (Catalog.ofSource stocked).itemAliases.Unchained := Catalog.unchained_default
  obtain ⟨resolved, answered⟩ := named_once.2 stocked unchained
  have answers := (answered (partners (keeper hoard)) ((), .inl {})).1 " Spin  MENTAL"
  refine ⟨unchained, (resolved " Spin  MENTAL").2, ?_⟩
  have value : (Dialogue.run (partners (keeper hoard)) (countItem (.ofSource stocked) " Spin  MENTAL").run
      ((), .inl {})).value = .ok (.found ⟨"spinmetal", 7,
        [⟨.vault, 100⟩, ⟨.character "quartermaster" .warlock, 150⟩], 250⟩) := by
    decide +kernel
  rw [value] at answers ⊢
  cases answers with
  | found known name indexed => exact ⟨_, rfl, known, indexed⟩

end Service
end Armory
