import Mathlib.Data.List.Nodup
import Armory.Proofs.Dialogue.Interleaving

/-! States that fall into parts. Where every call concerns one part of a state only, dialogues that keep to
different parts have nothing to do with each other. Main statements: dialogues under way at the same time end
as if each had its part for itself (`Parted.interleaving`), so it does not matter in which order they make
their calls (`Parted.any_order`). -/
namespace Armory.Dialogue

variable {I : Interface} {α β κ σ τ : Type}

/-- Every call that a dialogue can make, whatever the replies are, meets a condition. -/
inductive Calls (p : I.Call → Prop) : Dialogue I α → Prop
  | done (a : α) : Calls p (.done a)
  | ask {c : I.Call} {next : I.Reply c → Dialogue I α} (here : p c)
      (later : ∀ reply, Calls p (next reply)) : Calls p (.ask c next)

namespace Calls

variable {p : I.Call → Prop} {c : I.Call} {next : I.Reply c → Dialogue I α} {d : Dialogue I α}
  {f : α → Dialogue I β}

theorem head (h : Calls p (.ask c next)) : p c := by
  cases h with
  | ask here later => exact here

theorem tail (h : Calls p (.ask c next)) (reply : I.Reply c) : Calls p (next reply) := by
  cases h with
  | ask here later => exact later reply

theorem andThen (h : Calls p d) (hf : ∀ a, Calls p (f a)) : Calls p (d.andThen f) := by
  induction h with
  | done a => exact hf a
  | ask here _ ih => exact .ask here ih

theorem each {f : κ → Dialogue I β} {xs : List κ} (h : ∀ x ∈ xs, Calls p (f x)) :
    Calls p (Dialogue.each f xs) := by
  induction xs with
  | nil => exact .done _
  | cons x rest ih =>
    obtain ⟨first, later⟩ := List.forall_mem_cons.mp h
    exact first.andThen fun _ => (ih later).andThen fun _ => .done _

/-- The calls that a dialogue has made are among those it can make. -/
theorem of_goes (h : Calls p d) {talk : List (Exchange I)} {a : α} (goes : d.Goes talk a) :
    ∀ e ∈ talk, p e.1 := by
  induction goes with
  | done a => simp
  | ask rest ih => exact List.forall_mem_cons.mpr ⟨h.head, ih (h.tail _)⟩

end Calls

/-- A state falls into parts, and the calls that belong to a part are answered by it alone: what another part
is has no bearing on the reply, and every other part stays as it is. -/
structure Parted (answer : Answering I σ) (inner : Answering I τ) (part : κ → σ → τ)
    (belongs : κ → I.Call → Prop) (Inv : σ → Prop) : Prop where
  keeps : ∀ {k c s}, belongs k c → Inv s → Inv (answer c s).2
  reply : ∀ {k c s}, belongs k c → Inv s → (answer c s).1 = (inner c (part k s)).1
  here : ∀ {k c s}, belongs k c → Inv s → part k (answer c s).2 = (inner c (part k s)).2
  elsewhere : ∀ {k c s k'}, belongs k c → Inv s → k' ≠ k → part k' (answer c s).2 = part k' s

namespace Parted

variable {answer : Answering I σ} {inner : Answering I τ} {part : κ → σ → τ}
  {belongs : κ → I.Call → Prop} {Inv : σ → Prop} {pool : List (Dialogue I β)} {s t t' : σ}
  {talk talk' : List (Nat × Exchange I)} {values values' : List β} {keys : List κ}

/-- The dialogues of a pool keep to the parts of some keys. -/
structure Keeping (belongs : κ → I.Call → Prop) (keys : List κ) (pool : List (Dialogue I β)) : Prop where
  length_eq : keys.length = pool.length
  calls : ∀ {n : Nat} {k : κ} {d : Dialogue I β}, keys[n]? = some k → pool[n]? = some d → Calls (belongs k) d

/-- **Each of the dialogues has its part for itself**: it ends with the value, and leaves its part in the
state, that it would reach from there alone. -/
theorem interleaving (parted : Parted answer inner part belongs Inv)
    (h : Interleaving answer pool s talk values t) (inv : Inv s) (apart : keys.Nodup)
    (keeping : Keeping belongs keys pool) :
    (∀ {n : Nat} {k : κ} {d : Dialogue I β}, keys[n]? = some k → pool[n]? = some d →
      values[n]? = some (run inner d (part k s)).value ∧
        part k t = (run inner d (part k s)).state) ∧
      ∀ k ∉ keys, part k t = part k s := by
  induction h with
  | done values s =>
    refine ⟨fun {n k d} _ hd => ?_, fun _ _ => rfl⟩
    obtain ⟨v, hv, rfl⟩ := Option.map_eq_some_iff.mp (List.getElem?_map.symm.trans hd)
    exact ⟨hv, rfl⟩
  | @step front back c next s t talk values rest ih =>
    have here : ∀ d : Dialogue I β, (front ++ d :: back)[front.length]? = some d := by simp
    -- the key of the dialogue that makes the call
    obtain ⟨k, hk⟩ : ∃ k, keys[front.length]? = some k := by
      have bound : front.length < keys.length := by simp [keeping.length_eq]
      exact ⟨_, List.getElem?_eq_getElem bound⟩
    have calls := keeping.calls hk (here _)
    have mine : belongs k c := calls.head
    -- whatever has another key is as it was
    have others : ∀ {k'}, k' ≠ k → part k' (answer c s).2 = part k' s :=
      fun ne => parted.elsewhere mine inv ne
    have keeping' : Keeping belongs keys (front ++ next (answer c s).1 :: back) := by
      refine ⟨by simpa using keeping.length_eq, fun {n k' d} hk' hd => ?_⟩
      by_cases hn : n = front.length
      · subst hn
        obtain rfl := Option.some.inj (hk.symm.trans hk')
        obtain rfl := Option.some.inj ((here _).symm.trans hd)
        exact calls.tail _
      · exact keeping.calls hk' ((getElem?_append_cons_of_ne hn).trans hd)
    obtain ⟨members, absent⟩ := ih (parted.keeps mine inv) keeping'
    refine ⟨fun {n k' d} hk' hd => ?_, fun k' hk' => ?_⟩
    · by_cases hn : n = front.length
      · subst hn
        obtain rfl := Option.some.inj (hk.symm.trans hk')
        obtain rfl := Option.some.inj ((here _).symm.trans hd)
        have later := members hk (here _)
        rw [parted.here mine inv, parted.reply mine inv] at later
        exact later
      · have ne : k' ≠ k := by
          rintro rfl
          have bound := (List.getElem?_eq_some_iff.mp hk').1
          exact hn ((List.getElem?_inj bound apart).mp (hk'.trans hk.symm))
        have later := members hk' ((getElem?_append_cons_of_ne hn).trans hd)
        rwa [others ne] at later
    · have ne : k' ≠ k := fun e => hk' (e ▸ List.mem_of_getElem? hk)
      rw [absent k' hk', others ne]

/-- **The order of the calls does not matter**: in whatever order they are made, the dialogues end with the
same values, and every part in the same state. -/
theorem any_order (parted : Parted answer inner part belongs Inv)
    (h : Interleaving answer pool s talk values t) (h' : Interleaving answer pool s talk' values' t')
    (inv : Inv s) (apart : keys.Nodup) (keeping : Keeping belongs keys pool) :
    values = values' ∧ ∀ k, part k t = part k t' := by
  obtain ⟨members, absent⟩ := parted.interleaving h inv apart keeping
  obtain ⟨members', absent'⟩ := parted.interleaving h' inv apart keeping
  have both : ∀ {n : Nat} {k : κ}, keys[n]? = some k → values[n]? = values'[n]? ∧ part k t = part k t' := by
    intro n k hk
    have bound : n < pool.length := by
      rw [← keeping.length_eq]
      exact (List.getElem?_eq_some_iff.mp hk).1
    have hd := List.getElem?_eq_getElem bound
    obtain ⟨value, state⟩ := members hk hd
    obtain ⟨value', state'⟩ := members' hk hd
    exact ⟨value.trans value'.symm, state.trans state'.symm⟩
  refine ⟨List.ext_getElem? fun n => ?_, fun k => ?_⟩
  · cases hk : keys[n]? with
    | some k => exact (both hk).1
    | none =>
      have out := List.getElem?_eq_none_iff.mp hk
      rw [keeping.length_eq] at out
      rw [List.getElem?_eq_none_iff.mpr (h.length_eq ▸ out),
        List.getElem?_eq_none_iff.mpr (h'.length_eq ▸ out)]
  · by_cases hk : k ∈ keys
    · obtain ⟨n, hn⟩ := List.getElem?_of_mem hk
      exact (both hn).2
    · rw [absent k hk, absent' k hk]

end Parted

end Armory.Dialogue
