import Mathlib.Data.Int.CardIntervalMod
import Mathlib.Data.List.Rotate
import Armory.Bits
import Armory.Proofs.Dialogue.Schedule
import Armory.Wire.Link

/-! Clients in turn. All who ask a rotation for a client draw from one counter, in whatever order, and each gets the
client whose place its ticket tells. Main statement: as long as the counter has not begun again, any tickets in a row,
as many as there are clients, hand out each client once, and from a fresh rotation no client is ever more than one turn
ahead of another (`Rotation.handed_out_evenly`). -/
namespace Armory.Wire

open Dialogue (Chain Exchange Goes Interleaving partOf)

/-- What a caller asks of a rotation: the next client. -/
abbrev Turns : Interface where
  Call := Unit
  Reply _ := Option Client

namespace Rotation

variable {β : Type} {r : Rotation} {caller : Dialogue Turns β} {talk : List (Exchange Counter)} {a : β}
  {s t : UInt64} {tickets : List UInt64} {place : Nat}

/-- A caller that gets its clients from a rotation. -/
def serve (r : Rotation) (caller : Dialogue Turns β) : Dialogue Counter β := caller.through fun _ => r.next

/-- What the caller who has drawn a ticket gets for it. -/
def handed (r : Rotation) (e : Exchange Counter) : Exchange Turns := ⟨(), r.client? e.2⟩

/-! ## The client of a ticket -/

theorem place_lt (filled : r.clients ≠ []) (ticket : UInt64) : r.place ticket < r.clients.length :=
  Nat.mod_lt _ (List.length_pos_iff.mpr filled)

theorem exists_client? (filled : r.clients ≠ []) (ticket : UInt64) :
    ∃ c ∈ r.clients, r.client? ticket = some c :=
  ⟨_, List.getElem_mem (place_lt filled ticket), List.getElem?_eq_getElem (place_lt filled ticket)⟩

theorem next_eq (filled : r.clients ≠ []) : r.next = .ask () fun ticket => .done (r.client? ticket) := by
  rw [next, if_neg (by simpa using filled)]

theorem serve_ask (filled : r.clients ≠ []) (c : Turns.Call) (next : Option Client → Dialogue Turns β) :
    r.serve (.ask c next) = .ask () fun ticket => r.serve (next (r.client? ticket)) := by
  show r.next.andThen (fun client => r.serve (next client)) = _
  rw [next_eq filled, Dialogue.ask_andThen]
  rfl

/-- Each time that a caller asks for a client, one ticket is drawn, and the caller goes on with its client. -/
theorem goes_of_serve (filled : r.clients ≠ []) (h : Goes (r.serve caller) talk a) :
    Goes caller (talk.map r.handed) a := by
  induction caller generalizing talk with
  | done b =>
    obtain ⟨rfl, rfl⟩ := Dialogue.goes_done.mp h
    exact .done b
  | ask c next ih =>
    rw [serve_ask filled, Dialogue.goes_ask] at h
    obtain ⟨ticket, rest, rfl, h⟩ := h
    exact .ask (ih _ h)

/-! ## Tickets in a row -/

/-- The ticket after this one, if the counter does not begin again. -/
theorem toNat_draw (c : Counter.Call) (below : s.toNat + 1 < Bits.size 64) :
    (Counter.draw c s).2.toNat = s.toNat + 1 := by
  show (s + 1).toNat = _
  rw [UInt64.toNat_add, UInt64.toNat_one]
  exact Nat.mod_eq_of_lt below

/-- **The counter gives its tickets in order**, until it begins again. -/
theorem map_toNat_of_chain (h : Chain Counter.draw s talk t)
    (below : s.toNat + talk.length ≤ Bits.size 64) :
    talk.map (fun e => e.2.toNat) = List.range' s.toNat talk.length := by
  induction h with
  | nil => rfl
  | @cons c s t rest later ih =>
    rw [List.map_cons, List.length_cons, List.range'_succ]
    congr 1
    cases rest with
    | nil => rfl
    | cons e rest =>
      -- only where another ticket follows does the next state of the counter matter
      simp only [List.length_cons] at below
      have succ := toNat_draw (s := s) c (by omega)
      rw [ih (by rw [succ, List.length_cons]; omega), succ]

/-- What stands together in a row is a row of its own. -/
theorem map_toNat_window {first k : Nat} {before window after : List UInt64}
    (row : (before ++ window ++ after).map (·.toNat) = List.range' first k) :
    window.map (·.toNat) = List.range' (first + before.length) window.length := by
  have length := congrArg List.length row
  simp only [List.length_map, List.length_append, List.length_range'] at length
  rw [← length, ← List.range'_append_1, ← List.range'_append_1, List.map_append, List.map_append] at row
  have front := (List.append_inj row (by simp)).1
  exact (List.append_inj front (by simp)).2

/-- The remainders of numbers in a row, as many as there are remainders. -/
theorem map_mod_range' (s n : Nat) : (List.range' s n).map (· % n) = (List.range n).rotate s := by
  refine List.ext_getElem (by simp) fun k hk _ => ?_
  simp [List.getElem_rotate, Nat.add_comm]

/-- **As many tickets in a row as there are clients** are for all places, from some place on and round again. -/
theorem map_place_row {window : List UInt64} {first : Nat} (full : window.length = r.clients.length)
    (row : window.map (·.toNat) = List.range' first window.length) :
    window.map r.place = (List.range r.clients.length).rotate first := by
  have places : window.map r.place = (window.map (·.toNat)).map (· % r.clients.length) := by
    rw [List.map_map]
    rfl
  rw [places, row, full, map_mod_range']

theorem map_getElem?_range (clients : List Client) :
    (List.range clients.length).map (clients[·]?) = clients.map some := by
  refine List.ext_getElem (by simp) fun k hk hk' => ?_
  simp

/-- The clients of tickets for all places are all clients. -/
theorem perm_client? {window : List UInt64} (places : (window.map r.place).Perm (List.range r.clients.length)) :
    (window.map r.client?).Perm (r.clients.map some) := by
  have clients : window.map r.client? = (window.map r.place).map (r.clients[·]?) := by
    rw [List.map_map]
    rfl
  rw [clients, ← map_getElem?_range]
  exact places.map _

/-! ## Turns from a fresh rotation -/

/-- How many of the first `k` tickets are for a place: the last round may have come to the places at the front only. -/
theorem countP_place {k : Nat} (here : place < r.clients.length)
    (row : tickets.map (·.toNat) = List.range k) :
    tickets.countP (r.place · == place) =
      k / r.clients.length + if place < k % r.clients.length then 1 else 0 := by
  calc tickets.countP (r.place · == place)
      = (tickets.map (·.toNat)).countP fun n => decide (n ≡ place [MOD r.clients.length]) := by
        rw [List.countP_map]
        refine List.countP_congr fun ticket _ => ?_
        simp [Rotation.place, Nat.ModEq, Nat.mod_eq_of_lt here]
    _ = k.count (· ≡ place [MOD r.clients.length]) := by
        rw [row]
        rfl
    _ = _ := by rw [Nat.count_modEq_card k (Nat.zero_lt_of_lt here), Nat.mod_eq_of_lt here]

/-- This number is that of the rounds, rounded down or up. -/
theorem div_add_ite {k n : Nat} (place : Nat) (here : place < n) :
    (k / n + if place < k % n then 1 else 0) = k / n ∨
      (k / n + if place < k % n then 1 else 0) = (k + n - 1) / n := by
  by_cases ahead : place < k % n
  · right
    have whole := Nat.div_add_mod k n
    have rest := Nat.mod_lt k (Nat.zero_lt_of_lt here)
    have up : k + n - 1 = (k % n - 1) + n * (k / n + 1) := by
      rw [Nat.mul_add, Nat.mul_one]
      omega
    have none : (k % n - 1) / n = 0 := Nat.div_eq_of_lt (by omega)
    rw [if_pos ahead, up, Nat.add_mul_div_left _ _ (Nat.zero_lt_of_lt here), none, Nat.zero_add]
  · left
    rw [if_neg ahead, Nat.add_zero]

/-! ## Callers at the same time -/

/-- **Clients are handed out in turn**, whatever callers do with them, and in whatever order they ask. -/
theorem handed_out_evenly (r : Rotation) (filled : r.clients ≠ []) {callers : List (Dialogue Turns β)}
    {talk : List (Nat × Exchange Counter)} {values : List β} {last : UInt64}
    (h : Interleaving Counter.draw (callers.map r.serve) r.ticket talk values last)
    (below : r.ticket.toNat + talk.length ≤ Bits.size 64) :
    let n := r.clients.length
    let tickets := talk.map fun e => e.2.2
    tickets.map (·.toNat) = List.range' r.ticket.toNat talk.length ∧
    (∀ ticket, ∃ c ∈ r.clients, r.client? ticket = some c ∧
      (r.next.run Counter.draw ticket).value = some c) ∧
    (∀ k caller, callers[k]? = some caller →
      ∃ v, values[k]? = some v ∧ Goes caller ((partOf k talk).map r.handed) v) ∧
    (∀ before window after, tickets = before ++ window ++ after → window.length = n →
      (window.map r.place).Perm (List.range n) ∧ (window.map r.client?).Perm (r.clients.map some)) ∧
    (r.ticket = 0 → ∀ k ≤ talk.length, ∀ place < n,
      (tickets.take k).countP (r.place · == place) = k / n ∨
        (tickets.take k).countP (r.place · == place) = (k + n - 1) / n) := by
  intro n tickets
  have row : tickets.map (·.toNat) = List.range' r.ticket.toNat talk.length := by
    have inOrder := map_toNat_of_chain h.chain (by rwa [List.length_map])
    rw [List.map_map, List.length_map] at inOrder
    rw [List.map_map]
    exact inOrder
  refine ⟨row, fun ticket => ?_, fun k caller asks => ?_, fun before window after split full => ?_,
    fun fresh k bound place here => ?_⟩
  · obtain ⟨c, mem, client⟩ := exists_client? filled ticket
    refine ⟨c, mem, client, ?_⟩
    rw [next_eq filled]
    exact client
  · obtain ⟨v, value, goes⟩ := h.goes (k := k) (d := r.serve caller) (by rw [List.getElem?_map, asks]; rfl)
    exact ⟨v, value, goes_of_serve filled goes⟩
  · rw [split] at row
    have places : (window.map r.place).Perm (List.range n) := by
      rw [map_place_row full (map_toNat_window row)]
      exact List.rotate_perm _ _
    exact ⟨places, perm_client? places⟩
  · have first : (tickets.take k).map (·.toNat) = List.range k := by
      rw [List.map_take, row, fresh, UInt64.toNat_zero, ← List.range_eq_range', List.take_range,
        Nat.min_eq_left bound]
    rw [countP_place here first]
    exact div_add_ite place here

/-! ### Three clients, and two callers who come in between each other -/

/-- Three clients, none of them handed out yet. -/
def relay : Rotation where
  clients := ["north", "east", "south"].map fun label => Client.create label "https://api.test" {}

/-- A caller that asks for a number of clients, and ends with their names. -/
def calling (n : Nat) : Dialogue Turns (List (Option String)) :=
  .each (fun _ => .ask () fun client => .done (client.map (·.label))) (List.range n)

/-- After each of seven tickets no client is more than one turn ahead of another, though neither caller sees it. -/
theorem handed_out_evenly_relay :
    ∃ talk values last, Interleaving Counter.draw ([calling 4, calling 3].map relay.serve) relay.ticket talk
        values last ∧
      relay.clients ≠ [] ∧ relay.ticket.toNat + talk.length ≤ Bits.size 64 ∧
      values = [[some "north", some "south", some "south", some "north"],
        [some "east", some "north", some "east"]] ∧
      ∀ k ≤ 7, ∀ place < 3, ((talk.map fun e => e.2.2).take k).countP (relay.place · == place) = k / 3 ∨
        ((talk.map fun e => e.2.2).take k).countP (relay.place · == place) = (k + 2) / 3 := by
  have ends : (Dialogue.scheduled Counter.draw [0, 1, 0, 1, 1, 0, 0]
      ([calling 4, calling 3].map relay.serve) relay.ticket).map (fun r => (r.1.length, r.2.1)) =
        some (7, [[some "north", some "south", some "south", some "north"],
          [some "east", some "north", some "east"]]) := by decide +kernel
  obtain ⟨⟨talk, values, last⟩, scheduled, same⟩ := Option.map_eq_some_iff.mp ends
  obtain ⟨seven, answers⟩ := Prod.mk.inj same
  have goes := Dialogue.interleaving_of_scheduled scheduled
  have filled : relay.clients ≠ [] := List.cons_ne_nil _ _
  have below : relay.ticket.toNat + talk.length ≤ Bits.size 64 := by
    rw [seven]
    decide +kernel
  obtain ⟨-, -, -, -, turns⟩ := handed_out_evenly relay filled goes below
  rw [seven] at turns
  exact ⟨talk, values, last, goes, filled, below, answers, turns rfl⟩

/-- Once the counter begins again, the same client can have two turns in a row. -/
example : { relay with ticket := 18446744073709551615 }.take.1 =
    { relay with ticket := 18446744073709551615 }.take.2.take.1 := by decide +kernel

end Rotation

end Armory.Wire
