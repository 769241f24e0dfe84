import Mathlib.Data.List.Induction
import Armory.Proofs.Time.Timestamp
import Armory.Wire.Payload

/-! The profile played last. A scan of a list keeps the profile that none so far has been played after, and prefers
the later one among equals; the instants that it compares are those that the timestamps of the profiles name. Main
statement: what the scan finds is characterised by its place in the list (`LinkedProfiles.latest?_eq_some_iff`). -/
namespace Armory.Wire

/-! ## The scan -/

/-- A profile of a list that none listed before it has been played after, and that has been played after all listed
behind it. -/
def Latest (ps : List LinkedProfile) (p : LinkedProfile) : Prop :=
  ∃ before after, ps = before ++ p :: after ∧ (∀ q ∈ before, ¬ p.lastPlayed.Before q.lastPlayed) ∧
    ∀ q ∈ after, q.lastPlayed.Before p.lastPlayed

theorem Latest.mem {ps : List LinkedProfile} {p : LinkedProfile} (latest : Latest ps p) : p ∈ ps := by
  obtain ⟨before, after, rfl, -⟩ := latest
  simp

theorem Latest.not_before {ps : List LinkedProfile} {p q : LinkedProfile} (latest : Latest ps p) (h : q ∈ ps) :
    ¬ p.lastPlayed.Before q.lastPlayed := by
  obtain ⟨before, after, rfl, early, late⟩ := latest
  rcases List.mem_append.mp h with h | h
  · exact early q h
  rcases List.mem_cons.mp h with rfl | h
  · exact fun h => h.not_before h
  · exact (late q h).not_before

/-- One more profile at the end of a list is the one played last, or leaves it as it is. -/
theorem latest_append {ps : List LinkedProfile} {p q : LinkedProfile} : Latest (ps ++ [q]) p ↔
    (p = q ∧ ∀ x ∈ ps, ¬ q.lastPlayed.Before x.lastPlayed) ∨
      Latest ps p ∧ q.lastPlayed.Before p.lastPlayed := by
  constructor
  · rintro ⟨before, after, split, early, late⟩
    rcases List.eq_nil_or_concat after with rfl | ⟨after, x, rfl⟩
    · obtain ⟨rfl, same⟩ := List.append_inj' split rfl
      cases same
      exact .inl ⟨rfl, early⟩
    · rw [List.concat_eq_append, ← List.cons_append, ← List.append_assoc] at split
      obtain ⟨rfl, same⟩ := List.append_inj' split rfl
      cases same
      exact .inr ⟨⟨before, after, rfl, early, fun y hy => late y (by simp [hy])⟩, late q (by simp)⟩
  · rintro (⟨rfl, early⟩ | ⟨⟨before, after, rfl, early, late⟩, behind⟩)
    · exact ⟨ps, [], rfl, early, nofun⟩
    · refine ⟨before, after ++ [q], by simp, early, fun y hy => ?_⟩
      rcases List.mem_append.mp hy with hy | hy
      · exact late y hy
      · rw [List.mem_singleton.mp hy]
        exact behind

/-- One step of the scan: what is kept so far gives way to a profile that has been played as late as it. -/
theorem latest_step {ps : List LinkedProfile} {b p q : LinkedProfile} (only : ∀ x, Latest ps x ↔ x = b) :
    Latest (ps ++ [q]) p ↔ p = if b.lastPlayed.notAfter q.lastPlayed then q else b := by
  have best : Latest ps b := (only b).mpr rfl
  rw [latest_append, only]
  cases h : b.lastPlayed.notAfter q.lastPlayed with
  | true =>
    -- what is not before the best of the others is before none of them
    have later := Time.Instant.notAfter_iff.mp h
    have all : ∀ x ∈ ps, ¬ q.lastPlayed.Before x.lastPlayed := fun x hx =>
      Time.Instant.not_before_trans (best.not_before hx) later
    rw [if_pos rfl]
    constructor
    · rintro (⟨same, -⟩ | ⟨rfl, before⟩)
      · exact same
      · exact absurd before later
    · intro same
      exact .inl ⟨same, all⟩
  | false =>
    have earlier : q.lastPlayed.Before b.lastPlayed := by
      by_contra later
      exact absurd (Time.Instant.notAfter_iff.mpr later) (by simp [h])
    rw [if_neg nofun]
    constructor
    · rintro (⟨-, early⟩ | ⟨same, -⟩)
      · exact absurd earlier (early b best.mem)
      · exact same
    · rintro rfl
      exact .inr ⟨rfl, earlier⟩

namespace LinkedProfiles

variable {ps : List LinkedProfile} {p : LinkedProfile} {user : Option String}

theorem latest?_append (q : LinkedProfile) : latest? ⟨ps ++ [q], user⟩ =
    match latest? ⟨ps, user⟩ with
    | none => some q
    | some b => if b.lastPlayed.notAfter q.lastPlayed then some q else some b := by
  rw [latest?, List.foldl_append]
  rfl

theorem latest?_eq_none_iff {l : LinkedProfiles} : l.latest? = none ↔ l.profiles = [] := by
  obtain ⟨ps, user⟩ := l
  rcases List.eq_nil_or_concat ps with rfl | ⟨ps, q, rfl⟩
  · simp [latest?]
  · rw [List.concat_eq_append, latest?_append]
    simp only [List.append_eq_nil_iff, List.cons_ne_self, and_false, iff_false]
    split
    · exact Option.some_ne_none q
    · split <;> exact Option.some_ne_none _

/-- **The profile that is chosen has been played last**, and is the last one listed among equals. -/
theorem latest?_eq_some_iff {l : LinkedProfiles} : l.latest? = some p ↔ Latest l.profiles p := by
  obtain ⟨ps, user⟩ := l
  induction ps using List.reverseRecOn generalizing p with
  | nil =>
    constructor
    · intro found
      cases found
    · rintro ⟨before, after, split, -⟩
      cases before <;> cases split
  | append_singleton ps q ih =>
    rw [latest?_append]
    cases chosen : latest? ⟨ps, user⟩ with
    | none =>
      obtain rfl : ps = [] := latest?_eq_none_iff.mp chosen
      have nobody : ¬ Latest [] p := fun h => nomatch ih.mpr h
      rw [latest_append]
      simp [nobody, eq_comm]
    | some b =>
      have only : ∀ x, Latest ps x ↔ x = b := by
        intro x
        rw [← ih, chosen, Option.some.injEq, eq_comm]
      simp only [latest_step only]
      cases b.lastPlayed.notAfter q.lastPlayed <;> exact Option.some_inj.trans eq_comm

end LinkedProfiles

/-! ## The instants that are compared -/

theorem instant?_text (t : Time.Timestamp) : instant? (.text t.text) = some t.instant := by
  rw [instant?, Json.text, Json.text?, Option.bind_some, t.parse?_text]

/-- A linked profile, sent as an object or as an array, tells with a timestamp when it was last played. -/
def LinkedProfile.Tells (v : Json) (t : Time.Timestamp) : Prop :=
  ∃ r, v.record? fieldNames = some r ∧ r.get? "dateLastPlayed" = some (.text t.text)

/-- A profile has been played at the instant of the timestamp that is sent with it. -/
theorem LinkedProfile.lastPlayed_eq_instant {v : Json} {p : LinkedProfile} {t : Time.Timestamp} (tells : Tells v t)
    (read : ofJson? v = some p) : p.lastPlayed = t.instant := by
  obtain ⟨r, sent, told⟩ := tells
  simp only [ofJson?, Option.bind_eq_bind, Option.bind_eq_some_iff] at read
  obtain ⟨r', taken, displayName, -, membershipType, -, membershipId, -, lastPlayed, played, made⟩ := read
  cases made
  cases sent.symm.trans taken
  rw [Json.Record.required, told, Option.bind_some, instant?_text] at played
  cases played
  rfl

end Armory.Wire
