import Armory.Proofs.Service.Named

/-! What a save reports. A save that may overwrite says that it has overwritten something, be it that nothing was
there. Main statement: what is stored is what the current character wears, and every other name is as it was, but the
status fits what was stored before only if something was, or if nothing was to be overwritten
(`Service.saved_truthful_iff`). -/
namespace Armory

open Store (Shelf)

/-! ## What is stored under a name -/

namespace Store.Shelf

variable {s : Shelf} {account name : String}

/-- Whether something is stored under a name, be it readable or not. -/
def holds : Shelf → String → String → Bool
  | .inl m, account, name => (m.get? account name).isSome
  | .inr d, account, name => (d.text? account name).isSome

/-- A look-up that succeeds tells whether something is stored. -/
theorem holds_of_select {found : Option StoredLoadout} (h : s.select account name = .ok found) :
    s.holds account name = found.isSome := by
  cases s with
  | inl m =>
    obtain rfl : m.get? account name = found := Except.ok.inj h
    rfl
  | inr d =>
    obtain ⟨-, present⟩ := usable_of_select h
    exact present

end Store.Shelf

namespace Service

open Operation (Ran)

variable {γ : Type} {game : Dialogue.Answering Game γ} {a : Account} {s : Snapshot} {c : Catalog}
  {w t : γ × Shelf} {name : String} {l : StoredLoadout} {overwrite : Bool} {calls : List Service.Call}

/-- The status that fits a save under a name that was taken or not. -/
def SaveStatus.fitting (taken overwrite : Bool) : SaveStatus :=
  if taken then if overwrite then .overwritten else .conflict else .created

/-- The status that is reported: that something was overwritten, whenever that is allowed. -/
def SaveStatus.reported (taken overwrite : Bool) : SaveStatus :=
  if overwrite then .overwritten else .fitting taken false

/-- What each status tells, where it is reported. -/
theorem SaveStatus.reported_iff (taken overwrite : Bool) :
    (reported taken overwrite = fitting taken overwrite ↔ (overwrite = true → taken = true)) ∧
      (reported taken overwrite = .created ↔ taken = false ∧ overwrite = false) ∧
      (reported taken overwrite = .conflict ↔ taken = true ∧ overwrite = false) ∧
      (reported taken overwrite = .overwritten ↔ overwrite = true) := by
  cases taken <;> cases overwrite <;> decide

/-- A save that ends well reports by what was stored before it. -/
theorem status_of_ran_store {accountId : String} {status : SaveStatus}
    (h : Ran (partners game) (store accountId name l overwrite) w (.ok status) t calls) :
    status = .reported (w.2.holds accountId name) overwrite := by
  unfold store at h
  cases overwrite with
  | true =>
    obtain ⟨replaced, u, _, _, -, last, -⟩ := Operation.ran_bind_ok h
    cases replaced with
    | true =>
      obtain ⟨same, -⟩ := last.unique Operation.ran_pure
      cases same
      rfl
    | false =>
      obtain ⟨_, _, _, _, -, last, -⟩ := Operation.ran_bind_ok last
      obtain ⟨same, -⟩ := last.unique Operation.ran_pure
      cases same
      rfl
  | false =>
    obtain ⟨existing, u, _, _, asked, last, -⟩ := Operation.ran_bind_ok h
    obtain ⟨found, rfl⟩ := ran_select_ok asked
    rw [Shelf.holds_of_select found]
    cases existing with
    | some l' =>
      obtain ⟨same, -⟩ := last.unique Operation.ran_pure
      cases same
      rfl
    | none =>
      obtain ⟨_, _, _, _, -, last, -⟩ := Operation.ran_bind_ok last
      obtain ⟨same, -⟩ := last.unique Operation.ran_pure
      cases same
      rfl

/-- **A save tells what it has done, unless it may overwrite and finds nothing there.** A save that succeeds, in
whatever game reports the account and its profile and whatever is stored, reports the status that fits, except when
it may overwrite and nothing was stored under the name: it then reports that something was overwritten. On a conflict
storage is left as it was; else the name holds what the current character wears. What is found under any other name
is what was found there before. -/
theorem saved_truthful_iff (c : Catalog) (reports : Reports game a s) (w : γ × Shelf) (name : String)
    (overwrite : Bool) {saved : SavedLoadout}
    (h : (Dialogue.run (partners game) (saveLoadout c name overwrite).run w).value = .ok saved) :
    let after := (Dialogue.run (partners game) (saveLoadout c name overwrite).run w).state
    let taken := w.2.holds a.accountId (Text.trim name)
    (saved.status = .fitting taken overwrite ↔ (overwrite = true → taken = true)) ∧
      (saved.status = .created ↔ taken = false ∧ overwrite = false) ∧
      (saved.status = .conflict ↔ taken = true ∧ overwrite = false) ∧
      (saved.status = .overwritten ↔ overwrite = true) ∧
      (saved.status = .conflict → after.2 = w.2) ∧
      (saved.status ≠ .conflict → ∃ ch, (Profile.assemble s c false).current? = some ch ∧
        after.2.select a.accountId (Text.trim name) = .ok (some (.ofLoadout (wornLoadout s c ch)))) ∧
      ∀ accountId other, ¬ (a.accountId = accountId ∧ Text.trim name = other) →
        after.2.select accountId other = w.2.select accountId other := by
  intro after taken
  obtain ⟨t, calls, ran⟩ := Operation.value_eq_iff.mp h
  have state : after = t := congrArg Dialogue.Run.state ran
  rw [state]
  obtain ⟨ch, g, stores, current, -, stored⟩ := exists_store_of_ran reports ran
  have status : saved.status = .reported taken overwrite :=
    status_of_ran_store (w := (g, w.2)) stored
  have ended := ran_store (w := (g, w.2)) stored
  obtain ⟨fits, created, conflict, overwritten⟩ := SaveStatus.reported_iff taken overwrite
  rw [← status] at fits created conflict overwritten
  refine ⟨fits, created, conflict, overwritten, fun conflict => ?_, fun written => ?_,
    fun accountId other apart => ?_⟩
  · obtain ⟨-, same, -⟩ | ⟨written, -⟩ := ended
    · exact same
    · exact absurd conflict written
  · obtain ⟨conflict, -⟩ | ⟨-, put⟩ := ended
    · exact absurd conflict written
    · exact ⟨ch, current, by rw [put, if_pos ⟨rfl, rfl⟩]⟩
  · obtain ⟨-, same, -⟩ | ⟨-, put⟩ := ended
    · rw [same]
    · rw [put, if_neg apart]

/-- What is saved over what is there, in a database. -/
theorem saved_truthful_iff_again :
    let first := Dialogue.run (partners watchtower) (saveLoadout .standard "raid" true).run
      ((), .inr (Store.Database.migrate {}))
    let again := Dialogue.run (partners watchtower) (saveLoadout .standard "raid " true).run first.state
    again.value = .ok ⟨"raid", .overwritten, 1⟩ ∧ first.state.2.holds "person" "raid" = true ∧
      SaveStatus.overwritten = .fitting (first.state.2.holds "person" "raid") true ∧
      (∃ ch, (Profile.assemble watch .standard false).current? = some ch ∧
        again.state.2.select "person" "raid" =
          .ok (some (.ofLoadout (wornLoadout watch .standard ch)))) ∧
      again.state.2.select "person" "idle" = first.state.2.select "person" "idle" := by
  intro first again
  have saved : again.value = .ok ⟨"raid", .overwritten, 1⟩ := by decide +kernel
  have taken : first.state.2.holds "person" "raid" = true := by decide +kernel
  have trimmed : Text.trim "raid " = "raid" := by decide +kernel
  have told := saved_truthful_iff .standard reports_watchtower first.state "raid " true saved
  simp only [trimmed] at told
  obtain ⟨fits, -, -, -, -, written, frame⟩ := told
  exact ⟨saved, taken, fits.mpr fun _ => taken, written (by decide), frame "person" "idle" (by decide)⟩

/-- Where nothing is stored, a save that may overwrite reports that something was overwritten, and a save that may not
reports that the name is new. -/
theorem fresh_save_overwritten :
    let fresh : Unit × Shelf := ((), .inl {})
    fresh.2.holds "person" "raid" = false ∧
      (Dialogue.run (partners watchtower) (saveLoadout .standard "raid" true).run fresh).value =
        .ok ⟨"raid", .overwritten, 1⟩ ∧
      (Dialogue.run (partners watchtower) (saveLoadout .standard "raid" false).run fresh).value =
        .ok ⟨"raid", .created, 1⟩ ∧
      SaveStatus.overwritten ≠ .fitting (fresh.2.holds "person" "raid") true := by
  decide +kernel

end Service
end Armory
