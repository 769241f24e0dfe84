import Armory.Proofs.Api.Requests
import Armory.Proofs.Http.Target
import Armory.Proofs.Net.Percent
import Armory.Proofs.Service.Named

/-!
# Reaching a saved loadout

A loadout is saved under a name that stands in the body of a request, and is asked for and put on under a name that
stands in the path. The path is compared with the fixed words of the routes before a name is read from it, so a name
that is spelt like one of them leads elsewhere. Main statement: `saved_reachable`.
-/

namespace Armory

namespace Service

open Store (Shelf)
open Operation (Ran)

/-- A name under which a loadout is stored is taken, and asking for it changes nothing in storage. -/
theorem ran_loadoutExists {γ : Type} {game : Dialogue.Answering Game γ} {a : Account} {s : Snapshot}
    {w : γ × Shelf} {name : String} (reports : Reports game a s) (found : w.2.Has a.accountId name) :
    ∃ g calls, Ran (partners game) (loadoutExists name) w (.ok true) (g, w.2) calls := by
  obtain ⟨l, stored⟩ := found
  obtain ⟨g, known⟩ := reports.ran_account w
  exact ⟨_, _, known.bind ((ran_select (w := (g, w.2)) stored).bind Operation.ran_pure)⟩

end Service

namespace Api

open Http.Target (IsSegment)
open Store (Shelf)
open Service (partners Reports)

/-! ## Segments that spell a name -/

/-- A segment of a path spells a name. -/
structure Spells (segment : List Char) (name : String) : Prop where
  whole : IsSegment segment
  read : Net.Percent.decode? segment = some name

/-- The segments that are fixed words where a name may stand. -/
def IsFixed (segment : List Char) : Prop := segment = "max-power".toList ∨ segment = "random".toList

/-- A name that is percent-encoded spells itself. -/
theorem spells_encode (name : String) : Spells (Net.Percent.encode name) name :=
  ⟨Net.Percent.forall_mem_encode name, Net.Percent.decode?_encode name⟩

theorem encode_eq_iff {name word : String} (plain : Net.Percent.encode word = word.toList) :
    Net.Percent.encode name = word.toList ↔ name = word := by
  constructor
  · intro same
    have read := Net.Percent.decode?_encode name
    rw [same, ← plain, Net.Percent.decode?_encode] at read
    exact (Option.some.inj read).symm
  · rintro rfl
    exact plain

/-- A name that is percent-encoded is a fixed word only if it is one already. -/
theorem isFixed_encode_iff (name : String) :
    IsFixed (Net.Percent.encode name) ↔ name = "max-power" ∨ name = "random" := by
  rw [IsFixed, encode_eq_iff (by decide +kernel), encode_eq_iff (by decide +kernel)]

/-! ## Routes of a name -/

/-- The target of a loadout. -/
def loadoutTarget (segment : List Char) : String := "/v1/loadouts/" ++ String.ofList segment

/-- The target of putting a loadout on. -/
def equipTarget (segment : List Char) : String := loadoutTarget segment ++ "/equip"

variable {segment : List Char} {name : String}

theorem segments?_loadoutTarget (whole : IsSegment segment) :
    Http.Target.segments? (loadoutTarget segment) = some ["v1".toList, "loadouts".toList, segment] := by
  have written : loadoutTarget segment = Http.Target.ofSegments ["v1".toList, "loadouts".toList, segment] := by
    rw [← String.toList_inj]
    simp [loadoutTarget, Http.Target.ofSegments]
  rw [written]
  refine Http.Target.segments?_ofSegments ?_
  simp only [List.forall_mem_cons]
  exact ⟨by decide +kernel, by decide +kernel, whole, by simp⟩

theorem segments?_equipTarget (whole : IsSegment segment) :
    Http.Target.segments? (equipTarget segment) =
      some ["v1".toList, "loadouts".toList, segment, "equip".toList] := by
  have written : equipTarget segment =
      Http.Target.ofSegments ["v1".toList, "loadouts".toList, segment, "equip".toList] := by
    rw [← String.toList_inj]
    simp [equipTarget, loadoutTarget, Http.Target.ofSegments]
  rw [written]
  refine Http.Target.segments?_ofSegments ?_
  simp only [List.forall_mem_cons]
  exact ⟨by decide +kernel, by decide +kernel, whole, by decide +kernel, by simp⟩

theorem ofTarget?_loadoutTarget (spelt : Spells segment name) (named : name ≠ "") (free : ¬ IsFixed segment) :
    Route.ofTarget? (loadoutTarget segment) = some (.loadout segment) := by
  have read := spelt.read
  simp only [IsFixed, not_or] at free
  have word : ∀ w : String, String.ofList segment = w → segment = w.toList := by
    rintro w rfl
    exact String.toList_ofList.symm
  have filled : String.ofList segment ≠ "" := by
    intro empty
    rw [word _ empty] at read
    exact named (Option.some.inj read).symm
  rw [Route.ofTarget?, segments?_loadoutTarget spelt.whole]
  change Route.ofSegments? ["v1", "loadouts", String.ofList segment] = _
  rw [Route.ofSegments?, if_neg filled, String.toList_ofList]
  · exact fun same => free.1 (word _ same)
  · exact fun same => free.2 (word _ same)

theorem ofTarget?_equipTarget (whole : IsSegment segment) :
    Route.ofTarget? (equipTarget segment) = some (.equip segment) := by
  rw [Route.ofTarget?, segments?_equipTarget whole]
  change Route.ofSegments? ["v1", "loadouts", String.ofList segment, "equip"] = _
  rw [Route.ofSegments?, String.toList_ofList]

/-! ## Requests of a bearer -/

/-- A request with a method, for a target, of the bearer of a token. -/
structure Sent (r : Http.Request) (method target token : String) : Prop where
  method : r.method = method
  target : r.target = target
  bearer : token? r = some token

/-- A response carries a record with a value under a key. -/
def Says (r : Http.Response) (key : String) (v : Json) : Prop :=
  ∃ fields, r.body = .json (.record fields) ∧ fields.lookup key = some v

variable {γ : Type} {x : Context} {game : String → Dialogue.Answering Game γ} {a : Account} {s : Snapshot}
  {ch : Character} {u w : γ × Shelf} {r : Http.Request} {method target token : String} {route : Route}

theorem Sent.reaches (sent : Sent r method target token) (found : Route.ofTarget? target = some route)
    (own : route ≠ .health) (allowed : method ∈ route.methods)
    (named : Net.Percent.decode? (route.name?.getD []) = some name) : Reaches r route name :=
  ⟨by rw [sent.target, found], own, by rwa [sent.method], named⟩

/-- A game for every token, and storage for all of them. -/
abbrev shared (game : String → Dialogue.Answering Game γ) (token : String) :
    Dialogue.Answering Service (γ × Shelf) :=
  partners (game token)

/-- A request whose operation ran well is told its result. -/
theorem serve_of_ran {t : γ × Shelf} {calls : List Service.Call} (reaches : Reaches r route name)
    (plain : r.method ≠ "HEAD") (bearer : token? r = some token) {q : Service.Request} {result : q.Answer}
    (accepted : asked? x.lots r name route = some q)
    (ran : Operation.Ran (partners (game token)) (q.operation x.catalog) u (.ok result) t calls) :
    x.serve (shared game) r u = ⟨{ status := 200, body := .json (resultJson q result) }, t, calls⟩ := by
  rw [Context.serve_of_asked reaches bearer accepted,
    show Dialogue.run (shared game token) (q.operation x.catalog).run u = _ from ran]
  simp [shownTo, plain, respond]

/-- A loadout that is stored under a name is there for a segment that spells the name and is no fixed word. -/
theorem serve_look (reports : Reports (game token) a s) (found : u.2.Has a.accountId name)
    (spelt : Spells segment name) (named : name ≠ "") (free : ¬ IsFixed segment)
    (sent : Sent r "GET" (loadoutTarget segment) token) :
    let looked := x.serve (shared game) r u
    looked.value.status = 200 ∧ Says looked.value "exists" (.bool true) ∧ looked.state.2 = u.2 := by
  have reaches : Reaches r (.loadout segment) name :=
    sent.reaches (ofTarget?_loadoutTarget spelt named free) nofun (by simp [Route.methods]) spelt.read
  obtain ⟨g, calls, ran⟩ := Service.ran_loadoutExists reports found
  rw [serve_of_ran reaches (by simp [sent.method]) sent.bearer (q := .loadoutExists name) rfl ran]
  exact ⟨rfl, ⟨_, rfl, rfl⟩, rfl⟩

/-- A loadout that is stored under a name is put on for every segment that spells the name, in whatever order the
calls come. -/
theorem serves_wear {talk : List (Dialogue.Exchange Service)} {worn : Http.Response} {t : γ × Shelf}
    (reports : Reports (game token) a s)
    (current : (Profile.assemble s x.catalog false).current? = some ch) (found : u.2.Has a.accountId name)
    (spelt : Spells segment name) (sent : Sent r "POST" (equipTarget segment) token)
    (served : x.Serves (shared game) r u talk worn t) :
    worn.status = 200 ∧ Says worn "found" (.bool true) := by
  have reaches : Reaches r (.equip segment) name :=
    sent.reaches (ofTarget?_equipTarget spelt.whole) nofun (by simp [Route.methods]) spelt.read
  obtain ⟨result, run, rfl⟩ := (Context.serves_of_asked reaches sent.bearer (q := .equipNamed name) rfl).mp served
  rcases Service.runs_equipNamed reports current run with ⟨absent, -⟩ | ⟨l, report, -, -, -, rfl, -⟩
  · exact absurd found absent
  · rw [shownTo, if_neg (by simp [sent.method])]
    exact ⟨rfl, _, rfl, rfl⟩

/-- A fixed word leads to another route, which is not asked but told. -/
theorem serve_fixed (fixed : IsFixed segment) (sent : Sent r "GET" (loadoutTarget segment) token) :
    x.serve (shared game) r u = ⟨.methodNotAllowed, u, []⟩ := by
  obtain ⟨route, found, own, other⟩ : ∃ route, Route.ofTarget? (loadoutTarget segment) = some route ∧
      route ≠ .health ∧ "GET" ∉ route.methods := by
    rcases fixed with rfl | rfl
    · exact ⟨.strongest, by decide +kernel, by decide, by decide⟩
    · exact ⟨.drawn, by decide +kernel, by decide, by decide⟩
  exact Context.serve_of_other_method (by rw [sent.target, found]) own (by rwa [sent.method])

/-- What is sent to the list of loadouts with a name asks for a save. -/
theorem Sent.asked_save {overwrite : Bool} (sent : Sent r "POST" "/v1/loadouts" token)
    (body : body? saveBody? r = some (name, overwrite)) (lots : Lots) :
    Reaches r .loadouts "" ∧ asked? lots r "" .loadouts = some (.saveLoadout name overwrite) :=
  ⟨sent.reaches (by decide +kernel) (by decide) (by decide) (by decide +kernel), by
    simp [asked?, sent.method, body]⟩

/-- A save that is answered with success has stored a loadout under its name. -/
theorem has_of_saved {overwrite : Bool} (reports : Reports (game token) a s)
    (sent : Sent r "POST" "/v1/loadouts" token) (body : body? saveBody? r = some (name, overwrite))
    (saved : (x.serve (shared game) r w).value.status = 200) :
    (x.serve (shared game) r w).state.2.Has a.accountId (Text.trim name) ∧
      ∃ ch, (Profile.assemble s x.catalog false).current? = some ch := by
  obtain ⟨reaches, accepted⟩ := sent.asked_save body x.lots
  rw [Context.serve_of_asked reaches sent.bearer accepted] at saved ⊢
  simp only [status_shownTo, status_respond_eq_ok_iff] at saved
  obtain ⟨result, value⟩ := saved
  obtain ⟨t, calls, ran⟩ := Operation.value_eq_iff.mp value
  obtain ⟨ch, current, -, stored⟩ := Service.ran_saveLoadout reports ran
  refine ⟨?_, ch, current⟩
  rw [show Dialogue.run (shared game token) _ w = _ from ran]
  rcases stored with ⟨-, same, taken⟩ | ⟨-, put⟩
  · exact same ▸ taken
  · exact put.has_iff.mpr (.inl ⟨rfl, rfl⟩)

/-- **A saved loadout can be reached, but for two names.** The bearer of a token saves a loadout over hypertext under
a name that is not blank and has no white space at its ends, and is answered with success. While the game reports the
same account and profile and nothing else is stored, the loadout is put on for every segment that spells the name,
and found for every such segment that is no fixed word; for a fixed word the question is refused. A name that is
percent-encoded spells itself, and becomes a fixed word only if it is one. The order in which the calls come that put
the loadout on makes no difference. -/
theorem saved_reachable (reports : Reports (game token) a s) (w : γ × Shelf) {save look wear : Http.Request}
    {overwrite : Bool} (named : name ≠ "") (tidy : Text.trim name = name)
    (saves : Sent save "POST" "/v1/loadouts" token) (body : body? saveBody? save = some (name, overwrite))
    (saved : (x.serve (shared game) save w).value.status = 200) (spelt : Spells segment name)
    (looks : Sent look "GET" (loadoutTarget segment) token)
    (wears : Sent wear "POST" (equipTarget segment) token) :
    (∀ u : γ × Shelf, u.2 = (x.serve (shared game) save w).state.2 →
      let looked := x.serve (shared game) look u
      (¬ IsFixed segment →
        looked.value.status = 200 ∧ Says looked.value "exists" (.bool true) ∧ looked.state.2 = u.2) ∧
      (IsFixed segment → looked = ⟨.methodNotAllowed, u, []⟩) ∧
      (∃ talk worn t, x.Serves (shared game) wear u talk worn t) ∧
      ∀ talk worn t, x.Serves (shared game) wear u talk worn t →
        worn.status = 200 ∧ Says worn "found" (.bool true)) ∧
    Spells (Net.Percent.encode name) name ∧
    (IsFixed (Net.Percent.encode name) ↔ name = "max-power" ∨ name = "random") := by
  refine ⟨fun u same => ?_, spells_encode name, isFixed_encode_iff name⟩
  obtain ⟨stored, ch, current⟩ := has_of_saved reports saves body saved
  rw [tidy, ← same] at stored
  obtain ⟨talk, served, -⟩ := Context.exists_serves x (shared game) wear u
  exact ⟨fun free => serve_look reports stored spelt named free looks, fun fixed => serve_fixed fixed looks,
    ⟨talk, _, _, served⟩, fun _ _ _ => serves_wear reports current stored spelt wears⟩

/-! ### A name that needs encoding, and one that is a fixed word -/

/-- The standard catalog, and no report of health. -/
def gate : Context :=
  ⟨.standard, { words := [] }, "id", none, fun _ => "Failed to parse the request body as JSON"⟩

/-- A request of a bearer, with a body that says it is JSON. -/
def sentBy (method target body : String) : Http.Request :=
  ⟨method, target, [("authorization", "Bearer token"), ("content-type", "application/json")], body⟩

/-- A request to save what is worn under a name. -/
def saveAs (name : String) : Http.Request := sentBy "POST" "/v1/loadouts" ("\x7b\"name\":\"" ++ name ++ "\"\x7d")

/-- A name with a slash in it is found under what it is written as. -/
theorem saved_reachable_slashed :
    let segment := "raid%2F1".toList
    let saved := gate.serve (shared fun _ => Service.watchtower) (saveAs "raid/1") ((), .inl {})
    let looked := gate.serve (shared fun _ => Service.watchtower) (sentBy "GET" (loadoutTarget segment) "") saved.state
    let worn := gate.serve (shared fun _ => Service.watchtower) (sentBy "POST" (equipTarget segment) "") saved.state
    saved.value.status = 200 ∧ Spells segment "raid/1" ∧ ¬ IsFixed segment ∧
      looked.value.status = 200 ∧ Says looked.value "exists" (.bool true) ∧
      worn.value.status = 200 ∧ Says worn.value "found" (.bool true) := by
  intro segment saved looked worn
  have accepted : saved.value.status = 200 := by decide +kernel
  have spelt : Spells segment "raid/1" := ⟨by decide +kernel, by decide +kernel⟩
  have free : ¬ IsFixed segment := by
    unfold IsFixed
    decide
  have saves : Sent (saveAs "raid/1") "POST" "/v1/loadouts" "token" := ⟨rfl, rfl, by decide +kernel⟩
  have body : body? saveBody? (saveAs "raid/1") = some ("raid/1", false) := by decide +kernel
  have looks : Sent (sentBy "GET" (loadoutTarget segment) "") "GET" (loadoutTarget segment) "token" :=
    ⟨rfl, rfl, by decide +kernel⟩
  have wears : Sent (sentBy "POST" (equipTarget segment) "") "POST" (equipTarget segment) "token" :=
    ⟨rfl, rfl, by decide +kernel⟩
  obtain ⟨reached, -, -⟩ := saved_reachable Service.reports_watchtower ((), .inl {}) (by decide) (by decide +kernel)
    saves body accepted spelt looks wears
  obtain ⟨there, -, -, on⟩ := reached saved.state rfl
  obtain ⟨talk, serves, -⟩ := Context.exists_serves gate (shared fun _ => Service.watchtower)
    (sentBy "POST" (equipTarget segment) "") saved.state
  exact ⟨accepted, spelt, free, (there free).1, (there free).2.1, on _ _ _ serves⟩

/-- A loadout that is saved under a fixed word is created, and asking for it is refused. -/
theorem fixed_word_unreachable :
    let saved := gate.serve (shared fun _ => Service.watchtower) (saveAs "max-power") ((), .inl {})
    let segment := Net.Percent.encode "max-power"
    let looked := gate.serve (shared fun _ => Service.watchtower) (sentBy "GET" (loadoutTarget segment) "") saved.state
    saved.value.status = 200 ∧ Says saved.value "status" (.text "created") ∧ looked.value.status = 405 := by
  intro saved segment looked
  have saves : Sent (saveAs "max-power") "POST" "/v1/loadouts" "token" := ⟨rfl, rfl, by decide +kernel⟩
  have looks : Sent (sentBy "GET" (loadoutTarget segment) "") "GET" (loadoutTarget segment) "token" :=
    ⟨rfl, rfl, by decide +kernel⟩
  have body : body? saveBody? (saveAs "max-power") = some ("max-power", false) := by decide +kernel
  obtain ⟨reaches, accepted⟩ := saves.asked_save body gate.lots
  have ended : (Dialogue.run (partners Service.watchtower) (Service.saveLoadout .standard "max-power" false).run
      ((), .inl {})).value = .ok ⟨"max-power", .created, 1⟩ := by
    decide +kernel
  obtain ⟨t, calls, ran⟩ := Operation.value_eq_iff.mp ended
  have served : saved = ⟨⟨200, .json (Service.SavedLoadout.toJson ⟨"max-power", .created, 1⟩)⟩, t, calls⟩ :=
    serve_of_ran reaches (by decide) saves.bearer accepted ran
  have fixed : IsFixed segment := (isFixed_encode_iff "max-power").mpr (.inl rfl)
  have refused : looked = ⟨.methodNotAllowed, saved.state, []⟩ := serve_fixed fixed looks
  rw [served, refused]
  exact ⟨rfl, ⟨_, rfl, rfl⟩, rfl⟩

end Api
end Armory
