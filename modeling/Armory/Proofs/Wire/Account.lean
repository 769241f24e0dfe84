import Armory.Proofs.Wire.Latest
import Armory.Proofs.Wire.Patience
import Armory.Wire.Session

/-! Which account a session acts on. A request delivers a payload or fails for one reason, and nothing is sent for it
but itself; the memberships that the first request delivers say whether another one is needed, for the linked
profiles. Main statement: what is selected, what is reported where nothing is, and which requests are made for it,
whatever the link replies (`Session.currentAccount_selected`). -/
namespace Armory.Wire

/-! ## What a request delivers -/

section Requests

variable {α σ : Type} {f : Json → Option α} {r r' : Request} {replied : Except GameError (Envelope α)}
  {a : α} {e : GameError}

/-- A request has come to an envelope that reports success and holds a payload. -/
def Delivers (replied : Except GameError (Envelope α)) (a : α) : Prop :=
  ∃ e, replied = .ok e ∧ e.errorCode = 1 ∧ e.response = some a

/-- Why a request delivers no payload. -/
inductive Fails (r : Request) : Except GameError (Envelope α) → GameError → Prop
  /-- It has come to no envelope. -/
  | unanswered (e : GameError) : Fails r (.error e) e
  /-- The envelope reports no success. -/
  | rejected {e : Envelope α} (failure : e.errorCode ≠ 1) :
      Fails r (.ok e) (.rejected e.errorCode e.errorStatus e.message)
  /-- The envelope reports success, but is empty. -/
  | empty {e : Envelope α} (success : e.errorCode = 1) (nothing : e.response = none) :
      Fails r (.ok e) (.decode (r.path ++ " returned no payload"))

theorem Delivers.payload (h : Delivers replied a) : replied.bind (Session.payload r) = .ok a := by
  obtain ⟨e, rfl, success, response⟩ := h
  simp [Except.bind, Session.payload, Session.succeeded, Envelope.isSuccess, success, response, bind]

theorem Fails.payload (h : Fails r replied e) : replied.bind (Session.payload r) = .error e := by
  cases h with
  | unanswered e => rfl
  | rejected failure => simp [Except.bind, Session.payload, Session.succeeded, Envelope.isSuccess, failure, bind]
  | empty success nothing =>
    simp [Except.bind, Session.payload, Session.succeeded, Envelope.isSuccess, success, nothing, bind]

/-- A request delivers a payload, or there is a reason why not. -/
theorem delivers_or_fails (r : Request) (replied : Except GameError (Envelope α)) :
    (∃ a, Delivers replied a) ∨ ∃ e, Fails r replied e := by
  cases replied with
  | error e => exact .inr ⟨e, .unanswered e⟩
  | ok e =>
    by_cases success : e.errorCode = 1
    · cases response : e.response with
      | some a => exact .inl ⟨a, e, rfl, success, response⟩
      | none => exact .inr ⟨_, .empty success response⟩
    · exact .inr ⟨_, .rejected success⟩

theorem payload_eq_ok_iff : replied.bind (Session.payload r) = .ok a ↔ Delivers replied a := by
  refine ⟨fun h => ?_, Delivers.payload⟩
  rcases delivers_or_fails r replied with ⟨b, delivers⟩ | ⟨e, fails⟩
  · cases delivers.payload.symm.trans h
    exact delivers
  · cases fails.payload.symm.trans h

/-- It delivers one payload at most. -/
theorem Delivers.iff_eq {b : α} (h : Delivers replied a) : Delivers replied b ↔ a = b := by
  rw [← payload_eq_ok_iff (r := .memberships), h.payload, Except.ok.injEq]

theorem Fails.not_delivers (h : Fails r replied e) : ¬ Delivers replied a := fun delivers =>
  nomatch h.payload.symm.trans delivers.payload

theorem Fails.ne_noLinkedAccount (h : Fails r replied e) (reported : replied ≠ .error .noLinkedAccount) :
    e ≠ .noLinkedAccount := by
  rintro rfl
  cases h
  exact reported rfl

/-! ## What is sent for it -/

variable (answer : Dialogue.Answering Link σ) (s : Session) (w : σ)

theorem mem_attempts {c c' : Client} {x y : Sending} {rounds : Nat} :
    Link.Call.send c x ∈ attempts c' y rounds ↔ c = c' ∧ x = y := by
  simp only [attempts, List.mem_append, List.mem_flatten, List.mem_singleton, Link.Call.send.injEq]
  constructor
  · rintro (⟨round, h, sent⟩ | h)
    · rw [List.eq_of_mem_replicate h] at sent
      simpa using sent
    · exact h
  · exact .inr

/-- Without a client nothing is sent. -/
theorem run_request_of_none (f : Json → Option α) (r : Request) (next : (answer .next w).1 = none) :
    Dialogue.run answer (s.request f r) w =
      ⟨.error (.transport "client pool is empty"), (answer .next w).2, [.next]⟩ := by
  rw [Session.request, Dialogue.run_ask, next]
  rfl

/-- A client carries out a request, and what it reports as failed is worded anew. -/
theorem run_request_of_some (f : Json → Option α) (r : Request) {c : Client} (next : (answer .next w).1 = some c) :
    Dialogue.run answer (s.request f r) w =
      let carried := Dialogue.run answer (c.execute f r s.credentials) (answer .next w).2
      ⟨carried.value.mapError LinkError.toGameError, carried.state, .next :: carried.calls⟩ := by
  rw [Session.request, Dialogue.run_ask, next]
  simp only [Dialogue.run_andThen]
  cases (Dialogue.run answer (c.execute f r s.credentials) (answer .next w).2).value <;>
    simp [Except.mapError]

/-- A request is sent by the next client, if there is one, and nothing else is sent for it. -/
theorem send_mem_request_iff (f : Json → Option α) (r : Request) (c : Client) (x : Sending) :
    .send c x ∈ (Dialogue.run answer (s.request f r) w).calls ↔
      (answer .next w).1 = some c ∧ x = c.sending r s.credentials := by
  cases next : (answer .next w).1 with
  | none => simp [run_request_of_none answer s w f r next]
  | some client =>
    obtain ⟨rounds, -, calls⟩ := run_attempt answer client (client.sending r s.credentials) f
      (client.patience.maxAttempts - 1) (answer .next w).2
    rw [run_request_of_some answer s w f r next, List.mem_cons, Client.execute, calls, mem_attempts]
    simp only [reduceCtorEq, false_or, Option.some.injEq]
    constructor
    · rintro ⟨rfl, rfl⟩
      exact ⟨rfl, rfl⟩
    · rintro ⟨rfl, rfl⟩
      exact ⟨rfl, rfl⟩

/-- What a request reports is never that no account is linked. -/
theorem request_ne_noLinkedAccount (f : Json → Option α) (r : Request) :
    (Dialogue.run answer (s.request f r) w).value ≠ .error .noLinkedAccount := by
  cases next : (answer .next w).1 with
  | none => simp [run_request_of_none answer s w f r next]
  | some client =>
    have link (value : Except LinkError (Envelope α)) :
        value.mapError LinkError.toGameError ≠ .error .noLinkedAccount := by
      rcases value with (_ | _ | _ | _) | _ <;> simp [Except.mapError, LinkError.toGameError]
    rw [run_request_of_some answer s w f r next]
    exact link _

/-- A payload is taken from what the request for it has come to. -/
theorem run_fetch (f : Json → Option α) (r : Request) :
    Dialogue.run answer (s.fetch f r) w =
      let asked := Dialogue.run answer (s.request f r) w
      ⟨asked.value.bind (Session.payload r), asked.state, asked.calls⟩ := by
  rw [Session.fetch, Dialogue.run_andThen]
  simp

end Requests

/-! ## Requests that are told apart -/

/-- A request is among those that are sent. -/
def Sends (s : Session) (r : Request) (calls : List Link.Call) : Prop :=
  ∃ c : Client, .send c (c.sending r s.credentials) ∈ calls

theorem path_eq_of_sending {c : Client} {r r' : Request} {credentials : Credentials}
    (same : c.sending r credentials = c.sending r' credentials) (h : r.components = []) (h' : r'.components = []) :
    r.path = r'.path := by
  have url : c.url r = c.url r' := congrArg Sending.url same
  simpa [Client.url, Request.query?, h, h', ← String.toList_inj] using url

theorem linkedProfiles_path_inj {id id' : String}
    (h : (Request.linkedProfiles id).path = (Request.linkedProfiles id').path) : id = id' := by
  simpa [Request.linkedProfiles, Request.profilePath, ← String.toList_inj] using h

theorem linkedProfiles_path_ne (id : String) : (Request.linkedProfiles id).path ≠ Request.memberships.path := by
  simp [Request.linkedProfiles, Request.profilePath, Request.memberships, ← String.toList_inj]

/-! ## The account -/

section Account

variable {σ : Type} (answer : Dialogue.Answering Link σ) (s : Session) (w : σ)

/-- The request for the memberships. -/
def membershipsRun : Dialogue.Run Link (Except GameError (Envelope Memberships)) σ :=
  Dialogue.run answer (s.request Memberships.ofJson? .memberships) w

/-- The request for the profiles linked to an account, after the one for the memberships. -/
def profilesRun (id : String) : Dialogue.Run Link (Except GameError (Envelope LinkedProfiles)) σ :=
  Dialogue.run answer (s.request LinkedProfiles.ofJson? (.linkedProfiles id)) (membershipsRun answer s w).state

/-- There is an account, and the memberships leave open which of its profiles to take. -/
def NeedsProfiles (replied : Except GameError (Envelope Memberships)) (id : String) : Prop :=
  ∃ m, Delivers replied m ∧ m.user = some id ∧ m.memberships.length ≠ 1

variable {answer s w} {m : Memberships} {id : String}

/-- A first reply without a payload ends the matter. -/
theorem run_currentAccount_of_fails {e : GameError} (h : Fails .memberships (membershipsRun answer s w).value e) :
    Dialogue.run answer s.currentAccount w =
      ⟨.error e, (membershipsRun answer s w).state, (membershipsRun answer s w).calls⟩ := by
  have outcome := h.payload
  rw [membershipsRun] at outcome ⊢
  rw [Session.currentAccount, Dialogue.run_andThen, run_fetch]
  simp [outcome]

/-- So does one that names nobody. -/
theorem run_currentAccount_of_anonymous (h : Delivers (membershipsRun answer s w).value m) (anonymous : m.user = none) :
    Dialogue.run answer s.currentAccount w =
      ⟨.error .noLinkedAccount, (membershipsRun answer s w).state, (membershipsRun answer s w).calls⟩ := by
  have outcome := h.payload (r := .memberships)
  rw [membershipsRun] at outcome ⊢
  rw [Session.currentAccount, Dialogue.run_andThen, run_fetch]
  simp [outcome, anonymous]

/-- The only membership is taken without another request. -/
theorem run_currentAccount_of_single {only : Membership} (h : Delivers (membershipsRun answer s w).value m)
    (user : m.user = some id) (single : m.memberships = [only]) :
    Dialogue.run answer s.currentAccount w =
      ⟨.ok ⟨id, only⟩, (membershipsRun answer s w).state, (membershipsRun answer s w).calls⟩ := by
  have outcome := h.payload (r := .memberships)
  rw [membershipsRun] at outcome ⊢
  rw [Session.currentAccount, Dialogue.run_andThen, run_fetch]
  simp [outcome, user, single]

/-- The account with the profile played last. -/
def latestAccount (id : String) (l : LinkedProfiles) : Except GameError Account :=
  match l.latest? with
  | none => .error .noLinkedAccount
  | some p => .ok ⟨id, p.membership⟩

/-- Otherwise the linked profiles are asked for. -/
theorem run_currentAccount_of_needsProfiles (h : NeedsProfiles (membershipsRun answer s w).value id) :
    Dialogue.run answer s.currentAccount w =
      ⟨((profilesRun answer s w id).value.bind (Session.payload (.linkedProfiles id))).bind (latestAccount id),
        (profilesRun answer s w id).state,
        (membershipsRun answer s w).calls ++ (profilesRun answer s w id).calls⟩ := by
  obtain ⟨m, delivers, user, several⟩ := h
  have outcome := delivers.payload (r := .memberships)
  rw [profilesRun]
  rw [membershipsRun] at outcome ⊢
  rw [Session.currentAccount, Dialogue.run_andThen, run_fetch]
  simp only [outcome, user]
  split
  · rename_i none_linked
    cases none_linked
  · rename_i single
    exact absurd (congrArg List.length single) several
  · rename_i same _
    cases same
    rw [Dialogue.run_andThen, run_fetch]
    dsimp only
    generalize Except.bind _ (Session.payload (.linkedProfiles id)) = delivered
    cases delivered with
    | error e => simp [Except.bind]
    | ok l => cases best : l.latest? <;> simp [Except.bind, latestAccount, best]

theorem value_of_delivers (needs : NeedsProfiles (membershipsRun answer s w).value id) {l : LinkedProfiles}
    (delivers : Delivers (profilesRun answer s w id).value l) :
    (Dialogue.run answer s.currentAccount w).value = latestAccount id l := by
  rw [run_currentAccount_of_needsProfiles needs, delivers.payload]
  rfl

theorem value_of_fails (needs : NeedsProfiles (membershipsRun answer s w).value id) {e : GameError}
    (fails : Fails (.linkedProfiles id) (profilesRun answer s w id).value e) :
    (Dialogue.run answer s.currentAccount w).value = .error e := by
  rw [run_currentAccount_of_needsProfiles needs, fails.payload]
  rfl

/-- The first reply is a failure, or it names nobody, or it settles the matter, or profiles are needed. -/
theorem reply_cases (replied : Except GameError (Envelope Memberships)) :
    (∃ e, Fails .memberships replied e) ∨ (∃ m, Delivers replied m ∧ m.user = none) ∨
      (∃ m id only, Delivers replied m ∧ m.user = some id ∧ m.memberships = [only]) ∨
      ∃ id, NeedsProfiles replied id := by
  rcases delivers_or_fails .memberships replied with ⟨m, delivers⟩ | fails
  · cases user : m.user with
    | none => exact .inr (.inl ⟨m, delivers, user⟩)
    | some id =>
      by_cases single : m.memberships.length = 1
      · obtain ⟨only, single⟩ := List.length_eq_one_iff.mp single
        exact .inr (.inr (.inl ⟨m, id, only, delivers, user, single⟩))
      · exact .inr (.inr (.inr ⟨id, m, delivers, user, single⟩))
  · exact .inl fails

theorem NeedsProfiles.iff_eq {replied : Except GameError (Envelope Memberships)} {id' : String}
    (h : NeedsProfiles replied id) : NeedsProfiles replied id' ↔ id = id' := by
  obtain ⟨m, delivers, user, several⟩ := h
  simp [NeedsProfiles, delivers.iff_eq, user, several]

theorem latestAccount_eq_error_iff {l : LinkedProfiles} {e : GameError} :
    latestAccount id l = .error e ↔ l.profiles = [] ∧ e = .noLinkedAccount := by
  rw [← LinkedProfiles.latest?_eq_none_iff, latestAccount]
  cases l.latest? <;> simp [eq_comm]

theorem latestAccount_eq_ok_iff {l : LinkedProfiles} {a : Account} :
    latestAccount id l = .ok a ↔ id = a.accountId ∧ ∃ p, Latest l.profiles p ∧ p.membership = a.membership := by
  obtain ⟨id', membership⟩ := a
  simp only [← LinkedProfiles.latest?_eq_some_iff, latestAccount]
  cases l.latest? <;> simp

/-- When no account is reported to be linked. -/
theorem currentAccount_eq_noLinkedAccount_iff :
    (Dialogue.run answer s.currentAccount w).value = .error .noLinkedAccount ↔
      (∃ m, Delivers (membershipsRun answer s w).value m ∧ m.user = none) ∨
      ∃ id l, NeedsProfiles (membershipsRun answer s w).value id ∧
        Delivers (profilesRun answer s w id).value l ∧ l.profiles = [] := by
  rcases reply_cases (membershipsRun answer s w).value with
    ⟨e, fails⟩ | ⟨m, delivers, anonymous⟩ | ⟨m, id, only, delivers, user, single⟩ | ⟨id, needs⟩
  · have other := fails.ne_noLinkedAccount (request_ne_noLinkedAccount answer s w _ _)
    simp [run_currentAccount_of_fails fails, other, fails.not_delivers, NeedsProfiles]
  · simp [run_currentAccount_of_anonymous delivers anonymous, NeedsProfiles, delivers.iff_eq, anonymous]
  · simp [run_currentAccount_of_single delivers user single, NeedsProfiles, delivers.iff_eq, user, single]
  · have named : ¬ ∃ m, Delivers (membershipsRun answer s w).value m ∧ m.user = none := by
      obtain ⟨m, delivers, user, -⟩ := needs
      simp [delivers.iff_eq, user]
    simp only [named, false_or, needs.iff_eq, exists_and_left, exists_eq_left']
    rcases delivers_or_fails (.linkedProfiles id) (profilesRun answer s w id).value with
      ⟨l, delivers⟩ | ⟨e, fails⟩
    · simp [value_of_delivers needs delivers, latestAccount_eq_error_iff, delivers.iff_eq]
    · have other := fails.ne_noLinkedAccount (request_ne_noLinkedAccount answer s _ _ _)
      simp [value_of_fails needs fails, other, fails.not_delivers]

/-- Which account is found. -/
theorem currentAccount_eq_ok_iff {a : Account} :
    (Dialogue.run answer s.currentAccount w).value = .ok a ↔
      (∃ m, Delivers (membershipsRun answer s w).value m ∧ m.user = some a.accountId ∧
        m.memberships = [a.membership]) ∨
      NeedsProfiles (membershipsRun answer s w).value a.accountId ∧
        ∃ l p, Delivers (profilesRun answer s w a.accountId).value l ∧ Latest l.profiles p ∧
          p.membership = a.membership := by
  obtain ⟨id', membership⟩ := a
  rcases reply_cases (membershipsRun answer s w).value with
    ⟨e, fails⟩ | ⟨m, delivers, anonymous⟩ | ⟨m, id, only, delivers, user, single⟩ | ⟨id, needs⟩
  · simp [run_currentAccount_of_fails fails, fails.not_delivers, NeedsProfiles]
  · simp [run_currentAccount_of_anonymous delivers anonymous, NeedsProfiles, delivers.iff_eq, anonymous]
  · simp [run_currentAccount_of_single delivers user single, NeedsProfiles, delivers.iff_eq, user, single]
  · have open_still : ¬ ∃ m, Delivers (membershipsRun answer s w).value m ∧ m.user = some id' ∧
        m.memberships = [membership] := by
      obtain ⟨m, delivers, -, several⟩ := needs
      rintro ⟨m', delivers', -, single⟩
      cases delivers.iff_eq.mp delivers'
      exact several (congrArg List.length single)
    simp only [open_still, false_or, needs.iff_eq]
    rcases delivers_or_fails (.linkedProfiles id) (profilesRun answer s w id).value with
      ⟨l, delivers⟩ | ⟨e, fails⟩
    · rw [value_of_delivers needs delivers, latestAccount_eq_ok_iff]
      constructor
      · rintro ⟨rfl, p, latest, same⟩
        exact ⟨rfl, l, p, delivers, latest, same⟩
      · rintro ⟨rfl, l', p, delivers', latest, same⟩
        cases delivers.iff_eq.mp delivers'
        exact ⟨rfl, p, latest, same⟩
    · simp only [value_of_fails needs fails, reduceCtorEq, false_iff]
      rintro ⟨rfl, l, p, delivers, -⟩
      exact fails.not_delivers delivers

/-- The linked profiles are requested if they are needed, by the next client, if there is one. -/
theorem sends_linkedProfiles_iff :
    Sends s (.linkedProfiles id) (Dialogue.run answer s.currentAccount w).calls ↔
      NeedsProfiles (membershipsRun answer s w).value id ∧
        (answer .next (membershipsRun answer s w).state).1.isSome := by
  have first : ¬ Sends s (.linkedProfiles id) (membershipsRun answer s w).calls := by
    rintro ⟨c, sent⟩
    obtain ⟨-, same⟩ := (send_mem_request_iff answer s w _ _ _ _).mp sent
    exact linkedProfiles_path_ne id (path_eq_of_sending same rfl rfl)
  rcases reply_cases (membershipsRun answer s w).value with
    ⟨e, fails⟩ | ⟨m, delivers, anonymous⟩ | ⟨m, id', only, delivers, user, single⟩ | ⟨id', needs⟩
  · simp [run_currentAccount_of_fails fails, first, fails.not_delivers, NeedsProfiles]
  · simp [run_currentAccount_of_anonymous delivers anonymous, first, NeedsProfiles, delivers.iff_eq, anonymous]
  · simp [run_currentAccount_of_single delivers user single, first, NeedsProfiles, delivers.iff_eq, user, single]
  · rw [run_currentAccount_of_needsProfiles needs, needs.iff_eq]
    constructor
    · rintro ⟨c, sent⟩
      rcases List.mem_append.mp sent with sent | sent
      · exact absurd ⟨c, sent⟩ first
      · obtain ⟨next, same⟩ := (send_mem_request_iff answer s _ _ _ _ _).mp sent
        exact ⟨(linkedProfiles_path_inj (path_eq_of_sending same rfl rfl)).symm, Option.isSome_of_eq_some next⟩
    · rintro ⟨rfl, some_client⟩
      obtain ⟨c, next⟩ := Option.isSome_iff_exists.mp some_client
      exact ⟨c, List.mem_append_right _ ((send_mem_request_iff answer s _ _ _ _ _).mpr ⟨next, rfl⟩)⟩

/-- Without a need for profiles only the memberships are asked for. -/
theorem calls_of_not_needsProfiles (settled : ∀ id, ¬ NeedsProfiles (membershipsRun answer s w).value id) :
    (Dialogue.run answer s.currentAccount w).calls = (membershipsRun answer s w).calls := by
  rcases reply_cases (membershipsRun answer s w).value with
    ⟨e, fails⟩ | ⟨m, delivers, anonymous⟩ | ⟨m, id, only, delivers, user, single⟩ | ⟨id, needs⟩
  · rw [run_currentAccount_of_fails fails]
  · rw [run_currentAccount_of_anonymous delivers anonymous]
  · rw [run_currentAccount_of_single delivers user single]
  · exact absurd needs (settled id)

end Account

end Armory.Wire
