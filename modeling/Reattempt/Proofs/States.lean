import Mathlib.Tactic.Common
import Reattempt.Engine.Handle

/-!
How the writers of an engine's state act on its parts: on one call and on no other, and on the
metrics and the breaker where a failure is counted.
-/
namespace Reattempt

namespace Clock

/-- The clock stands at a time that can be named. -/
def Readable (c : Clock) : Prop := c.elapsed.nanos < Instant.limit

instance (c : Clock) : Decidable c.Readable := inferInstanceAs (Decidable (_ < _))

theorem start_readable : start.Readable := by decide

theorem now?_of_readable {c : Clock} (h : c.Readable) : c.now? = some ⟨c.elapsed.nanos, h⟩ := by
  simp only [now?]
  exact dif_pos h

theorem read_of_readable {c : Clock} (h : c.Readable) : c.read = .ok ⟨c.elapsed.nanos, h⟩ := by
  simp only [read, now?_of_readable h]

theorem read_of_not_readable {c : Clock} (h : ¬ c.Readable) : c.read = .error .instantOverflow := by
  have hn : c.now? = none := dif_neg h
  simp only [read, hn]

theorem advance_of_lt {c : Clock} {d : Duration} (h : c.elapsed.nanos + d.nanos < Instant.limit) :
    ∃ t, c.advance d = .ok t ∧ t.elapsed.nanos = c.elapsed.nanos + d.nanos := by
  have hle : c.elapsed.nanos + d.nanos ≤ Duration.maxNanos := by
    simp only [Instant.limit, Duration.maxNanos] at *
    omega
  refine ⟨⟨⟨_, hle⟩⟩, ?_, rfl⟩
  simp only [Clock.advance, Duration.add?, hle, ↓reduceDIte]

end Clock

/-- What an invocation reports that ends that way. -/
def Response.result : Response → Except Fault (Except Failure Int)
  | value v => .ok (.ok v)
  | failure f => .ok (.error f)
  | panic message => .error (.raised message)

/-- The attempt of a call that an event tells the invocation of. -/
def Engine.Event.attemptOf (id : Nat) : Engine.Event → Option Nat
  | invoked call attempt => if call = id then some attempt else none
  | _ => none

/-- The call that an event is about. -/
def Engine.Event.call? : Engine.Event → Option Nat
  | looked | reset => none
  | invoked call _ => some call
  | requested r => some r.call
  | settled call _ => some call

namespace Engine.State

variable {Room : Type} {s t : State Room} {id j : Nat} {f : Call → Call}

/-! ### One call among the calls -/

theorem call_congr (h : t.calls = s.calls) (j : Nat) : t.call j = s.call j := by
  simp only [call, h]

theorem call_of_length_le (h : s.calls.length ≤ id) : s.call id = .blank := by
  rw [call, List.getD_eq_getElem?_getD, List.getElem?_eq_none h, Option.getD_none]

theorem lt_length_of_call_ne_blank (h : s.call id ≠ .blank) : id < s.calls.length := by
  by_contra hn
  exact h (call_of_length_le (by omega))

theorem known_of_waiting {c : Continuation} (h : (s.call id).waiting = some c) :
    id < s.calls.length := by
  apply lt_length_of_call_ne_blank
  intro hb
  rw [hb] at h
  cases h

theorem call_eq_getElem (h : id < s.calls.length) : s.call id = s.calls[id] := by
  rw [call, List.getD_eq_getElem?_getD, List.getElem?_eq_getElem h, Option.getD_some]

theorem call_of_modify (h : t.calls = s.calls.modify id f) (hid : id < s.calls.length) :
    t.call id = f (s.call id) := by
  simp only [call, h, List.getD_eq_getElem?_getD, List.getElem?_modify_eq,
    List.getElem?_eq_getElem hid, Option.map_eq_map, Option.map_some, Option.getD_some]

theorem call_of_modify_ne (h : t.calls = s.calls.modify id f) (hj : j ≠ id) :
    t.call j = s.call j := by
  simp only [call, h, List.getD_eq_getElem?_getD, List.getElem?_modify_ne f s.calls hj.symm]

/-- A part of a call that a modification leaves alone is the same in every call. -/
theorem part_of_modify {α : Type} (part : Call → α) (h : t.calls = s.calls.modify id f)
    (hf : ∀ c, part (f c) = part c) (j : Nat) : part (t.call j) = part (s.call j) := by
  by_cases hj : j = id
  · subst hj
    by_cases hl : j < s.calls.length
    · rw [call_of_modify h hl, hf]
    · have hs : s.calls.length ≤ j := by omega
      have ht : t.calls.length ≤ j := by rwa [h, List.length_modify]
      rw [call_of_length_le hs, call_of_length_le ht]
  · rw [call_of_modify_ne h hj]

/-- Nothing but the mark and the token of a call decides whether it is cancelled. -/
theorem isCancelled_of_modify (h : t.calls = s.calls.modify id f) (htokens : t.tokens = s.tokens)
    (hmark : ∀ c, (f c).cancelled = c.cancelled) (htoken : ∀ c, (f c).token = c.token) (j : Nat) :
    t.isCancelled j = s.isCancelled j := by
  have hcancelled : t.tokenCancelled = s.tokenCancelled := by
    funext token
    simp only [tokenCancelled, htokens]
  simp only [isCancelled, part_of_modify Call.cancelled h hmark, part_of_modify Call.token h htoken,
    hcancelled]

theorem length_of_modify (h : t.calls = s.calls.modify id f) : t.calls.length = s.calls.length := by
  rw [h, List.length_modify]

theorem call_of_append {c : Call} (h : t.calls = s.calls ++ [c]) (hj : j < s.calls.length) :
    t.call j = s.call j := by
  simp only [call, h, List.getD_eq_getElem?_getD, List.getElem?_append_left hj]

theorem call_append_last {c : Call} (h : t.calls = s.calls ++ [c]) :
    t.call s.calls.length = c := by
  simp only [call, h, List.getD_eq_getElem?_getD, List.getElem?_concat_length, Option.getD_some]

/-- The state at another time. -/
def withClock (s : State Room) (clock : Clock) : State Room := { s with clock }

/-- The state with another room. -/
def withRoom (s : State Room) (room : Room) : State Room := { s with room }

/-- The entries about a call, newest first. -/
def about (s : State Room) (id : Nat) : List Entry :=
  s.journal.filter (·.event.call? = some id)

theorem about_congr (h : t.journal = s.journal) (id : Nat) : t.about id = s.about id := by
  rw [about, h, about]

theorem about_cons_ne {entry : Entry} (h : t.journal = entry :: s.journal)
    (hid : entry.event.call? ≠ some id) : t.about id = s.about id := by
  rw [about, h, List.filter_cons_of_neg (by simpa using hid), about]

/-- The attempts of a call whose operation was invoked, newest first. -/
def attemptsOf (s : State Room) (id : Nat) : List Nat :=
  s.journal.filterMap (·.event.attemptOf id)

theorem attemptsOf_cons {entry : Entry} (h : t.journal = entry :: s.journal) (id : Nat) :
    t.attemptsOf id = (entry.event.attemptOf id).toList ++ s.attemptsOf id := by
  rw [attemptsOf, h, List.filterMap_cons]
  cases entry.event.attemptOf id <;> rfl

/-! ### Tokens -/

theorem lookup_cancelled (tokens : List (String × Bool)) (token cancelled : String) :
    (tokens.map fun (name, done) => (name, done || name == cancelled)).lookup token =
      (tokens.lookup token).map (· || token == cancelled) := by
  induction tokens with
  | nil => rfl
  | cons entry tokens ih =>
    obtain ⟨name, done⟩ := entry
    simp only [List.map_cons, List.lookup_cons]
    cases h : token == name with
    | true =>
      rw [eq_of_beq h]
      rfl
    | false => exact ih

/-- A token that becomes known is not cancelled. -/
theorem tokenCancelled_addToken (s : State Room) (token other : String) :
    (s.addToken token).tokenCancelled other = s.tokenCancelled other := by
  simp only [addToken, tokenCancelled]
  split
  · rfl
  · rw [List.lookup_append]
    cases h : s.tokens.lookup other with
    | some done => rfl
    | none =>
      simp only [Option.none_or, List.lookup_cons, List.lookup_nil]
      split <;> rfl

theorem isSome_lookup_addToken (s : State Room) (token : String) :
    ((s.addToken token).tokens.lookup token).isSome = true := by
  simp only [addToken]
  split
  · assumption
  · simp only [List.lookup_append, List.lookup_cons, beq_self_eq_true, Option.isSome_or,
      Option.isSome_some, Bool.or_true]

theorem tokenCancelled_cancelToken {token : String} (cancelled : String)
    (h : (s.tokens.lookup token).isSome = true) : (s.cancelToken cancelled).tokenCancelled token =
      (s.tokenCancelled token || token == cancelled) := by
  obtain ⟨done, hd⟩ := Option.isSome_iff_exists.mp h
  simp only [tokenCancelled, cancelToken, lookup_cancelled, hd, Option.map_some, Option.getD_some]

theorem isSome_lookup_cancelToken (s : State Room) (token cancelled : String) :
    ((s.cancelToken cancelled).tokens.lookup token).isSome =
      (s.tokens.lookup token).isSome := by
  simp only [cancelToken, lookup_cancelled, Option.isSome_map]

/-! ### An invocation -/

/-- The state after an invocation, whatever came of it. -/
def invoked (s : State Room) (id attempt : Nat) : State Room := (s.invoke id attempt).1

/-- An invocation writes the clock, the tokens, one counter, one entry and the call's own count. -/
theorem invoked_eq (s : State Room) (id n : Nat) : ∃ clock tokens,
    s.invoked id n =
      { s with
        clock
        tokens
        metrics := s.metrics.recordAttempt
        calls := s.calls.modify id fun c => { c with invocations := c.invocations + 1 }
        journal := ⟨s.clock.elapsed, .invoked id n⟩ :: s.journal } := by
  simp only [invoked, invoke]
  split
  · exact ⟨_, _, rfl⟩
  · cases ((s.call id).operation (s.call id).invocations).cancel <;>
      cases ((s.call id).operation (s.call id).invocations).response <;> exact ⟨_, _, rfl⟩

/-- An invocation whose time can pass does all that its play says. -/
theorem invoke_of_advance {n : Nat} {play : Play} {clock : Clock}
    (hp : (s.call id).operation (s.call id).invocations = play)
    (hc : s.clock.advance (play.advance.getD .zero) = .ok clock) :
    (s.invoke id n).2 = play.response.result ∧ (s.invoked id n).clock = clock ∧
      (s.invoked id n).tokens = (play.cancel.elim s s.cancelToken).tokens := by
  simp only [invoked, invoke, modifyCall, log, hp, hc]
  cases play.cancel <;> cases play.response <;> exact ⟨rfl, rfl, rfl⟩

theorem invoked_calls (s : State Room) (id n : Nat) : (s.invoked id n).calls =
    s.calls.modify id fun c => { c with invocations := c.invocations + 1 } := by
  obtain ⟨_, _, h⟩ := invoked_eq s id n
  rw [h]

theorem invoked_metrics (s : State Room) (id n : Nat) :
    (s.invoked id n).metrics = s.metrics.recordAttempt := by
  obtain ⟨_, _, h⟩ := invoked_eq s id n
  rw [h]

theorem invoked_breaker (s : State Room) (id n : Nat) : (s.invoked id n).breaker = s.breaker := by
  obtain ⟨_, _, h⟩ := invoked_eq s id n
  rw [h]

theorem invoked_room (s : State Room) (id n : Nat) : (s.invoked id n).room = s.room := by
  obtain ⟨_, _, h⟩ := invoked_eq s id n
  rw [h]

theorem invoked_journal (s : State Room) (id n : Nat) : (s.invoked id n).journal =
    ⟨s.clock.elapsed, .invoked id n⟩ :: s.journal := by
  obtain ⟨_, _, h⟩ := invoked_eq s id n
  rw [h]

/-! ### Failures -/

/-- A failure can be counted without a fault: no breaker has to date it, or the clock can be read. -/
def Dated (s : State Room) : Prop := s.breaker = none ∨ s.clock.Readable

theorem countFailure_fst (s : State Room) : s.countFailure.1 =
    { s with
      metrics := s.metrics.recordFailure
      breaker := s.breaker.map fun b => (b.recordFailure s.clock.read).1 } := by
  cases h : s.breaker <;> simp only [countFailure, h, Option.map_none, Option.map_some]

theorem countFailure_of_dated (h : s.Dated) : s.countFailure.2 = none := by
  cases hb : s.breaker with
  | none => simp only [countFailure, hb]
  | some b =>
    have hr : s.clock.Readable := by
      rcases h with h | h
      · rw [hb] at h
        cases h
      · exact h
    simp only [countFailure, hb, Clock.read_of_readable hr, Breaker.recordFailure]

theorem countFailure_of_not_dated (h : ¬ s.Dated) :
    s.countFailure.2 = some .instantOverflow := by
  have hr : ¬ s.clock.Readable := fun hr => h (Or.inr hr)
  cases hb : s.breaker with
  | none => exact absurd (Or.inl hb) h
  | some b => simp only [countFailure, hb, Clock.read_of_not_readable hr, Breaker.recordFailure]

/-- The state in which a call has failed, or was lost because its failure could not be dated. -/
def failed (s : State Room) (id : Nat) (e : Ending) : State Room := (s.fail id e).1

theorem failed_of_dated (h : s.Dated) (id : Nat) (e : Ending) :
    s.failed id e = s.countFailure.1.deliver id (.error e) := by
  have hc : s.countFailure = (s.countFailure.1, none) :=
    Prod.ext rfl (countFailure_of_dated h)
  rw [failed, fail, hc]

theorem failed_of_not_dated (h : ¬ s.Dated) (id : Nat) (e : Ending) :
    s.failed id e = s.countFailure.1 := by
  have hc : s.countFailure = (s.countFailure.1, some .instantOverflow) :=
    Prod.ext rfl (countFailure_of_not_dated h)
  rw [failed, fail, hc]

theorem unwind_fst (s : State Room) (id : Nat) (e : Ending) (fault : Fault) :
    (s.unwind id e fault).1 = s.failed id e := by
  simp only [unwind, failed, fail]
  split <;> simp_all

theorem abandon_fst (s : State Room) (id : Nat) (c : Continuation) :
    (s.abandon id c).1 = s.failed id (.scheduling (c.attempt - 1) .shutDown) := by
  simp only [abandon, failed, fail]
  split <;> simp_all

theorem failed_room (s : State Room) (id : Nat) (e : Ending) : (s.failed id e).room = s.room := by
  by_cases h : s.Dated
  · rw [failed_of_dated h, countFailure_fst]
    rfl
  · rw [failed_of_not_dated h, countFailure_fst]

theorem failed_journal_of_dated (h : s.Dated) (id : Nat) (e : Ending) :
    (s.failed id e).journal = ⟨s.clock.elapsed, .settled id (.error e)⟩ :: s.journal := by
  rw [failed_of_dated h, countFailure_fst]
  rfl

theorem failed_about (s : State Room) (e : Ending) (hj : j ≠ id) :
    (s.failed id e).about j = s.about j := by
  by_cases h : s.Dated
  · refine about_cons_ne (failed_journal_of_dated h id e) ?_
    exact fun heq => hj (Option.some.inj heq).symm
  · exact about_congr (by rw [failed_of_not_dated h, countFailure_fst]) j

theorem failed_clock (s : State Room) (id : Nat) (e : Ending) :
    (s.failed id e).clock = s.clock := by
  by_cases h : s.Dated
  · rw [failed_of_dated h, countFailure_fst]
    rfl
  · rw [failed_of_not_dated h, countFailure_fst]

theorem failed_breaker (s : State Room) (id : Nat) (e : Ending) : (s.failed id e).breaker =
    s.breaker.map fun b => (b.recordFailure s.clock.read).1 := by
  by_cases h : s.Dated
  · rw [failed_of_dated h, countFailure_fst]
    rfl
  · rw [failed_of_not_dated h, countFailure_fst]

/-- Recording a failure leaves the clock and the presence of a breaker as they were. -/
theorem dated_failed (id : Nat) (e : Ending) : (s.failed id e).Dated ↔ s.Dated := by
  simp only [Dated, failed_clock, failed_breaker, Option.map_eq_none_iff]

theorem failed_calls_of_dated (h : s.Dated) (id : Nat) (e : Ending) : (s.failed id e).calls =
    s.calls.modify id fun c => { c with delivered := c.delivered ++ [.error e] } := by
  rw [failed_of_dated h, countFailure_fst]
  rfl

theorem failed_calls_of_not_dated (h : ¬ s.Dated) (id : Nat) (e : Ending) :
    (s.failed id e).calls = s.calls := by
  rw [failed_of_not_dated h, countFailure_fst]

/-- Either way at most the failed call is written. -/
theorem failed_calls (s : State Room) (id : Nat) (e : Ending) :
    ∃ f, (s.failed id e).calls = s.calls.modify id f := by
  by_cases h : s.Dated
  · exact ⟨_, failed_calls_of_dated h id e⟩
  · refine ⟨fun c => c, ?_⟩
    rw [failed_calls_of_not_dated h id e]
    exact (List.modify_id id s.calls).symm

theorem deliver_calls (s : State Room) (id : Nat) (o : Outcome) : (s.deliver id o).calls =
    s.calls.modify id fun c => { c with delivered := c.delivered ++ [o] } := rfl

/-- A call that was handed nothing before is handed what is delivered, and nothing else. -/
theorem eq_of_deliver {o o' : Outcome} (hid : id < s.calls.length)
    (hpending : (s.call id).delivered = []) (ho : o ∈ ((s.deliver id o').call id).delivered) :
    o = o' := by
  rw [call_of_modify (deliver_calls s id o') hid, hpending] at ho
  exact List.mem_singleton.mp ho

/-- What it is handed when it fails is the failure, unless the failure cannot be dated. -/
theorem eq_of_failed {e : Ending} {o : Outcome} (hid : id < s.calls.length)
    (hpending : (s.call id).delivered = []) (ho : o ∈ ((s.failed id e).call id).delivered) :
    s.Dated ∧ o = .error e := by
  by_cases hdated : s.Dated
  · rw [call_of_modify (failed_calls_of_dated hdated id e) hid, hpending] at ho
    exact ⟨hdated, List.mem_singleton.mp ho⟩
  · rw [call_congr (failed_calls_of_not_dated hdated id e), hpending] at ho
    cases ho

theorem hold_calls (s : State Room) (id : Nat) (c : Continuation) : (s.hold id c).calls =
    s.calls.modify id fun call => { call with waiting := some c } := rfl

theorem release_calls (s : State Room) (id : Nat) : (s.release id).calls =
    s.calls.modify id fun call => { call with waiting := none } := rfl

theorem succeed_calls (s : State Room) (id : Nat) (v : Int) : (s.succeed id v).calls =
    s.calls.modify id fun c => { c with delivered := c.delivered ++ [.ok v] } := rfl

/-! ### The gate -/

theorem look_eq (s : State Room) : ∃ breaker journal,
    s.look.1 = { s with breaker, journal } := by
  cases h : s.breaker <;> simp only [look, h] <;> exact ⟨_, _, rfl⟩

theorem enroll_eq (s : State Room) (name : String) (operation : Operation)
    (token : Option String) : ∃ tokens, s.enroll name operation token =
      { s with
        tokens
        calls := s.calls ++ [⟨name, operation, token, false, 0, none, [], .live⟩] } := by
  cases token with
  | none => exact ⟨_, rfl⟩
  | some token =>
    simp only [enroll, Option.elim, addToken]
    split <;> exact ⟨_, rfl⟩

/-- The state behind the gate: a new call is known and the breaker has been asked. -/
def gated (s : State Room) (name : String) (operation : Operation) (options : Options) :
    State Room :=
  (s.enroll name operation options.token).look.1

theorem gated_eq (s : State Room) (name : String) (operation : Operation) (options : Options) :
    ∃ tokens breaker journal, s.gated name operation options =
      { s with
        tokens
        breaker
        journal
        calls := s.calls ++ [⟨name, operation, options.token, false, 0, none, [], .live⟩] } := by
  obtain ⟨tokens, he⟩ := enroll_eq s name operation options.token
  obtain ⟨breaker, journal, hl⟩ := look_eq (s.enroll name operation options.token)
  refine ⟨tokens, breaker, journal, ?_⟩
  rw [gated, hl, he]

theorem gated_calls (s : State Room) (name : String) (operation : Operation) (options : Options) :
    (s.gated name operation options).calls =
      s.calls ++ [⟨name, operation, options.token, false, 0, none, [], .live⟩] := by
  obtain ⟨_, _, _, h⟩ := gated_eq s name operation options
  rw [h]

theorem lt_length_gated (s : State Room) (name : String) (operation : Operation)
    (options : Options) : s.calls.length < (s.gated name operation options).calls.length := by
  rw [gated_calls, List.length_append]
  exact Nat.lt_add_of_pos_right Nat.one_pos

theorem gated_clock (s : State Room) (name : String) (operation : Operation) (options : Options) :
    (s.gated name operation options).clock = s.clock := by
  obtain ⟨_, _, _, h⟩ := gated_eq s name operation options
  rw [h]

theorem gated_metrics (s : State Room) (name : String) (operation : Operation)
    (options : Options) : (s.gated name operation options).metrics = s.metrics := by
  obtain ⟨_, _, _, h⟩ := gated_eq s name operation options
  rw [h]

theorem gated_room (s : State Room) (name : String) (operation : Operation) (options : Options) :
    (s.gated name operation options).room = s.room := by
  obtain ⟨_, _, _, h⟩ := gated_eq s name operation options
  rw [h]

theorem look_about (s : State Room) (id : Nat) : s.look.1.about id = s.about id := by
  cases h : s.breaker with
  | none =>
    simp only [look, h]
  | some b =>
    simp only [look, h]
    exact about_cons_ne rfl fun h => nomatch h

theorem gated_about (s : State Room) (name : String) (operation : Operation)
    (options : Options) (id : Nat) : (s.gated name operation options).about id = s.about id := by
  obtain ⟨tokens, he⟩ := enroll_eq s name operation options.token
  rw [gated, look_about, he]
  rfl

/-- A look at the breaker is no attempt of any call. -/
theorem attemptsOf_gated (s : State Room) (name : String) (operation : Operation)
    (options : Options) (id : Nat) :
    (s.gated name operation options).attemptsOf id = s.attemptsOf id := by
  obtain ⟨_, he⟩ := enroll_eq s name operation options.token
  simp only [gated, he, look]
  split <;> rfl

/-- A look at a clock that can be read meets no fault. -/
theorem not_readable_of_look {fault : Fault} (h : s.look.2 = .error fault) :
    ¬ s.clock.Readable := by
  intro hr
  cases hb : s.breaker with
  | none => simp [look, hb] at h
  | some b => cases hc : b.circuit <;> cases hl : b.lastFailure <;>
      simp [look, hb, Breaker.isOpen, hc, hl, Clock.read_of_readable hr] at h

theorem not_readable_of_remaining {fault : Fault} (h : s.remaining = .error fault) :
    ¬ s.clock.Readable := by
  intro hr
  cases hb : s.breaker with
  | none => simp [remaining, hb] at h
  | some b => cases hl : b.lastFailure <;>
      simp [remaining, hb, Breaker.snapshot, hl, Clock.read_of_readable hr, Except.map] at h

theorem not_readable_of_deadlineAfter {fault : Fault} {budget : Option Duration}
    (h : s.deadlineAfter budget = .error fault) : ¬ s.clock.Readable := by
  intro hr
  cases budget <;> simp [deadlineAfter, Clock.read_of_readable hr, Except.map] at h

end Engine.State

end Reattempt
