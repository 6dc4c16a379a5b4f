import Reattempt.Proofs.BreakerReplay
import Reattempt.Proofs.Handles
import Reattempt.Proofs.Waits

/-!
Two engines side by side. Their states are alike if they agree on the clock, the counters, the
tokens, the calls and what the journal tells about calls; the rooms of their schedulers may be of
different kinds, and one of them may do without a breaker. Everything that an attempt reads is among
what they agree on, so that attempts made in states that are alike leave states that are alike.

An attempt either ends its call (`Ends`) or asks for another one (`Retries`). Main statements:
`ends_or_retries`, and `Ends.alike` and `Retries.alike`, by which the other engine does the same.
-/
namespace Reattempt.Engine

variable {Room Room' : Type}

/-- The entries about calls, newest first. -/
def State.story (s : State Room) : List Entry := s.journal.filter (·.event.call?.isSome)

/-- The two states agree but for the rooms and for the looks at the breaker. If `keep` is false, the
second one has no breaker. -/
structure State.Alike (keep : Bool) (s : State Room) (s' : State Room') : Prop where
  clock : s'.clock = s.clock
  metrics : s'.metrics = s.metrics
  breaker : s'.breaker = if keep then s.breaker else none
  tokens : s'.tokens = s.tokens
  calls : s'.calls = s.calls
  story : s'.story = s.story

/-- The two engines make the same attempts after the same waits. -/
structure Concurs (e : Engine Room) (e' : Engine Room') : Prop where
  maxAttempts : e'.policy.maxAttempts = e.policy.maxAttempts
  shouldRetry : ∀ f, e'.policy.shouldRetry f = e.policy.shouldRetry f
  first : ∀ d, Continuation.first e'.policy d = .first e.policy d
  next : ∀ c : Continuation, c.next e'.policy = c.next e.policy
  delay : ∀ id c, e'.delay id c = e.delay id c

/-- The same fault, and states that are alike. -/
structure AlikeResults (keep : Bool) (r : State Room × Option Fault)
    (r' : State Room' × Option Fault) : Prop where
  fault : r'.2 = r.2
  state : r.1.Alike keep r'.1

variable {keep : Bool} {s u : State Room} {s' u' : State Room'} {e : Engine Room}
  {e' : Engine Room'} {id left n : Nat} {c : Continuation} {f : Failure} {x : Ending}
  {r : State Room × Option Fault}

/-! ### The story -/

theorem story_of_about {entry : Entry} (h : u.journal = entry :: s.journal)
    (hc : entry.event.call?.isSome = true) : u.story = entry :: s.story := by
  rw [State.story, h, List.filter_cons_of_pos (by simpa using hc), State.story]

theorem story_of_apart {entry : Entry} (h : u.journal = entry :: s.journal)
    (hc : entry.event.call? = none) : u.story = s.story := by
  rw [State.story, h, List.filter_cons_of_neg (by simp [hc]), State.story]

/-- Where nothing is picked from the entries about no call, the story is all that is needed. -/
theorem filterMap_story {α : Type} {pick : Entry → Option α}
    (hpick : ∀ entry, entry.event.call? = none → pick entry = none) :
    s.story.filterMap pick = s.journal.filterMap pick := by
  rw [State.story, List.filterMap_filter]
  congr 1
  funext entry
  cases hc : entry.event.call? with
  | none => rw [hpick entry hc, ite_self]
  | some id => rw [Option.isSome_some, if_pos rfl]

/-- The requests are part of the story. -/
theorem requests_of_story (h : s'.story = s.story) : s'.requests = s.requests := by
  have about (entry : Entry) (r : Request) (hevent : entry.event = .requested r) :
      entry.event.call? ≠ none := by
    rw [hevent]
    exact Option.some_ne_none r.call
  unfold State.requests
  rw [← filterMap_story, ← filterMap_story, h]
  all_goals
    intro entry hc
    split
    · next r hevent => exact absurd hc (about entry r hevent)
    · rfl

/-! ### An invocation -/

/-- The state in which an operation is invoked: the invocation is counted, and noted. -/
def State.tallied (s : State Room) (id n : Nat) : State Room :=
  ({ s with metrics := s.metrics.recordAttempt }.log (.invoked id n)).modifyCall id
    fun c => { c with invocations := c.invocations + 1 }

/-- What is played cannot begin before its time has passed. -/
theorem invoke_of_fault {play : Play} {fault : Fault}
    (hp : (s.call id).operation (s.call id).invocations = play)
    (hc : s.clock.advance (play.advance.getD .zero) = .error fault) :
    s.invoke id n = (s.tallied id n, .error fault) := by
  simp only [State.invoke, State.modifyCall, State.log, hp, hc]
  rfl

theorem invoke_of_clock {play : Play} {clock : Clock}
    (hp : (s.call id).operation (s.call id).invocations = play)
    (hc : s.clock.advance (play.advance.getD .zero) = .ok clock) :
    s.invoke id n = (play.cancel.elim ((s.tallied id n).withClock clock)
      ((s.tallied id n).withClock clock).cancelToken, play.response.result) := by
  simp only [State.invoke, State.modifyCall, State.log, hp, hc]
  cases play.response <;> rfl

/-! ### What a failure throws -/

theorem State.fail_snd (s : State Room) (id : Nat) (x : Ending) :
    (s.fail id x).2 = s.countFailure.2.map fun _ => .collapse := by
  rcases hs : s.countFailure with ⟨t, fault⟩
  cases fault <;> simp only [State.fail, hs, Option.map_none, Option.map_some]

/-- A second fault while the first one unwinds is the end of everything. -/
theorem State.unwind_snd (s : State Room) (id : Nat) (x : Ending) (fault : Fault) :
    (s.unwind id x fault).2 = some (s.countFailure.2.elim fault fun _ => .collapse) := by
  rcases hs : s.countFailure with ⟨t, second⟩
  cases second <;> simp only [State.unwind, hs, Option.elim_none, Option.elim_some]

theorem State.abandon_snd (s : State Room) (id : Nat) (c : Continuation) :
    (s.abandon id c).2 = s.countFailure.2 := by
  rcases hs : s.countFailure with ⟨t, fault⟩
  cases fault <;> simp only [State.abandon, hs]

namespace State.Alike

variable (h : s.Alike keep s')
include h

theorem call (id : Nat) : s'.call id = s.call id := by
  simp only [State.call, h.calls]

theorem isCancelled (id : Nat) : s'.isCancelled id = s.isCancelled id := by
  have htoken : s'.tokenCancelled = s.tokenCancelled := by
    funext token
    simp only [State.tokenCancelled, h.tokens]
  simp only [State.isCancelled, h.call, htoken]

theorem requests : s'.requests = s.requests := requests_of_story h.story

/-! ### Writers of calls -/

theorem modifyCall (id : Nat) (f : Call → Call) :
    (s.modifyCall id f).Alike keep (s'.modifyCall id f) where
  clock := h.clock
  metrics := h.metrics
  breaker := h.breaker
  tokens := h.tokens
  calls := congrArg (·.modify id f) h.calls
  story := h.story

theorem hold (id : Nat) (c : Continuation) : (s.hold id c).Alike keep (s'.hold id c) :=
  h.modifyCall id _

theorem release (id : Nat) : (s.release id).Alike keep (s'.release id) := h.modifyCall id _

theorem dropHandle (id : Nat) : (s.dropHandle id).Alike keep (s'.dropHandle id) :=
  h.modifyCall id _

theorem withRoom (room : Room) (room' : Room') :
    (s.withRoom room).Alike keep (s'.withRoom room') :=
  ⟨h.clock, h.metrics, h.breaker, h.tokens, h.calls, h.story⟩

theorem withClock (clock : Clock) : (s.withClock clock).Alike keep (s'.withClock clock) :=
  ⟨rfl, h.metrics, h.breaker, h.tokens, h.calls, h.story⟩

/-- Both journals tell the same about a call. -/
theorem log {event : Event} (hc : event.call?.isSome = true) :
    (s.log event).Alike keep (s'.log event) where
  clock := h.clock
  metrics := h.metrics
  breaker := h.breaker
  tokens := h.tokens
  calls := h.calls
  story := by
    have hleft : (s.log event).story = ⟨s.clock.elapsed, event⟩ :: s.story :=
      story_of_about rfl hc
    have hright : (s'.log event).story = ⟨s'.clock.elapsed, event⟩ :: s'.story :=
      story_of_about rfl hc
    rw [hleft, hright, h.clock, h.story]

theorem deliver (id : Nat) (o : Outcome) : (s.deliver id o).Alike keep (s'.deliver id o) :=
  (h.modifyCall id _).log rfl

theorem cancelToken (token : String) :
    (s.cancelToken token).Alike keep (s'.cancelToken token) where
  clock := h.clock
  metrics := h.metrics
  breaker := h.breaker
  tokens := by simp only [State.cancelToken, h.tokens]
  calls := h.calls
  story := h.story

theorem addToken (token : String) : (s.addToken token).Alike keep (s'.addToken token) := by
  unfold State.addToken
  rw [h.tokens]
  split
  · exact h
  · exact ⟨h.clock, h.metrics, h.breaker, rfl, h.calls, h.story⟩

/-! ### Outcomes -/

theorem succeed (id : Nat) (v : Int) : (s.succeed id v).Alike keep (s'.succeed id v) := by
  apply State.Alike.deliver
  refine ⟨h.clock, congrArg Metrics.recordSuccess h.metrics, ?_, h.tokens, h.calls, h.story⟩
  change s'.breaker.map _ = if keep then s.breaker.map _ else none
  rw [h.breaker]
  cases keep <;> rfl

/-- Without a breaker there is nothing to date. -/
theorem dated (hd : keep = true ∨ s.clock.Readable) : s'.Dated ↔ s.Dated := by
  rcases hd with rfl | hr
  · simp only [State.Dated, h.clock, h.breaker, ↓reduceIte]
  · have hr' : s'.clock.Readable := h.clock ▸ hr
    exact ⟨fun _ => .inr hr, fun _ => .inr hr'⟩

theorem countFailure (hd : keep = true ∨ s.clock.Readable) :
    AlikeResults keep s.countFailure s'.countFailure where
  fault := by
    by_cases hdated : s.Dated
    · rw [State.countFailure_of_dated hdated,
        State.countFailure_of_dated ((h.dated hd).mpr hdated)]
    · rw [State.countFailure_of_not_dated hdated,
        State.countFailure_of_not_dated fun hn => hdated ((h.dated hd).mp hn)]
  state := by
    rw [State.countFailure_fst, State.countFailure_fst]
    refine ⟨h.clock, congrArg Metrics.recordFailure h.metrics, ?_, h.tokens, h.calls, h.story⟩
    change s'.breaker.map _ = if keep then s.breaker.map _ else none
    rw [h.breaker, h.clock]
    cases keep <;> rfl

theorem failed (hd : keep = true ∨ s.clock.Readable) (id : Nat) (x : Ending) :
    (s.failed id x).Alike keep (s'.failed id x) := by
  obtain ⟨-, hcounted⟩ := h.countFailure hd
  by_cases hdated : s.Dated
  · rw [State.failed_of_dated hdated, State.failed_of_dated ((h.dated hd).mpr hdated)]
    exact hcounted.deliver id _
  · rw [State.failed_of_not_dated hdated,
      State.failed_of_not_dated fun hn => hdated ((h.dated hd).mp hn)]
    exact hcounted

theorem fail (hd : keep = true ∨ s.clock.Readable) (id : Nat) (x : Ending) :
    AlikeResults keep (s.fail id x) (s'.fail id x) where
  fault := by rw [State.fail_snd, State.fail_snd, (h.countFailure hd).fault]
  state := h.failed hd id x

theorem unwind (hd : keep = true ∨ s.clock.Readable) (id : Nat) (x : Ending) (fault : Fault) :
    AlikeResults keep (s.unwind id x fault) (s'.unwind id x fault) where
  fault := by rw [State.unwind_snd, State.unwind_snd, (h.countFailure hd).fault]
  state := by
    rw [State.unwind_fst, State.unwind_fst]
    exact h.failed hd id x

theorem abandon (hd : keep = true ∨ s.clock.Readable) (id : Nat) (c : Continuation) :
    AlikeResults keep (s.abandon id c) (s'.abandon id c) where
  fault := by rw [State.abandon_snd, State.abandon_snd, (h.countFailure hd).fault]
  state := by
    rw [State.abandon_fst, State.abandon_fst]
    exact h.failed hd id _

/-! ### An attempt -/

theorem tallied (id n : Nat) : (s.tallied id n).Alike keep (s'.tallied id n) := by
  apply State.Alike.modifyCall
  apply State.Alike.log _ rfl
  exact ⟨h.clock, congrArg Metrics.recordAttempt h.metrics, h.breaker, h.tokens, h.calls, h.story⟩

/-- An operation sees the clock, the tokens and its own call, and nothing else. -/
theorem invoke (id n : Nat) : (s'.invoke id n).2 = (s.invoke id n).2 ∧
    (s.invoked id n).Alike keep (s'.invoked id n) := by
  have hcall := congrArg (fun c => c.operation c.invocations) (h.call id)
  have htallied := h.tallied id n
  simp only [State.invoked]
  generalize hp : (s.call id).operation (s.call id).invocations = play at hcall
  cases hc : s.clock.advance (play.advance.getD .zero) with
  | error fault =>
    rw [invoke_of_fault hp hc, invoke_of_fault hcall (h.clock ▸ hc)]
    exact ⟨rfl, htallied⟩
  | ok clock =>
    rw [invoke_of_clock hp hc, invoke_of_clock hcall (h.clock ▸ hc)]
    refine ⟨rfl, ?_⟩
    cases play.cancel with
    | none => exact htallied.withClock clock
    | some token => exact (htallied.withClock clock).cancelToken token

theorem misses (deadline : Option Deadline) (wait : Duration) :
    s'.misses deadline wait = s.misses deadline wait := by
  simp only [State.misses, h.clock]

/-! ### The gate -/

theorem enroll (name : String) (operation : Operation) (token : Option String) :
    (s.enroll name operation token).Alike keep (s'.enroll name operation token) := by
  have htokens : (token.elim s s.addToken).Alike keep (token.elim s' s'.addToken) := by
    cases token with
    | none => exact h
    | some token => exact h.addToken token
  have hcalls : (s'.enroll name operation token).calls = (s.enroll name operation token).calls := by
    simp only [State.enroll, htokens.calls]
  exact ⟨htokens.clock, htokens.metrics, htokens.breaker, htokens.tokens, hcalls, htokens.story⟩

/-- A look at the breaker is no part of the story. -/
theorem look : s.look.1.Alike keep s'.look.1 := by
  have hstory {R : Type} (t : State R) : t.look.1.story = t.story := by
    cases hb : t.breaker with
    | none => simp only [State.look, hb]
    | some b =>
      simp only [State.look, hb]
      exact story_of_apart rfl rfl
  have hbreaker : s'.look.1.breaker = if keep then s.look.1.breaker else none := by
    rw [look_breaker, look_breaker, h.breaker, h.clock]
    cases keep <;> rfl
  have hleft := hstory s
  have hright := hstory s'
  obtain ⟨_, _, hl⟩ := State.look_eq s
  obtain ⟨_, _, hr⟩ := State.look_eq s'
  rw [hl] at hleft hbreaker ⊢
  rw [hr] at hright hbreaker ⊢
  exact ⟨h.clock, h.metrics, hbreaker, h.tokens, h.calls,
    hright.trans (h.story.trans hleft.symm)⟩

theorem gated (name : String) (operation : Operation) (options : Options) :
    (s.gated name operation options).Alike keep (s'.gated name operation options) :=
  (h.enroll name operation options.token).look

theorem deadlineAfter (budget : Option Duration) :
    s'.deadlineAfter budget = s.deadlineAfter budget := by
  cases budget with
  | none => rfl
  | some budget => simp only [State.deadlineAfter, h.clock]

end State.Alike

/-! ### How an attempt ends its call -/

/-- An attempt that ends its call, with the state that it leaves and the fault that it throws. -/
inductive Ends (e : Engine Room) (id left : Nat) (c : Continuation) (s : State Room) :
    State Room × Option Fault → Prop
  | cancelled (hc : s.isCancelled id = true) :
      Ends e id left c s (s.deliver id (.error (.cancelled (c.attempt - 1))), none)
  | succeeded {v} (hc : s.isCancelled id = false)
      (hi : (s.invoke id c.attempt).2 = .ok (.ok v)) :
      Ends e id left c s ((s.invoked id c.attempt).succeed id v, none)
  | panicked {fault} (hc : s.isCancelled id = false)
      (hi : (s.invoke id c.attempt).2 = .error fault) :
      Ends e id left c s ((s.invoked id c.attempt).unwind id (.operationPanicked c.attempt) fault)
  | refused {f : Failure} (hc : s.isCancelled id = false)
      (hi : (s.invoke id c.attempt).2 = .ok (.error f))
      (hr : left = 0 ∨ e.policy.shouldRetry f = false) :
      Ends e id left c s ((s.invoked id c.attempt).fail id (.operation c.attempt f))
  | late {f : Failure} {d : Deadline} (hc : s.isCancelled id = false)
      (hi : (s.invoke id c.attempt).2 = .ok (.error f))
      (hl : left ≠ 0) (hr : e.policy.shouldRetry f = true)
      (hm : (s.invoked id c.attempt).misses c.deadline (e.delay id c) = .ok (some d)) :
      Ends e id left c s
        ((s.invoked id c.attempt).fail id (.deadlineExceeded c.attempt d.budget))
  | untimed {f : Failure} {fault : Fault} (hc : s.isCancelled id = false)
      (hi : (s.invoke id c.attempt).2 = .ok (.error f)) (hl : left ≠ 0)
      (hr : e.policy.shouldRetry f = true)
      (hm : (s.invoked id c.attempt).misses c.deadline (e.delay id c) = .error fault) :
      Ends e id left c s
        ((s.invoked id c.attempt).unwind id (.scheduling (c.attempt - 1) .shutDown) fault)

theorem Ends.run_eq (ends : Ends e id left c s r) : e.run id left c s = r := by
  cases ends with
  | cancelled hc => exact run_of_cancelled hc
  | succeeded hc hi => exact run_of_value hc hi
  | panicked hc hi => exact run_of_panic hc hi
  | refused hc hi hr => exact run_of_refused hc hi hr
  | late hc hi hl hr hm => exact run_of_late hc hi hl hr hm
  | untimed hc hi hl hr hm => exact run_of_untimed hc hi hl hr hm

/-- An attempt ends its call or asks for another attempt. -/
theorem ends_or_retries (e : Engine Room) (id left : Nat) (c : Continuation) (s : State Room) :
    (∃ r, Ends e id left c s r) ∨ s.isCancelled id = false ∧ ∃ f, Retries e id left c s f := by
  by_cases hc : s.isCancelled id = true
  · exact .inl ⟨_, .cancelled hc⟩
  have hc : s.isCancelled id = false := Bool.eq_false_iff.mpr hc
  cases hi : (s.invoke id c.attempt).2 with
  | error fault => exact .inl ⟨_, .panicked hc hi⟩
  | ok response =>
    cases response with
    | ok v => exact .inl ⟨_, .succeeded hc hi⟩
    | error f =>
      by_cases hn : left = 0 ∨ e.policy.shouldRetry f = false
      · exact .inl ⟨_, .refused hc hi hn⟩
      have hl : left ≠ 0 := fun h => hn (.inl h)
      have hr : e.policy.shouldRetry f = true := by simpa using fun h => hn (.inr h)
      cases hm : (s.invoked id c.attempt).misses c.deadline (e.delay id c) with
      | error fault => exact .inl ⟨_, .untimed hc hi hl hr hm⟩
      | ok missed =>
        cases missed with
        | some d => exact .inl ⟨_, .late hc hi hl hr hm⟩
        | none => exact .inr ⟨hc, f, ⟨hi, hl, hr, hm⟩⟩

theorem unwind_clock (s : State Room) (id : Nat) (x : Ending) (fault : Fault) :
    (s.unwind id x fault).1.clock = s.clock := by
  rw [State.unwind_fst, State.failed_clock]

theorem Ends.room (ends : Ends e id left c s r) : r.1.room = s.room := by
  have hinvoked := State.invoked_room s id c.attempt
  cases ends with
  | cancelled hc => rfl
  | succeeded hc hi => exact hinvoked
  | panicked hc hi =>
    rw [State.unwind_fst, State.failed_room]
    exact hinvoked
  | refused hc hi hr => exact (State.failed_room _ id _).trans hinvoked
  | late hc hi hl hr hm => exact (State.failed_room _ id _).trans hinvoked
  | untimed hc hi hl hr hm =>
    rw [State.unwind_fst, State.failed_room]
    exact hinvoked

/-- Where an attempt ends its call, an attempt in a state that is alike ends it likewise. -/
theorem Ends.alike (ends : Ends e id left c s r) (like : Concurs e e') (h : s.Alike keep s')
    (hd : keep = true ∨ r.1.clock.Readable) :
    ∃ r', Ends e' id left c s' r' ∧ AlikeResults keep r r' := by
  have hc' := h.isCancelled id
  obtain ⟨hi', hinvoked⟩ := h.invoke id c.attempt
  have hmisses := hinvoked.misses c.deadline (e.delay id c)
  rw [← like.delay] at hmisses
  -- What ended the attempt is read off from the state in which its operation has answered, and both
  -- states are alike there. Ending the call does not move the clock, so that it could be read.
  cases ends with
  | cancelled hc => exact ⟨_, .cancelled (hc' ▸ hc), rfl, h.deliver id _⟩
  | succeeded hc hi =>
    exact ⟨_, .succeeded (hc'.trans hc) (hi'.trans hi), rfl, hinvoked.succeed id _⟩
  | panicked hc hi =>
    rw [unwind_clock] at hd
    exact ⟨_, .panicked (hc'.trans hc) (hi'.trans hi), hinvoked.unwind hd id _ _⟩
  | @refused f hc hi hr =>
    have hclock := State.failed_clock (s.invoked id c.attempt) id (.operation c.attempt f)
    rw [← like.shouldRetry] at hr
    exact ⟨_, .refused (hc'.trans hc) (hi'.trans hi) hr,
      hinvoked.fail (hd.imp_right (hclock ▸ ·)) id _⟩
  | @late f d hc hi hl hr hm =>
    have hclock := State.failed_clock (s.invoked id c.attempt) id
      (.deadlineExceeded c.attempt d.budget)
    rw [← like.shouldRetry] at hr
    exact ⟨_, .late (hc'.trans hc) (hi'.trans hi) hl hr (hmisses.trans (like.delay id c ▸ hm)),
      hinvoked.fail (hd.imp_right (hclock ▸ ·)) id _⟩
  | untimed hc hi hl hr hm =>
    rw [unwind_clock] at hd
    rw [← like.shouldRetry] at hr
    exact ⟨_, .untimed (hc'.trans hc) (hi'.trans hi) hl hr (hmisses.trans (like.delay id c ▸ hm)),
      hinvoked.unwind hd id _ _⟩

theorem Retries.alike (retries : Retries e id left c s f) (like : Concurs e e')
    (h : s.Alike keep s') : Retries e' id left c s' f := by
  obtain ⟨hi', hinvoked⟩ := h.invoke id c.attempt
  refine ⟨hi'.trans retries.failed, retries.allowed, ?_, ?_⟩
  · rw [like.shouldRetry]
    exact retries.retryable
  · rw [like.delay, hinvoked.misses]
    exact retries.inTime

/-! ### How an attempt asks for another -/

theorem State.Alike.counted (h : s.Alike keep s') (id : Nat) (c : Continuation) :
    (counted id c s).Alike keep (counted id c s') := by
  obtain ⟨-, hinvoked⟩ := h.invoke id c.attempt
  exact ⟨hinvoked.clock, congrArg Metrics.recordRetry hinvoked.metrics, hinvoked.breaker,
    hinvoked.tokens, hinvoked.calls, hinvoked.story⟩

/-- Both schedulers are asked the same. -/
theorem State.Alike.request (h : s.Alike keep s') (like : Concurs e e') (id : Nat)
    (c : Continuation) : e'.request id c s' = e.request id c s := by
  have hcounted := h.counted id c
  simp only [Engine.request, hcounted.call, hcounted.clock, hcounted.isCancelled, like.delay]

theorem State.Alike.asked (h : s.Alike keep s') (like : Concurs e e') (id : Nat)
    (c : Continuation) : (e.asked id c s).1.Alike keep (e'.asked id c s').1 := by
  have hlog : ((Engine.counted id c s).log (.requested (e.request id c s))).Alike keep
      ((Engine.counted id c s').log (.requested (e.request id c s))) := (h.counted id c).log rfl
  have hroom := hlog.withRoom (e.asked id c s).1.room (e'.asked id c s').1.room
  have hright : (e'.asked id c s').1 = ((Engine.counted id c s').log
      (.requested (e.request id c s))).withRoom (e'.asked id c s').1.room := by
    rw [← h.request like]
    rfl
  rw [hright]
  exact hroom

end Reattempt.Engine
