import Reattempt.Proofs.Undisturbed

/-!
Who cancels what. A call hangs on its own handle and on the token that it was started with; a token
hangs on nothing. So a call is cancelled exactly if something was done to its own handle or to its
token, whatever happened to other calls, and no handle reaches a token. Main statement:
`cancellation_isolated`.

All this is read off two step lemmas: `act_mark` for the marks that handles leave on calls, and
`act_tokenCancelled` for tokens, which an operation can reach in the middle of an action.
-/
namespace Reattempt.Engine

variable {Room : Type} {e : Engine Room} {custody : Custody e.scheduler} {ok : State Room → Prop}
  {s t u : State Room} {id j left left' : Nat} {c c' : Continuation} {a : Action Room}
  {as : List (Action Room)} {token : String}

/-! ### What reaches a handle, and what reaches a token -/

/-- The actions that give up the handle of a call or cancel the call by way of it. A start that ends
in a fault gives up the handle that it never handed out. -/
def Action.Releases (e : Engine Room) (s : State Room) (id : Nat) : Action Room → Prop
  | .cancel j | .giveUp j | .collect j => j = id
  | .start name operation options =>
    id = s.calls.length ∧ (e.execute name operation options s).2.isSome = true
  | _ => False

/-- The operation of a call is invoked next, and cancels a token that exists by then. -/
structure State.Strikes (s : State Room) (id : Nat) (token : String) : Prop where
  uncancelled : s.isCancelled id = false
  play : ((s.call id).operation (s.call id).invocations).cancel = some token
  /-- The time that the invocation takes can pass before that. -/
  passes : ∃ clock, s.clock.advance
    (((s.call id).operation (s.call id).invocations).advance.getD .zero) = .ok clock
  listed : (s.tokens.lookup token).isSome = true

/-- The actions that cancel a token itself: it is cancelled outright, or by an operation that the
action invokes. -/
def Action.Hits (e : Engine Room) (s : State Room) (token : String) (a : Action Room) : Prop :=
  a = .cancelToken token ∨ ∃ id left c u, Makes e s a id left c u ∧ u.Strikes id token

/-- In the course of some actions, one was taken of which that holds. -/
def Happened (e : Engine Room) (s : State Room) (as : List (Action Room))
    (holds : State Room → Action Room → Prop) : Prop :=
  ∃ before a after, as = before ++ a :: after ∧ holds (before.foldl e.act s) a

theorem not_happened_nil {holds : State Room → Action Room → Prop} :
    ¬ Happened e s [] holds := by
  rintro ⟨before, a, after, h, -⟩
  cases before <;> cases h

theorem happened_concat {holds : State Room → Action Room → Prop} :
    Happened e s (as ++ [a]) holds ↔ Happened e s as holds ∨ holds (as.foldl e.act s) a := by
  constructor
  · rintro ⟨before, b, after, h, hb⟩
    rcases List.eq_nil_or_concat after with rfl | ⟨after, last, rfl⟩
    · obtain ⟨rfl, hlast⟩ := List.append_inj' h rfl
      cases hlast
      exact .inr hb
    · rw [List.concat_eq_append, ← List.cons_append, ← List.append_assoc] at h
      obtain ⟨rfl, -⟩ := List.append_inj' h rfl
      exact .inl ⟨before, b, after, rfl, hb⟩
  · rintro (⟨before, b, after, rfl, hb⟩ | ha)
    · refine ⟨before, b, after ++ [a], ?_, hb⟩
      rw [List.append_assoc, List.cons_append]
    · exact ⟨as, a, [], rfl, ha⟩

/-! ### Tokens in the course of a call -/

theorem tokenCancelled_congr (h : t.tokens = s.tokens) (token : String) :
    t.tokenCancelled token = s.tokenCancelled token := by
  rw [State.tokenCancelled, h, State.tokenCancelled]

/-- A token that does not exist cannot be cancelled, neither before nor after. -/
theorem tokenCancelled_cancelToken_iff (s : State Room) (token cancelled : String) :
    (s.cancelToken cancelled).tokenCancelled token = true ↔ s.tokenCancelled token = true ∨
      token = cancelled ∧ (s.tokens.lookup token).isSome = true := by
  by_cases h : (s.tokens.lookup token).isSome = true
  · rw [State.tokenCancelled_cancelToken cancelled h, Bool.or_eq_true, beq_iff_eq]
    exact or_congr_right ⟨fun heq => ⟨heq, h⟩, And.left⟩
  · have hnone := Option.not_isSome_iff_eq_none.mp h
    have hnone' : (s.cancelToken cancelled).tokens.lookup token = none := by
      rw [← s.isSome_lookup_cancelToken token cancelled] at h
      exact Option.not_isSome_iff_eq_none.mp h
    simp only [State.tokenCancelled, hnone, hnone', Option.getD_none, Bool.false_eq_true,
      Option.isSome_none, and_false, or_self]

theorem invoked_tokenCancelled (hc : s.isCancelled id = false) (n : Nat) (token : String) :
    (s.invoked id n).tokenCancelled token = true ↔
      s.tokenCancelled token = true ∨ s.Strikes id token := by
  cases ha : s.clock.advance
    (((s.call id).operation (s.call id).invocations).advance.getD .zero) with
  | error fault =>
    have htokens : (s.invoked id n).tokens = s.tokens := by
      simp only [State.invoked, State.invoke, State.modifyCall, State.log, ha]
    rw [tokenCancelled_congr htokens]
    refine ⟨.inl, ?_⟩
    rintro (h | strikes)
    · exact h
    · obtain ⟨clock, hclock⟩ := strikes.passes
      rw [ha] at hclock
      cases hclock
  | ok clock =>
    obtain ⟨-, -, htokens⟩ := State.invoke_of_advance (n := n) rfl ha
    rw [tokenCancelled_congr htokens]
    cases hplay : ((s.call id).operation (s.call id).invocations).cancel with
    | none =>
      refine ⟨.inl, ?_⟩
      rintro (h | strikes)
      · exact h
      · rw [strikes.play] at hplay
        cases hplay
    | some cancelled =>
      refine (tokenCancelled_cancelToken_iff s token cancelled).trans (or_congr_right ?_)
      constructor
      · rintro ⟨rfl, hlisted⟩
        exact ⟨hc, hplay, ⟨clock, ha⟩, hlisted⟩
      · intro strikes
        rw [strikes.play] at hplay
        exact ⟨Option.some.inj hplay, strikes.listed⟩

/-- From an attempt that another one follows, only that one is reached and what it leads to. -/
theorem reaches_again_iff {f : Failure} {pause : Option Duration} {contained : Bool}
    {refusal : Option ScheduleError} {clock : Clock} (hc : s.isCancelled id = false)
    (hr : Retries e id (left + 1) c s f) (ha : (e.asked id c s).2 = (.run pause contained, refusal))
    (hp : (e.asked id c s).1.clock.advance (pause.getD .zero) = .ok clock) :
    Reaches e id (left + 1) c s left' c' u ↔ (left' = left + 1 ∧ c' = c ∧ u = s) ∨
      Reaches e id left (c.next e.policy) ((e.asked id c s).1.withClock clock) left' c' u := by
  constructor
  · intro reached
    cases reached with
    | here => exact .inl ⟨rfl, rfl, rfl⟩
    | again hc' hr' ha' hp' rest =>
      -- The answer and the time that passes are the same ones.
      rw [ha] at ha'
      cases ha'
      rw [hp] at hp'
      cases hp'
      exact .inr rest
  · rintro (⟨rfl, rfl, rfl⟩ | rest)
    · exact .here
    · exact .again hc hr ha hp rest

/-- One of the attempts that are made because of the one in hand cancels the token. -/
def Struck (e : Engine Room) (id left : Nat) (c : Continuation) (s : State Room)
    (token : String) : Prop :=
  ∃ left' c' u, Reaches e id left c s left' c' u ∧ u.Strikes id token

/-- An attempt that leads to no other one is the only one that can. -/
theorem struck_of_last (last : ∀ {f : Failure} {pause : Option Duration} {contained : Bool}
    {refusal : Option ScheduleError} {clock : Clock}, Retries e id left c s f →
      (e.asked id c s).2 = (.run pause contained, refusal) →
      (e.asked id c s).1.clock.advance (pause.getD .zero) = .ok clock → False) :
    Struck e id left c s token ↔ s.Strikes id token := by
  constructor
  · rintro ⟨left', c', u, reached, strikes⟩
    cases reached with
    | here => exact strikes
    | again hc hr ha hp rest => exact (last hr ha hp).elim
  · intro strikes
    exact ⟨left, c, s, .here, strikes⟩

theorem struck_of_again {f : Failure} {pause : Option Duration} {contained : Bool}
    {refusal : Option ScheduleError} {clock : Clock} (hc : s.isCancelled id = false)
    (hr : Retries e id (left + 1) c s f) (ha : (e.asked id c s).2 = (.run pause contained, refusal))
    (hp : (e.asked id c s).1.clock.advance (pause.getD .zero) = .ok clock) :
    Struck e id (left + 1) c s token ↔ s.Strikes id token ∨
      Struck e id left (c.next e.policy) ((e.asked id c s).1.withClock clock) token := by
  constructor
  · rintro ⟨left', c', u, reached, strikes⟩
    rcases (reaches_again_iff hc hr ha hp).mp reached with ⟨rfl, rfl, rfl⟩ | rest
    · exact .inl strikes
    · exact .inr ⟨left', c', u, rest, strikes⟩
  · rintro (strikes | ⟨left', c', u, reached, strikes⟩)
    · exact ⟨left + 1, c, s, .here, strikes⟩
    · exact ⟨left', c', u, .again hc hr ha hp reached, strikes⟩

theorem Fatal.not_retries {x : Ending} {f : Failure} (why : Fatal e id left c s x)
    (hr : Retries e id left c s f) : False := by
  cases why with
  | panicked hi =>
    rw [hr.failed] at hi
    cases hi
  | refused hi hn =>
    rw [hr.failed] at hi
    cases hi
    rcases hn with hl | hn
    · exact hr.allowed hl
    · rw [hr.retryable] at hn
      cases hn
  | late hi hl hretry hm =>
    rw [hr.inTime] at hm
    cases hm
  | untimed hi hm =>
    rw [hr.inTime] at hm
    cases hm

theorem failed_tokens (s : State Room) (id : Nat) (x : Ending) :
    (s.failed id x).tokens = s.tokens := by
  by_cases h : s.Dated
  · rw [State.failed_of_dated h, State.countFailure_fst]
    rfl
  · rw [State.failed_of_not_dated h, State.countFailure_fst]

theorem Course.tokenCancelled (course : Course e id left c s t) (token : String) :
    t.tokenCancelled token = true ↔
      s.tokenCancelled token = true ∨ Struck e id left c s token := by
  -- Every course but the last kind makes one attempt; that one goes on from the next attempt.
  induction course with
  | @cancelled left c s hc =>
    have hnone : ¬ Struck e id left c s token := by
      rintro ⟨left', c', u, reached, strikes⟩
      cases reached with
      | here =>
        rw [strikes.uncancelled] at hc
        cases hc
      | again hn hr ha hp rest =>
        rw [hc] at hn
        cases hn
    have hsame := tokenCancelled_congr
      (t := s.deliver id (.error (.cancelled (c.attempt - 1)))) (s := s) rfl token
    rw [hsame, or_iff_left hnone]
  | @succeeded left c s v hc hi =>
    have hsame := tokenCancelled_congr
      (t := (s.invoked id c.attempt).succeed id v) (s := s.invoked id c.attempt) rfl token
    rw [hsame, invoked_tokenCancelled hc, struck_of_last]
    intro _ _ _ _ _ hr
    have hfailed := hr.failed
    rw [hi] at hfailed
    cases hfailed
  | @failed left c s x hc why =>
    rw [tokenCancelled_congr (failed_tokens _ _ _), invoked_tokenCancelled hc, struck_of_last]
    intro _ _ _ _ _ hr
    exact (why.not_retries hr).elim
  | @unscheduled left c s f handling refusal hc hr cause ha hh =>
    have hasked : (e.asked id c s).1.tokens = (s.invoked id c.attempt).tokens := rfl
    rw [tokenCancelled_congr ((failed_tokens _ _ _).trans hasked), invoked_tokenCancelled hc,
      struck_of_last]
    intro _ _ _ _ _ _ ha'
    rw [ha] at ha'
    rcases hh with ⟨rfl, -⟩ | ⟨rfl, -⟩ <;> cases ha'
  | @stalled left c s f pause contained refusal fault hc hr ha hp =>
    have hasked : ((e.asked id c s).1.withRoom (counted id c s).room).tokens =
        (s.invoked id c.attempt).tokens := rfl
    rw [tokenCancelled_congr ((failed_tokens _ _ _).trans hasked), invoked_tokenCancelled hc,
      struck_of_last]
    intro _ _ _ _ _ _ ha' hp'
    rw [ha] at ha'
    cases ha'
    rw [hp] at hp'
    cases hp'
  | @held left c s f hc hr ha =>
    have hasked : ((e.asked id c s).1.hold id (c.next e.policy)).tokens =
        (s.invoked id c.attempt).tokens := rfl
    rw [tokenCancelled_congr hasked, invoked_tokenCancelled hc, struck_of_last]
    intro _ _ _ _ _ _ ha'
    rw [ha] at ha'
    cases ha'
  | @again left c s t f pause contained refusal clock hc hr ha hp rest ih =>
    have hasked : ((e.asked id c s).1.withClock clock).tokens =
        (s.invoked id c.attempt).tokens := rfl
    rw [ih, tokenCancelled_congr hasked, invoked_tokenCancelled hc,
      struck_of_again hc hr ha hp, or_assoc]

theorem Reaches.left_le (reached : Reaches e id left c s left' c' u) : left' ≤ left := by
  induction reached with
  | here => exact Nat.le_refl _
  | again hc hr ha hp rest ih => omega

/-- While an attempt is made, the tokens are as the attempts before it left them. -/
theorem Reaches.tokenCancelled (reached : Reaches e id left c s left' c' u) (token : String) :
    u.tokenCancelled token = true ↔ s.tokenCancelled token = true ∨
      ∃ l k v, Reaches e id left c s l k v ∧ left' < l ∧ v.Strikes id token := by
  -- An attempt comes before another one of the same call if it has more retries left.
  induction reached with
  | @here left c s =>
    refine (or_iff_left ?_).symm
    rintro ⟨l, k, v, before, hlt, -⟩
    have hle := before.left_le
    omega
  | @again left left' c c' s u f pause contained refusal clock hc hr ha hp rest ih =>
    have hle := rest.left_le
    have hasked : ((e.asked id c s).1.withClock clock).tokens =
        (s.invoked id c.attempt).tokens := rfl
    rw [ih, tokenCancelled_congr hasked, invoked_tokenCancelled hc, or_assoc]
    refine or_congr_right ?_
    constructor
    · rintro (strikes | ⟨l, k, v, before, hlt, strikes⟩)
      · exact ⟨left + 1, c, s, .here, by omega, strikes⟩
      · exact ⟨l, k, v, .again hc hr ha hp before, hlt, strikes⟩
    · rintro ⟨l, k, v, before, hlt, strikes⟩
      rcases (reaches_again_iff hc hr ha hp).mp before with ⟨rfl, rfl, rfl⟩ | before
      · exact .inl strikes
      · exact .inr ⟨l, k, v, before, hlt, strikes⟩

/-! ### Marks in the course of a call -/

theorem failed_mark (s : State Room) (id : Nat) (x : Ending) (j : Nat) :
    ((s.failed id x).call j).cancelled = (s.call j).cancelled := by
  by_cases h : s.Dated
  · exact State.part_of_modify _ (State.failed_calls_of_dated h id x) (fun _ => rfl) j
  · rw [State.call_congr (State.failed_calls_of_not_dated h id x)]

theorem invoked_mark (s : State Room) (id n j : Nat) :
    ((s.invoked id n).call j).cancelled = (s.call j).cancelled :=
  State.part_of_modify Call.cancelled (State.invoked_calls s id n) (fun _ => rfl) j

/-- No attempt marks a call as cancelled, neither its own nor another one. -/
theorem Course.mark (course : Course e id left c s t) (j : Nat) :
    (t.call j).cancelled = (s.call j).cancelled := by
  induction course with
  | cancelled hc =>
    exact State.part_of_modify Call.cancelled (State.deliver_calls _ id _) (fun _ => rfl) j
  | @succeeded left c s v hc hi =>
    have hsucceeded := State.part_of_modify Call.cancelled
      (State.succeed_calls (s.invoked id c.attempt) id v) (fun _ => rfl) j
    exact hsucceeded.trans (invoked_mark s id _ j)
  | failed hc why => exact (failed_mark _ id _ j).trans (invoked_mark _ id _ j)
  | unscheduled hc hr cause ha hh => exact (failed_mark _ id _ j).trans (invoked_mark _ id _ j)
  | stalled hc hr ha hp => exact (failed_mark _ id _ j).trans (invoked_mark _ id _ j)
  | @held left c s f hc hr ha =>
    have hheld := State.part_of_modify Call.cancelled
      (State.hold_calls (e.asked id c s).1 id (c.next e.policy)) (fun _ => rfl) j
    exact hheld.trans (invoked_mark s id _ j)
  | again hc hr ha hp rest ih => exact ih.trans (invoked_mark _ id _ j)

theorem Reaches.mark (reached : Reaches e id left c s left' c' u) (j : Nat) :
    (u.call j).cancelled = (s.call j).cancelled := by
  induction reached with
  | here => rfl
  | again hc hr ha hp rest ih => exact ih.trans (invoked_mark _ id _ j)

/-- A call that is new is not cancelled, and a call that is unknown counts as not cancelled. -/
theorem gated_mark (s : State Room) (name : String) (operation : Operation) (options : Options)
    (j : Nat) : ((s.gated name operation options).call j).cancelled = (s.call j).cancelled := by
  have hcalls := State.gated_calls s name operation options
  rcases Nat.lt_trichotomy j s.calls.length with hj | rfl | hj
  · rw [State.call_of_append hcalls hj]
  · rw [State.call_append_last hcalls, State.call_of_length_le (Nat.le_refl _)]
    rfl
  · have hlen : (s.gated name operation options).calls.length ≤ j := by
      rw [hcalls, List.length_append, List.length_singleton]
      omega
    rw [State.call_of_length_le hlen, State.call_of_length_le (by omega)]

theorem gated_tokenCancelled (s : State Room) (name : String) (operation : Operation)
    (options : Options) (token : String) :
    (s.gated name operation options).tokenCancelled token = s.tokenCancelled token := by
  obtain ⟨_, _, hlook⟩ := State.look_eq (s.enroll name operation options.token)
  have htokens : (s.gated name operation options).tokens =
      (options.token.elim s s.addToken).tokens := by
    rw [State.gated, hlook]
    rfl
  rw [tokenCancelled_congr htokens]
  cases options.token with
  | none => rfl
  | some added => exact State.tokenCancelled_addToken s added token

theorem release_mark (s : State Room) (room : Room) (id j : Nat) :
    (((s.withRoom room).release id).call j).cancelled = (s.call j).cancelled :=
  State.part_of_modify Call.cancelled (State.release_calls (s.withRoom room) id) (fun _ => rfl) j

theorem addToken_calls (s : State Room) (token : String) : (s.addToken token).calls = s.calls := by
  unfold State.addToken
  split <;> rfl

theorem Call.queried_mark (c : Call) : c.queried.cancelled = c.cancelled := by
  unfold Call.queried
  split <;> rfl

/-- Where a call is marked, it is the one whose handle is used. -/
theorem mark_of_modify {f : Call → Call} (h : t.calls = s.calls.modify j f)
    (hf : ∀ c, (f c).cancelled = true) (hj : j < s.calls.length) (id : Nat) :
    (t.call id).cancelled = true ↔ (s.call id).cancelled = true ∨ j = id := by
  by_cases hid : id = j
  · subst hid
    rw [State.call_of_modify h hj, hf]
    simp
  · rw [State.call_of_modify_ne h hid]
    exact (or_iff_left (Ne.symm hid)).symm

/-! ### One action -/

theorem dropHandle_mark (hj : j < s.calls.length) (id : Nat) :
    ((s.dropHandle j).call id).cancelled = true ↔ (s.call id).cancelled = true ∨ j = id :=
  mark_of_modify rfl (fun _ => rfl) hj id

/-- The start of a call marks the new call if a fault ends it, and no call otherwise. -/
theorem execute_mark (e : Engine Room) (name : String) (operation : Operation) (options : Options)
    (s : State Room) (id : Nat) :
    ((e.execute name operation options s).1.call id).cancelled = true ↔
      (s.call id).cancelled = true ∨
        id = s.calls.length ∧ (e.execute name operation options s).2.isSome = true := by
  have hgated := gated_mark s name operation options id
  have hlen := State.lt_length_gated s name operation options
  -- The handle is given up together with a fault, in whatever way the fault comes about.
  have thrown {u : State Room} {fault : Fault} (hu : s.calls.length < u.calls.length)
      (hmark : (u.call id).cancelled = (s.call id).cancelled) :
      ((u.dropHandle s.calls.length).call id).cancelled = true ↔ (s.call id).cancelled = true ∨
        id = s.calls.length ∧ (some fault).isSome = true := by
    rw [dropHandle_mark hu, hmark]
    simp only [Option.isSome_some, and_true, eq_comm]
  have kept {u : State Room} (hmark : (u.call id).cancelled = (s.call id).cancelled) :
      (u.call id).cancelled = true ↔ (s.call id).cancelled = true ∨
        id = s.calls.length ∧ (none : Option Fault).isSome = true := by
    rw [hmark]
    simp only [Option.isSome_none, Bool.false_eq_true, and_false, or_false]
  rcases stopped_or_admitted s name operation options with ⟨r, stopped⟩ | ⟨hl, deadline, hd⟩
  · rw [stopped.execute_eq e]
    cases stopped with
    | unanswered hl => exact thrown hlen hgated
    | @rejected remaining hl hr =>
      have hdelivered := State.part_of_modify Call.cancelled
        (State.deliver_calls (s.gated name operation options) s.calls.length
          (.error (.circuitOpen remaining))) (fun _ => rfl) id
      exact kept (hdelivered.trans hgated)
    | unknown hl hr => exact thrown hlen hgated
    | undue hl hd => exact thrown hlen hgated
  · rw [execute_eq_of_admitted hl hd]
    have course := run_course e s.calls.length (e.policy.maxAttempts.toNat - 1)
      (.first e.policy deadline) (s.gated name operation options)
    have hmark := (course.mark id).trans hgated
    have hu := Nat.lt_of_lt_of_le hlen course.later.length
    dsimp only
    cases hfault : (e.run s.calls.length (e.policy.maxAttempts.toNat - 1)
        (.first e.policy deadline) (s.gated name operation options)).2 with
    | some fault => exact thrown hu hmark
    | none => exact kept hmark

/-- An action marks a call as cancelled only by way of the handle of that call. -/
theorem act_mark (allowed : a.Allowed custody s) (id : Nat) :
    ((e.act s a).call id).cancelled = true ↔
      (s.call id).cancelled = true ∨ a.Releases e s id := by
  have kept {t : State Room} (h : (t.call id).cancelled = (s.call id).cancelled) :
      (t.call id).cancelled = true ↔ (s.call id).cancelled = true ∨ False := by
    rw [h, or_false]
  cases a with
  | start name operation options => exact execute_mark e name operation options s id
  | run r room =>
    refine kept ?_
    cases hw : (s.call r.call).waiting with
    | none =>
      have hrun : e.act s (.run r room) = s.withRoom room :=
        congrArg Prod.fst (runWaiting_of_taken (s := s.withRoom room) e hw)
      rw [hrun]
      rfl
    | some c =>
      rw [act_run_of_waiting e hw]
      exact ((run_course e r.call _ c _).mark id).trans (release_mark s room r.call id)
  | drop r room =>
    refine kept ?_
    cases hw : (s.call r.call).waiting with
    | none =>
      have hdrop : e.act s (.drop r room) = s.withRoom room :=
        congrArg Prod.fst (dropWaiting_of_taken (s := s.withRoom room) hw)
      rw [hdrop]
      rfl
    | some c =>
      rw [act_drop_of_waiting e hw]
      exact (failed_mark _ _ _ id).trans (release_mark s room r.call id)
  | turn room => exact kept rfl
  | poll j =>
    refine kept ?_
    have hcalls := congrArg State.calls (s.poll_eq j)
    exact State.part_of_modify Call.cancelled hcalls Call.queried_mark id
  | await j =>
    refine kept ?_
    have hcalls := congrArg State.calls (s.await_eq j)
    exact State.part_of_modify Call.cancelled hcalls Call.queried_mark id
  | collect j =>
    have hhandle : s.hasHandle j = true := allowed.1
    have hj := State.known_of_hasHandle hhandle
    have hcalls := congrArg State.calls (s.collect_eq j)
    have hgone : (s.call j).handle ≠ .gone := by simpa [State.hasHandle] using hhandle
    -- Who waits to the end gives up the handle, and that marks the call.
    by_cases hid : id = j
    · subst hid
      have hcall : ((e.act s (.collect id)).call id) = (s.call id).collected :=
        State.call_of_modify hcalls hj
      rw [hcall, Call.collected, if_neg hgone]
      simp [Action.Releases]
    · have hcall : ((e.act s (.collect j)).call id) = s.call id :=
        State.call_of_modify_ne hcalls hid
      rw [hcall]
      exact (or_iff_left (Ne.symm hid)).symm
  | cancel j => exact mark_of_modify rfl (fun _ => rfl) (State.known_of_hasHandle allowed) id
  | giveUp j => exact dropHandle_mark (State.known_of_hasHandle allowed) id
  | cancelToken token =>
    exact kept (congrArg Call.cancelled (State.call_congr (addToken_calls s token) id))
  | advance d =>
    refine kept ?_
    change ((s.advance d).1.call id).cancelled = _
    unfold State.advance
    split <;> rfl
  | setElapsed d => exact kept rfl
  | askOpen | readMetrics =>
    refine kept ?_
    obtain ⟨_, _, h⟩ := State.look_eq s
    exact congrArg Call.cancelled (State.call_congr (congrArg State.calls h) id)
  | resetBreaker =>
    refine kept ?_
    change (s.resetBreaker.call id).cancelled = _
    unfold State.resetBreaker
    split <;> rfl

/-- The attempts that a start makes are those that its first attempt leads to. -/
theorem hits_start {name : String} {operation : Operation} {options : Options}
    {deadline : Option Deadline} (hl : (s.enroll name operation options.token).look.2 = .ok false)
    (hd : (s.gated name operation options).deadlineAfter options.deadline = .ok deadline) :
    Action.Hits e s token (.start name operation options) ↔
      Struck e s.calls.length (e.policy.maxAttempts.toNat - 1) (.first e.policy deadline)
        (s.gated name operation options) token := by
  constructor
  · rintro (h | ⟨id, left, c, u, made, strikes⟩)
    · cases h
    · cases made with
      | first hl' hd' reached =>
        rw [hd] at hd'
        cases hd'
        exact ⟨left, c, u, reached, strikes⟩
  · rintro ⟨left, c, u, reached, strikes⟩
    exact .inr ⟨_, left, c, u, .first hl hd reached, strikes⟩

theorem hits_run {r : Request} {room : Room} (hw : (s.call r.call).waiting = some c) :
    Action.Hits e s token (.run r room) ↔
      Struck e r.call (e.policy.maxAttempts.toNat - c.attempt) c
        ((s.withRoom room).release r.call) token := by
  constructor
  · rintro (h | ⟨id, left, k, u, made, strikes⟩)
    · cases h
    · cases made with
      | waiting hw' reached =>
        rw [hw] at hw'
        cases hw'
        exact ⟨left, k, u, reached, strikes⟩
  · rintro ⟨left, k, u, reached, strikes⟩
    exact .inr ⟨_, left, k, u, .waiting hw reached, strikes⟩

/-- An action that makes no attempt has no operation that could cancel a token. -/
theorem not_hits (hne : a ≠ .cancelToken token)
    (hmade : ∀ id left c u, ¬ Makes e s a id left c u) : ¬ a.Hits e s token := by
  rintro (h | ⟨id, left, c, u, made, -⟩)
  · exact hne h
  · exact hmade id left c u made

theorem not_hits_stopped {name : String} {operation : Operation} {options : Options}
    {r : State Room × Option Fault} (stopped : Stopped s name operation options r) :
    ¬ Action.Hits e s token (.start name operation options) := by
  refine not_hits (by rintro ⟨⟩) ?_
  intro id left c u made
  cases made with
  | first hl hd reached =>
    cases stopped with
    | unanswered hl' =>
      rw [hl] at hl'
      cases hl'
    | rejected hl' hr =>
      rw [hl] at hl'
      cases hl'
    | unknown hl' hr =>
      rw [hl] at hl'
      cases hl'
    | undue hl' hd' =>
      rw [hd] at hd'
      cases hd'

theorem execute_tokenCancelled (e : Engine Room) (name : String) (operation : Operation)
    (options : Options) (s : State Room) (token : String) :
    (e.execute name operation options s).1.tokenCancelled token = true ↔
      s.tokenCancelled token = true ∨ Action.Hits e s token (.start name operation options) := by
  have hgated := gated_tokenCancelled s name operation options token
  rcases stopped_or_admitted s name operation options with ⟨r, stopped⟩ | ⟨hl, deadline, hd⟩
  · have htokens : r.1.tokens = (s.gated name operation options).tokens := by
      cases stopped <;> rfl
    rw [stopped.execute_eq e, tokenCancelled_congr htokens, hgated]
    exact (or_iff_left (not_hits_stopped stopped)).symm
  · have course := run_course e s.calls.length (e.policy.maxAttempts.toNat - 1)
      (.first e.policy deadline) (s.gated name operation options)
    have hran := course.tokenCancelled token
    rw [hgated] at hran
    rw [hits_start hl hd, ← hran, execute_of_admitted hl hd]
    dsimp only
    split <;> exact Iff.rfl

theorem runWaiting_tokenCancelled (e : Engine Room) (s : State Room) (r : Request) (room : Room)
    (token : String) : (e.act s (.run r room)).tokenCancelled token = true ↔
      s.tokenCancelled token = true ∨ Action.Hits e s token (.run r room) := by
  cases hw : (s.call r.call).waiting with
  | none =>
    have hrun : e.act s (.run r room) = s.withRoom room :=
      congrArg Prod.fst (runWaiting_of_taken (s := s.withRoom room) e hw)
    rw [hrun]
    refine (or_iff_left (not_hits (by rintro ⟨⟩) ?_)).symm
    intro id left c u made
    cases made with
    | waiting hw' reached =>
      rw [hw] at hw'
      cases hw'
  | some c =>
    rw [act_run_of_waiting e hw, hits_run hw]
    exact (run_course e r.call _ c _).tokenCancelled token

/-- An action cancels a token only if it is there for that, or if an operation does it meanwhile. -/
theorem act_tokenCancelled (e : Engine Room) (s : State Room) (a : Action Room) (token : String) :
    (e.act s a).tokenCancelled token = true ↔
      s.tokenCancelled token = true ∨ a.Hits e s token := by
  have kept {t : State Room} (htokens : t.tokens = s.tokens) (hnone : ¬ a.Hits e s token) :
      t.tokenCancelled token = true ↔ s.tokenCancelled token = true ∨ a.Hits e s token := by
    rw [tokenCancelled_congr htokens]
    exact (or_iff_left hnone).symm
  cases a with
  | start name operation options => exact execute_tokenCancelled e name operation options s token
  | run r room => exact runWaiting_tokenCancelled e s r room token
  | drop r room =>
    refine kept ?_ (not_hits (fun h => nomatch h) fun _ _ _ _ made => nomatch made)
    change (dropWaiting r.call (s.withRoom room)).1.tokens = s.tokens
    cases hw : (s.call r.call).waiting with
    | none =>
      rw [dropWaiting_of_taken (s := s.withRoom room) hw]
      rfl
    | some c =>
      have hdrop : e.act s (.drop r room) = _ := act_drop_of_waiting e hw
      exact (congrArg State.tokens hdrop).trans (failed_tokens _ _ _)
  | cancelToken cancelled =>
    change ((s.addToken cancelled).cancelToken cancelled).tokenCancelled token = true ↔ _
    rw [tokenCancelled_cancelToken_iff, State.tokenCancelled_addToken]
    refine or_congr_right ?_
    constructor
    · rintro ⟨rfl, -⟩
      exact .inl rfl
    · rintro (h | ⟨id, left, c, u, made, -⟩)
      · cases h
        exact ⟨rfl, State.isSome_lookup_addToken s token⟩
      · cases made
  | turn room => exact kept rfl (not_hits (fun h => nomatch h) fun _ _ _ _ made => nomatch made)
  | _ =>
    -- Nothing else writes a token or makes an attempt.
    apply kept
    · exact (marks_still e s rfl).2.resolve_right fun ⟨_, h⟩ => nomatch h
    · exact not_hits (fun h => nomatch h) fun _ _ _ _ made => nomatch made

/-! ### Runs -/

theorem Run.mark (run : Run e custody ok s as t) (id : Nat) : (t.call id).cancelled = true ↔
    (s.call id).cancelled = true ∨ Happened e s as fun u a => a.Releases e u id := by
  induction run with
  | nil hs => exact (or_iff_left not_happened_nil).symm
  | snoc run allowed ht ih =>
    rw [act_mark allowed, ih, happened_concat, ← run.end_eq, or_assoc]

theorem Run.tokenCancelled (run : Run e custody ok s as t) (token : String) :
    t.tokenCancelled token = true ↔
      s.tokenCancelled token = true ∨ Happened e s as fun u a => a.Hits e u token := by
  induction run with
  | nil hs => exact (or_iff_left not_happened_nil).symm
  | snoc run allowed ht ih =>
    rw [act_tokenCancelled, ih, happened_concat, ← run.end_eq, or_assoc]

/-- A new call has the token that it was started with. -/
theorem Started.token_eq {name : String} {operation : Operation} {options : Options}
    (started : Started e name operation options s t) :
    (t.call s.calls.length).token = options.token := by
  have hlen := State.lt_length_gated s name operation options
  have later : (s.gated name operation options).Later t := by
    cases started with
    | barred hs => exact later_dropHandle _ _
    | rejected hl hr => exact later_deliver _ _ _
    | admitted hl hd course => exact course.later
    | thrown hl hd course => exact course.later.trans (later_dropHandle _ _)
  have hcalls := State.gated_calls s name operation options
  rw [(later.calls _ hlen).token, State.call_append_last hcalls]

theorem Run.started (run : Run e custody ok s as t) (hnew : ¬ id < s.calls.length)
    (hid : id < t.calls.length) :
    Happened e s as fun u a => ∃ name operation options, a = .start name operation options ∧
      id = u.calls.length ∧ (t.call id).token = options.token := by
  induction run with
  | nil hs => exact absurd hid hnew
  | @snoc u as a run allowed ht ih =>
    have acted := act_acted e u a
    by_cases hknown : id < u.calls.length
    · have htoken := (acted.later.calls id hknown).token
      rw [happened_concat, htoken]
      exact .inl (ih hknown)
    · obtain ⟨rfl, name, operation, options, rfl, started⟩ :=
        acted.started_of_new custody hid hknown
      rw [happened_concat, ← run.end_eq]
      exact .inr ⟨name, operation, options, rfl, rfl, started.token_eq⟩

/-- The call whose handle an action uses. -/
def Action.handle? : Action Room → Option Nat
  | .poll id | .await id | .collect id | .cancel id | .giveUp id => some id
  | _ => none

/-- Nothing that is done to a handle reaches another call or a token. -/
theorem act_handle (allowed : a.Allowed custody s) (ha : a.handle? = some j) :
    (∀ token, (e.act s a).tokenCancelled token = s.tokenCancelled token) ∧
    ∀ id, id ≠ j → (e.act s a).isCancelled id = s.isCancelled id := by
  have hstill : a.still = true := by
    cases a <;> first | rfl | cases ha
  have htokens : ∀ token, (e.act s a).tokenCancelled token = s.tokenCancelled token := by
    intro token
    apply Bool.eq_iff_iff.mpr
    rw [act_tokenCancelled]
    apply or_iff_left
    rintro (rfl | ⟨id, left, c, u, made, -⟩)
    · cases ha
    · cases made <;> cases ha
  refine ⟨htokens, fun id hid => ?_⟩
  have hmark : ((e.act s a).call id).cancelled = (s.call id).cancelled := by
    apply Bool.eq_iff_iff.mpr
    rw [act_mark allowed]
    apply or_iff_left
    intro h
    cases a <;> cases ha <;> first | exact h | exact hid h.symm
  rw [State.isCancelled, hmark, (passes_still e s hstill id).token, funext htokens,
    State.isCancelled]

/-- The attempts that an action makes find the marks as they were before it, and the tokens as the
attempts before them left them. -/
theorem Makes.point (made : Makes e s a id left c u) :
    (∀ j, (u.call j).cancelled = (s.call j).cancelled) ∧
    ∀ token, u.tokenCancelled token = true ↔ s.tokenCancelled token = true ∨
      ∃ l k v, Makes e s a id l k v ∧ left < l ∧ v.Strikes id token := by
  cases made with
  | @first name operation options deadline left c u hl hd reached =>
    refine ⟨fun j => (reached.mark j).trans (gated_mark s name operation options j), ?_⟩
    intro token
    rw [reached.tokenCancelled, gated_tokenCancelled]
    refine or_congr_right ⟨?_, ?_⟩
    · rintro ⟨l, k, v, before, hlt, strikes⟩
      exact ⟨l, k, v, .first hl hd before, hlt, strikes⟩
    · rintro ⟨l, k, v, before, hlt, strikes⟩
      generalize hid : s.calls.length = id at before
      cases before with
      | first hl' hd' before =>
        rw [hd] at hd'
        cases hd'
        exact ⟨l, k, v, before, hlt, strikes⟩
  | @waiting r room c left c' u hw reached =>
    refine ⟨fun j => (reached.mark j).trans (release_mark s room r.call j), ?_⟩
    intro token
    rw [reached.tokenCancelled]
    have htokens : ((s.withRoom room).release r.call).tokens = s.tokens := rfl
    rw [tokenCancelled_congr htokens]
    refine or_congr_right ⟨?_, ?_⟩
    · rintro ⟨l, k, v, before, hlt, strikes⟩
      exact ⟨l, k, v, .waiting hw before, hlt, strikes⟩
    · rintro ⟨l, k, v, before, hlt, strikes⟩
      cases before with
      | waiting hw' before =>
        rw [hw] at hw'
        cases hw'
        exact ⟨l, k, v, before, hlt, strikes⟩

/-- A call is cancelled exactly if, some time in the run, it was cancelled by way of its own handle,
or the token that it was started with was cancelled, be it before the call was started or after.

A token is cancelled exactly if it was cancelled itself, by an action or by an operation that could
reach it. Nothing that is done to a handle cancels a token or another call, so that a call without a
token is cancelled by way of its handle only. In the middle of an action the same holds: the marks
are those from before it, and the tokens are as the attempts that the action has made left them. -/
theorem cancellation_isolated {room : Room} (run : Run e custody ok (initial e room) as s) :
    let happened := Happened e (initial e room) as
    (∀ id, s.isCancelled id = true ↔ (happened fun u a => a.Releases e u id) ∨
      ∃ token, (s.call id).token = some token ∧ happened fun u a => a.Hits e u token) ∧
    (∀ token, s.tokenCancelled token = true ↔ happened fun u a => a.Hits e u token) ∧
    (∀ id, id < s.calls.length → happened fun u a => ∃ name operation options,
      a = .start name operation options ∧ id = u.calls.length ∧
        (s.call id).token = options.token) ∧
    (∀ id, (s.call id).token = none →
      (s.isCancelled id = true ↔ happened fun u a => a.Releases e u id)) ∧
    (∀ a j, a.Allowed custody s → a.handle? = some j →
      (∀ token, (e.act s a).tokenCancelled token = s.tokenCancelled token) ∧
      ∀ id, id ≠ j → (e.act s a).isCancelled id = s.isCancelled id) ∧
    ∀ a id left c u, Makes e s a id left c u →
      (∀ j, (u.call j).cancelled = (s.call j).cancelled) ∧
      ∀ token, u.tokenCancelled token = true ↔ s.tokenCancelled token = true ∨
        ∃ l k v, Makes e s a id l k v ∧ left < l ∧ v.Strikes id token := by
  intro happened
  have hmark (id : Nat) : (s.call id).cancelled = true ↔ happened fun u a => a.Releases e u id := by
    have hblank : ((initial e room).call id).cancelled = false := by
      rw [State.call_of_length_le (Nat.zero_le id)]
      rfl
    rw [run.mark id, hblank]
    simp only [Bool.false_eq_true, false_or, happened]
  have htoken (token : String) :
      s.tokenCancelled token = true ↔ happened fun u a => a.Hits e u token := by
    have hnone : (initial e room).tokenCancelled token = false := rfl
    rw [run.tokenCancelled token, hnone]
    simp only [Bool.false_eq_true, false_or, happened]
  -- A call is cancelled by its own mark or by its token, and each of the two has its history.
  have hcall (id : Nat) : s.isCancelled id = true ↔ (happened fun u a => a.Releases e u id) ∨
      ∃ token, (s.call id).token = some token ∧ happened fun u a => a.Hits e u token := by
    rw [State.isCancelled, Bool.or_eq_true, hmark, Option.any_eq_true]
    apply or_congr_right
    constructor
    · rintro ⟨token, ht, hc⟩
      exact ⟨token, ht, (htoken token).mp hc⟩
    · rintro ⟨token, ht, hh⟩
      exact ⟨token, ht, (htoken token).mpr hh⟩
  refine ⟨hcall, htoken, ?_, ?_, ?_, ?_⟩
  · intro id hid
    exact run.started (Nat.not_lt_zero id) hid
  · intro id hnone
    rw [hcall, hnone]
    apply or_iff_left
    rintro ⟨token, ht, -⟩
    cases ht
  · intro a j allowed ha
    exact act_handle allowed ha
  · intro a id left c u made
    exact made.point

/-- The start of a call that hangs on a token which others hang on too. -/
def startShared : Action (Queue Request) :=
  .start "svc" (fun _ => ⟨none, none, .failure (.plain .connection "refused")⟩)
    ⟨some "deploy", none⟩

/-- Two calls share a token, and a third one has none. -/
def sharedActions : List (Action (Queue Request)) :=
  [startShared, startShared, startRefused, .cancel 0, .cancelToken "deploy"]

def sharedCancelled : State (Queue Request) := sharedActions.foldl guardedQueue.act queueStart

theorem run_shared :
    Run guardedQueue guardedCustody (fun _ => True) queueStart sharedActions sharedCancelled := by
  have h0 : Run guardedQueue guardedCustody (fun _ => True) queueStart [] queueStart := .nil trivial
  have h1 := h0.snoc (a := startShared) trivial trivial
  have h2 := h1.snoc (a := startShared) trivial trivial
  have h3 := h2.snoc (a := startRefused) trivial trivial
  have h4 := h3.snoc (a := .cancel 0) (by unfold Action.Allowed; decide) trivial
  exact h4.snoc (a := .cancelToken "deploy") trivial trivial

/-- The token takes the second call along, and the call without a token goes on. -/
theorem cancellation_isolated_shared :
    Run guardedQueue guardedCustody (fun _ => True) queueStart sharedActions sharedCancelled ∧
    sharedCancelled.isCancelled 1 = true ∧
    (Happened guardedQueue queueStart sharedActions fun u a => a.Releases guardedQueue u 0) ∧
    ¬ Happened guardedQueue queueStart sharedActions fun u a => a.Releases guardedQueue u 2 := by
  obtain ⟨calls, -, -, untied, -, -⟩ := cancellation_isolated (e := guardedQueue) run_shared
  have htoken : (sharedCancelled.call 1).token = some "deploy" := by decide
  have hnone : (sharedCancelled.call 2).token = none := by decide
  have hopen : sharedCancelled.isCancelled 2 = false := by decide
  have hhit : Happened guardedQueue queueStart sharedActions fun u a =>
      a.Hits guardedQueue u "deploy" :=
    ⟨[startShared, startShared, startRefused, .cancel 0], .cancelToken "deploy", [], rfl, .inl rfl⟩
  refine ⟨run_shared, (calls 1).mpr (.inr ⟨"deploy", htoken, hhit⟩), ?_, ?_⟩
  · exact ⟨[startShared, startShared, startRefused], .cancel 0, [.cancelToken "deploy"], rfl, rfl⟩
  · intro released
    rw [(untied 2 hnone).mpr released] at hopen
    cases hopen

end Reattempt.Engine
