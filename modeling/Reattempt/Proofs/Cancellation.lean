import Reattempt.Proofs.Chronicle

/-!
Cancelled calls. A call is cancelled by way of its handle, or of the token it was started with,
which its own operation can reach. From then on its operation is not invoked again. An attempt of it
that is run finds the call cancelled and ends it there. Main statement:
`no_invocation_after_cancellation`.

An attempt that is dropped does not look. A cancelled call whose attempt is dropped ends like any
other whose attempt is dropped, and counts as a failure: `cancelled_unless_dropped` and
`dropped_although_cancelled`.
-/
namespace Reattempt.Engine

variable {Room : Type} {e : Engine Room} {custody : Custody e.scheduler} {ok : State Room → Prop}
  {s t u : State Room} {id j left left' : Nat} {c c' : Continuation} {f : Failure}
  {a : Action Room} {as : List (Action Room)} {pending pending' dated : Prop}

/-! ### What cancels a call -/

theorem State.isCancelled_of_mark (h : (s.call id).cancelled = true) : s.isCancelled id = true := by
  rw [State.isCancelled, h, Bool.true_or]

theorem State.isCancelled_of_token {token : String} (ht : (s.call id).token = some token)
    (hc : s.tokenCancelled token = true) : s.isCancelled id = true := by
  rw [State.isCancelled, ht, Option.any_some, hc, Bool.or_true]

theorem State.known_of_hasHandle (h : s.hasHandle id = true) : id < s.calls.length := by
  apply State.lt_length_of_call_ne_blank
  intro hb
  rw [State.hasHandle, hb] at h
  cases h

/-- The actions that cancel a call. -/
def Action.Cancels (s : State Room) (id : Nat) : Action Room → Prop
  | .cancel j | .giveUp j | .collect j => j = id
  | .cancelToken token => (s.call id).token = some token
  | _ => False

theorem isCancelled_dropHandle (hid : id < s.calls.length) :
    (s.dropHandle id).isCancelled id = true := by
  apply State.isCancelled_of_mark
  have hcall : (s.dropHandle id).call id = _ := State.call_of_modify rfl hid
  rw [hcall]

theorem act_cancels (e : Engine Room) {custody : Custody e.scheduler}
    (allowed : a.Allowed custody s) (cancels : a.Cancels s id) :
    (e.act s a).isCancelled id = true := by
  cases a with
  | cancel j =>
    obtain rfl : j = id := cancels
    have hid : j < s.calls.length := State.known_of_hasHandle allowed
    have hcall : (s.cancelCall j).call j = _ := State.call_of_modify rfl hid
    apply State.isCancelled_of_mark
    change ((s.cancelCall j).call j).cancelled = true
    rw [hcall]
  | giveUp j =>
    obtain rfl : j = id := cancels
    exact isCancelled_dropHandle (State.known_of_hasHandle allowed)
  | collect j =>
    obtain rfl : j = id := cancels
    have hhandle : s.hasHandle j = true := allowed.1
    have hid := State.known_of_hasHandle hhandle
    change (s.wait (fun s => s) j).1.isCancelled j = true
    unfold State.wait
    split
    · next hgone =>
      rw [State.hasHandle, hgone] at hhandle
      cases hhandle
    · exact isCancelled_dropHandle hid
    · have hlen := (s.unmoved_take j).length
      exact isCancelled_dropHandle (hlen ▸ hid)
  | cancelToken token =>
    have hcalls : ((s.addToken token).cancelToken token).calls = s.calls := by
      change (s.addToken token).calls = s.calls
      unfold State.addToken
      split <;> rfl
    have htoken : (((s.addToken token).cancelToken token).call id).token = some token := by
      rw [State.call_congr hcalls]
      exact cancels
    apply State.isCancelled_of_token htoken
    rw [State.tokenCancelled_cancelToken token (State.isSome_lookup_addToken s token),
      beq_self_eq_true, Bool.or_true]
  | _ => exact cancels.elim

/-! ### An operation that cancels its own call -/

/-- The token of a call is known. -/
def State.Listed (s : State Room) (id : Nat) : Prop :=
  ∀ token, (s.call id).token = some token → (s.tokens.lookup token).isSome = true

theorem State.Listed.later (h : s.Listed id) (hid : id < s.calls.length) (later : s.Later t) :
    t.Listed id := by
  intro token ht
  rw [(later.calls id hid).token] at ht
  exact later.listed token (h token ht)

theorem listed_gated (s : State Room) (name : String) (operation : Operation) (options : Options) :
    (s.gated name operation options).Listed s.calls.length := by
  intro token ht
  rw [State.call_append_last (State.gated_calls s name operation options)] at ht
  have htoken : options.token = some token := ht
  obtain ⟨_, _, hlook⟩ := State.look_eq (s.enroll name operation options.token)
  have htokens : (s.gated name operation options).tokens = (s.addToken token).tokens := by
    rw [State.gated, hlook, htoken]
    rfl
  rw [htokens]
  exact State.isSome_lookup_addToken s token

theorem Turn.listed (turn : Turn e id s t) (later : s.Later t) (h : s.Listed id) :
    t.Listed id := by
  cases turn with
  | passed hp =>
    intro token ht
    rw [hp.token] at ht
    exact later.listed token (h token ht)
  | @barred name operation options new ht =>
    subst new ht
    have hlen := State.lt_length_gated s name operation options
    exact (listed_gated s name operation options).later hlen (later_dropHandle _ _)
  | @rejected name operation options remaining new hl hr ht =>
    subst new ht
    have hlen := State.lt_length_gated s name operation options
    exact (listed_gated s name operation options).later hlen (later_deliver _ _ _)
  | @started name operation options deadline u new course ht =>
    subst new
    have hlen := State.lt_length_gated s name operation options
    have hgated := listed_gated s name operation options
    rcases ht with rfl | rfl
    · exact hgated.later hlen course.later
    · exact hgated.later hlen (course.later.trans (later_dropHandle _ _))
  | resumed hw course => exact h.later (State.known_of_waiting hw) later
  | dropped hw ht => exact h.later (State.known_of_waiting hw) later

/-- An invocation that cancelled the token of its own call was the last one, and as long as
something is `pending` the call is cancelled. -/
def State.Heeds (pending : Prop) (s : State Room) (id : Nat) : Prop :=
  ∀ n token, n < (s.call id).invocations → (s.call id).token = some token →
    ((s.call id).operation n).cancel = some token →
      n + 1 = (s.call id).invocations ∧ (pending → s.isCancelled id = true)

theorem State.Heeds.of_same (h : s.Heeds pending id)
    (ho : (t.call id).operation = (s.call id).operation)
    (ht : (t.call id).token = (s.call id).token)
    (hi : (t.call id).invocations = (s.call id).invocations)
    (hc : s.isCancelled id = true → t.isCancelled id = true) (hp : pending' → pending) :
    t.Heeds pending' id := by
  intro n token hn htoken hcancel
  rw [hi] at hn ⊢
  rw [ht] at htoken
  rw [ho] at hcancel
  obtain ⟨hlast, hcancelled⟩ := h n token hn htoken hcancel
  exact ⟨hlast, fun p => hc (hcancelled (hp p))⟩

theorem State.Heeds.later (h : s.Heeds pending id) (hid : id < s.calls.length)
    (later : s.Later t) (hi : (t.call id).invocations = (s.call id).invocations)
    (hp : pending' → pending) : t.Heeds pending' id := by
  have hcall := later.calls id hid
  exact h.of_same hcall.operation hcall.token hi later.isCancelled hp

/-- An attempt of the call is in hand, and finds the call cancelled if an invocation did that. -/
structure State.Poised (s : State Room) (id : Nat) : Prop where
  known : id < s.calls.length
  taken : (s.call id).waiting = none
  listed : s.Listed id
  heeds : s.Heeds True id

theorem poised_gated (s : State Room) (name : String) (operation : Operation)
    (options : Options) : (s.gated name operation options).Poised s.calls.length := by
  have hcall := State.call_append_last (State.gated_calls s name operation options)
  refine ⟨State.lt_length_gated s name operation options, ?_, listed_gated s _ _ _, ?_⟩
  · rw [hcall]
  · -- A call that was never invoked has cancelled nothing.
    intro n token hn
    rw [hcall] at hn
    cases hn

/-- If the attempt that a call waits for is let go, it finds the call as that was left. -/
theorem State.Heeds.released (h : s.Heeds ((s.call id).waiting ≠ none) id) (listed : s.Listed id)
    (hw : (s.call id).waiting = some c) (room : Room) :
    ((s.withRoom room).release id).Poised id := by
  have hid := State.known_of_waiting hw
  have hcall := released_call hid room
  have later := later_release s room id
  refine ⟨lt_length_released hid room, ?_, listed.later hid later, ?_⟩
  · rw [hcall]
  · have hi := congrArg Call.invocations hcall
    apply h.later hid later hi
    intro _ hn
    rw [hw] at hn
    cases hn

section

variable (h : s.Poised id) (hc : s.isCancelled id = false)
include h hc

/-- Since the call is not cancelled, none of the invocations before can have done it. -/
theorem State.Poised.invoked (k : Nat) : (s.invoked id k).Heeds False id := by
  intro n token hn ht hcancel
  have hcall := State.call_of_modify (State.invoked_calls s id k) h.known
  rw [hcall] at hn ht hcancel ⊢
  have hlt : n < (s.call id).invocations + 1 := hn
  have hlast : n = (s.call id).invocations := by
    by_contra hne
    have hbefore : n < (s.call id).invocations := by omega
    obtain ⟨_, hcancelled⟩ := h.heeds n token hbefore ht hcancel
    rw [hcancelled trivial] at hc
    cases hc
  rw [hlast]
  exact ⟨rfl, False.elim⟩

/-- An invocation that fails has played its whole part, so that the token is cancelled if the part
says so. -/
theorem State.Poised.asked (hf : (s.invoke id c.attempt).2 = .ok (.error f)) :
    (e.asked id c s).1.Poised id := by
  have hcalls := asked_calls e id c s
  have hlisted := h.listed.later h.known (later_asked e id c s)
  refine ⟨State.length_of_modify hcalls ▸ h.known, ?_, hlisted, fun n token hn ht hcancel => ?_⟩
  · rw [call_asked h.known c]
    exact h.taken
  have hcall : (e.asked id c s).1.call id = (s.invoked id c.attempt).call id :=
    State.call_congr rfl id
  have hlast : n + 1 = ((e.asked id c s).1.call id).invocations := by
    rw [hcall] at hn ht hcancel ⊢
    exact (h.invoked hc c.attempt n token hn ht hcancel).1
  refine ⟨hlast, fun _ => ?_⟩
  apply State.isCancelled_of_token ht
  -- The invocation just made is the one whose part cancels the token.
  rw [call_asked h.known c] at ht hcancel hlast
  have hn : n = (s.call id).invocations := Nat.succ.inj hlast
  have hplay : ((s.call id).operation (s.call id).invocations).cancel = some token := hn ▸ hcancel
  obtain ⟨-, -, htokens⟩ := play_of_failed hf
  rw [hplay] at htokens
  have hcancelled : (s.cancelToken token).tokenCancelled token = true := by
    rw [State.tokenCancelled_cancelToken token (h.listed token ht), beq_self_eq_true, Bool.or_true]
  unfold State.tokenCancelled at hcancelled ⊢
  change (((s.invoked id c.attempt).tokens.lookup token).getD false) = true
  rwa [htokens]

end

/-- Time that passes before an attempt is made changes nothing for its call. -/
theorem State.Poised.withClock (h : s.Poised id) (clock : Clock) : (s.withClock clock).Poised id :=
  ⟨h.known, h.taken, h.listed, h.heeds⟩

theorem failed_waiting (s : State Room) (id : Nat) (x : Ending) (j : Nat) :
    ((s.failed id x).call j).waiting = (s.call j).waiting := by
  by_cases h : s.Dated
  · exact State.part_of_modify _ (State.failed_calls_of_dated h id x) (fun _ => rfl) j
  · rw [State.call_congr (State.failed_calls_of_not_dated h id x)]

theorem Course.heeds (course : Course e id left c s t) (h : s.Poised id) :
    t.Heeds ((t.call id).waiting ≠ none) id := by
  -- A course that ends its call leaves nothing pending. Before any other end the next attempt is
  -- asked for, and by then the call is cancelled if the invocation did that.
  induction course with
  | @cancelled left c s hc =>
    have hcalls := State.deliver_calls s id (.error (.cancelled (c.attempt - 1)))
    have hi := State.part_of_modify Call.invocations hcalls (fun _ => rfl) id
    exact h.heeds.later h.known (later_deliver _ _ _) hi fun _ => trivial
  | @succeeded left c s v hc hi =>
    have first := h.invoked hc c.attempt
    have hlen := State.length_of_modify (State.invoked_calls s id c.attempt)
    have hcalls := State.succeed_calls (s.invoked id c.attempt) id v
    have hinvocations := State.part_of_modify Call.invocations hcalls (fun _ => rfl) id
    have hwaiting : (((s.invoked id c.attempt).succeed id v).call id).waiting = none := by
      rw [State.part_of_modify Call.waiting hcalls (fun _ => rfl) id,
        State.part_of_modify Call.waiting (State.invoked_calls s id c.attempt) (fun _ => rfl) id]
      exact h.taken
    have later := later_of_modify hcalls (fun _ => ⟨rfl, rfl, fun h => h⟩) rfl
    exact first.later (hlen ▸ h.known) later hinvocations fun hp => hp hwaiting
  | @failed left c s x hc why =>
    have first := h.invoked hc c.attempt
    have hlen := State.length_of_modify (State.invoked_calls s id c.attempt)
    have hwaiting : (((s.invoked id c.attempt).failed id x).call id).waiting = none := by
      rw [failed_waiting,
        State.part_of_modify Call.waiting (State.invoked_calls s id c.attempt) (fun _ => rfl) id]
      exact h.taken
    exact first.later (hlen ▸ h.known) (later_failed _ _ _) (failed_invocations _ _ _ _)
      fun hp => hp hwaiting
  | @unscheduled left c s f handling refusal hc hr cause ha hh =>
    have next : (e.asked id c s).1.Poised id := h.asked hc hr.failed
    exact next.heeds.later next.known (later_failed _ _ _) (failed_invocations _ _ _ _)
      fun _ => trivial
  | @stalled left c s f pause contained refusal fault hc hr ha hp =>
    have next : (e.asked id c s).1.Poised id := h.asked hc hr.failed
    have later := (later_withRoom (e.asked id c s).1 (counted id c s).room).trans
      (later_failed _ id (.scheduling c.attempt .shutDown))
    exact next.heeds.later next.known later (failed_invocations _ _ _ _) fun _ => trivial
  | @held left c s f hc hr ha =>
    have next : (e.asked id c s).1.Poised id := h.asked hc hr.failed
    have hcalls := State.hold_calls (e.asked id c s).1 id (c.next e.policy)
    have hinvocations := State.part_of_modify Call.invocations hcalls (fun _ => rfl) id
    have later := later_of_modify hcalls (fun _ => ⟨rfl, rfl, fun h => h⟩) rfl
    exact next.heeds.later next.known later hinvocations fun _ => trivial
  | @again left c s t f pause contained refusal clock hc hr ha hp rest ih =>
    exact ih ((h.asked hc hr.failed).withClock clock)

theorem Reaches.poised (reached : Reaches e id left c s left' c' u) (h : s.Poised id) :
    u.Poised id := by
  induction reached with
  | here => exact h
  | @again left left' c c' s u f pause contained refusal clock hc hr ha hp rest ih =>
    exact ih ((h.asked hc hr.failed).withClock clock)

theorem Turn.heeds (turn : Turn e id s t) (later : s.Later t) (listed : s.Listed id)
    (h : s.Heeds ((s.call id).waiting ≠ none) id) : t.Heeds ((t.call id).waiting ≠ none) id := by
  cases turn with
  | passed hp =>
    apply h.of_same hp.operation hp.token hp.invocations later.isCancelled
    rw [hp.waiting]
    exact fun pending => pending
  | @barred name operation options new ht =>
    subst new ht
    have gated := poised_gated s name operation options
    have hp := passes_dropHandle (s.gated name operation options) s.calls.length s.calls.length
    exact gated.heeds.later gated.known (later_dropHandle _ _) hp.invocations fun _ => trivial
  | @rejected name operation options remaining new hl hr ht =>
    subst new ht
    have gated := poised_gated s name operation options
    have hcalls := State.deliver_calls (s.gated name operation options) s.calls.length
      (.error (.circuitOpen remaining))
    have hi := State.part_of_modify Call.invocations hcalls (fun _ => rfl) s.calls.length
    exact gated.heeds.later gated.known (later_deliver _ _ _) hi fun _ => trivial
  | @started name operation options deadline u new course ht =>
    subst new
    have hu := course.heeds (poised_gated s name operation options)
    rcases ht with rfl | rfl
    · exact hu
    · -- The handle that the caller never got is given up.
      have hp := passes_dropHandle u s.calls.length s.calls.length
      apply hu.of_same hp.operation hp.token hp.invocations (later_dropHandle u _).isCancelled
      rw [hp.waiting]
      exact fun pending => pending
  | @resumed room c hw course => exact course.heeds (h.released listed hw room)
  | @dropped room c hw ht =>
    subst ht
    have first := h.released listed hw room
    exact first.heeds.later first.known (later_failed _ _ _) (failed_invocations _ _ _ _)
      fun _ => trivial

theorem Run.heeds {room : Room} (run : Run e custody ok (initial e room) as s) (id : Nat) :
    s.Listed id ∧ s.Heeds ((s.call id).waiting ≠ none) id := by
  apply run.invariant fun u => u.Listed id ∧ u.Heeds ((u.call id).waiting ≠ none) id
  · have hcall : (initial e room).call id = .blank := State.call_of_length_le (Nat.zero_le id)
    constructor
    · intro token ht
      rw [hcall] at ht
      cases ht
    · intro n token hn
      rw [hcall] at hn
      cases hn
  · rintro u a ⟨listed, heeds⟩ _ _ _
    have acted := act_acted e u a
    have turn := acted.turn custody id
    exact ⟨turn.listed acted.later listed, turn.heeds acted.later listed heeds⟩

theorem Makes.poised (made : Makes e s a id left c u) (listed : s.Listed id)
    (h : s.Heeds ((s.call id).waiting ≠ none) id) : u.Poised id := by
  cases made with
  | @first name operation options deadline left c u hl hd reached =>
    exact reached.poised (poised_gated s name operation options)
  | @waiting r room c left c' u hw reached => exact reached.poised (h.released listed hw room)

/-! ### A call that is cancelled -/

theorem Course.of_cancelled (course : Course e id left c s t) (hc : s.isCancelled id = true) :
    t = s.deliver id (.error (.cancelled (c.attempt - 1))) := by
  -- Every other course begins with a call that is not cancelled.
  have other (h : s.isCancelled id = false) : False := by
    rw [hc] at h
    cases h
  cases course with
  | cancelled => rfl
  | succeeded h hi => exact (other h).elim
  | failed h why => exact (other h).elim
  | unscheduled h hr cause ha hh => exact (other h).elim
  | stalled h hr ha hp => exact (other h).elim
  | held h hr ha => exact (other h).elim
  | again h hr ha hp rest => exact (other h).elim

theorem attemptsOf_deliver (s : State Room) (id : Nat) (o : Outcome) (j : Nat) :
    (s.deliver id o).attemptsOf j = s.attemptsOf j := by
  rw [State.attemptsOf_cons (t := s.deliver id o) rfl]
  rfl

theorem attemptsOf_failed (s : State Room) (id : Nat) (x : Ending) (j : Nat) :
    (s.failed id x).attemptsOf j = s.attemptsOf j := by
  by_cases h : s.Dated
  · rw [State.attemptsOf_cons (State.failed_journal_of_dated h id x)]
    rfl
  · rw [State.failed_of_not_dated h, State.countFailure_fst]
    rfl

/-- No action invokes the operation of a call that is cancelled. -/
theorem Turn.of_cancelled (turn : Turn e id s t) (hc : s.isCancelled id = true) :
    (t.call id).invocations = (s.call id).invocations ∧ t.attemptsOf id = s.attemptsOf id := by
  have hid := State.known_of_isCancelled hc
  cases turn with
  | passed hp =>
    refine ⟨hp.invocations, ?_⟩
    rw [attemptsOf_eq, hp.about, attemptsOf_eq]
  | barred new ht => omega
  | rejected new hl hr ht => omega
  | started new course ht => omega
  | @resumed room c hw course =>
    have hreleased := congrArg Call.invocations (released_call hid room)
    have hdelivered := State.part_of_modify Call.invocations
      (State.deliver_calls ((s.withRoom room).release id) id
        (.error (.cancelled (c.attempt - 1)))) (fun _ => rfl) id
    rw [course.of_cancelled ((later_release s room id).isCancelled hc)]
    exact ⟨hdelivered.trans hreleased, attemptsOf_deliver _ _ _ _⟩
  | @dropped room c hw ht =>
    subst ht
    have hreleased := congrArg Call.invocations (released_call hid room)
    exact ⟨(failed_invocations _ _ _ _).trans hreleased, attemptsOf_failed _ _ _ _⟩

theorem Run.of_cancelled (run : Run e custody ok s as t) (hc : s.isCancelled id = true) :
    t.isCancelled id = true ∧ (t.call id).invocations = (s.call id).invocations ∧
      t.attemptsOf id = s.attemptsOf id := by
  apply run.invariant fun u => u.isCancelled id = true ∧
    (u.call id).invocations = (s.call id).invocations ∧ u.attemptsOf id = s.attemptsOf id
  · exact ⟨hc, rfl, rfl⟩
  · rintro u a ⟨hu, hinvocations, hattempts⟩ _ _ _
    have acted := act_acted e u a
    obtain ⟨hi, ha⟩ := (acted.turn custody id).of_cancelled hu
    exact ⟨acted.later.isCancelled hu, hi.trans hinvocations, ha.trans hattempts⟩

/-! ### An attempt that is run and finds its call cancelled -/

theorem Reaches.run_of_cancelled (reached : Reaches e id left c s left' c' u)
    (hc : u.isCancelled id = true) :
    e.run id left c s = (u.deliver id (.error (.cancelled (c'.attempt - 1))), none) := by
  induction reached with
  | here => exact Engine.run_of_cancelled hc
  | @again left left' c c' s u f pause contained refusal clock hn hr ha hp rest ih =>
    have hasked : e.asked id c s = ((e.asked id c s).1, .run pause contained, refusal) :=
      Prod.ext rfl ha
    -- What runs the attempt at once has no fault to contain.
    rw [run_of_retries hn hr, hasked]
    simp only [answered, hp, ih hc]
    cases contained <;> rfl

theorem Makes.act_of_cancelled (made : Makes e s a id left c u) (hc : u.isCancelled id = true) :
    e.act s a = u.deliver id (.error (.cancelled (c.attempt - 1))) := by
  cases made with
  | @first name operation options deadline left c u hl hd reached =>
    have hrun := reached.run_of_cancelled hc
    have hexecute := execute_of_admitted (e := e) hl hd
    rw [hrun] at hexecute
    exact hexecute
  | @waiting r room c left c' u hw reached =>
    have hrun := reached.run_of_cancelled hc
    rw [act_run_of_waiting e hw, hrun]

/-- What an attempt leaves that finds its call cancelled, in the state that it is made in. -/
structure State.Spared (id : Nat) (s t : State Room) : Prop where
  delivered : (t.call id).delivered = [.error (.cancelled (s.call id).invocations)]
  waiting : (t.call id).waiting = none
  invocations : (t.call id).invocations = (s.call id).invocations
  metrics : t.metrics = s.metrics
  breaker : t.breaker = s.breaker

theorem Ready.spared (ready : Ready e id left c s) :
    s.Spared id (s.deliver id (.error (.cancelled (c.attempt - 1)))) := by
  have hcall := State.call_of_modify (State.deliver_calls s id
    (.error (.cancelled (c.attempt - 1)))) ready.known
  have hnumber := ready.number
  have hattempts : c.attempt - 1 = (s.call id).invocations := by omega
  refine ⟨?_, ?_, ?_, rfl, rfl⟩
  · rw [hcall, ready.pending, hattempts]
    rfl
  · rw [hcall]
    exact ready.taken
  · rw [hcall]

/-- The attempt that a cancelled call waits for, run by the scheduler. -/
theorem Recorded.spared (recorded : Recorded e dated s id) (hw : (s.call id).waiting = some c)
    (hc : s.isCancelled id = true) {r : Request} (hr : r.call = id) (room : Room) :
    s.Spared id (e.act s (.run r room)) := by
  subst hr
  have ready := recorded.released hw room
  have hcancelled := (later_release s room r.call).isCancelled hc
  have hact : e.act s (.run r room) = ((s.withRoom room).release r.call).deliver r.call
      (.error (.cancelled (c.attempt - 1))) := by
    rw [act_run_of_waiting e hw, run_of_cancelled hcancelled]
  have hi : (((s.withRoom room).release r.call).call r.call).invocations =
      (s.call r.call).invocations := by
    rw [released_call (State.known_of_waiting hw) room]
  have spared := ready.spared
  rw [← hact] at spared
  refine ⟨?_, spared.waiting, spared.invocations.trans hi, spared.metrics, spared.breaker⟩
  rw [spared.delivered, hi]

/-- From the moment a call is cancelled its operation is not invoked again, whatever happens.

It is cancelled by the actions on its handle and its token that `Action.Cancels` lists, and an
invocation that cancels the token of its own call is the last one. An attempt of it that is made
after that ends the call without an invocation, with an error that reports the invocations made
before, and changes neither a counter nor the breaker; so does the attempt that it waits for if that
is run. -/
theorem no_invocation_after_cancellation {room : Room} (valid : e.policy.validate = .ok ())
    (run : Run e custody ok (initial e room) as s) (id : Nat) :
    (∀ a, a.Allowed custody s → a.Cancels s id → (e.act s a).isCancelled id = true) ∧
    s.Heeds ((s.call id).waiting ≠ none) id ∧
    (s.isCancelled id = true → ∀ bs t, Run e custody (fun _ => True) s bs t →
      t.isCancelled id = true ∧ (t.call id).invocations = (s.call id).invocations ∧
        t.attemptsOf id = s.attemptsOf id) ∧
    (∀ a left c u, Makes e s a id left c u → u.Heeds True id ∧
      (u.isCancelled id = true → u.Spared id (e.act s a))) ∧
    (s.isCancelled id = true → (s.call id).waiting ≠ none →
      ∀ r room, r.call = id → s.Spared id (e.act s (.run r room))) := by
  have hpos := Policy.maxAttempts_pos valid
  have recorded : Recorded e False s id := run.recorded valid False.elim id
  obtain ⟨listed, heeds⟩ := run.heeds id
  refine ⟨?_, heeds, ?_, ?_, ?_⟩
  · intro a allowed cancels
    exact act_cancels e allowed cancels
  · intro hc bs t later
    exact later.of_cancelled hc
  · intro a left c u made
    refine ⟨(made.poised listed heeds).heeds, fun hc => ?_⟩
    rw [made.act_of_cancelled hc]
    exact (recorded.makes hpos made).spared
  · intro hc hw r room hr
    obtain ⟨c, hwaiting⟩ := Option.ne_none_iff_exists'.mp hw
    exact recorded.spared hwaiting hc hr room

/-- The queue runs the first retry of the first call. -/
def runFirst : Action (Queue Request) :=
  .run ⟨0, "svc", 2, .ofMillis 1000, .zero, false⟩ ⟨none, [], [.ofMillis 1000], false⟩

/-- The first call is cancelled while its retry waits. -/
def queueCancelled : State (Queue Request) := guardedQueue.act queueStarted (.cancel 0)

theorem run_cancelFirst (ok : State (Queue Request) → Prop) (h : ∀ s, s.clock.Readable → ok s) :
    Run guardedQueue guardedCustody ok queueStart [startRefused, .cancel 0] queueCancelled := by
  have hhandle : queueStarted.hasHandle 0 = true := rfl
  exact (run_queueStarted ok h).snoc hhandle (h _ (by decide))

/-- A retry that is run after its call was cancelled. -/
theorem no_invocation_after_cancellation_queued :
    guardedQueue.policy.validate = .ok () ∧
    Run guardedQueue guardedCustody (fun _ => True) queueStart [startRefused, .cancel 0]
      queueCancelled ∧
    queueCancelled.isCancelled 0 = true ∧ (queueCancelled.call 0).waiting ≠ none ∧
    ((guardedQueue.act queueCancelled runFirst).call 0).delivered = [.error (.cancelled 1)] ∧
    (guardedQueue.act queueCancelled runFirst).metrics = queueCancelled.metrics := by
  have valid : guardedQueue.policy.validate = .ok () :=
    ConfigError.firstOf_eq_ok.mpr (by decide +kernel)
  have run := run_cancelFirst (fun _ => True) fun _ _ => trivial
  have hcancelled : queueCancelled.isCancelled 0 = true := by decide
  have hwaiting : (queueCancelled.call 0).waiting ≠ none := by decide
  have hone : (queueCancelled.call 0).invocations = 1 := by decide
  obtain ⟨_, _, _, _, runs⟩ := no_invocation_after_cancellation (e := guardedQueue) valid run 0
  have spared := runs hcancelled hwaiting ⟨0, "svc", 2, .ofMillis 1000, .zero, false⟩
    ⟨none, [], [.ofMillis 1000], false⟩ rfl
  refine ⟨valid, run, hcancelled, hwaiting, ?_, spared.metrics⟩
  rw [← hone]
  exact spared.delivered

/-! ### An attempt that is dropped -/

/-- An action passes a call that is known, unless it runs or drops an attempt of it. -/
theorem Acted.passes (custody : Custody e.scheduler) (acted : Acted e s a t)
    (hid : id < s.calls.length) :
    s.Passes id t ∨ ∃ r room, r.call = id ∧ (a = .run r room ∨ a = .drop r room) := by
  cases acted with
  | started started =>
    have hne := Nat.ne_of_lt hid
    exact .inl (.of_call (started.call_ne custody hne) (started.about hne))
  | @resumed r room c t hw course =>
    by_cases hr : id = r.call
    · exact .inr ⟨r, room, hr.symm, .inl rfl⟩
    · exact .inl ((passes_release s room hr).trans (course.passes custody hr))
  | @dropped r room c hw =>
    by_cases hr : id = r.call
    · exact .inr ⟨r, room, hr.symm, .inr rfl⟩
    · have hcall := (frame_failed custody ((s.withRoom room).release r.call) r.call
        (.scheduling (c.attempt - 1) .shutDown)).call_ne hr
      exact .inl ((passes_release s room hr).trans (.of_call hcall (State.failed_about _ _ hr)))
  | spent ha hw => exact .inl (.of_call rfl rfl)
  | turned => exact .inl (.of_call rfl rfl)
  | still ha => exact .inl (passes_still e s ha id)

/-- A cancelled call waits until its attempt is run, as long as that is not dropped. -/
theorem Run.waits_or_cancelled (run : Run e custody ok s as t) (recorded : Recorded e dated s id)
    (hw : (s.call id).waiting = some c) (hc : s.isCancelled id = true)
    (kept : ∀ r room, .drop r room ∈ as → r.call ≠ id) :
    s.Passes id t ∨ t.Settled id ∧
      (t.call id).delivered = [.error (.cancelled (s.call id).invocations)] := by
  induction run with
  | nil => exact .inl (.refl id _)
  | @snoc u as a run allowed ht ih =>
    have acted := act_acted e u a
    have before := ih fun r room hm => kept r room (List.mem_append_left _ hm)
    rcases before with hp | ⟨hsettled, hd⟩
    · have hcancelled := run.later.isCancelled hc
      have hwaiting := hp.waiting.trans hw
      rcases acted.passes custody (State.known_of_isCancelled hcancelled) with
        hp' | ⟨r, room, hr, rfl | rfl⟩
      · exact .inl (hp.trans hp')
      · have spared := (recorded.of_passes hp).spared hwaiting hcancelled hr room
        have hd := spared.delivered
        rw [hp.invocations] at hd
        exact .inr ⟨⟨⟨_, hd⟩, spared.waiting⟩, hd⟩
      · exact absurd hr (kept r room (List.mem_append_right _ List.mem_cons_self))
    · obtain ⟨hs, hsame, _⟩ := acted_of_settled custody hsettled acted
      exact .inr ⟨hs, hsame.trans hd⟩

/-- A cancelled call that waits ends as cancelled and leaves the counters and the breaker alone if
its attempt is run, and waits on until then. If its attempt is dropped instead, the drop counts as a
failure in the counters and in the breaker, and the error tells of the scheduler. -/
theorem cancelled_unless_dropped {room : Room} (valid : e.policy.validate = .ok ())
    (run : Run e custody ok (initial e room) as s) (hw : (s.call id).waiting = some c)
    (hc : s.isCancelled id = true) :
    (∀ r room, r.call = id → s.Spared id (e.act s (.run r room))) ∧
    (∀ bs t, Run e custody (fun _ => True) s bs t →
      (∀ r room, .drop r room ∈ bs → r.call ≠ id) →
        (t.call id).delivered = [] ∧ (t.call id).waiting = some c ∨
        (t.call id).delivered = [.error (.cancelled (s.call id).invocations)] ∧
          (t.call id).waiting = none) ∧
    (∀ r room, r.call = id → let t := e.act s (.drop r room)
      t.metrics = s.metrics.recordFailure ∧
      t.breaker = s.breaker.map (fun b => (b.recordFailure s.clock.read).1) ∧
      (s.Dated → (t.call id).delivered =
        [.error (.scheduling (s.call id).invocations .shutDown)])) := by
  have recorded : Recorded e False s id := run.recorded valid False.elim id
  obtain ⟨hd, _, hnumber, _⟩ := recorded.waiting c hw
  refine ⟨?_, ?_, ?_⟩
  · intro r room hr
    exact recorded.spared hw hc hr room
  · intro bs t later kept
    rcases later.waits_or_cancelled recorded hw hc kept with hp | ⟨hsettled, hdelivered⟩
    · exact .inl ⟨hp.delivered.trans hd, hp.waiting.trans hw⟩
    · exact .inr ⟨hdelivered, hsettled.2⟩
  · intro r room hr t
    subst hr
    have ht : t = ((s.withRoom room).release r.call).failed r.call
        (.scheduling (c.attempt - 1) .shutDown) := act_drop_of_waiting e hw
    have ready := recorded.released hw room
    refine ⟨?_, ?_, fun hdated => ?_⟩
    · rw [ht, failed_metrics]
      rfl
    · rw [ht, State.failed_breaker]
      rfl
    · have hdated' : ((s.withRoom room).release r.call).Dated := hdated
      have hcall := State.call_of_modify (State.failed_calls_of_dated hdated' r.call
        (.scheduling (c.attempt - 1) .shutDown)) ready.known
      have hattempts : c.attempt - 1 = (s.call r.call).invocations := by omega
      rw [ht, hcall, ready.pending, hattempts]
      rfl

/-- The retry of a cancelled call is dropped: one failure is counted. -/
theorem cancelled_unless_dropped_queued :
    guardedQueue.policy.validate = .ok () ∧
    Run guardedQueue guardedCustody (fun u => u.clock.Readable) queueStart
      [startRefused, .cancel 0] queueCancelled ∧
    queueCancelled.isCancelled 0 = true ∧
    (∃ c, (queueCancelled.call 0).waiting = some c) ∧
    (guardedQueue.act queueCancelled dropFirst).metrics = ⟨1, 0, 1, 1⟩ := by
  have valid : guardedQueue.policy.validate = .ok () :=
    ConfigError.firstOf_eq_ok.mpr (by decide +kernel)
  have run := run_cancelFirst (fun u => u.clock.Readable) fun _ h => h
  have hcancelled : queueCancelled.isCancelled 0 = true := by decide
  have hwaiting : (queueCancelled.call 0).waiting ≠ none := by decide
  obtain ⟨c, hw⟩ := Option.ne_none_iff_exists'.mp hwaiting
  obtain ⟨_, _, drops⟩ := cancelled_unless_dropped (e := guardedQueue) valid run hw hcancelled
  obtain ⟨hmetrics, _, _⟩ := drops ⟨0, "svc", 2, .ofMillis 1000, .zero, false⟩
    ⟨none, [], [.ofMillis 1000], true⟩ rfl
  have hbefore : queueCancelled.metrics = ⟨1, 0, 0, 1⟩ := by decide
  refine ⟨valid, run, hcancelled, ⟨c, hw⟩, ?_⟩
  rw [hbefore] at hmetrics
  exact hmetrics

/-- A cancelled call does not always end as cancelled: the queue is shut down while its retry waits,
and the call fails, in the counters and in the breaker. -/
theorem dropped_although_cancelled :
    Run guardedQueue guardedCustody (fun u => u.clock.Readable) queueStart
      [startRefused, .cancel 0] queueCancelled ∧
    (queueCancelled.call 0).waiting ≠ none ∧ queueCancelled.isCancelled 0 = true ∧
    Run guardedQueue guardedCustody (fun u => u.clock.Readable) queueCancelled [dropFirst]
      (guardedQueue.act queueCancelled dropFirst) ∧
    ((guardedQueue.act queueCancelled dropFirst).call 0).delivered =
      [.error (.scheduling 1 .shutDown)] ∧
    queueCancelled.metrics.failures = 0 ∧
    (guardedQueue.act queueCancelled dropFirst).metrics.failures = 1 ∧
    queueCancelled.breaker.map (·.failures) = some 0 ∧
    (guardedQueue.act queueCancelled dropFirst).breaker.map (·.failures) = some 1 := by
  have run := run_cancelFirst (fun u => u.clock.Readable) fun _ h => h
  have hheld : queueCancelled.room.waiting = [⟨0, "svc", 2, .ofMillis 1000, .zero, false⟩] := by
    decide +kernel
  have still : Run guardedQueue guardedCustody (fun u => u.clock.Readable) queueCancelled []
      queueCancelled := .nil (by decide)
  have dropped := still.snoc (a := dropFirst) (List.Perm.of_eq hheld) (by decide)
  refine ⟨run, ?_, ?_, dropped, ?_, ?_, ?_, ?_, ?_⟩ <;> decide

end Reattempt.Engine
