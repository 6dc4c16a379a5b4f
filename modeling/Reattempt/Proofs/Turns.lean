import Reattempt.Proofs.Settlement

/-!
An action as one call sees it. Most actions pass a call by, and leave at most another mark on it;
the others start it, run its attempt or drop its attempt. Main statement: `Acted.turn`.

What a call was started with never changes, and neither a call nor a token that is cancelled is ever
revived: `State.Later` collects what no action takes back.
-/
namespace Reattempt.Engine

variable {Room : Type} {e : Engine Room} {custody : Custody e.scheduler} {ok : State Room → Prop}
  {s t u : State Room} {id j left : Nat} {c : Continuation} {f : Call → Call} {a : Action Room}
  {as : List (Action Room)}

/-! ### Marks -/

/-- The same call, but for its marks: it may be cancelled since, and its handle may be used up. -/
def Call.Marked (c d : Call) : Prop :=
  ∃ cancelled handle, (c.cancelled = true → cancelled = true) ∧ d = { c with cancelled, handle }

theorem Call.Marked.refl (c : Call) : c.Marked c := ⟨c.cancelled, c.handle, fun h => h, rfl⟩

theorem Call.Marked.trans {c d d' : Call} (h : c.Marked d) (h' : d.Marked d') : c.Marked d' := by
  obtain ⟨_, _, hc, rfl⟩ := h
  obtain ⟨cancelled, handle, hc', rfl⟩ := h'
  exact ⟨cancelled, handle, fun h => hc' (hc h), rfl⟩

theorem Call.marked_cancel (c : Call) (handle : Handle) :
    c.Marked { c with cancelled := true, handle } := ⟨true, handle, fun _ => rfl, rfl⟩

theorem Call.marked_spent (c : Call) : c.Marked { c with handle := .spent } :=
  ⟨c.cancelled, .spent, fun h => h, rfl⟩

/-- The calls are the same, but for marks on one of them. -/
def State.Marks (s t : State Room) : Prop :=
  ∃ id f, (∀ c : Call, c.Marked (f c)) ∧ t.calls = s.calls.modify id f

theorem State.Marks.of_calls (h : t.calls = s.calls) : s.Marks t :=
  ⟨0, fun c => c, .refl, h.trans (List.modify_id 0 s.calls).symm⟩

theorem State.Marks.call (h : s.Marks t) (j : Nat) : (s.call j).Marked (t.call j) := by
  obtain ⟨id, f, hf, hc⟩ := h
  -- The call that is marked may be one that is not known; then nothing was written at all.
  by_cases hj : j = id
  · subst hj
    by_cases hl : j < s.calls.length
    · rw [State.call_of_modify hc hl]
      exact hf _
    · have ht : t.calls.length ≤ j := by
        rw [State.length_of_modify hc]
        omega
      rw [State.call_of_length_le ht, State.call_of_length_le (by omega)]
      exact .refl _
  · rw [State.call_of_modify_ne hc hj]
    exact .refl _

theorem State.marks_dropHandle (s : State Room) (id : Nat) : s.Marks (s.dropHandle id) :=
  ⟨id, _, fun c => c.marked_cancel .gone, rfl⟩

theorem State.marks_take (s : State Room) (id : Nat) : s.Marks (s.take id).1 := by
  unfold State.take
  split
  · exact ⟨id, _, Call.marked_spent, rfl⟩
  · exact .of_calls rfl

theorem take_tokens (s : State Room) (id : Nat) : (s.take id).1.tokens = s.tokens := by
  unfold State.take
  split <;> rfl

/-- An action that neither runs nor drops anything marks one call at most, and writes no token
unless that is what it is there for. -/
theorem marks_still (e : Engine Room) (s : State Room) (ha : a.still = true) :
    s.Marks (e.act s a) ∧ ((e.act s a).tokens = s.tokens ∨ ∃ token, a = .cancelToken token) := by
  cases a with
  | start | run | drop | turn => cases ha
  | poll id =>
    change s.Marks (s.poll id).1 ∧ ((s.poll id).1.tokens = s.tokens ∨ _)
    unfold State.poll
    split
    · exact ⟨.of_calls rfl, .inl rfl⟩
    · exact ⟨.of_calls rfl, .inl rfl⟩
    · exact ⟨s.marks_take id, .inl (take_tokens s id)⟩
  | await id =>
    change s.Marks (s.await id).1 ∧ ((s.await id).1.tokens = s.tokens ∨ _)
    unfold State.await
    split
    · exact ⟨.of_calls rfl, .inl rfl⟩
    · exact ⟨.of_calls rfl, .inl rfl⟩
    · exact ⟨s.marks_take id, .inl (take_tokens s id)⟩
  | collect id =>
    change s.Marks (s.wait (fun s => s) id).1 ∧ ((s.wait (fun s => s) id).1.tokens = s.tokens ∨ _)
    unfold State.wait
    split
    · exact ⟨.of_calls rfl, .inl rfl⟩
    · exact ⟨s.marks_dropHandle id, .inl rfl⟩
    · -- The outcome is taken, and then the handle is given up.
      have both : s.Marks ((s.take id).1.dropHandle id) := by
        unfold State.take
        split
        · exact ⟨id, _, fun c => c.marked_cancel .gone, List.modify_modify_eq ..⟩
        · exact s.marks_dropHandle id
      exact ⟨both, .inl (take_tokens s id)⟩
  | cancel id => exact ⟨⟨id, _, fun c => c.marked_cancel c.handle, rfl⟩, .inl rfl⟩
  | giveUp id => exact ⟨s.marks_dropHandle id, .inl rfl⟩
  | cancelToken token =>
    refine ⟨.of_calls ?_, .inr ⟨token, rfl⟩⟩
    change (s.addToken token).calls = s.calls
    unfold State.addToken
    split <;> rfl
  | advance d =>
    change s.Marks (s.advance d).1 ∧ ((s.advance d).1.tokens = s.tokens ∨ _)
    unfold State.advance
    split <;> exact ⟨.of_calls rfl, .inl rfl⟩
  | setElapsed d => exact ⟨.of_calls rfl, .inl rfl⟩
  | askOpen | readMetrics =>
    change s.Marks s.look.1 ∧ (s.look.1.tokens = s.tokens ∨ _)
    obtain ⟨_, _, h⟩ := State.look_eq s
    rw [h]
    exact ⟨.of_calls rfl, .inl rfl⟩
  | resetBreaker =>
    change s.Marks s.resetBreaker ∧ (s.resetBreaker.tokens = s.tokens ∨ _)
    unfold State.resetBreaker
    split <;> exact ⟨.of_calls rfl, .inl rfl⟩

/-- Nothing happened to a call but that it was marked. -/
structure State.Passes (id : Nat) (s t : State Room) : Prop where
  call : (s.call id).Marked (t.call id)
  about : t.about id = s.about id

theorem State.Passes.refl (id : Nat) (s : State Room) : s.Passes id s := ⟨.refl _, rfl⟩

theorem State.Passes.trans (h : s.Passes id u) (h' : u.Passes id t) : s.Passes id t :=
  ⟨h.call.trans h'.call, h'.about.trans h.about⟩

theorem State.Passes.of_call (hc : t.call id = s.call id) (ha : t.about id = s.about id) :
    s.Passes id t := ⟨hc ▸ .refl _, ha⟩

section

variable (h : s.Passes id t)
include h

theorem State.Passes.operation : (t.call id).operation = (s.call id).operation := by
  obtain ⟨_, _, _, hc⟩ := h.call
  rw [hc]

theorem State.Passes.token : (t.call id).token = (s.call id).token := by
  obtain ⟨_, _, _, hc⟩ := h.call
  rw [hc]

theorem State.Passes.invocations : (t.call id).invocations = (s.call id).invocations := by
  obtain ⟨_, _, _, hc⟩ := h.call
  rw [hc]

theorem State.Passes.waiting : (t.call id).waiting = (s.call id).waiting := by
  obtain ⟨_, _, _, hc⟩ := h.call
  rw [hc]

theorem State.Passes.delivered : (t.call id).delivered = (s.call id).delivered := by
  obtain ⟨_, _, _, hc⟩ := h.call
  rw [hc]

end

theorem passes_dropHandle (s : State Room) (id j : Nat) : s.Passes j (s.dropHandle id) :=
  ⟨(s.marks_dropHandle id).call j, rfl⟩

/-- An action that neither runs nor drops anything passes every call. -/
theorem passes_still (e : Engine Room) (s : State Room) (ha : a.still = true) (j : Nat) :
    s.Passes j (e.act s a) :=
  ⟨(marks_still e s ha).1.call j, (act_still e s ha).about j⟩

/-! ### One call -/

/-- An action as the call `id` sees it; each rule names one thing that can happen to a call. -/
inductive Turn (e : Engine Room) (id : Nat) (s t : State Room) : Prop
  | passed (h : s.Passes id t)
  /-- The call is known from now on, and never begins. -/
  | barred {name operation options} (new : id = s.calls.length)
      (ht : t = (s.gated name operation options).dropHandle id)
  | rejected {name operation options remaining} (new : id = s.calls.length)
      (hl : (s.enroll name operation options.token).look.2 = .ok true)
      (hr : (s.gated name operation options).remaining = .ok remaining)
      (ht : t = (s.gated name operation options).deliver id (.error (.circuitOpen remaining)))
  | started {name operation options deadline u} (new : id = s.calls.length)
      (course : Course e id (e.policy.maxAttempts.toNat - 1) (.first e.policy deadline)
        (s.gated name operation options) u)
      (ht : t = u ∨ t = u.dropHandle id)
  | resumed {room c} (hw : (s.call id).waiting = some c)
      (course : Course e id (e.policy.maxAttempts.toNat - c.attempt) c
        ((s.withRoom room).release id) t)
  | dropped {room c} (hw : (s.call id).waiting = some c)
      (ht : t = ((s.withRoom room).release id).failed id
        (.scheduling (c.attempt - 1) .shutDown))

/-- The state in which an attempt is in hand that its call waited for. -/
theorem released_call (hid : id < s.calls.length) (room : Room) :
    ((s.withRoom room).release id).call id = { s.call id with waiting := none } :=
  State.call_of_modify (State.release_calls (s.withRoom room) id) hid

theorem isCancelled_released (s : State Room) (room : Room) (id j : Nat) :
    ((s.withRoom room).release id).isCancelled j = s.isCancelled j :=
  State.isCancelled_of_modify (State.release_calls (s.withRoom room) id) rfl (fun _ => rfl)
    (fun _ => rfl) j

theorem lt_length_released (hid : id < s.calls.length) (room : Room) :
    id < ((s.withRoom room).release id).calls.length := by
  rw [State.length_of_modify (State.release_calls (s.withRoom room) id)]
  exact hid

theorem passes_release (s : State Room) (room : Room) (hj : j ≠ id) :
    s.Passes j ((s.withRoom room).release id) :=
  .of_call (State.call_of_modify_ne rfl hj) rfl

theorem Course.passes (custody : Custody e.scheduler) (course : Course e id left c s t)
    (hj : j ≠ id) : s.Passes j t := by
  have frame : custody.Frame id s t := course.frame
  exact .of_call (frame.call_ne hj) (course.about hj)

theorem Started.turn {name : String} {operation : Operation} {options : Options}
    (custody : Custody e.scheduler) (started : Started e name operation options s t) (id : Nat) :
    Turn e id s t := by
  by_cases hid : id = s.calls.length
  · subst hid
    cases started with
    | barred hs => exact .barred rfl rfl
    | rejected hl hr => exact .rejected rfl hl hr rfl
    | admitted hl hd course => exact .started rfl course (.inl rfl)
    | thrown hl hd course => exact .started rfl course (.inr rfl)
  · exact .passed (.of_call (started.call_ne custody hid) (started.about hid))

theorem Acted.turn (custody : Custody e.scheduler) (acted : Acted e s a t) (id : Nat) :
    Turn e id s t := by
  -- An action is about one call, and passes every other one.
  cases acted with
  | started started => exact started.turn custody id
  | @resumed r room c t hw course =>
    by_cases hid : id = r.call
    · subst hid
      exact .resumed hw course
    · exact .passed ((passes_release s room hid).trans (course.passes custody hid))
  | @dropped r room c hw =>
    by_cases hid : id = r.call
    · subst hid
      exact .dropped hw rfl
    · refine .passed ((passes_release s room hid).trans (.of_call ?_ (State.failed_about _ _ hid)))
      exact (frame_failed custody _ _ _).call_ne hid
  | spent ha hw => exact .passed (.of_call rfl rfl)
  | turned => exact .passed (.of_call rfl rfl)
  | still ha => exact .passed (passes_still e s ha id)

/-! ### Attempts that come to be made -/

/-- From an attempt in hand to one that is made because of it: that attempt itself, or one after it
that the scheduler runs at once. -/
inductive Reaches (e : Engine Room) (id : Nat) :
    Nat → Continuation → State Room → Nat → Continuation → State Room → Prop
  | here {left : Nat} {c : Continuation} {s : State Room} : Reaches e id left c s left c s
  | again {left left' : Nat} {c c' : Continuation} {s u : State Room} {f pause contained refusal}
      {clock : Clock} (hc : s.isCancelled id = false)
      (hr : Retries e id (left + 1) c s f)
      (ha : (e.asked id c s).2 = (.run pause contained, refusal))
      (hp : (e.asked id c s).1.clock.advance (pause.getD .zero) = .ok clock)
      (rest : Reaches e id left (c.next e.policy) ((e.asked id c s).1.withClock clock) left' c' u) :
      Reaches e id (left + 1) c s left' c' u

/-- The attempts of a call that an action makes, each in the state that it is made in. -/
inductive Makes (e : Engine Room) (s : State Room) :
    Action Room → Nat → Nat → Continuation → State Room → Prop
  | first {name operation options deadline} {left : Nat} {c : Continuation} {u : State Room}
      (hl : (s.enroll name operation options.token).look.2 = .ok false)
      (hd : (s.gated name operation options).deadlineAfter options.deadline = .ok deadline)
      (reached : Reaches e s.calls.length (e.policy.maxAttempts.toNat - 1)
        (.first e.policy deadline) (s.gated name operation options) left c u) :
      Makes e s (.start name operation options) s.calls.length left c u
  | waiting {r room} {left : Nat} {c c' : Continuation} {u : State Room}
      (hw : (s.call r.call).waiting = some c)
      (reached : Reaches e r.call (e.policy.maxAttempts.toNat - c.attempt) c
        ((s.withRoom room).release r.call) left c' u) :
      Makes e s (.run r room) r.call left c' u

/-! ### What no action takes back -/

/-- The same call later on: what it was started with, and cancelled if it was. -/
structure Call.Later (c d : Call) : Prop where
  operation : d.operation = c.operation
  token : d.token = c.token
  cancelled : c.cancelled = true → d.cancelled = true

/-- A later state: it knows all calls and tokens, and what was cancelled is cancelled. -/
structure State.Later (s t : State Room) : Prop where
  length : s.calls.length ≤ t.calls.length
  calls : ∀ id, id < s.calls.length → (s.call id).Later (t.call id)
  listed : ∀ token, (s.tokens.lookup token).isSome = true → (t.tokens.lookup token).isSome = true
  tokens : ∀ token, s.tokenCancelled token = true → t.tokenCancelled token = true

theorem Call.Later.refl (c : Call) : c.Later c := ⟨rfl, rfl, fun h => h⟩

theorem State.Later.refl (s : State Room) : s.Later s :=
  ⟨Nat.le_refl _, fun _ _ => .refl _, fun _ h => h, fun _ h => h⟩

theorem State.Later.trans (h : s.Later u) (h' : u.Later t) : s.Later t where
  length := Nat.le_trans h.length h'.length
  calls := fun id hid => by
    have first := h.calls id hid
    have second := h'.calls id (Nat.lt_of_lt_of_le hid h.length)
    exact ⟨second.operation.trans first.operation, second.token.trans first.token,
      fun hc => second.cancelled (first.cancelled hc)⟩
  listed := fun token hl => h'.listed token (h.listed token hl)
  tokens := fun token hc => h'.tokens token (h.tokens token hc)

theorem State.known_of_isCancelled (hc : s.isCancelled id = true) : id < s.calls.length := by
  apply State.lt_length_of_call_ne_blank
  intro hb
  rw [State.isCancelled, hb] at hc
  cases hc

theorem State.Later.isCancelled (h : s.Later t) (hc : s.isCancelled id = true) :
    t.isCancelled id = true := by
  have hcall := h.calls id (State.known_of_isCancelled hc)
  rw [State.isCancelled, Bool.or_eq_true] at hc ⊢
  rcases hc with hc | hc
  · exact .inl (hcall.cancelled hc)
  · rw [hcall.token]
    obtain ⟨token, ht, hc⟩ := (Option.any_eq_true _ _).mp hc
    exact .inr ((Option.any_eq_true _ _).mpr ⟨token, ht, h.tokens token hc⟩)

/-! Every writer leads to a later state. -/

theorem later_of_modify (hc : t.calls = s.calls.modify id f) (hf : ∀ c : Call, c.Later (f c))
    (ht : t.tokens = s.tokens) : s.Later t where
  length := Nat.le_of_eq (State.length_of_modify hc).symm
  calls := fun j hj => by
    by_cases hid : j = id
    · subst hid
      rw [State.call_of_modify hc hj]
      exact hf _
    · rw [State.call_of_modify_ne hc hid]
      exact .refl _
  listed := fun token hl => ht ▸ hl
  tokens := fun token hl => by
    unfold State.tokenCancelled at hl ⊢
    rwa [ht]

theorem later_of_same (hc : t.calls = s.calls) (ht : t.tokens = s.tokens) : s.Later t :=
  later_of_modify (hc.trans (List.modify_id 0 s.calls).symm) (fun c => .refl c) ht

theorem later_withRoom (s : State Room) (room : Room) : s.Later (s.withRoom room) :=
  later_of_same rfl rfl

theorem later_withClock (s : State Room) (clock : Clock) : s.Later (s.withClock clock) :=
  later_of_same rfl rfl

theorem later_addToken (s : State Room) (token : String) : s.Later (s.addToken token) where
  length := by
    unfold State.addToken
    split <;> exact Nat.le_refl _
  calls := fun j _ => by
    have hcalls : (s.addToken token).calls = s.calls := by
      unfold State.addToken
      split <;> rfl
    rw [State.call_congr hcalls]
    exact .refl _
  listed := fun other hl => by
    unfold State.addToken
    split
    · exact hl
    · rw [List.lookup_append, Option.isSome_or, hl, Bool.true_or]
  tokens := fun other hc => by rwa [State.tokenCancelled_addToken]

theorem later_cancelToken (s : State Room) (token : String) : s.Later (s.cancelToken token) where
  length := Nat.le_refl _
  calls := fun j _ => .refl _
  listed := fun other hl => by rwa [State.isSome_lookup_cancelToken]
  tokens := fun other hc => by
    cases hl : s.tokens.lookup other with
    | none =>
      rw [State.tokenCancelled, hl] at hc
      cases hc
    | some done =>
      rw [State.tokenCancelled_cancelToken token (by rw [hl]; rfl), hc, Bool.true_or]

theorem later_dropHandle (s : State Room) (id : Nat) : s.Later (s.dropHandle id) :=
  later_of_modify rfl (fun _ => ⟨rfl, rfl, fun _ => rfl⟩) rfl

theorem later_deliver (s : State Room) (id : Nat) (o : Outcome) : s.Later (s.deliver id o) :=
  later_of_modify rfl (fun _ => ⟨rfl, rfl, fun h => h⟩) rfl

theorem later_failed (s : State Room) (id : Nat) (x : Ending) : s.Later (s.failed id x) := by
  by_cases h : s.Dated
  · refine later_of_modify (State.failed_calls_of_dated h id x) (fun _ => ⟨rfl, rfl, fun h => h⟩) ?_
    rw [State.failed_of_dated h, State.countFailure_fst]
    rfl
  · refine later_of_same (State.failed_calls_of_not_dated h id x) ?_
    rw [State.failed_of_not_dated h, State.countFailure_fst]

/-- An invocation writes the tokens as its play says, unless its time cannot pass. -/
theorem invoked_tokens (s : State Room) (id n : Nat) : ∃ cancel : Option String,
    (s.invoked id n).tokens = (cancel.elim s s.cancelToken).tokens := by
  cases hc : s.clock.advance
    (((s.call id).operation (s.call id).invocations).advance.getD .zero) with
  | error fault =>
    refine ⟨none, ?_⟩
    simp only [State.invoked, State.invoke, State.modifyCall, State.log, hc]
    rfl
  | ok clock => exact ⟨_, (State.invoke_of_advance (n := n) rfl hc).2.2⟩

theorem later_invoked (s : State Room) (id n : Nat) : s.Later (s.invoked id n) := by
  obtain ⟨cancel, htokens⟩ := invoked_tokens s id n
  have hcalls := State.invoked_calls s id n
  have keeps (c : Call) : c.Later { c with invocations := c.invocations + 1 } :=
    ⟨rfl, rfl, fun h => h⟩
  cases cancel with
  | none => exact later_of_modify hcalls keeps htokens
  | some token => exact (later_cancelToken s token).trans (later_of_modify hcalls keeps htokens)

theorem later_asked (e : Engine Room) (id : Nat) (c : Continuation) (s : State Room) :
    s.Later (e.asked id c s).1 :=
  (later_invoked s id c.attempt).trans (later_of_same rfl rfl)

theorem Course.later (course : Course e id left c s t) : s.Later t := by
  -- A course only writes invocations, outcomes and what waits, none of which `Later` speaks of.
  induction course with
  | cancelled hc => exact later_deliver _ id _
  | succeeded hc hi =>
    refine (later_invoked _ id _).trans (later_of_modify (State.succeed_calls _ id _) ?_ rfl)
    exact fun _ => ⟨rfl, rfl, fun h => h⟩
  | failed hc why => exact (later_invoked _ id _).trans (later_failed _ id _)
  | unscheduled hc hr cause ha hh => exact (later_asked e id _ _).trans (later_failed _ id _)
  | stalled hc hr ha hp =>
    exact ((later_asked e id _ _).trans (later_withRoom _ _)).trans (later_failed _ id _)
  | held hc hr ha =>
    refine (later_asked e id _ _).trans (later_of_modify (State.hold_calls _ id _) ?_ rfl)
    exact fun _ => ⟨rfl, rfl, fun h => h⟩
  | again hc hr ha hp rest ih =>
    exact ((later_asked e id _ _).trans (later_withClock _ _)).trans ih

theorem later_gated (s : State Room) (name : String) (operation : Operation) (options : Options) :
    s.Later (s.gated name operation options) := by
  -- A new call is put behind the others, and its token becomes known.
  have append (u : State Room) (call : Call) : u.Later { u with calls := u.calls ++ [call] } := by
    refine ⟨?_, fun j hj => ?_, fun _ h => h, fun _ h => h⟩
    · rw [List.length_append]
      exact Nat.le_add_right _ _
    · have hcall := State.call_of_append (t := { u with calls := u.calls ++ [call] }) rfl hj
      rw [hcall]
      exact .refl _
  have enrolled : s.Later (s.enroll name operation options.token) := by
    unfold State.enroll
    cases options.token with
    | none => exact append s _
    | some token => exact (later_addToken s token).trans (append _ _)
  obtain ⟨_, _, hlook⟩ := State.look_eq (s.enroll name operation options.token)
  refine enrolled.trans (later_of_same ?_ ?_)
  · rw [State.gated, hlook]
  · rw [State.gated, hlook]

theorem later_release (s : State Room) (room : Room) (id : Nat) :
    s.Later ((s.withRoom room).release id) :=
  later_of_modify rfl (fun _ => ⟨rfl, rfl, fun h => h⟩) rfl

theorem later_still (e : Engine Room) (s : State Room) (ha : a.still = true) :
    s.Later (e.act s a) := by
  obtain ⟨⟨id, f, hf, hc⟩, htokens | ⟨token, rfl⟩⟩ := marks_still e s ha
  · refine later_of_modify hc (fun c => ?_) htokens
    obtain ⟨_, _, hcancelled, heq⟩ := hf c
    rw [heq]
    exact ⟨rfl, rfl, hcancelled⟩
  · exact (later_addToken s token).trans (later_cancelToken _ token)

theorem Acted.later (acted : Acted e s a t) : s.Later t := by
  cases acted with
  | @started name operation options t started =>
    have hg := later_gated s name operation options
    cases started with
    | barred hs => exact hg.trans (later_dropHandle _ _)
    | rejected hl hr => exact hg.trans (later_deliver _ _ _)
    | admitted hl hd course => exact hg.trans course.later
    | thrown hl hd course => exact (hg.trans course.later).trans (later_dropHandle _ _)
  | resumed hw course => exact (later_release s _ _).trans course.later
  | dropped hw => exact (later_release s _ _).trans (later_failed _ _ _)
  | spent ha hw => exact later_withRoom s _
  | turned => exact later_withRoom s _
  | still ha => exact later_still e s ha

theorem Run.later (run : Run e custody ok s as t) : s.Later t :=
  run.invariant (s.Later ·) (.refl s) fun u a h _ _ _ => h.trans (act_acted e u a).later

end Reattempt.Engine
