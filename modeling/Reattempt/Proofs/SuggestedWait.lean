import Reattempt.Proofs.Chronicle
import Reattempt.Proofs.Cooldown
import Reattempt.Proofs.Handles

/-!
The wait that a rejected call is told to make. After less than that wait, and after exactly that
wait, the breaker still rejects; after any longer one it admits, if no failure was recorded
meanwhile. Main statement: `suggested_wait`.

The wait is told by one function and kept by another. They agree because a breaker that is open
within its cooldown is not changed by being asked, and because the clock of an engine is never set
back by its calls.
-/
namespace Reattempt

namespace Breaker

variable {b : Breaker} {t now : Instant} {clock : Clock} {limit : Nat} {command : Command}
  {history : List (Clock × Command)}

/-- The use of a breaker that a command stands for. -/
def useOf : Command → Use
  | .look => .isOpen
  | .success => .recordSuccess
  | .failure => .recordFailure
  | .reset => .reset

theorem told_eq_use (b : Breaker) (reading : Except Fault Instant) (command : Command) :
    b.told reading command = (b.use reading (useOf command)).1 := by
  cases command <;> rfl

theorem replay_cons (b : Breaker) (entry : Clock × Command) (history : List (Clock × Command)) :
    b.replay (entry :: history) = (b.told entry.1.read entry.2).replay history := rfl

/-! ### Without a failure -/

/-- A breaker that is open after a command was not changed by it, unless that was a failure. -/
theorem told_of_opened {reading : Except Fault Instant} (hf : command ≠ .failure)
    (ho : (b.told reading command).circuit = .opened) : b.told reading command = b := by
  cases command with
  | look =>
    -- A look that writes anything moves the breaker on from being open.
    change (b.isOpen reading).1.circuit = .opened at ho
    change (b.isOpen reading).1 = b
    unfold isOpen look at ho ⊢
    split at ho
    · rfl
    · split at ho
      · split at ho
        · cases ho
        · next hn => simp only [hn, ↓reduceIte]
      · cases ho
      · rfl
    · cases ho
    · rfl
  | success =>
    change b.recordSuccess.circuit = .opened at ho
    change b.recordSuccess = b
    unfold recordSuccess at ho ⊢
    split at ho
    · next hc => cases hc.symm.trans ho
    · next hc =>
      split at ho
      · cases ho
      · cases hc.symm.trans ho
    · rfl
  | failure => exact absurd rfl hf
  | reset => cases ho

theorem replay_of_opened (hf : ∀ entry ∈ history, entry.2 ≠ .failure)
    (ho : (b.replay history).circuit = .opened) : b.replay history = b := by
  induction history generalizing b with
  | nil => rfl
  | cons entry history ih =>
    rw [replay_cons] at ho ⊢
    have hlater := ih (fun entry hm => hf entry (List.mem_cons_of_mem _ hm)) ho
    -- It is open at the end, so it was open after the first command already.
    have hfirst : (b.told entry.1.read entry.2).circuit = .opened := by
      rw [← hlater]
      exact ho
    exact hlater.trans (told_of_opened (hf entry List.mem_cons_self) hfirst)

/-! ### Within the cooldown -/

/-- The breaker is open, and its cooldown does not end before `limit`. -/
def OpenUntil (b : Breaker) (limit : Nat) : Prop :=
  ∃ t, b.OpenSince t ∧ limit ≤ t.nanos + b.config.timeout.nanos

theorem OpenUntil.isOpen (h : b.OpenUntil limit) (hle : now.nanos ≤ limit) :
    b.isOpen (.ok now) = (b, .ok true) := by
  obtain ⟨t, since, hlimit⟩ := h
  exact since.isOpen_of_le (by omega)

theorem OpenUntil.told (h : b.OpenUntil limit) (hr : clock.Readable)
    (hle : clock.elapsed.nanos ≤ limit)
    (hlimit : limit ≤ clock.elapsed.nanos + b.config.timeout.nanos) (hreset : command ≠ .reset) :
    (b.told clock.read command).OpenUntil limit := by
  rw [Clock.read_of_readable hr]
  cases command with
  | look =>
    change (b.isOpen (.ok ⟨clock.elapsed.nanos, hr⟩)).1.OpenUntil limit
    rw [h.isOpen hle]
    exact h
  | success =>
    obtain ⟨t, since, -⟩ := id h
    change b.recordSuccess.OpenUntil limit
    rw [since.recordSuccess_eq]
    exact h
  | failure =>
    obtain ⟨t, since, -⟩ := h
    exact ⟨_, since.recordFailure ⟨clock.elapsed.nanos, hr⟩, hlimit⟩
  | reset => exact absurd rfl hreset

theorem OpenUntil.replay (h : b.OpenUntil limit)
    (within : ∀ entry ∈ history, entry.1.Readable ∧ entry.1.elapsed.nanos ≤ limit ∧
      limit ≤ entry.1.elapsed.nanos + b.config.timeout.nanos ∧ entry.2 ≠ .reset) :
    (b.replay history).OpenUntil limit := by
  induction history generalizing b with
  | nil => exact h
  | cons entry history ih =>
    obtain ⟨hr, hle, hlimit, hreset⟩ := within entry List.mem_cons_self
    apply ih (h.told hr hle hlimit hreset)
    intro later hm
    rw [b.config_told]
    exact within later (List.mem_cons_of_mem _ hm)

/-- What a breaker knows of failures is not later than the last of what it was told. -/
theorem lastFailure_replay_le {last : Nat} (hb : ∀ t ∈ b.lastFailure, t.nanos ≤ last)
    (hle : ∀ entry ∈ history, entry.1.elapsed.nanos ≤ last) :
    ∀ t ∈ (b.replay history).lastFailure, t.nanos ≤ last := by
  induction history generalizing b with
  | nil => exact hb
  | cons entry history ih =>
    rw [replay_cons, told_eq_use]
    apply ih _ fun later hm => hle later (List.mem_cons_of_mem _ hm)
    intro t ht
    rcases lastFailure_use _ _ ht with hfailed | hbefore
    · -- The failure is this one, at the time of the clock.
      have hr : entry.1.Readable := by
        by_contra hn
        rw [Clock.read_of_not_readable hn] at hfailed
        simp only [Used.failedAt?] at hfailed
        split at hfailed <;> cases hfailed
      rw [Clock.read_of_readable hr] at hfailed
      simp only [Used.failedAt?] at hfailed
      split at hfailed
      · cases hfailed
        exact hle entry List.mem_cons_self
      · cases hfailed
    · exact hb t hbefore

end Breaker

namespace Engine

variable {Room : Type} {e : Engine Room} {custody : Custody e.scheduler} {ok : State Room → Prop}
  {s t u : State Room} {id left : Nat} {c : Continuation} {a : Action Room}
  {as : List (Action Room)} {name : String} {operation : Operation} {options : Options}

/-! ### The clock is never set back by a call -/

theorem elapsed_le_advance (clock : Clock) (d : Duration) {later : Clock}
    (h : clock.advance d = .ok later) : clock.elapsed.nanos ≤ later.elapsed.nanos := by
  have := Clock.elapsed_of_advance h
  omega

theorem elapsed_le_invoked (s : State Room) (id n : Nat) :
    s.clock.elapsed.nanos ≤ (s.invoked id n).clock.elapsed.nanos := by
  let play := (s.call id).operation (s.call id).invocations
  cases hc : s.clock.advance (play.advance.getD .zero) with
  | error fault =>
    simp only [State.invoked, State.invoke, State.modifyCall, State.log, play, hc]
    exact Nat.le_refl _
  | ok clock =>
    rw [(State.invoke_of_advance rfl hc).2.1]
    exact elapsed_le_advance _ _ hc

theorem Course.elapsed_le (course : Course e id left c s t) :
    s.clock.elapsed.nanos ≤ t.clock.elapsed.nanos := by
  induction course with
  | cancelled hc => exact Nat.le_refl _
  | succeeded hc hi => exact elapsed_le_invoked _ id _
  | failed hc why =>
    rw [State.failed_clock]
    exact elapsed_le_invoked _ id _
  | unscheduled hc hr cause ha hh =>
    rw [State.failed_clock]
    exact elapsed_le_invoked _ id _
  | stalled hc hr ha hp =>
    rw [State.failed_clock]
    exact elapsed_le_invoked _ id _
  | held hc hr ha => exact elapsed_le_invoked _ id _
  | @again left c s t f pause contained refusal clock hc hr ha hp rest ih =>
    calc s.clock.elapsed.nanos
        ≤ (e.asked id c s).1.clock.elapsed.nanos := elapsed_le_invoked s id c.attempt
      _ ≤ clock.elapsed.nanos := elapsed_le_advance _ _ hp
      _ ≤ t.clock.elapsed.nanos := ih

theorem Started.elapsed_le (started : Started e name operation options s t) :
    s.clock.elapsed.nanos ≤ t.clock.elapsed.nanos := by
  have hgate := State.gated_clock s name operation options
  cases started with
  | barred hs =>
    change s.clock.elapsed.nanos ≤ (s.gated name operation options).clock.elapsed.nanos
    exact Nat.le_of_eq (congrArg (·.elapsed.nanos) hgate.symm)
  | rejected hl hr =>
    change s.clock.elapsed.nanos ≤ (s.gated name operation options).clock.elapsed.nanos
    exact Nat.le_of_eq (congrArg (·.elapsed.nanos) hgate.symm)
  | admitted hl hd course =>
    rw [← hgate]
    exact course.elapsed_le
  | @thrown deadline t hl hd course =>
    rw [← hgate]
    exact course.elapsed_le

/-- An action moves the clock forward, unless it is there to set it. -/
theorem act_elapsed_le (e : Engine Room) (s : State Room) (ha : ∀ d, a ≠ .setElapsed d) :
    s.clock.elapsed.nanos ≤ (e.act s a).clock.elapsed.nanos := by
  cases a with
  | start name operation options => exact (execute_started e name operation options s).elapsed_le
  | run r room =>
    cases hw : (s.call r.call).waiting with
    | none =>
      change _ ≤ (e.runWaiting r.call (s.withRoom room)).1.clock.elapsed.nanos
      rw [runWaiting_of_taken (s := s.withRoom room) e hw]
      exact Nat.le_refl _
    | some c =>
      rw [act_run_of_waiting e hw]
      exact (run_course e r.call _ c ((s.withRoom room).release r.call)).elapsed_le
  | drop r room =>
    cases hw : (s.call r.call).waiting with
    | none =>
      change _ ≤ (dropWaiting r.call (s.withRoom room)).1.clock.elapsed.nanos
      rw [dropWaiting_of_taken (s := s.withRoom room) hw]
      exact Nat.le_refl _
    | some c =>
      rw [act_drop_of_waiting e hw, State.failed_clock]
      exact Nat.le_refl _
  | poll id =>
    change _ ≤ (s.poll id).1.clock.elapsed.nanos
    rw [s.poll_eq]
    exact Nat.le_refl _
  | await id =>
    change _ ≤ (s.await id).1.clock.elapsed.nanos
    rw [s.await_eq]
    exact Nat.le_refl _
  | collect id =>
    change _ ≤ (s.wait (fun s => s) id).1.clock.elapsed.nanos
    rw [s.collect_eq]
    exact Nat.le_refl _
  | cancelToken token =>
    change _ ≤ (s.addToken token).clock.elapsed.nanos
    unfold State.addToken
    split <;> exact Nat.le_refl _
  | advance d =>
    change _ ≤ (s.advance d).1.clock.elapsed.nanos
    unfold State.advance
    split
    · next clock hc => exact elapsed_le_advance _ _ hc
    · exact Nat.le_refl _
  | setElapsed d => exact absurd rfl (ha d)
  | askOpen | readMetrics =>
    change _ ≤ s.look.1.clock.elapsed.nanos
    obtain ⟨_, _, h⟩ := State.look_eq s
    exact Nat.le_of_eq (by rw [h])
  | resetBreaker =>
    change _ ≤ s.resetBreaker.clock.elapsed.nanos
    unfold State.resetBreaker
    split <;> exact Nat.le_refl _
  | _ => exact Nat.le_refl _

/-! ### What the breaker is told in between -/

/-- In a run whose clock is not set, the breaker is told of everything at a time within the run. -/
theorem Run.history_between (run : Run e custody ok s as t) (hset : ∀ d, .setElapsed d ∉ as) :
    s.clock.elapsed.nanos ≤ t.clock.elapsed.nanos ∧ ∀ entry ∈ e.history s as,
      s.clock.elapsed.nanos ≤ entry.1.elapsed.nanos ∧
        entry.1.elapsed.nanos ≤ t.clock.elapsed.nanos := by
  induction run with
  | nil => exact ⟨Nat.le_refl _, fun entry hm => nomatch hm⟩
  | @snoc t as a run allowed ht ih =>
    obtain ⟨hle, hbefore⟩ := ih fun d hm => hset d (List.mem_append_left _ hm)
    have hstep : t.clock.elapsed.nanos ≤ (e.act t a).clock.elapsed.nanos := by
      apply act_elapsed_le
      rintro d rfl
      exact hset d (List.mem_append_right _ List.mem_cons_self)
    refine ⟨Nat.le_trans hle hstep, fun entry hm => ?_⟩
    -- An entry is from before this action, from its beginning or from its end.
    rw [history_concat, ← run.end_eq, List.mem_append, List.mem_append] at hm
    rcases hm with hm | hm | hm
    · obtain ⟨hfrom, hto⟩ := hbefore entry hm
      exact ⟨hfrom, Nat.le_trans hto hstep⟩
    · rw [clock_of_commands hm]
      exact ⟨hle, hstep⟩
    · rw [clock_of_recorded hm]
      exact ⟨Nat.le_trans hle hstep, Nat.le_refl _⟩

/-- Only a reset resets the breaker. -/
theorem reset_of_history {entry : Clock × Command} (hm : entry ∈ e.history s as)
    (hreset : entry.2 = .reset) : .resetBreaker ∈ as := by
  induction as generalizing s with
  | nil => cases hm
  | cons a as ih =>
    rw [history, List.mem_append, List.mem_append] at hm
    rcases hm with (hm | hm) | hm
    · cases a with
      | resetBreaker => exact List.mem_cons_self
      | start | askOpen | readMetrics =>
        rw [List.mem_singleton.mp hm] at hreset
        cases hreset
      | _ => cases hm
    · obtain ⟨o, _, ho⟩ := List.mem_filterMap.mp hm
      obtain ⟨command, hcommand, rfl⟩ := Option.map_eq_some_iff.mp ho
      cases hreset
      -- An outcome is recorded as a success or as a failure.
      cases o with
      | ok v => cases hcommand
      | error x =>
        simp only [Outcome.command] at hcommand
        split at hcommand <;> cases hcommand
    · exact List.mem_cons_of_mem _ (ih hm)

/-! ### Rejections -/

theorem look_snd {b : Breaker} (hb : s.breaker = some b) :
    s.look.2 = (b.isOpen s.clock.read).2 := by
  simp only [State.look, hb]

theorem look_enroll_snd (s : State Room) (name : String) (operation : Operation)
    (token : Option String) : (s.enroll name operation token).look.2 = s.look.2 := by
  obtain ⟨tokens, he⟩ := State.enroll_eq s name operation token
  rw [he]
  simp only [State.look]
  split <;> rfl

/-- A call that is told that the breaker is open was rejected by it. -/
theorem rejected_of_delivered (hr : s.clock.Readable) {remaining : Option Duration}
    (hd : .error (.circuitOpen remaining) ∈
      ((e.act s (.start name operation options)).call s.calls.length).delivered) :
    s.look.2 = .ok true ∧ (s.gated name operation options).remaining = .ok remaining ∧
      e.act s (.start name operation options) = (s.gated name operation options).deliver
        s.calls.length (.error (.circuitOpen remaining)) := by
  have hid := State.lt_length_gated s name operation options
  have hnew : ((s.gated name operation options).call s.calls.length).delivered = [] := by
    rw [State.call_append_last (State.gated_calls s name operation options)]
  -- Behind the gate a call is never rejected.
  have admitted {left : Nat} {c : Continuation} {t : State Room}
      (course : Course e s.calls.length left c (s.gated name operation options) t) :
      .error (.circuitOpen remaining) ∉ (t.call s.calls.length).delivered := by
    have hyields : t.Yields (· ≠ .error (.circuitOpen remaining)) s.calls.length := by
      refine course.yields hid ?_ ?_ ?_
      · intro v h
        cases h
      · intro x hx h
        cases h
        cases hx
      · intro o ho
        rw [hnew] at ho
        cases ho
    exact fun hm => hyields _ hm rfl
  have started := execute_started e name operation options s
  change .error (.circuitOpen remaining) ∈
    ((e.execute name operation options s).1.call s.calls.length).delivered at hd
  change _ ∧ _ ∧ (e.execute name operation options s).1 = _
  generalize (e.execute name operation options s).1 = t at hd started ⊢
  cases started with
  | barred hs => exact absurd hr hs
  | @rejected told hl hremaining =>
    cases State.eq_of_deliver hid hnew hd
    rw [look_enroll_snd] at hl
    exact ⟨hl, hremaining, rfl⟩
  | admitted hl hd' course => exact absurd hd (admitted course)
  | @thrown deadline t hl hd' course =>
    have hkept := (State.unmoved_dropHandle t s.calls.length).delivered s.calls.length
    rw [hkept] at hd
    exact absurd hd (admitted course)

/-- A breaker that rejects a call is open within its cooldown, and tells what is left of it. -/
theorem open_of_rejected (hr : s.clock.Readable) {remaining : Option Duration}
    (hd : .error (.circuitOpen remaining) ∈
      ((e.act s (.start name operation options)).call s.calls.length).delivered) :
    ∃ b f, s.breaker = some b ∧ b.OpenSince f ∧
      s.clock.elapsed.nanos ≤ f.nanos + b.config.timeout.nanos ∧
      remaining = some (b.config.timeout.monus (Instant.since ⟨s.clock.elapsed.nanos, hr⟩ f)) ∧
      (e.act s (.start name operation options)).breaker = some b ∧
      (e.act s (.start name operation options)).clock = s.clock := by
  obtain ⟨hlook, hremaining, hact⟩ := rejected_of_delivered hr hd
  have hclock := State.gated_clock s name operation options
  have hgate := gated_breaker s name operation options
  cases hb : s.breaker with
  | none =>
    simp only [State.look, hb] at hlook
    cases hlook
  | some b =>
    rw [look_snd hb, Clock.read_of_readable hr] at hlook
    obtain ⟨f, since, hle⟩ := Breaker.openSince_of_isOpen hlook
    -- Being asked within its cooldown does not change the breaker.
    have hsame : (s.gated name operation options).breaker = some b := by
      rw [hgate, hb, Clock.read_of_readable hr, Option.map_some, since.isOpen_of_le hle]
    refine ⟨b, f, rfl, since, hle, ?_, ?_, ?_⟩
    · simp only [State.remaining, hsame, hclock, Clock.read_of_readable hr, Breaker.snapshot,
        since.lastFailure, Except.map, Except.ok.injEq] at hremaining
      rw [← hremaining]
      simp only [Breaker.snapshotAt, since.circuit, since.lastFailure, ↓reduceIte, Option.map_some]
    · rw [hact]
      exact hsame
    · rw [hact]
      exact hclock

/-- How long before the last failure the clock stands; only a clock that was set back does. -/
def State.lead (s : State Room) : Nat :=
  (s.breaker.bind (·.lastFailure)).elim 0 fun f => f.nanos - s.clock.elapsed.nanos

theorem lead_of_open {b : Breaker} {f : Instant} (hb : s.breaker = some b)
    (since : b.OpenSince f) : s.lead = f.nanos - s.clock.elapsed.nanos := by
  simp only [State.lead, hb, Option.bind_some, since.lastFailure, Option.elim_some]

theorem Run.lead_eq_zero {room : Room}
    (run : Run e custody (fun u => u.clock.Readable) (initial e room) as s)
    (hset : ∀ d, .setElapsed d ∉ as) : s.lead = 0 := by
  have hhistory := run.breaker
  obtain ⟨-, hbetween⟩ := run.history_between hset
  cases hb : s.breaker with
  | none => simp only [State.lead, hb, Option.bind_none, Option.elim_none]
  | some b =>
    rw [hb] at hhistory
    obtain ⟨first, hfirst, rfl⟩ := Option.map_eq_some_iff.mp hhistory.symm
    have hfresh : first.lastFailure = none := by
      simp only [initial] at hfirst
      split at hfirst
      · cases hfirst
        rfl
      · cases hfirst
    have hle : ∀ f ∈ (first.replay (e.history (initial e room) as)).lastFailure,
        f.nanos ≤ s.clock.elapsed.nanos := by
      apply Breaker.lastFailure_replay_le
      · intro f hf
        rw [hfresh] at hf
        cases hf
      · intro entry hm
        exact (hbetween entry hm).2
    simp only [State.lead, hb, Option.bind_some]
    cases hl : (first.replay (e.history (initial e room) as)).lastFailure with
    | none => rfl
    | some f =>
      have := hle f hl
      simp only [Option.elim_some]
      omega

/-- Within the cooldown every call is rejected, and told how long to wait. -/
theorem Run.rejected_within {b : Breaker} {f : Instant}
    (later : Run e custody (fun u => u.clock.Readable) t as u) (hb : t.breaker = some b)
    (since : b.OpenSince f) (hle : u.clock.elapsed.nanos ≤ f.nanos + b.config.timeout.nanos)
    (hspan : u.clock.elapsed.nanos ≤ t.clock.elapsed.nanos + b.config.timeout.nanos)
    (hreset : .resetBreaker ∉ as) (hset : ∀ d, .setElapsed d ∉ as) (name : String)
    (operation : Operation) (options : Options) :
    ∃ r, ((e.act u (.start name operation options)).call u.calls.length).delivered =
      [.error (.circuitOpen (some r))] := by
  have hu := later.ok_end
  have hbu : u.breaker = some (b.replay (e.history t as)) := by
    rw [later.breaker, hb, Option.map_some]
  obtain ⟨-, hbetween⟩ := later.history_between hset
  have lasts : b.OpenUntil u.clock.elapsed.nanos := ⟨f, since, hle⟩
  -- A failure in between only makes the cooldown longer.
  have still : (b.replay (e.history t as)).OpenUntil u.clock.elapsed.nanos := by
    apply lasts.replay
    intro entry hm
    obtain ⟨hfrom, hto⟩ := hbetween entry hm
    refine ⟨Nat.lt_of_le_of_lt hto hu, hto, by omega, fun h => ?_⟩
    exact hreset (reset_of_history hm h)
  have hopen : ((b.replay (e.history t as)).isOpen u.clock.read).2 = .ok true := by
    rw [Clock.read_of_readable hu, still.isOpen (Nat.le_refl _)]
  obtain ⟨remaining, hact⟩ := act_start_of_open hbu hu hopen e name operation options
  obtain ⟨call, hcall, hdelivered, -, -⟩ := deliver_gated u name operation options
    (.error (.circuitOpen remaining))
  rw [← hact] at hcall
  have hrejected : ((e.act u (.start name operation options)).call u.calls.length).delivered =
      [.error (.circuitOpen remaining)] := hcall ▸ hdelivered
  have hm : .error (.circuitOpen remaining) ∈
      ((e.act u (.start name operation options)).call u.calls.length).delivered := by
    rw [hrejected]
    exact List.mem_cons_self
  obtain ⟨_, _, _, _, _, hsome, -⟩ := open_of_rejected hu hm
  exact ⟨_, hsome ▸ hrejected⟩

/-- After the cooldown the breaker admits, if no failure was recorded meanwhile. -/
theorem Run.admits_after {b : Breaker} {f : Instant}
    (later : Run e custody (fun u => u.clock.Readable) t as u) (hb : t.breaker = some b)
    (since : b.OpenSince f) (hover : f.nanos + b.config.timeout.nanos < u.clock.elapsed.nanos)
    (hfailure : ∀ entry ∈ e.history t as, entry.2 ≠ .failure) : u.look.2 = .ok false := by
  have hbu : u.breaker = some (b.replay (e.history t as)) := by
    rw [later.breaker, hb, Option.map_some]
  rw [look_snd hbu]
  by_cases ho : (b.replay (e.history t as)).circuit = .opened
  · -- It is the very breaker that rejected.
    rw [Breaker.replay_of_opened hfailure ho, Clock.read_of_readable later.ok_end,
      since.isOpen_of_lt hover]
  · rw [Breaker.isOpen_of_not_opened ho]

/-- A call that the breaker rejects is told to wait for `r`. From then on a call that comes after no
more than `r` is rejected as well, unless the breaker is reset or the clock is set; and one that
comes after more than `r` is admitted, if no failure was recorded meanwhile. Where the clock had
been set back before the last failure, the wait is longer by as much. -/
theorem suggested_wait {room : Room} {r : Duration}
    (run : Run e custody (fun u => u.clock.Readable) (initial e room) as s)
    (rejected : ((e.act s (.start name operation options)).call s.calls.length).delivered =
      [.error (.circuitOpen (some r))]) :
    let t := e.act s (.start name operation options)
    ((∀ d, .setElapsed d ∉ as) → t.lead = 0) ∧
    ∀ bs u d, Run e custody (fun u => u.clock.Readable) t bs u →
      u.clock.elapsed.nanos = t.clock.elapsed.nanos + d →
      (d ≤ r.nanos → .resetBreaker ∉ bs → (∀ d, .setElapsed d ∉ bs) →
        ∀ name operation options, ∃ r',
          ((e.act u (.start name operation options)).call u.calls.length).delivered =
            [.error (.circuitOpen (some r'))]) ∧
      (r.nanos + t.lead < d → (∀ entry ∈ e.history t bs, entry.2 ≠ .failure) →
        u.isOpen.2 = .ok false ∧ ∀ name operation options remaining,
          .error (.circuitOpen remaining) ∉
            ((e.act u (.start name operation options)).call u.calls.length).delivered) := by
  intro t
  have hrejected : .error (.circuitOpen (some r)) ∈ (t.call s.calls.length).delivered := by
    rw [rejected]
    exact List.mem_cons_self
  obtain ⟨b, f, hb, since, hle, hremaining, hbt, hclock⟩ := open_of_rejected run.ok_end hrejected
  -- What is told is the time to the end of the cooldown, or all of it on a clock that was set back.
  have hr : r.nanos = b.config.timeout.nanos - (s.clock.elapsed.nanos - f.nanos) := by
    rw [Option.some.inj hremaining]
    rfl
  have hlead : t.lead = s.lead := by
    rw [lead_of_open hbt since, lead_of_open hb since, hclock]
  rw [lead_of_open hb since] at hlead
  constructor
  · intro hset
    rw [hlead, ← lead_of_open hb since]
    exact run.lead_eq_zero hset
  intro bs u d later helapsed
  rw [hclock] at helapsed
  constructor
  · intro hd hreset hset name operation options
    apply later.rejected_within hbt since _ _ hreset hset
    · omega
    · rw [hclock]
      omega
  · intro hd hfailure
    have hadmits : u.look.2 = .ok false := later.admits_after hbt since (by omega) hfailure
    refine ⟨hadmits, fun name operation options remaining hm => ?_⟩
    obtain ⟨hlook, -⟩ := rejected_of_delivered later.ok_end hm
    rw [hadmits] at hlook
    cases hlook

/-- The first call of the engine has failed and opened its breaker, and the second is rejected. -/
def brittleRejected : State (Queue Request) := brittle.act brittleTripped startRefused

theorem run_advance (d : Duration) (h : (brittle.act brittleRejected (.advance d)).clock.Readable) :
    Run brittle brittleCustody (fun u => u.clock.Readable) brittleRejected [.advance d]
      (brittle.act brittleRejected (.advance d)) := by
  have h0 : Run brittle brittleCustody (fun u => u.clock.Readable) brittleRejected []
      brittleRejected := .nil (by decide)
  exact h0.snoc (a := .advance d) trivial h

theorem delivered_brittleRejected : (brittleRejected.call 1).delivered =
    [.error (.circuitOpen (some (.ofSeconds 30)))] := by decide

/-- Half a minute is too short by the least span that there is. -/
theorem suggested_wait_brittle :
    Run brittle brittleCustody (fun u => u.clock.Readable) (initial brittle (.empty none))
      [startRefused] brittleTripped ∧
    (brittleRejected.call 1).delivered = [.error (.circuitOpen (some (.ofSeconds 30)))] ∧
    brittleRejected.lead = 0 ∧
    (∃ r', ((brittle.act (brittle.act brittleRejected (.advance (.ofSeconds 30)))
      startRefused).call 2).delivered = [.error (.circuitOpen (some r'))]) ∧
    (brittle.act brittleRejected (.advance (.ofNanos (30 * 10 ^ 9 + 1)))).isOpen.2 = .ok false := by
  have rejected : ((brittle.act brittleTripped (.start "svc"
      (fun _ => ⟨none, none, .failure (.plain .connection "refused")⟩) ⟨none, none⟩)).call
      brittleTripped.calls.length).delivered = [.error (.circuitOpen (some (.ofSeconds 30)))] :=
    delivered_brittleRejected
  obtain ⟨hlead, waits⟩ := suggested_wait run_brittleTripped rejected
  have hforward : ∀ d : Duration, Action.setElapsed d ∉ [startRefused] := by
    intro d hm
    cases List.mem_singleton.mp hm
  have hzero : brittleRejected.lead = 0 := hlead hforward
  obtain ⟨early, -⟩ := waits [.advance (.ofSeconds 30)] _ (Duration.ofSeconds 30).nanos
    (run_advance _ (by decide)) (by decide)
  obtain ⟨-, late⟩ := waits [.advance (.ofNanos (30 * 10 ^ 9 + 1))] _ (30 * 10 ^ 9 + 1)
    (run_advance _ (by decide)) (by decide)
  refine ⟨run_brittleTripped, delivered_brittleRejected, hzero, ?_, ?_⟩
  · apply early (Nat.le_refl _)
    · intro hm
      cases List.mem_singleton.mp hm
    · intro d hm
      cases List.mem_singleton.mp hm
  · refine (late ?_ ?_).1
    · change (Duration.ofSeconds 30).nanos + brittleRejected.lead < 30 * 10 ^ 9 + 1
      rw [hzero]
      decide
    · intro entry hm
      cases hm

/-- A call is told to wait for half a minute. After exactly that, and nothing in between, the next
call is rejected all the same, and told not to wait at all. -/
theorem rejected_after_suggested_wait :
    Run brittle brittleCustody (fun u => u.clock.Readable) (initial brittle (.empty none))
      [startRefused] brittleTripped ∧
    (brittleRejected.call 1).delivered = [.error (.circuitOpen (some (.ofSeconds 30)))] ∧
    let u := brittle.act brittleRejected (.advance (.ofSeconds 30))
    Run brittle brittleCustody (fun u => u.clock.Readable) brittleRejected
      [.advance (.ofSeconds 30)] u ∧
    u.clock.elapsed.nanos =
      brittleRejected.clock.elapsed.nanos + (Duration.ofSeconds 30).nanos ∧
    brittle.history brittleRejected [.advance (.ofSeconds 30)] = [] ∧
    ((brittle.act u startRefused).call 2).delivered = [.error (.circuitOpen (some .zero))] :=
  ⟨run_brittleTripped, delivered_brittleRejected, run_advance _ (by decide),
    by decide, rfl, by decide⟩

end Engine

end Reattempt
