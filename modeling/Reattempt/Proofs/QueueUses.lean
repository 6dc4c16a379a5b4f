import Reattempt.Proofs.Draining
import Reattempt.Proofs.Reentrance

/-!
An engine on a queue, used from outside: calls are started, handles used and clocks moved, attempts
are run one at a time or until none waits, and the queue is shut down. All that the engine does with
the queue is what code may do with one, so that its attempts are accounted for at any time, and with
them all its requests. Main statement: `queue_accounted`.
-/
namespace Reattempt.Engine

open Queue

/-! ### What an engine does with its queue -/

variable {p : Policy} {chance : Nat → Nat → Draw} {s t u : State (Queue Request)}
  {id left k : Nat} {c : Continuation} {new more : List (Note Request)}

/-- All that was requested on the way from one state to the other was noted as offered, and what was
accepted was noted with the delay it asked for. -/
structure Tells (s : State (Queue Request)) (new : List (Note Request))
    (t : State (Queue Request)) : Prop where
  requests : t.requests = s.requests ++ offeredOf new
  delay_eq : ∀ d r, .accepted d r ∈ new → d = r.delay

/-- The engine came from one state to the other, and used the queue as it was noted. -/
structure Noted (s : State (Queue Request)) (new : List (Note Request))
    (t : State (Queue Request)) : Prop extends Tells s new t where
  leads : Leads s.room new t.room

theorem Tells.of_eq (h : t.requests = s.requests) : Tells s [] t where
  requests := h.trans (List.append_nil _).symm
  delay_eq := nofun

theorem Tells.trans (h : Tells s new t) (h' : Tells t more u) : Tells s (new ++ more) u where
  requests := by rw [h'.requests, h.requests, offeredOf_append, List.append_assoc]
  delay_eq := fun d r hmem => (List.mem_append.mp hmem).elim (h.delay_eq d r) (h'.delay_eq d r)

theorem Tells.taken (h : Tells s new t) (r : Request) : Tells s (.taken r :: new) t where
  requests := h.requests
  delay_eq := fun d r' hmem => h.delay_eq d r' ((List.mem_cons.mp hmem).resolve_left nofun)

theorem Noted.of_eq (hroom : t.room = s.room) (hrequests : t.requests = s.requests) :
    Noted s [] t := ⟨.of_eq hrequests, hroom ▸ Leads.refl s.room⟩

theorem Noted.trans (h : Noted s new t) (h' : Noted t more u) : Noted s (new ++ more) u :=
  ⟨h.toTells.trans h'.toTells, h.leads.trans h'.leads⟩

/-- An attempt hands over one request at most. -/
theorem Course.noted (course : Course (queued p chance) id left c s t) : ∃ new, Noted s new t := by
  rcases course.asks_queued with
    ⟨hroom, hrequests⟩ | ⟨hrequests, ⟨cause, hrefusal, hroom⟩ | ⟨-, hpush⟩⟩
  · exact ⟨[], .of_eq hroom hrequests⟩
  · refine ⟨[.refused ((queued p chance).delay id c) ((queued p chance).request id c s) cause],
      ⟨hrequests, by simp⟩, ?_⟩
    rw [hroom]
    exact Leads.refuse (push_eq_error_iff.mpr hrefusal)
  · refine ⟨[.accepted ((queued p chance).delay id c) ((queued p chance).request id c s)],
      ⟨hrequests, ?_⟩, Leads.accept hpush⟩
    intro d r hmem
    cases List.mem_singleton.mp hmem
    rfl

theorem Started.noted {name : String} {operation : Operation} {options : Options}
    (started : Started (queued p chance) name operation options s t) : ∃ new, Noted s new t := by
  have gated : Noted s [] (s.gated name operation options) :=
    .of_eq (State.gated_room s name operation options) (s.gated_requests name operation options)
  have dropped (u : State (Queue Request)) (id : Nat) : Noted u [] (u.dropHandle id) :=
    .of_eq rfl rfl
  cases started with
  | barred hs => exact ⟨_, gated.trans (dropped _ _)⟩
  | rejected hl hr =>
    exact ⟨_, gated.trans (.of_eq rfl (State.requests_of_other rfl rfl))⟩
  | admitted hl hd course =>
    obtain ⟨new, h⟩ := course.noted
    exact ⟨_, gated.trans h⟩
  | thrown hl hd course =>
    obtain ⟨new, h⟩ := course.noted
    exact ⟨_, (gated.trans h).trans (dropped _ _)⟩

/-- What an attempt does that was taken. -/
theorem exists_code (p : Policy) (chance : Nat → Nat → Draw) (s : State (Queue Request))
    (room : Queue Request) (r : Request) : ∃ new,
    Leads room new ((queued p chance).act s (.run r room)).room ∧
      Tells s new ((queued p chance).act s (.run r room)) := by
  have acted := act_acted (queued p chance) s (.run r room)
  generalize (queued p chance).act s (.run r room) = t at acted
  cases acted with
  | resumed hw course =>
    obtain ⟨new, h⟩ := course.noted
    exact ⟨new, h.leads, h.toTells.requests, h.toTells.delay_eq⟩
  | spent ha hw =>
    rcases ha with ha | ha
    · cases ha
      exact ⟨[], Leads.refl room, .of_eq rfl⟩
    · cases ha
  | still ha => cases ha

theorem noted_runNext (p : Policy) (chance : Nat → Nat → Draw) (s : State (Queue Request)) :
    ∃ new, Noted s new (Queued.runNext (queued p chance) s).1 := by
  rcases runNext_cases (queued p chance) s with ⟨-, hidle⟩ | ⟨r, room, hpop, hact⟩
  · rw [hidle]
    exact ⟨[], .of_eq rfl rfl⟩
  · obtain ⟨new, code, tells⟩ := exists_code p chance s room r
    rw [hact]
    exact ⟨_, tells.taken r, .runNext hpop code⟩

/-- The loop uses the queue in every round, and stops where nothing waits or a round meets a
fault. -/
theorem Rounds.loops (rounds : Rounds (queued p chance) k s t)
    (hend : (t.room.waiting = [] ∧ u = t) ∨
      ∃ fault, Queued.runNext (queued p chance) t = (u, .error fault)) :
    ∃ new, Loops s.room new u.room ∧ Tells s new u := by
  induction rounds with
  | none =>
    -- The loop is about to find nothing, or to let go of the attempt that panics.
    rename_i s
    rcases hend with ⟨hidle, rfl⟩ | ⟨fault, hround⟩
    · exact ⟨[], .ranAll (pop?_eq_none_iff.mpr hidle), .of_eq rfl⟩
    · rcases runNext_cases (queued p chance) s with ⟨-, hidle⟩ | ⟨r, room, hpop, hact⟩
      · rw [hidle] at hround
        cases hround
      · rw [hround] at hact
        obtain ⟨new, code, tells⟩ := exists_code p chance s room r
        rw [← hact] at code tells
        exact ⟨_, .panicked hpop code, tells.taken r⟩
  | @more k s v t first rest ih =>
    obtain ⟨r, room, hpop, rfl⟩ := pop_of_runNext first
    obtain ⟨new, code, tells⟩ := exists_code p chance s room r
    obtain ⟨more, loops, tells'⟩ := ih hend
    exact ⟨_, .round hpop code loops, (tells.taken r).trans tells'⟩

theorem dropWaiting_eq {Room : Type} (id : Nat) (s : State Room) :
    (dropWaiting id s).1.room = s.room ∧ (dropWaiting id s).1.requests = s.requests := by
  cases hw : (s.call id).waiting with
  | none =>
    rw [dropWaiting_of_taken hw]
    exact ⟨rfl, rfl⟩
  | some c =>
    simp only [dropWaiting, hw, State.abandon_fst, State.failed_room, State.failed_requests]
    exact ⟨rfl, rfl⟩

theorem dropAll_eq (s : State (Queue Request)) (rs : List Request) :
    (Queued.dropAll s rs).1.room = s.room ∧ (Queued.dropAll s rs).1.requests = s.requests := by
  induction rs generalizing s with
  | nil => exact ⟨rfl, rfl⟩
  | cons r rs ih =>
    obtain ⟨hroom, hrequests⟩ := dropWaiting_eq r.call s
    obtain ⟨hroom', hrequests'⟩ := ih (dropWaiting r.call s).1
    exact ⟨hroom'.trans hroom, hrequests'.trans hrequests⟩

theorem shutdown_room (s : State (Queue Request)) :
    (Queued.shutdown s).1.room = s.room.shutdown.2 :=
  (dropAll_eq { s with room := s.room.shutdown.2 } s.room.waiting).1

theorem noted_shutdown (s : State (Queue Request)) : ∃ new, Noted s new (Queued.shutdown s).1 := by
  refine ⟨[.dropped s.room.waiting], ⟨?_, by simp⟩, ?_⟩
  · exact (dropAll_eq { s with room := s.room.shutdown.2 } s.room.waiting).2.trans
      (List.append_nil _).symm
  · rw [shutdown_room]
    exact Leads.shutdown s.room

/-! ### Sequences of uses -/

/-- What can be done to an engine on a queue while none of its attempts is being run. -/
inductive Use where
  | start (name : String) (operation : Operation) (options : Options)
  /-- A handle is used, a clock is moved or the breaker is asked. -/
  | still (a : Action (Queue Request))
  | runNext
  | runAll
  | shutdown

def use (e : Engine (Queue Request)) (s : State (Queue Request)) : Use → State (Queue Request)
  | .start name operation options => e.act s (.start name operation options)
  | .still a => e.act s a
  | .runNext => (Queued.runNext e s).1
  | .runAll => (Queued.runAll e s).1
  | .shutdown => (Queued.shutdown s).1

/-- A handle is used by one who has it. -/
def Use.Allowed (s : State (Queue Request)) : Use → Prop
  | .still a => a.still = true ∧ a.Allowed queueCustody s
  | _ => True

/-- From a state to the one that uses lead to, one after the other. -/
inductive Used (e : Engine (Queue Request)) (s : State (Queue Request)) :
    List Use → State (Queue Request) → Prop
  | nil : Used e s [] s
  | snoc {us t} {v : Use} (used : Used e s us t) (allowed : v.Allowed t) :
      Used e s (us ++ [v]) (e.use t v)

/-- Each waiting attempt has one owner, or the queue was shut down and holds nothing. -/
def Owned (p : Policy) (chance : Nat → Nat → Draw) (s : State (Queue Request)) : Prop :=
  Custody.Sole (e := queued p chance) queueCustody s ∨ s.room.stopped = true ∧ s.room.waiting = []

theorem noted_start (p : Policy) (chance : Nat → Nat → Draw) (s : State (Queue Request))
    (name : String) (operation : Operation) (options : Options) :
    ∃ new, Noted s new ((queued p chance).act s (.start name operation options)) :=
  (execute_started (queued p chance) name operation options s).noted

/-- The loop makes rounds enough for all that waits, and ends where a round meets a fault. -/
theorem Owned.noted_runAll (h : Owned p chance s) :
    ∃ new, Noted s new (Queued.runAll (queued p chance) s).1 := by
  rcases h with sole | ⟨-, hidle⟩
  · obtain ⟨k, t, rounds, hend⟩ := exists_rounds sole
    rcases hend with hidle | ⟨u, fault, hfault⟩
    · rw [rounds.runAll_eq_of_idle sole hidle]
      obtain ⟨new, loops, tells⟩ := rounds.loops (.inl ⟨hidle, rfl⟩)
      exact ⟨new, tells, loops.leads⟩
    · rw [rounds.runAll_eq sole hfault]
      obtain ⟨new, loops, tells⟩ := rounds.loops (.inr ⟨fault, hfault⟩)
      exact ⟨new, tells, loops.leads⟩
  · rw [Queued.runAll, go_of_idle _ _ hidle]
    exact ⟨[], .of_eq rfl rfl⟩

theorem Owned.noted (h : Owned p chance s) {v : Use} (allowed : v.Allowed s) :
    ∃ new, Noted s new ((queued p chance).use s v) := by
  cases v with
  | start name operation options => exact noted_start p chance s name operation options
  | still a =>
    exact ⟨[], .of_eq (act_still _ s allowed.1).room (requests_still _ s allowed.1)⟩
  | runNext => exact noted_runNext p chance s
  | runAll => exact h.noted_runAll
  | shutdown => exact noted_shutdown s

theorem sole_runNext (sole : Custody.Sole (e := queued p chance) queueCustody s) :
    Custody.Sole (e := queued p chance) queueCustody (Queued.runNext (queued p chance) s).1 := by
  rcases runNext_cases (queued p chance) s with ⟨-, hidle⟩ | ⟨r, room, hpop, hact⟩
  · rw [hidle]
    exact sole
  · rw [hact]
    exact sole.acted (allowed_of_pop hpop) (act_acted (queued p chance) s (.run r room))

theorem sole_runAll (sole : Custody.Sole (e := queued p chance) queueCustody s) :
    Custody.Sole (e := queued p chance) queueCustody (Queued.runAll (queued p chance) s).1 := by
  obtain ⟨k, t, rounds, hend⟩ := exists_rounds sole
  have hsole := rounds.sole sole
  rcases hend with hidle | ⟨u, fault, hfault⟩
  · rw [rounds.runAll_eq_of_idle sole hidle]
    exact hsole
  · have hlast := sole_runNext hsole
    rw [hfault] at hlast
    rw [rounds.runAll_eq sole hfault]
    exact hlast

theorem Owned.use (h : Owned p chance s) {v : Use} (allowed : v.Allowed s) :
    Owned p chance ((queued p chance).use s v) := by
  rcases h with sole | hidle
  · cases v with
    | start name operation options =>
      have free : Action.Allowed queueCustody s (.start name operation options) := trivial
      exact .inl (sole.acted free (act_acted (queued p chance) s _))
    | still a => exact .inl (sole.acted allowed.2 (act_acted (queued p chance) s a))
    | runNext => exact .inl (sole_runNext sole)
    | runAll => exact .inl (sole_runAll sole)
    | shutdown =>
      -- What the calls are left with is of no account, since the queue is empty and stays so.
      refine .inr ?_
      rw [Engine.use, shutdown_room]
      exact ⟨rfl, rfl⟩
  · -- After a shutdown nobody has to own anything, for nothing comes into the queue any more.
    obtain ⟨new, noted⟩ := Owned.noted (.inr hidle) allowed
    exact .inr (noted.leads.idle hidle)

theorem Used.owned {us : List Use} (used : Used (queued p chance) s us t) (h : Owned p chance s) :
    Owned p chance t := by
  induction used with
  | nil => exact h
  | snoc used allowed ih => exact ih.use allowed

theorem Used.noted {us : List Use} (used : Used (queued p chance) s us t) (h : Owned p chance s) :
    ∃ notes, Noted s notes t := by
  induction used with
  | nil => exact ⟨[], .of_eq rfl rfl⟩
  | snoc used allowed ih =>
    obtain ⟨notes, before⟩ := ih
    obtain ⟨new, last⟩ := (used.owned h).noted allowed
    exact ⟨notes ++ new, before.trans last⟩

/-- What was accepted was noted with the delay that it asked for. -/
theorem Tells.delays_eq (h : Tells s new t) :
    (acceptedOf new).map Prod.fst = (acceptedOf new).map fun x => x.2.delay := by
  apply List.map_congr_left
  intro x hx
  obtain ⟨note, hmem, hnote⟩ := List.mem_filterMap.mp hx
  cases note with
  | accepted d r =>
    cases hnote
    exact h.delay_eq d r hmem
  | _ => cases hnote

/-- Wherever code stands that uses a queue, be it an attempt that is run or what is to be done when
one is dropped, and whatever panicked before: the queue holds no more than it may, and what it
accepted was taken to be run, in the order of acceptance, or dropped by a shutdown, or still waits.
What an engine does with a queue is what such code does, and all its requests were handed over. -/
theorem queue_accounted (capacity : Option Nat) :
    (∀ (α : Type) (s : Scene α), s.Reached capacity → s.Sound capacity) ∧
    ∀ p chance us s, Used (queued p chance) (initial (queued p chance) (.empty capacity)) us s →
      ∃ notes, Scene.Reached capacity ⟨s.room, [.body], notes⟩ ∧
        s.requests = offeredOf notes ∧
        s.room.delays = (acceptedOf notes).map fun x => x.2.delay := by
  refine ⟨fun α s h => h.sound, ?_⟩
  intro p chance us s used
  obtain ⟨notes, noted⟩ := used.noted (.inl (sole_initial rfl))
  have reached : Scene.Reached capacity ⟨s.room, [.body], notes⟩ := noted.leads [] []
  have accounted : Accounted capacity s.room notes := reached.accounted
  exact ⟨notes, reached, noted.requests, accounted.delays_eq.trans noted.delays_eq⟩

/-- A shutdown inside an attempt that is run, after a panic in what was to be done for the one that
is dropped. -/
def upset : Scene Nat where
  queue := ⟨some 1, [], [.ofMillis 5, .ofMillis 7], true⟩
  frames := [.dropping [], .body, .body]
  notes := [.accepted (.ofMillis 5) 0, .refused (.ofMillis 5) 1 (.saturated 1), .taken 0,
    .accepted (.ofMillis 7) 2, .dropped [2], .refused (.ofMillis 9) 3 .shutDown]

/-- Two calls have their retries queued, the loop meets the panic of the first one, and the second
one is dropped. -/
def upsetUses : List Use :=
  [.start "svc" explosive ⟨none, none⟩, .start "svc" explosive ⟨none, none⟩, .runAll, .shutdown]

theorem queue_accounted_upset :
    upset.Reached (some 1) ∧ upset.Sound (some 1) ∧
    let e := queued steady fun _ _ => .middle
    let s := upsetUses.foldl e.use (initial e (.empty (some 2)))
    Used e (initial e (.empty (some 2))) upsetUses s ∧
    ∃ notes, Scene.Reached (some 2) ⟨s.room, [.body], notes⟩ ∧
      (offeredOf notes).map Request.call = [0, 1] ∧
      (acceptedOf notes).map (fun x => x.2.delay) = [.ofMillis 1000, .ofMillis 1000] := by
  have reached : upset.Reached (some 1) :=
    .tail (.tail (.tail (.tail (.tail (.tail (.tail (.tail (.tail (.tail .refl
      (.accept rfl)) (.refuse rfl)) .done) (.runNext rfl)) (.accept rfl)) (.shutdown rfl)) .drop)
      (.refuse rfl)) .panic) .panic
  refine ⟨reached, (queue_accounted (some 1)).1 Nat upset reached, ?_⟩
  intro e s
  have h0 : Used e (initial e (.empty (some 2))) [] _ := .nil
  have h1 := h0.snoc (v := .start "svc" explosive ⟨none, none⟩) trivial
  have h2 := h1.snoc (v := .start "svc" explosive ⟨none, none⟩) trivial
  have h3 := h2.snoc (v := .runAll) trivial
  have used : Used e (initial e (.empty (some 2))) upsetUses s :=
    h3.snoc (v := .shutdown) trivial
  obtain ⟨notes, reached, hrequests, hdelays⟩ := (queue_accounted (some 2)).2 _ _ _ s used
  have hcalls : s.requests.map Request.call = [0, 1] := by decide
  have hwaits : s.room.delays = [.ofMillis 1000, .ofMillis 1000] := by decide +kernel
  rw [hrequests] at hcalls
  rw [hdelays] at hwaits
  exact ⟨used, notes, reached, hcalls, hwaits⟩

end Reattempt.Engine
