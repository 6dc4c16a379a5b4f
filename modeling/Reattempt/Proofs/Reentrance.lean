import Mathlib.Logic.Relation
import Reattempt.Proofs.Queues

/-!
A queue in use. Code that uses a queue may be an attempt that is run or what is to be done when one
is dropped, so that one use begins inside another; it may go on for ever, and panic wherever it
stands. Whatever it does, what the queue accepted was taken to be run, oldest first, or dropped by a
shutdown, or still waits. Main statement: `Scene.Reached.sound`.
-/
namespace Reattempt.Queue

variable {α : Type}

/-- What is noted when a queue is used. -/
inductive Note (α : Type) where
  | accepted (delay : Duration) (a : α)
  | refused (delay : Duration) (a : α) (why : ScheduleError)
  /-- Taken to be run. -/
  | taken (a : α)
  /-- A shutdown let go of these. -/
  | dropped (as : List α)

namespace Note

def accepted? : Note α → Option (Duration × α)
  | accepted delay a => some (delay, a)
  | _ => none

/-- What was handed over, accepted or not. -/
def offered? : Note α → Option α
  | accepted _ a | refused _ a _ => some a
  | _ => none

def taken? : Note α → Option α
  | taken a => some a
  | _ => none

def unrun : Note α → List α
  | dropped as => as
  | _ => []

end Note

/-- Who is at work. -/
inductive Frame (α : Type) where
  /-- Code that may do what it likes: the program, an attempt that is run, or what is to be done
  when one is dropped. -/
  | body
  /-- The loop that runs attempts until none waits. -/
  | loop
  /-- A shutdown that has these left to drop. -/
  | dropping (as : List α)

def Frame.isLoop : Frame α → Bool
  | loop => true
  | _ => false

/-- A queue, those who are at work, the innermost first, and all that was noted, oldest first. -/
structure Scene (α : Type) where
  queue : Queue α
  frames : List (Frame α)
  notes : List (Note α)

namespace Scene

/-- A queue that was not used yet, and a program. -/
def start (capacity : Option Nat) : Scene α := ⟨.empty capacity, [.body], []⟩

/-- What can happen next. A use that runs or drops an attempt puts the code of the attempt on top of
whoever made it. -/
inductive Step : Scene α → Scene α → Prop
  | accept {q q' fs ns d a} (h : q.push d a = .ok q') :
      Step ⟨q, .body :: fs, ns⟩ ⟨q', .body :: fs, ns ++ [.accepted d a]⟩
  /-- What was refused is dropped at once. -/
  | refuse {q fs ns d a e} (h : q.push d a = .error e) :
      Step ⟨q, .body :: fs, ns⟩ ⟨q, .body :: .body :: fs, ns ++ [.refused d a e]⟩
  | runNext {q q' fs ns a} (h : q.pop? = some (a, q')) :
      Step ⟨q, .body :: fs, ns⟩ ⟨q', .body :: .body :: fs, ns ++ [.taken a]⟩
  | runNone {q fs ns} (h : q.pop? = none) : Step ⟨q, .body :: fs, ns⟩ ⟨q, .body :: fs, ns⟩
  | runAll {q fs ns} : Step ⟨q, .body :: fs, ns⟩ ⟨q, .loop :: .body :: fs, ns⟩
  | round {q q' fs ns a} (h : q.pop? = some (a, q')) :
      Step ⟨q, .loop :: fs, ns⟩ ⟨q', .body :: .loop :: fs, ns ++ [.taken a]⟩
  | ranAll {q fs ns} (h : q.pop? = none) : Step ⟨q, .loop :: fs, ns⟩ ⟨q, fs, ns⟩
  | shutdown {q q' fs ns as} (h : q.shutdown = (as, q')) :
      Step ⟨q, .body :: fs, ns⟩ ⟨q', .dropping as :: .body :: fs, ns ++ [.dropped as]⟩
  | drop {q fs ns a as} :
      Step ⟨q, .dropping (a :: as) :: fs, ns⟩ ⟨q, .body :: .dropping as :: fs, ns⟩
  | droppedAll {q fs ns} : Step ⟨q, .dropping [] :: fs, ns⟩ ⟨q, fs, ns⟩
  | done {q fs ns} : Step ⟨q, .body :: fs, ns⟩ ⟨q, fs, ns⟩
  /-- A panic ends the loops around it; a shutdown goes on, and code may go on or panic in turn. -/
  | panic {q fs ns} : Step ⟨q, .body :: fs, ns⟩ ⟨q, fs.dropWhile Frame.isLoop, ns⟩

/-- A scene that uses of a queue of that capacity can lead to. -/
def Reached (capacity : Option Nat) (s : Scene α) : Prop :=
  Relation.ReflTransGen Step (start capacity) s

end Scene

/-! ### Accounts -/

/-- All that was accepted, oldest first, and its delays. -/
def acceptedOf (notes : List (Note α)) : List (Duration × α) := notes.filterMap Note.accepted?

/-- All that was handed over, oldest first. -/
def offeredOf (notes : List (Note α)) : List α := notes.filterMap Note.offered?

/-- All that was taken to be run, oldest first. -/
def takenOf (notes : List (Note α)) : List α := notes.filterMap Note.taken?

/-- All that was dropped without being run, oldest first. -/
def unrunOf (notes : List (Note α)) : List α := notes.flatMap Note.unrun

section

variable (notes more : List (Note α))

@[simp]
theorem acceptedOf_append : acceptedOf (notes ++ more) = acceptedOf notes ++ acceptedOf more :=
  List.filterMap_append

@[simp]
theorem offeredOf_append : offeredOf (notes ++ more) = offeredOf notes ++ offeredOf more :=
  List.filterMap_append

@[simp]
theorem takenOf_append : takenOf (notes ++ more) = takenOf notes ++ takenOf more :=
  List.filterMap_append

@[simp]
theorem unrunOf_append : unrunOf (notes ++ more) = unrunOf notes ++ unrunOf more :=
  List.flatMap_append

end

/-- What waits, as the notes tell it: what was accepted after all that was taken or dropped. -/
def pendingOf (notes : List (Note α)) : List α :=
  ((acceptedOf notes).map Prod.snd).drop (takenOf notes ++ unrunOf notes).length

/-- The queue was shut down. -/
def ShutDown (notes : List (Note α)) : Prop := ∃ as, .dropped as ∈ notes

/-- The note is the one that has to come after those. -/
def Note.Follows (capacity : Option Nat) (before : List (Note α)) : Note α → Prop
  | accepted _ _ => ¬ ShutDown before ∧ ∀ n, capacity = some n → (pendingOf before).length < n
  | refused _ _ why => ShutDown before ∧ why = .shutDown ∨
      ¬ ShutDown before ∧ ∃ n, capacity = some n ∧ n ≤ (pendingOf before).length ∧
        why = .saturated n
  | taken a => (pendingOf before).head? = some a
  | dropped as => as = pendingOf before

/-- The queue is what the notes tell. -/
structure Accounted (capacity : Option Nat) (q : Queue α) (notes : List (Note α)) : Prop where
  capacity_eq : q.capacity = capacity
  within : ∀ n, capacity = some n → q.waiting.length ≤ n
  /-- In the order of acceptance, what was taken to be run comes first, then what a shutdown let go
  of, and then what waits. -/
  conserved : (acceptedOf notes).map Prod.snd = takenOf notes ++ unrunOf notes ++ q.waiting
  delays_eq : q.delays = (acceptedOf notes).map Prod.fst
  stopped_iff : q.stopped = true ↔ ShutDown notes
  idle : q.stopped = true → q.waiting = []

/-- What one use does to a queue, and what is noted of it. -/
inductive Touched : Queue α → List (Note α) → Queue α → Prop
  | untouched {q} : Touched q [] q
  | accepted {q q' d a} (h : q.push d a = .ok q') : Touched q [.accepted d a] q'
  | refused {q d a e} (h : q.push d a = .error e) : Touched q [.refused d a e] q
  | taken {q q' a} (h : q.pop? = some (a, q')) : Touched q [.taken a] q'
  | stopped {q q' as} (h : q.shutdown = (as, q')) : Touched q [.dropped as] q'

theorem Touched.noted {q q' : Queue α} {new : List (Note α)} (touched : Touched q new q') :
    new = [] ∨ ∃ note, new = [note] := by
  cases touched with
  | untouched => exact .inl rfl
  | _ => exact .inr ⟨_, rfl⟩

theorem Scene.Step.touched {s t : Scene α} (step : Scene.Step s t) :
    ∃ new, t.notes = s.notes ++ new ∧ Touched s.queue new t.queue := by
  cases step with
  | accept h => exact ⟨_, rfl, .accepted h⟩
  | refuse h => exact ⟨_, rfl, .refused h⟩
  | runNext h | round h => exact ⟨_, rfl, .taken h⟩
  | shutdown h => exact ⟨_, rfl, .stopped h⟩
  | _ => exact ⟨[], (List.append_nil _).symm, .untouched⟩

namespace Accounted

variable {capacity : Option Nat} {q q' : Queue α} {notes new : List (Note α)} {d : Duration} {a : α}
  {e : ScheduleError} {as : List α}

theorem empty (capacity : Option Nat) : Accounted capacity (Queue.empty capacity : Queue α) [] where
  capacity_eq := rfl
  within := fun _ _ => Nat.zero_le _
  conserved := rfl
  delays_eq := rfl
  stopped_iff := by simp [Queue.empty, ShutDown]
  idle := fun h => nomatch h

/-- Nothing was dropped before the queue is shut down. -/
theorem unrun_eq (h : Accounted capacity q notes) (hs : q.stopped = false) :
    unrunOf notes = [] := by
  apply List.flatMap_eq_nil_iff.mpr
  intro note hnote
  cases note with
  | dropped as =>
    have hstopped := h.stopped_iff.mpr ⟨as, hnote⟩
    rw [hs] at hstopped
    cases hstopped
  | _ => rfl

theorem accept (h : Accounted capacity q notes) (hpush : q.push d a = .ok q') :
    Accounted capacity q' (notes ++ [.accepted d a]) := by
  obtain ⟨hnone, rfl⟩ := eq_of_push hpush
  obtain ⟨hs, hroom⟩ := refusal?_eq_none_iff.mp hnone
  have haccepted : acceptedOf [Note.accepted d a] = [(d, a)] := rfl
  have htaken : takenOf [Note.accepted d a] = [] := rfl
  have hunrun : unrunOf [Note.accepted d a] = [] := rfl
  refine ⟨h.capacity_eq, fun n hn => ?_, ?_, ?_, ?_, fun hstopped => ?_⟩
  · rw [List.length_append, List.length_singleton]
    exact hroom n (h.capacity_eq.trans hn)
  · simp [haccepted, htaken, hunrun, h.conserved]
  · simp [haccepted, h.delays_eq]
  · simpa [ShutDown] using h.stopped_iff
  · rw [hs] at hstopped
    cases hstopped

theorem refuse (h : Accounted capacity q notes) :
    Accounted capacity q (notes ++ [.refused d a e]) := by
  have haccepted : acceptedOf [Note.refused d a e] = [] := rfl
  have htaken : takenOf [Note.refused d a e] = [] := rfl
  have hunrun : unrunOf [Note.refused d a e] = [] := rfl
  refine ⟨h.capacity_eq, h.within, ?_, ?_, ?_, h.idle⟩
  · simp [haccepted, htaken, hunrun, h.conserved]
  · simp [haccepted, h.delays_eq]
  · simpa [ShutDown] using h.stopped_iff

theorem take (h : Accounted capacity q notes) (hpop : q.pop? = some (a, q')) :
    Accounted capacity q' (notes ++ [.taken a]) := by
  obtain ⟨hwaiting, hq⟩ := waiting_of_pop hpop
  -- Something waited, so nothing was dropped so far, and what waits follows on what was taken.
  have hs : q.stopped = false := by
    apply Bool.eq_false_iff.mpr
    intro hstopped
    rw [h.idle hstopped] at hwaiting
    cases hwaiting
  have hcapacity : q'.capacity = q.capacity := by rw [hq]
  have hstopped : q'.stopped = q.stopped := by rw [hq]
  have hdelays : q'.delays = q.delays := by rw [hq]
  have haccepted : acceptedOf [Note.taken a] = [] := rfl
  have htaken : takenOf [Note.taken a] = [a] := rfl
  have hunrun : unrunOf [Note.taken a] = [] := rfl
  refine ⟨hcapacity.trans h.capacity_eq, fun n hn => ?_, ?_, ?_, ?_, fun hstop => ?_⟩
  · have hle := h.within n hn
    rw [hwaiting, List.length_cons] at hle
    exact Nat.le_of_succ_le hle
  · simp [haccepted, htaken, hunrun, h.conserved, h.unrun_eq hs, hwaiting]
  · simp [haccepted, hdelays, h.delays_eq]
  · rw [hstopped]
    simpa [ShutDown] using h.stopped_iff
  · rw [hstopped, hs] at hstop
    cases hstop

theorem stop (h : Accounted capacity q notes) (hstop : q.shutdown = (as, q')) :
    Accounted capacity q' (notes ++ [.dropped as]) := by
  cases hstop
  have haccepted : acceptedOf [Note.dropped q.waiting] = [] := rfl
  have htaken : takenOf [Note.dropped q.waiting] = [] := rfl
  have hunrun : unrunOf [Note.dropped q.waiting] = q.waiting := List.append_nil _
  refine ⟨h.capacity_eq, fun _ _ => Nat.zero_le _, ?_, ?_, ?_, fun _ => rfl⟩
  · simp [haccepted, htaken, hunrun, h.conserved]
  · simp [haccepted, h.delays_eq]
  · simp [ShutDown]

theorem touched (h : Accounted capacity q notes) (touched : Touched q new q') :
    Accounted capacity q' (notes ++ new) := by
  cases touched with
  | untouched => exact (List.append_nil notes).symm ▸ h
  | accepted hpush => exact h.accept hpush
  | refused hpush => exact h.refuse
  | taken hpop => exact h.take hpop
  | stopped hstop => exact h.stop hstop

theorem pending_eq (h : Accounted capacity q notes) : pendingOf notes = q.waiting := by
  rw [pendingOf, h.conserved, List.drop_left]

theorem running_iff (h : Accounted capacity q notes) : q.stopped = false ↔ ¬ ShutDown notes := by
  rw [← h.stopped_iff, Bool.not_eq_true]

theorem follows {note : Note α} (h : Accounted capacity q notes) (touched : Touched q [note] q') :
    note.Follows capacity notes := by
  cases touched with
  | accepted hpush =>
    obtain ⟨hs, hroom⟩ := refusal?_eq_none_iff.mp (eq_of_push hpush).1
    refine ⟨h.running_iff.mp hs, fun n hn => ?_⟩
    rw [h.pending_eq]
    exact hroom n (h.capacity_eq.trans hn)
  | refused hpush =>
    have hwhy := refusal?_eq_some_iff.mp (push_eq_error_iff.mp hpush)
    rwa [h.stopped_iff, h.running_iff, h.capacity_eq, ← h.pending_eq] at hwhy
  | taken hpop =>
    rw [Note.Follows, h.pending_eq, (waiting_of_pop hpop).1, List.head?_cons]
  | stopped hstop =>
    cases hstop
    exact h.pending_eq.symm

end Accounted

namespace Scene

variable {capacity : Option Nat} {s t : Scene α} {d : Duration} {a : α} {e : ScheduleError}

/-- What is true wherever the code that uses a queue stands. -/
structure Sound (capacity : Option Nat) (s : Scene α) : Prop where
  accounted : Accounted capacity s.queue s.notes
  follows : ∀ before note, before ++ [note] <+: s.notes → note.Follows capacity before
  accepts_iff : ∀ d a, (∃ q, s.queue.push d a = .ok q) ↔ s.queue.stopped = false ∧
    ∀ n, capacity = some n → s.queue.waiting.length < n
  refuses_iff : ∀ d a e, s.queue.push d a = .error e ↔
    s.queue.stopped = true ∧ e = .shutDown ∨ s.queue.stopped = false ∧
      ∃ n, capacity = some n ∧ n ≤ s.queue.waiting.length ∧ e = .saturated n
  spared : ∀ t d a e, Step s t → t.notes = s.notes ++ [.refused d a e] → t.queue = s.queue

/-- Wherever the code that uses a queue stands, the queue is what was noted of it. -/
theorem Reached.accounted (h : Reached capacity s) : Accounted capacity s.queue s.notes := by
  induction h with
  | refl => exact Accounted.empty capacity
  | tail _ step ih =>
    obtain ⟨new, hnotes, touched⟩ := step.touched
    rw [hnotes]
    exact ih.touched touched

/-- A step notes one thing at most, and that follows from the account of all before. -/
theorem Reached.follows (h : Reached capacity s) :
    ∀ before note, before ++ [note] <+: s.notes → note.Follows capacity before := by
  induction h with
  | refl =>
    intro before note hprefix
    exact absurd (List.prefix_nil.mp hprefix) (List.concat_ne_nil _ _)
  | @tail s t reached step ih =>
    intro before note hprefix
    obtain ⟨new, hnotes, touched⟩ := step.touched
    rw [hnotes] at hprefix
    -- The note is the one of this step, or it was there before.
    rcases touched.noted with rfl | ⟨last, rfl⟩
    · rw [List.append_nil] at hprefix
      exact ih before note hprefix
    · rcases List.prefix_concat_iff.mp hprefix with heq | hprefix
      · obtain ⟨rfl, rfl⟩ := List.append_singleton_inj.mp heq
        exact (Reached.accounted reached).follows touched
      · exact ih before note hprefix

theorem Step.spared (step : Step s t) (h : t.notes = s.notes ++ [.refused d a e]) :
    t.queue = s.queue := by
  obtain ⟨new, hnotes, touched⟩ := step.touched
  obtain rfl : new = [.refused d a e] := List.append_cancel_left (hnotes.symm.trans h)
  generalize t.queue = q at touched
  cases touched with
  | refused => rfl

theorem Reached.sound (h : Reached capacity s) : s.Sound capacity where
  accounted := h.accounted
  follows := h.follows
  accepts_iff := fun d a => by rw [exists_push_iff, h.accounted.capacity_eq]
  refuses_iff := fun d a e => by
    rw [push_eq_error_iff, refusal?_eq_some_iff, h.accounted.capacity_eq]
  spared := fun _ _ _ _ step h => step.spared h

/-- A queue that is shut down and empty stays so. -/
theorem Step.idle (step : Step s t) (h : s.queue.stopped = true ∧ s.queue.waiting = []) :
    t.queue.stopped = true ∧ t.queue.waiting = [] := by
  obtain ⟨new, -, touched⟩ := step.touched
  generalize s.queue = q at touched h
  generalize t.queue = q' at touched ⊢
  cases touched with
  | untouched | refused => exact h
  | accepted hpush =>
    have hnone := (eq_of_push hpush).1
    rw [refusal?_of_stopped h.1] at hnone
    cases hnone
  | taken hpop =>
    rw [pop?_eq_none_iff.mpr h.2] at hpop
    cases hpop
  | stopped hstop =>
    cases hstop
    exact ⟨rfl, rfl⟩

end Scene

/-! ### Code at work -/

section

variable {q q' q'' : Queue α} {new more : List (Note α)} {d : Duration} {a : α} {e : ScheduleError}

/-- Code at work can use the queue so that this is noted, and then go on. -/
def Leads (q : Queue α) (new : List (Note α)) (q' : Queue α) : Prop :=
  ∀ fs ns, Relation.ReflTransGen Scene.Step ⟨q, .body :: fs, ns⟩ ⟨q', .body :: fs, ns ++ new⟩

/-- The loop, begun by code at work, can use the queue so that this is noted, and come to an end. -/
def Loops (q : Queue α) (new : List (Note α)) (q' : Queue α) : Prop :=
  ∀ fs ns, Relation.ReflTransGen Scene.Step ⟨q, .loop :: .body :: fs, ns⟩
    ⟨q', .body :: fs, ns ++ new⟩

theorem Leads.refl (q : Queue α) : Leads q [] q := by
  intro fs ns
  rw [List.append_nil]

theorem Leads.trans (h : Leads q new q') (h' : Leads q' more q'') :
    Leads q (new ++ more) q'' := by
  intro fs ns
  rw [← List.append_assoc]
  exact (h fs ns).trans (h' fs (ns ++ new))

theorem Leads.accept (h : q.push d a = .ok q') : Leads q [.accepted d a] q' :=
  fun _ _ => .single (.accept h)

/-- What is refused is dropped, and nothing comes of that. -/
theorem Leads.refuse (h : q.push d a = .error e) : Leads q [.refused d a e] q :=
  fun _ _ => .tail (.single (.refuse h)) .done

/-- What code does in an attempt is noted after the attempt was taken. -/
theorem Leads.after (code : Leads q' new q'') (a : α) (fs : List (Frame α)) (ns : List (Note α)) :
    Relation.ReflTransGen Scene.Step ⟨q', .body :: fs, ns ++ [.taken a]⟩
      ⟨q'', .body :: fs, ns ++ .taken a :: new⟩ := by
  have attempt := code fs (ns ++ [.taken a])
  rwa [List.append_assoc, List.singleton_append] at attempt

theorem Leads.runNext (hpop : q.pop? = some (a, q')) (code : Leads q' new q'') :
    Leads q (.taken a :: new) q'' :=
  fun fs ns => .tail (.head (.runNext hpop) (code.after a (.body :: fs) ns)) .done

theorem Loops.ranAll (hpop : q.pop? = none) : Loops q [] q := by
  intro fs ns
  rw [List.append_nil]
  exact .single (.ranAll hpop)

theorem Loops.panicked (hpop : q.pop? = some (a, q')) (code : Leads q' new q'') :
    Loops q (.taken a :: new) q'' :=
  fun fs ns => .tail (.head (.round hpop) (code.after a (.loop :: .body :: fs) ns)) .panic

theorem Loops.round {w : Queue α} (hpop : q.pop? = some (a, q')) (code : Leads q' new q'')
    (rest : Loops q'' more w) : Loops q (.taken a :: new ++ more) w := by
  intro fs ns
  have attempt := code.after a (.loop :: .body :: fs) ns
  rw [← List.append_assoc]
  exact (Relation.ReflTransGen.tail (.head (.round hpop) attempt) .done).trans (rest fs _)

theorem Loops.leads (h : Loops q new q') : Leads q new q' :=
  fun fs ns => .head .runAll (h fs ns)

/-- Nothing comes of what is dropped by a shutdown. -/
theorem Leads.shutdown (q : Queue α) : Leads q [.dropped q.waiting] q.shutdown.2 := by
  intro fs ns
  have dropping (q : Queue α) (ns : List (Note α)) (as : List α) :
      Relation.ReflTransGen Scene.Step ⟨q, .dropping as :: .body :: fs, ns⟩
        ⟨q, .body :: fs, ns⟩ := by
    induction as with
    | nil => exact .single .droppedAll
    | cons a as ih => exact .head .drop (.head .done ih)
  exact .head (.shutdown rfl) (dropping _ _ q.waiting)

theorem Leads.idle (h : Leads q new q') (hq : q.stopped = true ∧ q.waiting = []) :
    q'.stopped = true ∧ q'.waiting = [] := by
  have kept {s t : Scene α} (path : Relation.ReflTransGen Scene.Step s t)
      (hs : s.queue.stopped = true ∧ s.queue.waiting = []) :
      t.queue.stopped = true ∧ t.queue.waiting = [] := by
    induction path with
    | refl => exact hs
    | tail _ step ih => exact step.idle ih
  exact kept (h [] []) hq

end

end Reattempt.Queue
