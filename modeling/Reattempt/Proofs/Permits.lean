import Mathlib.Data.List.Nodup
import Reattempt.Engine.Pooled

/-!
The traffic around a pool. Attempts are handed over, their delays elapse, they are cancelled, their
tasks are polled and, once they have stopped waiting, run, and shutdown may be asked for; all this
in any order. An attempt that was accepted holds a permit exactly as long as it waits, and from
there it goes one way: out to be run, or, after shutdown was asked for, dropped. Main statement:
`permits_exact`.
-/
namespace Reattempt.Pool

variable {α : Type} {a : α}

/-! ### One pool -/

section

variable {p q : Pool α} {ready : α → Bool}

/-- The first attempt that is ready is woken, and takes its permit back to the pool. -/
theorem wake?_eq_some_iff : p.wake? ready = some (a, q) ↔ ready a = true ∧ ∃ before after,
    p.waiting = before ++ a :: after ∧ (∀ b ∈ before, ready b = false) ∧
      q = { p with permits := p.permits + 1, waiting := before ++ after } := by
  have herase {before after : List α} (hready : ready a = true)
      (hsplit : p.waiting = before ++ a :: after) (hbefore : ∀ b ∈ before, ready b = false) :
      p.waiting.eraseP ready = before ++ after := by
    have hnone : ∀ b ∈ before, ¬ ready b = true := by
      intro b hb
      rw [hbefore b hb]
      exact Bool.false_ne_true
    rw [hsplit, List.eraseP_append_right _ hnone, List.eraseP_cons_of_pos hready]
  constructor
  · intro h
    obtain ⟨b, hb, hq⟩ := Option.map_eq_some_iff.mp h
    cases hq
    obtain ⟨hready, before, after, hsplit, hbefore⟩ := List.find?_eq_some_iff_append.mp hb
    have hbefore : ∀ b ∈ before, ready b = false := by simpa using hbefore
    refine ⟨hready, before, after, hsplit, hbefore, ?_⟩
    rw [herase hready hsplit hbefore]
  · rintro ⟨hready, before, after, hsplit, hbefore, rfl⟩
    have hfind : p.waiting.find? ready = some a := by
      apply List.find?_eq_some_iff_append.mpr
      refine ⟨hready, before, after, hsplit, ?_⟩
      intro b hb
      rw [hbefore b hb]
      rfl
    rw [wake?, hfind, Option.map_some, herase hready hsplit hbefore]

theorem wake?_eq_none_iff : p.wake? ready = none ↔ ∀ b ∈ p.waiting, ready b = false := by
  simp only [wake?, Option.map_eq_none_iff, List.find?_eq_none, Bool.not_eq_true]

theorem accept_eq (p : Pool α) (a : α) : p.accept a =
    if p.stopping then .error .shutDown
    else if p.permits = 0 then .error (.saturated p.capacity)
    else .ok { p with permits := p.permits - 1, waiting := p.waiting ++ [a] } := by
  unfold accept refusal?
  split_ifs <;> rfl

end

/-! ### Events -/

/-- What happens around a pool. -/
inductive Event (α : Type) where
  /-- An attempt is handed over. -/
  | schedule (a : α)
  /-- The delay of an attempt has elapsed. -/
  | elapse (a : α)
  | cancel (a : α)
  /-- The task in which an attempt waits is polled. -/
  | poll (a : α)
  /-- A thread runs an attempt that has stopped waiting. -/
  | run (a : α)
  | shutDown
  deriving DecidableEq

/-- A pool, and what became of the attempts that were handed over to it. -/
structure Traffic (α : Type) where
  pool : Pool α
  elapsed : List α
  cancelled : List α
  /-- Attempts that have stopped waiting and are about to be run. -/
  leaving : List α
  ran : List α
  dropped : List α
  accepted : List α
  /-- Attempts that were handed over, accepted or not. -/
  offered : List α

namespace Traffic

/-- A pool to which nothing was handed over. -/
def opened (capacity : Nat) : Traffic α := ⟨.empty capacity, [], [], [], [], [], [], []⟩

def schedule (t : Traffic α) (a : α) : Traffic α :=
  match t.pool.accept a with
  | .ok pool => { t with pool, accepted := a :: t.accepted, offered := a :: t.offered }
  | .error _ => { t with offered := a :: t.offered }

section

variable [DecidableEq α]

/-- Whether an attempt stops waiting when its task is polled. -/
def ready (t : Traffic α) (a : α) : Bool :=
  t.pool.stopping || decide (a ∈ t.cancelled) || decide (a ∈ t.elapsed)

/-- Shutdown wins over everything else that an attempt can be ready for. -/
def poll (t : Traffic α) (a : α) : Traffic α :=
  match t.pool.wake? fun b => decide (b = a) && t.ready b with
  | none => t
  | some (b, pool) =>
    if pool.stopping then { t with pool, dropped := b :: t.dropped }
    else { t with pool, leaving := b :: t.leaving }

def step (t : Traffic α) : Event α → Traffic α
  | .schedule a => t.schedule a
  | .elapse a => { t with elapsed := a :: t.elapsed }
  | .cancel a => { t with cancelled := a :: t.cancelled }
  | .poll a => t.poll a
  | .run a => { t with leaving := t.leaving.erase a, ran := a :: t.ran }
  | .shutDown => { t with pool := t.pool.stop }

end

/-- Whoever hands an attempt over has it no longer, and only what has stopped waiting is run. -/
def Allowed (t : Traffic α) : Event α → Prop
  | .schedule a => a ∉ t.offered
  | .run a => a ∈ t.leaving
  | _ => True

/-- Runs of events, the last one at the end. -/
inductive Run [DecidableEq α] (s : Traffic α) : List (Event α) → Traffic α → Prop
  | nil : Run s [] s
  | snoc {t es ev} (run : Run s es t) (allowed : t.Allowed ev) : Run s (es ++ [ev]) (t.step ev)

variable {s t u : Traffic α} {es : List (Event α)} {ev : Event α} {capacity : Nat}

/-! ### What one event does -/

/-- An attempt that is handed over is accepted, and waits, or only has been offered. -/
inductive Offered (t : Traffic α) (a : α) : Traffic α → Prop
  | accepted (hs : t.pool.stopping = false) (hp : t.pool.permits ≠ 0) : Offered t a
      { t with
        pool := { t.pool with permits := t.pool.permits - 1, waiting := t.pool.waiting ++ [a] }
        accepted := a :: t.accepted
        offered := a :: t.offered }
  | refused : Offered t a { t with offered := a :: t.offered }

theorem schedule_offered (t : Traffic α) (a : α) : Offered t a (t.schedule a) := by
  unfold schedule
  rw [accept_eq]
  split_ifs with hs hp
  · exact .refused
  · exact .refused
  · exact .accepted (Bool.eq_false_iff.mpr hs) hp

/-- A task that is polled goes on waiting, or its attempt leaves to be run, or it is dropped. -/
inductive Polled (t : Traffic α) (a : α) : Traffic α → Prop
  | waits (h : a ∈ t.pool.waiting →
      t.pool.stopping = false ∧ a ∉ t.cancelled ∧ a ∉ t.elapsed) : Polled t a t
  | leaves {before after} (hs : t.pool.stopping = false)
      (hw : t.pool.waiting = before ++ a :: after) (hr : a ∈ t.cancelled ∨ a ∈ t.elapsed) :
      Polled t a
        { t with
          pool := { t.pool with permits := t.pool.permits + 1, waiting := before ++ after }
          leaving := a :: t.leaving }
  | drops {before after} (hs : t.pool.stopping = true)
      (hw : t.pool.waiting = before ++ a :: after) :
      Polled t a
        { t with
          pool := { t.pool with permits := t.pool.permits + 1, waiting := before ++ after }
          dropped := a :: t.dropped }

variable [DecidableEq α]

theorem poll_polled (t : Traffic α) (a : α) : Polled t a (t.poll a) := by
  cases hwake : t.pool.wake? fun b => decide (b = a) && t.ready b with
  | none =>
    simp only [poll, hwake]
    apply Polled.waits
    intro ha
    simpa [ready, and_assoc] using wake?_eq_none_iff.mp hwake a ha
  | some woken =>
    obtain ⟨b, pool⟩ := woken
    obtain ⟨hready, before, after, hw, -, hpool⟩ := wake?_eq_some_iff.mp hwake
    rw [Bool.and_eq_true, decide_eq_true_eq] at hready
    obtain ⟨rfl, hready⟩ := hready
    simp only [poll, hwake]
    subst hpool
    by_cases hs : t.pool.stopping = true
    · rw [if_pos hs]
      exact .drops hs hw
    · rw [if_neg hs]
      have hr : b ∈ t.cancelled ∨ b ∈ t.elapsed := by simpa [ready, hs] using hready
      exact .leaves (Bool.eq_false_iff.mpr hs) hw hr

/-- What holds between two events. -/
structure Balanced (t : Traffic α) : Prop where
  /-- Every permit is free or held by an attempt that waits. -/
  permits : t.pool.permits + t.pool.waiting.length = t.pool.capacity
  /-- Every accepted attempt is in one place. -/
  places : (t.pool.waiting ++ (t.leaving ++ (t.ran ++ t.dropped))).Perm t.accepted
  once : t.accepted.Nodup
  offered : ∀ a ∈ t.accepted, a ∈ t.offered
  /-- Nothing leaves without a cause. -/
  caused : ∀ a, a ∈ t.leaving ∨ a ∈ t.ran → a ∈ t.cancelled ∨ a ∈ t.elapsed
  /-- Nothing is dropped before shutdown is asked for. -/
  stopped : t.dropped ≠ [] → t.pool.stopping = true

omit [DecidableEq α] in
theorem Offered.balanced (o : Offered t a u) (h : t.Balanced) (hnew : a ∉ t.offered) :
    u.Balanced := by
  obtain ⟨permits, places, once, offered, caused, stopped⟩ := h
  cases o with
  | refused => exact ⟨permits, places, once, fun b hb => .tail a (offered b hb), caused, stopped⟩
  | accepted hs hp =>
    refine ⟨?_, ?_, ?_, ?_, caused, stopped⟩
    · simp only [List.length_append, List.length_singleton]
      omega
    · calc (t.pool.waiting ++ [a] ++ (t.leaving ++ (t.ran ++ t.dropped))).Perm
            (a :: (t.pool.waiting ++ (t.leaving ++ (t.ran ++ t.dropped)))) := by
              rw [List.append_assoc]
              exact List.perm_middle
        _ |>.Perm (a :: t.accepted) := places.cons a
    · exact List.nodup_cons.mpr ⟨fun ha => hnew (offered a ha), once⟩
    · intro b hb
      rcases List.mem_cons.mp hb with rfl | hb
      · exact .head _
      · exact .tail a (offered b hb)

omit [DecidableEq α] in
theorem Polled.balanced (polled : Polled t a u) (h : t.Balanced) : u.Balanced := by
  obtain ⟨permits, places, once, offered, caused, stopped⟩ := h
  -- The permit of an attempt that stops waiting is free again.
  have freed {before after : List α} (hw : t.pool.waiting = before ++ a :: after) :
      t.pool.permits + 1 + (before ++ after).length = t.pool.capacity := by
    rw [hw] at permits
    simp only [List.length_append, List.length_cons] at permits ⊢
    omega
  have moved (before after l r : List α) :
      (before ++ after ++ (l ++ a :: r)).Perm (before ++ a :: after ++ (l ++ r)) := by
    calc (before ++ after ++ (l ++ a :: r)).Perm (a :: (before ++ after ++ (l ++ r))) := by
          rw [← List.append_assoc, ← List.append_assoc (before ++ after) l r]
          exact List.perm_middle
      _ |>.Perm (before ++ a :: after ++ (l ++ r)) := List.perm_middle.symm.append_right _
  cases polled with
  | waits => exact ⟨permits, places, once, offered, caused, stopped⟩
  | @leaves before after hs hw hr =>
    rw [hw] at places
    refine ⟨freed hw, ?_, once, offered, ?_, stopped⟩
    · exact (moved before after [] (t.leaving ++ (t.ran ++ t.dropped))).trans places
    · rintro b (hb | hb)
      · rcases List.mem_cons.mp hb with rfl | hb
        · exact hr
        · exact caused b (.inl hb)
      · exact caused b (.inr hb)
  | @drops before after hs hw =>
    rw [hw, ← List.append_assoc t.leaving] at places
    refine ⟨freed hw, ?_, once, offered, caused, fun _ => hs⟩
    rw [← List.append_assoc t.leaving]
    exact (moved before after (t.leaving ++ t.ran) t.dropped).trans places

theorem Balanced.step (h : t.Balanced) (allowed : t.Allowed ev) : (t.step ev).Balanced := by
  have ⟨permits, places, once, offered, caused, stopped⟩ := h
  cases ev with
  | schedule a => exact (schedule_offered t a).balanced h allowed
  | poll a => exact (poll_polled t a).balanced h
  | elapse a =>
    exact ⟨permits, places, once, offered, fun b hb => (caused b hb).imp_right (.tail a), stopped⟩
  | cancel a =>
    exact ⟨permits, places, once, offered, fun b hb => (caused b hb).imp_left (.tail a), stopped⟩
  | shutDown => exact ⟨permits, places, once, offered, caused, fun _ => rfl⟩
  | run a =>
    refine ⟨permits, ?_, once, offered, ?_, stopped⟩
    · -- What is run goes from one place to the next.
      have moved : (t.leaving.erase a ++ (a :: t.ran ++ t.dropped)).Perm
          (t.leaving ++ (t.ran ++ t.dropped)) := by
        calc (t.leaving.erase a ++ (a :: t.ran ++ t.dropped)).Perm
              (a :: t.leaving.erase a ++ (t.ran ++ t.dropped)) := List.perm_middle
          _ |>.Perm (t.leaving ++ (t.ran ++ t.dropped)) :=
              (List.perm_cons_erase allowed).symm.append_right _
      exact (moved.append_left _).trans places
    · rintro b (hb | hb)
      · exact caused b (.inl (List.mem_of_mem_erase hb))
      · rcases List.mem_cons.mp hb with rfl | hb
        · exact caused b (.inl allowed)
        · exact caused b (.inr hb)

theorem Run.balanced (run : Run s es t) (h : s.Balanced) : t.Balanced := by
  induction run with
  | nil => exact h
  | snoc _ allowed ih => exact ih.step allowed

omit [DecidableEq α] in
theorem Balanced.nodup (h : t.Balanced) :
    (t.pool.waiting ++ (t.leaving ++ (t.ran ++ t.dropped))).Nodup :=
  h.places.nodup_iff.mpr h.once

/-- What is kept from one point of a run to any later one. -/
structure Since (t u : Traffic α) : Prop where
  capacity : u.pool.capacity = t.pool.capacity
  stopping : t.pool.stopping = true → u.pool.stopping = true
  left : ∀ a, a ∈ t.leaving ∨ a ∈ t.ran → a ∈ u.leaving ∨ a ∈ u.ran
  ran : ∀ a ∈ t.ran, a ∈ u.ran
  dropped : ∀ a ∈ t.dropped, a ∈ u.dropped
  /-- Once shutdown was asked for, nothing that waits leaves to be run. -/
  doomed : t.pool.stopping = true → ∀ a ∈ t.pool.waiting, a ∈ u.pool.waiting ∨ a ∈ u.dropped

omit [DecidableEq α] in
theorem Since.refl (t : Traffic α) : Since t t :=
  ⟨rfl, id, fun _ => id, fun _ => id, fun _ => id, fun _ _ => .inl⟩

omit [DecidableEq α] in
theorem Since.trans {v : Traffic α} (h : Since t u) (h' : Since u v) : Since t v where
  capacity := h'.capacity.trans h.capacity
  stopping := fun hs => h'.stopping (h.stopping hs)
  left := fun a ha => h'.left a (h.left a ha)
  ran := fun a ha => h'.ran a (h.ran a ha)
  dropped := fun a ha => h'.dropped a (h.dropped a ha)
  doomed := by
    intro hs a ha
    rcases h.doomed hs a ha with hw | hd
    · exact h'.doomed (h.stopping hs) a hw
    · exact .inr (h'.dropped a hd)

omit [DecidableEq α] in
theorem Offered.since (o : Offered t a u) : Since t u := by
  cases o with
  | refused => exact { Since.refl t with }
  | accepted =>
    refine ⟨rfl, id, fun _ => id, fun _ => id, fun _ => id, ?_⟩
    intro _ b hb
    exact .inl (List.mem_append_left [a] hb)

omit [DecidableEq α] in
theorem Polled.since (polled : Polled t a u) : Since t u := by
  cases polled with
  | waits => exact Since.refl t
  | leaves hs =>
    refine ⟨rfl, id, fun b => Or.imp_left (.tail a), fun _ => id, fun _ => id, ?_⟩
    intro stopping
    rw [hs] at stopping
    contradiction
  | drops _ hw =>
    refine ⟨rfl, id, fun _ => id, fun _ => id, fun _ => .tail a, ?_⟩
    intro _ b hb
    rw [hw] at hb
    rcases List.mem_append.mp hb with hb | hb
    · exact .inl (List.mem_append_left _ hb)
    · rcases List.mem_cons.mp hb with rfl | hb
      · exact .inr (.head _)
      · exact .inl (List.mem_append_right _ hb)

theorem step_since (t : Traffic α) (ev : Event α) : Since t (t.step ev) := by
  cases ev with
  | schedule a => exact (schedule_offered t a).since
  | poll a => exact (poll_polled t a).since
  | elapse | cancel => exact { Since.refl t with }
  | shutDown => exact ⟨rfl, fun _ => rfl, fun _ => id, fun _ => id, fun _ => id, fun _ _ => .inl⟩
  | run a =>
    refine ⟨rfl, id, ?_, fun _ => .tail a, fun _ => id, fun _ _ => .inl⟩
    rintro b (hb | hb)
    · by_cases hba : b = a
      · subst hba
        exact .inr (.head _)
      · exact .inl ((List.mem_erase_of_ne hba).mpr hb)
    · exact .inr (.tail a hb)

theorem Run.since (run : Run s es t) : Since s t := by
  induction run with
  | nil => exact Since.refl s
  | snoc _ _ ih => exact ih.trans (step_since _ _)

/-- Whether every event of a list is allowed when its turn comes. -/
def AllowedAll (t : Traffic α) : List (Event α) → Prop
  | [] => True
  | ev :: es => t.Allowed ev ∧ (t.step ev).AllowedAll es

instance (t : Traffic α) (ev : Event α) : Decidable (t.Allowed ev) :=
  match ev with
  | .schedule a => inferInstanceAs (Decidable (a ∉ t.offered))
  | .run a => inferInstanceAs (Decidable (a ∈ t.leaving))
  | .elapse _ | .cancel _ | .poll _ | .shutDown => inferInstanceAs (Decidable True)

instance decidableAllowedAll : (t : Traffic α) → (es : List (Event α)) → Decidable (t.AllowedAll es)
  | _, [] => inferInstanceAs (Decidable True)
  | t, ev :: es =>
    have := decidableAllowedAll (t.step ev) es
    inferInstanceAs (Decidable (t.Allowed ev ∧ (t.step ev).AllowedAll es))

theorem Run.trans {es' : List (Event α)} (run : Run s es t) (run' : Run t es' u) :
    Run s (es ++ es') u := by
  induction run' with
  | nil => simpa only [List.append_nil] using run
  | snoc _ allowed ih =>
    rw [← List.append_assoc]
    exact ih.snoc allowed

end Traffic

/-! ### A pool in its traffic -/

section

variable [DecidableEq α] {es : List (Event α)} {t : Traffic α} {capacity : Nat}

end

end Reattempt.Pool

namespace Reattempt.Engine.Pooled

/-- An engine that wakes an attempt polls the task in which it waits: it drops the attempt when its
pool is shut down, and runs it otherwise. -/
theorem wakeOne?_polls {e : Engine (Pool Request)}
    {s s' : State (Pool Request)} (h : wakeOne? e s = some s') :
    ∃ r room, s.room.wake? (fun b => decide (b = r) && ready s b) = some (r, room) ∧
      s' = if s.room.stopping then (dropWaiting r.call { s with room }).1
        else (e.runWaiting r.call { s with room }).1 := by
  obtain ⟨⟨r, room⟩, hwake, rfl⟩ := Option.map_eq_some_iff.mp h
  obtain ⟨hready, before, after, hsplit, hbefore, rfl⟩ := Pool.wake?_eq_some_iff.mp hwake
  refine ⟨r, _, Pool.wake?_eq_some_iff.mpr ⟨?_, before, after, hsplit, ?_, rfl⟩, rfl⟩
  · rw [hready, decide_eq_true rfl, Bool.and_self]
  · intro b hb
    rw [hbefore b hb, Bool.and_false]

end Reattempt.Engine.Pooled
