import Mathlib.Order.Bounds.Basic
import Reattempt.Proofs.Cooldown

/-!
When a closed breaker opens. A success takes one failure back, but never one that has not happened
yet, so that the failures which count at any time are the greatest surplus of failures over
successes since some earlier time. The breaker opens with the first stretch of its history whose
surplus meets the threshold, and stays open as long as nobody looks at it after its cooldown. Main
statement: `opened_iff_surplus`.
-/
namespace Reattempt.Breaker

/-! ### Histories -/

/-- A use that leaves the counts to failures and successes: no reset, and no failure that cannot be
dated. -/
def Used.Plain (used : Used) : Prop :=
  used.use ≠ .reset ∧ (used.use = .recordFailure → ∃ now, used.reading = .ok now)

/-- How often a breaker was used in one way. -/
def times (use : Use) (history : List Used) : Nat := history.countP (·.use = use)

/-- How many more failures than successes were recorded. -/
def surplus (history : List Used) : ℤ := times .recordFailure history - times .recordSuccess history

/-- What one use adds to the surplus. -/
def Used.weight (used : Used) : ℤ := surplus [used]

/-- The instant of the latest failure of a history. -/
def lastFailed (history : List Used) : Option Instant :=
  history.foldl (fun last used => used.failedAt?.or last) none

/-- A look at the breaker, if it is one, comes no later than the cooldown after the latest failure
of the history before it. -/
def Used.Timely (cooldown : Duration) (before : List Used) (used : Used) : Prop :=
  ∀ now t, used.use = .isOpen → used.reading = .ok now → lastFailed before = some t →
    now.nanos ≤ t.nanos + cooldown.nanos

/-- All looks of a history are timely. -/
def Prompt (cooldown : Duration) (history : List Used) : Prop :=
  ∀ before used, before ++ [used] <+: history → used.Timely cooldown before

variable {b u v : Breaker} {t : Instant} {history : List Used} {used : Used} {cooldown : Duration}
  {n : ℤ}

theorem times_append (use : Use) (xs ys : List Used) :
    times use (xs ++ ys) = times use xs + times use ys := List.countP_append

theorem surplus_append (xs ys : List Used) : surplus (xs ++ ys) = surplus xs + surplus ys := by
  unfold surplus
  rw [times_append, times_append]
  omega

theorem surplus_concat (history : List Used) (used : Used) :
    surplus (history ++ [used]) = surplus history + used.weight := surplus_append history [used]

theorem lastFailed_concat (history : List Used) (used : Used) :
    lastFailed (history ++ [used]) = used.failedAt?.or (lastFailed history) := by
  simp only [lastFailed, List.foldl_append, List.foldl_cons, List.foldl_nil]

theorem prompt_nil (cooldown : Duration) : Prompt cooldown [] := by
  intro before used hfirst
  cases List.append_ne_nil_of_right_ne_nil before (List.cons_ne_nil used [])
    (List.prefix_nil.mp hfirst)

theorem prompt_concat : Prompt cooldown (history ++ [used]) ↔
    Prompt cooldown history ∧ used.Timely cooldown history := by
  constructor
  · intro h
    refine ⟨fun before last hfirst => ?_, h history used List.prefix_rfl⟩
    exact h before last (hfirst.trans (List.prefix_append history [used]))
  · rintro ⟨h, timely⟩ before last hfirst
    rcases List.prefix_concat_iff.mp hfirst with hall | hearlier
    · obtain ⟨rfl, hlast⟩ := List.append_inj' hall rfl
      cases hlast
      exact timely
    · exact h before last hearlier

/-! ### One use -/

theorem recordSuccess_of_closed (h : u.circuit = .closed) :
    u.recordSuccess = { u with failures := u.failures - 1 } := by
  simp only [recordSuccess, h]

/-- Below its threshold a breaker counts every failure, for no threshold is larger than any
count. -/
theorem recordFailure_of_lt (h : u.failures < u.config.failureThreshold.toNat) (now : Instant) :
    (u.recordFailure (.ok now)).1 = { u with
      failures := u.failures + 1
      lastFailure := some now
      circuit := if u.config.failureThreshold.toNat ≤ u.failures + 1 then .opened
        else u.circuit } := by
  have hcount : countUp u.failures = u.failures + 1 := by
    have hmax : u.config.failureThreshold.toNat < 2 ^ 32 := u.config.failureThreshold.toNat_lt
    unfold countUp
    omega
  change u.countFailure.dateFailure now = _
  unfold countFailure dateFailure
  rw [hcount]

/-! ### The greatest surplus -/

/-- The surpluses of a history since each of its times, the latest included. -/
def surplusesSince (history : List Used) : Set ℤ := surplus '' {since | since <:+ history}

/-- One use adds its weight to every surplus, and a new time begins after it, with nothing since. -/
theorem isGreatest_concat (h : IsGreatest (surplusesSince history) n) (used : Used) :
    IsGreatest (surplusesSince (history ++ [used])) (max 0 (n + used.weight)) := by
  obtain ⟨⟨since, hsince, hn⟩, greatest⟩ := h
  constructor
  · by_cases hle : 0 ≤ n + used.weight
    · have hmax : max 0 (n + used.weight) = surplus (since ++ [used]) := by
        rw [surplus_concat, hn]
        omega
      rw [hmax]
      exact ⟨_, List.suffix_concat_iff.mpr (.inr ⟨since, rfl, hsince⟩), rfl⟩
    · have hmax : max 0 (n + used.weight) = surplus [] := by
        change _ = 0
        omega
      rw [hmax]
      exact ⟨_, List.nil_suffix, rfl⟩
  · rintro m ⟨since, hsince, rfl⟩
    rcases List.suffix_concat_iff.mp hsince with rfl | ⟨earlier, rfl, hearlier⟩
    · change 0 ≤ _
      omega
    · have hle : surplus earlier ≤ n := greatest ⟨earlier, hearlier, rfl⟩
      rw [surplus_concat]
      omega

/-! ### The invariant -/

/-- What a history of plain uses makes of a breaker that was closed and had counted nothing. -/
inductive Tallied (u : Breaker) (history : List Used) : Prop
  | closed (circuit : u.circuit = .closed)
      (greatest : IsGreatest (surplusesSince history) u.failures)
      (below : ∀ block, block <:+: history → surplus block < u.config.failureThreshold.toNat)
  | opened {t : Instant} (since : u.OpenSince t) (failed : lastFailed history = some t)
      (met : ∃ block, block <:+: history ∧ u.config.failureThreshold.toNat ≤ surplus block)

theorem tallied_nil (valid : b.config.validate = .ok ()) (closed : b.circuit = .closed)
    (clear : b.failures = 0) : Tallied b [] := by
  have hpos := b.config.failureThreshold_pos valid
  apply Tallied.closed closed
  · rw [clear]
    refine ⟨⟨[], List.nil_suffix, rfl⟩, ?_⟩
    rintro m ⟨since, hsince, rfl⟩
    rw [List.suffix_nil.mp hsince]
    exact le_refl 0
  · intro block hblock
    rw [List.infix_nil.mp hblock]
    change (0 : ℤ) < _
    omega

/-- A breaker that is still closed counts the greatest surplus. -/
theorem tallied_of_closed (closed : v.circuit = .closed)
    (greatest : IsGreatest (surplusesSince (history ++ [used])) v.failures)
    (below : ∀ block, block <:+: history → surplus block < v.config.failureThreshold.toNat)
    (hlt : v.failures < v.config.failureThreshold.toNat) : Tallied v (history ++ [used]) := by
  apply Tallied.closed closed greatest
  intro block hblock
  -- A stretch that reaches up to now has no greater surplus than the greatest.
  rcases List.infix_concat_iff.mp hblock with hlast | hearlier
  · have hle : surplus block ≤ v.failures := greatest.2 ⟨block, hlast, rfl⟩
    omega
  · exact below block hearlier

/-- An open breaker at which nobody looks too late stays open. -/
theorem tallied_of_opened (since : u.OpenSince t) (failed : lastFailed history = some t)
    (met : ∃ block, block <:+: history ∧ u.config.failureThreshold.toNat ≤ surplus block)
    (reading : Except Fault Instant) (use : Use)
    (plain : Used.Plain ⟨reading, use, (u.use reading use).2⟩)
    (timely : Used.Timely u.config.timeout history ⟨reading, use, (u.use reading use).2⟩) :
    Tallied (u.use reading use).1 (history ++ [⟨reading, use, (u.use reading use).2⟩]) := by
  have hrejects : (u.use reading use).2 ≠ .looked (.ok false) := by
    intro hreply
    cases use with
    | isOpen =>
      cases reading with
      | error fault =>
        rw [Breaker.use, since.isOpen_of_fault] at hreply
        cases hreply
      | ok now =>
        have hle : now.nanos ≤ t.nanos + u.config.timeout.nanos :=
          timely now t rfl rfl failed
        rw [Breaker.use, since.isOpen_of_le hle] at hreply
        cases hreply
    | _ => cases hreply
  let used : Used := ⟨reading, use, (u.use reading use).2⟩
  have stays : (u.use reading use).1.OpenSince (used.failedAt?.getD t) :=
    since.use rfl plain.1 hrejects
  refine .opened stays ?_ ?_
  · rw [lastFailed_concat, failed]
    cases Used.failedAt? _ <;> rfl
  · obtain ⟨block, hblock, hle⟩ := met
    rw [config_use]
    exact ⟨block, hblock.trans (List.prefix_append history _).isInfix, hle⟩

/-- What a closed breaker counts is moved by the weight of a use, and stops at zero; the failure
with which the count meets the threshold opens the breaker. -/
theorem tallied_of_use (h : Tallied u history) (reading : Except Fault Instant) (use : Use)
    (plain : Used.Plain ⟨reading, use, (u.use reading use).2⟩)
    (timely : Used.Timely u.config.timeout history ⟨reading, use, (u.use reading use).2⟩) :
    Tallied (u.use reading use).1 (history ++ [⟨reading, use, (u.use reading use).2⟩]) := by
  cases h with
  | opened since failed met => exact tallied_of_opened since failed met reading use plain timely
  | closed circuit greatest below =>
    have hlt : u.failures < u.config.failureThreshold.toNat := by
      obtain ⟨since, hsince, hcount⟩ := greatest.1
      have hbelow := below since hsince.isInfix
      omega
    have later := isGreatest_concat greatest ⟨reading, use, (u.use reading use).2⟩
    -- A use that writes nothing weighs nothing.
    have unmoved (hsame : (u.use reading use).1 = u)
        (hweight : Used.weight ⟨reading, use, (u.use reading use).2⟩ = 0) :
        Tallied (u.use reading use).1 (history ++ [⟨reading, use, (u.use reading use).2⟩]) := by
      have hmax : max 0 ((u.failures : ℤ) + 0) = u.failures := by omega
      rw [hweight, hmax] at later
      rw [hsame]
      exact tallied_of_closed circuit later below hlt
    cases use with
    | reset => exact absurd rfl plain.1
    | state => exact unmoved rfl rfl
    | snapshot => exact unmoved rfl rfl
    | isOpen =>
      have hopen : u.circuit ≠ .opened := by
        rw [circuit]
        exact Circuit.noConfusion
      exact unmoved (congrArg Prod.fst (isOpen_of_not_opened hopen reading)) rfl
    | recordSuccess =>
      have hmax : max 0 ((u.failures : ℤ) + -1) = ((u.failures - 1 : Nat) : ℤ) := by omega
      change IsGreatest _ (max 0 ((u.failures : ℤ) + -1)) at later
      rw [hmax] at later
      change Tallied u.recordSuccess _
      rw [recordSuccess_of_closed circuit]
      refine tallied_of_closed ?_ later below ?_
      · exact circuit
      · change u.failures - 1 < u.config.failureThreshold.toNat
        omega
    | recordFailure =>
      obtain ⟨now, hnow⟩ := plain.2 rfl
      cases hnow
      have hmax : max 0 ((u.failures : ℤ) + 1) = ((u.failures + 1 : Nat) : ℤ) := by omega
      change IsGreatest _ (max 0 ((u.failures : ℤ) + 1)) at later
      rw [hmax] at later
      change Tallied (u.recordFailure (.ok now)).1 _
      have hafter := recordFailure_of_lt hlt now
      by_cases hmet : u.config.failureThreshold.toNat ≤ u.failures + 1
      · have hopened : (u.recordFailure (.ok now)).1.circuit = .opened := by
          rw [hafter]
          exact if_pos hmet
        refine .opened (openSince_of_recordFailure hopened) ?_ ?_
        · rw [lastFailed_concat]
          rfl
        · obtain ⟨block, hblock, hsurplus⟩ := later.1
          refine ⟨block, hblock.isInfix, ?_⟩
          rw [hsurplus]
          change (u.config.failureThreshold.toNat : ℤ) ≤ _
          omega
      · rw [hafter, if_neg hmet]
        refine tallied_of_closed ?_ later below (Nat.lt_of_not_le hmet)
        exact circuit

theorem Uses.tallied (valid : b.config.validate = .ok ()) (closed : b.circuit = .closed)
    (clear : b.failures = 0) (uses : Uses b history u) (plain : ∀ used ∈ history, used.Plain)
    (prompt : Prompt b.config.timeout history) : Tallied u history := by
  induction uses with
  | nil => exact tallied_nil valid closed clear
  | @snoc v history uses reading use ih =>
    obtain ⟨earlier, timely⟩ := prompt_concat.mp prompt
    rw [← uses.config] at timely
    have before := ih (fun used hm => plain used (List.mem_append_left _ hm)) earlier
    exact tallied_of_use before reading use (plain _ (List.mem_append_right _ List.mem_cons_self))
      timely

/-- A breaker that was closed and had counted nothing, and that nobody looked at later than its
cooldown after the latest failure, is open exactly if in some stretch of its history the failures
outnumber the successes by the threshold at least. Otherwise it is closed, and it counts the
greatest surplus of failures over successes since any time. -/
theorem opened_iff_surplus (valid : b.config.validate = .ok ()) (closed : b.circuit = .closed)
    (clear : b.failures = 0) (uses : Uses b history u) (plain : ∀ used ∈ history, used.Plain)
    (prompt : Prompt b.config.timeout history) :
    (u.circuit = .opened ↔
      ∃ block, block <:+: history ∧ b.config.failureThreshold.toNat ≤ surplus block) ∧
    (u.circuit ≠ .opened → u.circuit = .closed ∧
      IsGreatest (surplusesSince history) u.failures) := by
  rw [← uses.config]
  cases uses.tallied valid closed clear plain prompt with
  | closed circuit greatest below =>
    refine ⟨⟨fun hopen => ?_, ?_⟩, fun _ => ⟨circuit, greatest⟩⟩
    · rw [circuit] at hopen
      cases hopen
    · rintro ⟨block, hblock, hle⟩
      have hlt := below block hblock
      omega
  | opened since failed met =>
    exact ⟨⟨fun _ => met, fun _ => since.circuit⟩, fun hn => absurd since.circuit hn⟩

/-- So many seconds after the start of the clock. -/
def second (n : UInt8) : Instant :=
  ⟨n.toNat * 1000000000, by
    have := n.toNat_lt
    simp only [Instant.limit]
    omega⟩

/-- Two failures open it, for thirty seconds. -/
def wary : BreakerConfig := ⟨2, .ofSeconds 30, 1⟩

/-- A failure that a success takes back, and two more with a look between them. -/
def relapse : List Used :=
  [⟨.ok (second 0), .recordFailure, .recorded none⟩,
    ⟨.ok (second 5), .recordSuccess, .recorded none⟩,
    ⟨.ok (second 10), .recordFailure, .recorded none⟩,
    ⟨.ok (second 40), .isOpen, .looked (.ok false)⟩,
    ⟨.ok (second 50), .recordFailure, .recorded none⟩]

/-- Before its last failure the breaker counts one, and with it the breaker opens. -/
theorem opened_iff_surplus_relapse : ∃ u v : Breaker,
    wary.validate = .ok () ∧ (∀ used ∈ relapse, used.Plain) ∧ Prompt wary.timeout relapse ∧
    Uses (fresh wary) (relapse.take 4) u ∧ u.circuit = .closed ∧
    IsGreatest (surplusesSince (relapse.take 4)) u.failures ∧ u.failures = 1 ∧
    Uses (fresh wary) relapse v ∧ v.circuit = .opened := by
  have valid : wary.validate = .ok () := ConfigError.firstOf_eq_ok.mpr (by decide)
  have plain : ∀ used ∈ relapse, used.Plain := by
    intro used hm
    simp only [relapse, List.mem_cons, List.not_mem_nil, or_false] at hm
    rcases hm with rfl | rfl | rfl | rfl | rfl
    all_goals exact ⟨by decide, fun _ => ⟨_, rfl⟩⟩
  have idle (before : List Used) (used : Used) (h : used.use ≠ .isOpen) :
      used.Timely wary.timeout before := fun _ _ hlook => absurd hlook h
  -- The one look comes thirty seconds after the second failure, and no later.
  have look : Used.Timely wary.timeout (relapse.take 3) relapse[3] := by
    intro now t _ hnow hlast
    cases hnow
    cases hlast
    decide
  have h1 : Prompt wary.timeout (relapse.take 1) :=
    prompt_concat.mpr ⟨prompt_nil _, idle [] relapse[0] (by decide)⟩
  have h2 : Prompt wary.timeout (relapse.take 2) :=
    prompt_concat.mpr ⟨h1, idle _ relapse[1] (by decide)⟩
  have h3 : Prompt wary.timeout (relapse.take 3) :=
    prompt_concat.mpr ⟨h2, idle _ relapse[2] (by decide)⟩
  have h4 : Prompt wary.timeout (relapse.take 4) := prompt_concat.mpr ⟨h3, look⟩
  have prompt : Prompt wary.timeout relapse :=
    prompt_concat.mpr ⟨h4, idle _ relapse[4] (by decide)⟩
  have earlier : Uses (fresh wary) (relapse.take 4) _ :=
    (((Uses.nil.snoc (.ok (second 0)) .recordFailure).snoc (.ok (second 5)) .recordSuccess).snoc
      (.ok (second 10)) .recordFailure).snoc (.ok (second 40)) .isOpen
  have whole : Uses (fresh wary) relapse _ := earlier.snoc (.ok (second 50)) .recordFailure
  obtain ⟨-, counts⟩ := opened_iff_surplus valid rfl rfl earlier
    (fun used hm => plain used (List.mem_of_mem_take hm)) h4
  obtain ⟨opens, -⟩ := opened_iff_surplus valid rfl rfl whole plain prompt
  obtain ⟨circuit, greatest⟩ := counts (by decide)
  refine ⟨_, _, valid, plain, prompt, earlier, circuit, greatest, by decide, whole, ?_⟩
  exact opens.mpr ⟨relapse.drop 2, (List.drop_suffix 2 relapse).isInfix, by decide⟩

end Reattempt.Breaker
