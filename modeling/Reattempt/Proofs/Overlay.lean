import Reattempt.Proofs.Catalogue

/-!
The variables as a whole. Which settings they make, and which error, is decided by what they hold,
one by one: each setting reflects its own variable and no other, the first malformed variable in the
order of reading is the one that is reported, and the settings are validated only where none is
malformed. Main statement: `ofVariables_exact`.
-/
namespace Reattempt

/-- The variable whose text is malformed. -/
def SettingsError.variable? : SettingsError → Option String
  | .invalidValue name _ _ | .invalidEntry name _ _ => some name
  | _ => none

namespace Form

open Variable

variable {f : Form} {name raw : String} {e : SettingsError}

/-- Nothing is listed. A value that is no list says nothing about that. -/
def Empty : (f : Form) → f.Value → Prop
  | kinds, (v : List FailureKind) => v = []
  | statuses, (v : List UInt16) => v = []
  | _, _ => True

/-- A text with nothing but blanks and commas in it lists nothing. -/
theorem empty_of_says {v : f.Value} (hblank : listItems raw = []) (h : f.Says raw v) :
    f.Empty v := by
  have hnil {α : Type} {said : List Char → α → Prop} {vs : List α} (h : SaysList said raw vs) :
      vs = [] := by
    obtain ⟨items, hitems, hvs⟩ := h
    rw [saysItems_iff.mp hitems, hblank] at hvs
    exact List.forall₂_nil_left_iff.mp hvs
  cases f with
  | kinds => exact hnil h
  | statuses => exact hnil h
  | _ => exact trivial

/-- Flags and texts that are taken as they stand are never malformed. -/
theorem exists_says_of_lenient (hf : f = flag ∨ f = verbatim) (raw : String) :
    ∃ v, f.Says raw v := by
  rcases hf with rfl | rfl
  · exact ⟨readFlag raw, read_eq_ok_iff.mp (rfl : Form.read "" flag raw = _)⟩
  · exact ⟨raw, rfl⟩

theorem variable?_of_readValue {α : Type} {read : String → Except ValueError α}
    (h : readValue name read raw = .error e) : e.variable? = some name := by
  unfold readValue at h
  split at h
  · contradiction
  · cases h
    rfl

theorem variable?_of_readList {α : Type} {read : String → Except ValueError α}
    (h : readList name read raw = .error e) : e.variable? = some name := by
  obtain ⟨-, item, -, -, -, hitem⟩ := mapM_eq_error_iff.mp h
  split at hitem
  · contradiction
  · cases hitem
    rfl

/-- An error names the variable that was read. -/
theorem variable?_of_read (h : f.read name raw = .error e) : e.variable? = some name := by
  cases f with rw [read] at h
  | kinds | statuses => exact variable?_of_readList h
  | flag | verbatim => cases h
  | _ => exact variable?_of_readValue h

end Form

namespace Setting

variable {lookup : String → Option String} {s t u : Settings} {k : Setting} {ks : List Setting}
  {e : SettingsError}

/-- The variable is not set, or it says a value. -/
def Readable (lookup : String → Option String) (k : Setting) : Prop :=
  ∀ raw, lookup k.name = some raw → ∃ v, k.form.Says raw v

/-- The variable is set to a text that is refused for this reason. -/
def Malformed (lookup : String → Option String) (k : Setting) (e : SettingsError) : Prop :=
  ∃ raw, lookup k.name = some raw ∧ k.read raw = .error e

theorem overlay_eq_error_iff :
    Variable.overlay lookup s k.toVariable = .error e ↔ k.Malformed lookup e := by
  unfold Variable.overlay Malformed toVariable
  cases hset : lookup k.name with
  | none =>
    constructor
    · intro h
      contradiction
    · rintro ⟨raw, h, -⟩
      contradiction
  | some raw =>
    simp only [Option.some.injEq, exists_eq_left']
    cases k.read raw <;> simp [Except.map]

theorem readable_iff : k.Readable lookup ↔ ∀ e, ¬ k.Malformed lookup e := by
  constructor
  · rintro h e ⟨raw, hset, hread⟩
    obtain ⟨v, hv⟩ := h raw hset
    rw [read_eq_ok_iff.mpr hv] at hread
    contradiction
  · intro h raw hset
    cases hread : k.read raw with
    | error e => exact absurd ⟨raw, hset, hread⟩ (h e)
    | ok v => exact ⟨v, read_eq_ok_iff.mp hread⟩

theorem Reflects.readable (h : k.Reflects lookup s t) : k.Readable lookup := by
  intro raw hset
  exact ⟨k.get t, (reflects_of_some hset).mp h⟩

theorem Reflects.unique (ht : k.Reflects lookup s t) (hu : k.Reflects lookup s u) :
    k.get t = k.get u := by
  cases hset : lookup k.name with
  | none =>
    rw [reflects_of_none hset] at ht hu
    rw [ht, hu]
  | some raw =>
    rw [reflects_of_some hset, ← read_eq_ok_iff] at ht hu
    exact Except.ok.inj (ht.symm.trans hu)

/-- A setting reflects no variable but its own. -/
theorem reflects_congr {lookup' : String → Option String} (h : lookup' k.name = lookup k.name) :
    k.Reflects lookup' s t ↔ k.Reflects lookup s t := by
  rw [Reflects, h, Reflects]

theorem foldlM_overlay_congr {lookup' : String → Option String}
    (h : ∀ k : Setting, lookup' k.name = lookup k.name) :
    (ks.map toVariable).foldlM (Variable.overlay lookup') s =
      (ks.map toVariable).foldlM (Variable.overlay lookup) s := by
  induction ks generalizing s with
  | nil => rfl
  | cons k ks ih =>
    have hoverlay : Variable.overlay lookup' s k.toVariable =
        Variable.overlay lookup s k.toVariable := by
      have hname : k.toVariable.name = k.name := rfl
      rw [Variable.overlay, Variable.overlay, hname, h]
    rw [List.map_cons, List.foldlM_cons, List.foldlM_cons, hoverlay]
    exact congrArg _ (funext fun s' => ih)

/-- Reading in turn ends with the first variable that is malformed. -/
theorem foldlM_overlay_eq_error_iff :
    (ks.map toVariable).foldlM (Variable.overlay lookup) s = .error e ↔
      ∃ before k after, ks = before ++ k :: after ∧ (∀ l ∈ before, l.Readable lookup) ∧
        k.Malformed lookup e := by
  induction ks generalizing s with
  | nil =>
    constructor
    · intro h
      contradiction
    · rintro ⟨before, k, after, hks, -⟩
      exact absurd hks.symm (List.append_ne_nil_of_right_ne_nil before (List.cons_ne_nil k after))
  | cons k ks ih =>
    rw [List.map_cons, List.foldlM_cons]
    cases hoverlay : Variable.overlay lookup s k.toVariable with
    | error e' =>
      -- This variable is the first malformed one, and there is only one way for it to be so.
      have hmalformed := overlay_eq_error_iff.mp hoverlay
      have hstop (e : SettingsError) : k.Malformed lookup e ↔ e' = e := by
        rw [← overlay_eq_error_iff (s := s), hoverlay, Except.error.injEq]
      constructor
      · intro h
        exact ⟨[], k, ks, rfl, fun _ hl => (List.not_mem_nil hl).elim,
          (hstop e).mpr (Except.error.inj h)⟩
      · rintro ⟨before, l, after, hks, hbefore, hl⟩
        cases before with
        | nil =>
          obtain ⟨rfl, -⟩ := List.cons.inj hks
          exact congrArg Except.error ((hstop e).mp hl)
        | cons b before =>
          obtain ⟨rfl, -⟩ := List.cons.inj hks
          exact absurd hmalformed (readable_iff.mp (hbefore k List.mem_cons_self) e')
    | ok s' =>
      -- A malformed variable is further on; what was read so far does not matter for it.
      have hreadable : k.Readable lookup := by
        rw [readable_iff]
        intro e' h
        rw [← overlay_eq_error_iff (s := s), hoverlay] at h
        contradiction
      refine (ih (s := s')).trans ?_
      constructor
      · rintro ⟨before, l, after, rfl, hbefore, hl⟩
        exact ⟨k :: before, l, after, rfl, List.forall_mem_cons.mpr ⟨hreadable, hbefore⟩, hl⟩
      · rintro ⟨before, l, after, hks, hbefore, hl⟩
        cases before with
        | nil =>
          obtain ⟨rfl, -⟩ := List.cons.inj hks
          exact absurd hl (readable_iff.mp hreadable e)
        | cons b before =>
          obtain ⟨rfl, rfl⟩ := List.cons.inj hks
          exact ⟨before, l, after, rfl, fun l hl => hbefore l (List.mem_cons_of_mem k hl), hl⟩

end Setting

namespace Settings

variable {lookup lookup' : String → Option String} {t : Settings} {e : SetupError}

theorem ofVariables_of_error {x : SettingsError}
    (h : Variable.all.foldlM (Variable.overlay lookup) standard = .error x) :
    ofVariables lookup = .error (.settings x) := by
  rw [ofVariables, h]
  rfl

/-- There are settings to validate just if no variable is malformed. -/
theorem exists_reflects_iff : (∃ t, ∀ k : Setting, k.Reflects lookup standard t) ↔
    ∀ k : Setting, k.Readable lookup := by
  constructor
  · rintro ⟨t, h⟩ k
    exact (h k).readable
  · intro h
    cases hfold : Variable.all.foldlM (Variable.overlay lookup) standard with
    | ok t => exact ⟨t, foldlM_all_eq_ok_iff.mp hfold⟩
    | error x =>
      rw [← Setting.map_toVariable_all] at hfold
      obtain ⟨before, k, after, -, -, hk⟩ := Setting.foldlM_overlay_eq_error_iff.mp hfold
      exact absurd hk (Setting.readable_iff.mp (h k) x)

theorem ofVariables_eq_ok_iff : ofVariables lookup = .ok t ↔
    (∀ k : Setting, k.Reflects lookup standard t) ∧ t.validate = .ok () := by
  constructor
  · intro h
    have hreflects := reflects_of_ofVariables h
    rw [ofVariables_of_reflects hreflects] at h
    refine ⟨hreflects, ?_⟩
    cases hvalid : t.validate with
    | ok => rfl
    | error x =>
      rw [hvalid] at h
      contradiction
  · rintro ⟨hreflects, hvalid⟩
    rw [ofVariables_of_reflects hreflects, hvalid]
    rfl

/-- What settings cannot be made of is reported as what it is: a malformed variable, the first one,
or else values that make no valid settings. -/
theorem ofVariables_eq_error_iff : ofVariables lookup = .error e ↔
    (∃ before k after x, Setting.all = before ++ k :: after ∧ (∀ l ∈ before, l.Readable lookup) ∧
      k.Malformed lookup x ∧ e = .settings x) ∨
    ∃ t x, (∀ k : Setting, k.Reflects lookup standard t) ∧ t.validate = .error x ∧
      e = .invalidConfig x := by
  cases hfold : Variable.all.foldlM (Variable.overlay lookup) standard with
  | error y =>
    have hfirst (x : SettingsError) : (∃ before k after, Setting.all = before ++ k :: after ∧
        (∀ l ∈ before, l.Readable lookup) ∧ k.Malformed lookup x) ↔ y = x := by
      rw [← Setting.foldlM_overlay_eq_error_iff (s := standard), Setting.map_toVariable_all, hfold,
        Except.error.injEq]
    rw [ofVariables_of_error hfold, Except.error.injEq]
    constructor
    · rintro rfl
      obtain ⟨before, k, after, hall, hbefore, hk⟩ := (hfirst y).mpr rfl
      exact .inl ⟨before, k, after, y, hall, hbefore, hk, rfl⟩
    · rintro (⟨before, k, after, x, hall, hbefore, hk, rfl⟩ | ⟨t, x, hreflects, -⟩)
      · rw [(hfirst x).mp ⟨before, k, after, hall, hbefore, hk⟩]
      · rw [foldlM_all_eq_ok_iff.mpr hreflects] at hfold
        contradiction
  | ok t =>
    -- The settings are the only ones that reflect the variables, so they are those validated.
    have hreflects := foldlM_all_eq_ok_iff.mp hfold
    rw [ofVariables_of_reflects hreflects]
    constructor
    · intro h
      cases hvalid : t.validate with
      | ok =>
        rw [hvalid] at h
        contradiction
      | error x =>
        rw [hvalid] at h
        exact .inr ⟨t, x, hreflects, hvalid, (Except.error.inj h).symm⟩
    · rintro (⟨before, k, after, x, -, -, hk, -⟩ | ⟨u, x, hu, hvalid, rfl⟩)
      · exact absurd hk (Setting.readable_iff.mp (hreflects k).readable x)
      · obtain rfl : t = u := Setting.ext_get fun k => (hreflects k).unique (hu k)
        rw [hvalid]
        rfl

/-- What the variables make is decided by the texts of the twenty of them. There are settings just
if each variable that is set says a value, blanks around it left out, and the values are valid
together; then each setting is what its own variable says, and the standard value if that is not
set, so that another text in one variable changes one setting only. Flags say yes with one of four
words and no with any other text, and a list without items is empty. Otherwise the error is that of
the first malformed variable in the order of reading, and that of the validation where none is
malformed. -/
theorem ofVariables_exact (lookup : String → Option String) :
    (∀ t, ofVariables lookup = .ok t ↔
      (∀ k : Setting, k.Reflects lookup standard t) ∧ t.validate = .ok ()) ∧
    ((∃ t, ∀ k : Setting, k.Reflects lookup standard t) ↔ ∀ k : Setting, k.Readable lookup) ∧
    (∀ k : Setting, k.form = .flag ∨ k.form = .verbatim → k.Readable lookup) ∧
    (∀ t (k : Setting) raw, k.Reflects lookup standard t → lookup k.name = some raw →
      Variable.listItems raw = [] → k.form.Empty (k.get t)) ∧
    (∀ e, ofVariables lookup = .error e ↔
      (∃ before k after x, Setting.all = before ++ k :: after ∧
        (∀ l ∈ before, l.Readable lookup) ∧ k.Malformed lookup x ∧ e = .settings x) ∨
      ∃ t x, (∀ k : Setting, k.Reflects lookup standard t) ∧ t.validate = .error x ∧
        e = .invalidConfig x) ∧
    (∀ (k : Setting) x, k.Malformed lookup x → x.variable? = some k.name) ∧
    (∀ lookup', (∀ k : Setting, lookup' k.name = lookup k.name) →
      ofVariables lookup' = ofVariables lookup) ∧
    ∀ lookup' (k : Setting) t u, (∀ l, l ≠ k → lookup' l.name = lookup l.name) →
      ofVariables lookup = .ok t → ofVariables lookup' = .ok u →
        ∀ l, l ≠ k → l.get u = l.get t := by
  refine ⟨fun t => ofVariables_eq_ok_iff, exists_reflects_iff, ?_, ?_,
    fun e => ofVariables_eq_error_iff, ?_, ?_, ?_⟩
  · intro k hform raw _
    exact Form.exists_says_of_lenient hform raw
  · intro t k raw hreflects hset hblank
    exact Form.empty_of_says hblank ((Setting.reflects_of_some hset).mp hreflects)
  · rintro k x ⟨raw, -, hread⟩
    exact Form.variable?_of_read hread
  · intro lookup' hsame
    rw [ofVariables, ← Setting.map_toVariable_all, Setting.foldlM_overlay_congr hsame,
      Setting.map_toVariable_all, ofVariables]
  · intro lookup' k t u hother ht hu l hl
    have hreflects := (Setting.reflects_congr (hother l hl)).mp (reflects_of_ofVariables hu l)
    exact hreflects.unique (reflects_of_ofVariables ht l)

/-- A number among blanks and a list of nothing. -/
def scrawled : String → Option String := fun name =>
  if name = Setting.maxAttempts.name then some " +7 "
  else if name = Setting.retryableKinds.name then some " , "
  else none

/-- Two settings are what their variables say, and all others are the standard ones. -/
theorem ofVariables_exact_scrawled : ∃ t, ofVariables scrawled = .ok t ∧
    t.retry.maxAttempts = 7 ∧ t.retry.retryableKinds = [] ∧
    ∀ k : Setting, k ≠ .maxAttempts → k ≠ .retryableKinds → k.get t = k.get standard := by
  have hok : (ofVariables scrawled).isOk = true := by decide +kernel
  obtain ⟨exact, -, -, empty, -⟩ := ofVariables_exact scrawled
  cases hmade : ofVariables scrawled with
  | error e =>
    rw [hmade] at hok
    contradiction
  | ok t =>
    have hreflects := ((exact t).mp hmade).1
    have hattempts : scrawled Setting.maxAttempts.name = some " +7 " := rfl
    have hkinds : scrawled Setting.retryableKinds.name = some " , " := by decide
    have hsaid : Setting.maxAttempts.read " +7 " = .ok (Setting.maxAttempts.get t) :=
      Setting.read_eq_ok_iff.mpr ((Setting.reflects_of_some hattempts).mp (hreflects .maxAttempts))
    refine ⟨t, rfl, (Except.ok.inj hsaid).symm, ?_, ?_⟩
    · exact empty t .retryableKinds " , " (hreflects .retryableKinds) hkinds (by decide)
    · intro k hk hk'
      have hnone : scrawled k.name = none := by
        rw [scrawled, if_neg fun h => hk (Setting.name_injective h),
          if_neg fun h => hk' (Setting.name_injective h)]
      exact (Setting.reflects_of_none hnone).mp (hreflects k)

end Settings

end Reattempt
