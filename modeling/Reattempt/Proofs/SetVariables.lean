import Reattempt.Proofs.Catalogue
import Reattempt.Settings.Load

/-!
Variables that are set when settings are loaded. A text that says no value of its setting is an
error on every way of loading, and one that says a value is the value of the setting. A variable
that is set to what is no text counts as set, and is then passed over as if it were not. Main
statement: `set_texts_decide`.
-/
namespace Reattempt.Surroundings

variable {s : Surroundings}

theorem anySet_of_isSome {k : Setting} (h : (s.environment.lookup k.name).isSome = true) :
    s.anySet = true := by
  rw [anySet, ← Setting.map_toVariable_all, List.any_map]
  exact List.any_eq_true.mpr ⟨k, k.mem_all, h⟩

/-- If any variable is set, each way of loading reads the variables. -/
theorem loads_eq (h : s.anySet = true) : s.loadVariables = Settings.ofVariables s.lookup ∧
    s.load = Settings.ofVariables s.lookup ∧ s.loadOrStandard = Settings.ofVariables s.lookup := by
  have hvariables : s.loadVariables = Settings.ofVariables s.lookup := by
    rw [loadVariables, if_pos h]
  have hload : s.load = Settings.ofVariables s.lookup := by
    rw [load, if_pos h, hvariables]
  refine ⟨hvariables, hload, ?_⟩
  rw [loadOrStandard, h, Bool.true_or, if_pos rfl, hload]

theorem lookup_of_text {name raw : String} (h : s.environment.lookup name = some (some raw)) :
    s.lookup name = some raw := by
  rw [lookup, h]
  rfl

/-- A text that says nothing is an error on every way of loading; otherwise every setting has the
value that the text of its variable says, and its standard value where there is no text. -/
theorem set_texts_decide (s : Surroundings) :
    (∀ (k : Setting) (raw : String), s.environment.lookup k.name = some (some raw) →
      (∀ v, ¬ k.form.Says raw v) →
        ∃ e, s.loadVariables = .error (.settings e) ∧ s.load = .error (.settings e) ∧
          s.loadOrStandard = .error (.settings e)) ∧
    (∀ t, s.anySet = true →
      s.loadVariables = .ok t ∨ s.load = .ok t ∨ s.loadOrStandard = .ok t →
        ∀ k : Setting, match s.environment.lookup k.name with
          | some (some raw) => k.form.Says raw (k.get t)
          | _ => k.get t = k.get .standard) := by
  constructor
  · intro k raw hset hnothing
    have hany : s.anySet = true := anySet_of_isSome (by rw [hset]; rfl)
    obtain ⟨hvariables, hload, hstandard⟩ := loads_eq hany
    obtain ⟨e, he⟩ := Settings.ofVariables_of_malformed (lookup_of_text hset) hnothing
    exact ⟨e, hvariables.trans he, hload.trans he, hstandard.trans he⟩
  · intro t hany hok k
    obtain ⟨hvariables, hload, hstandard⟩ := loads_eq hany
    rw [hvariables, hload, hstandard, or_self, or_self] at hok
    have hreflects := Settings.reflects_of_ofVariables hok k
    cases hset : s.environment.lookup k.name with
    | none => exact (Setting.reflects_of_none (by rw [lookup, hset]; rfl)).mp hreflects
    | some value =>
      cases value with
      | none => exact (Setting.reflects_of_none (by rw [lookup, hset]; rfl)).mp hreflects
      | some raw => exact (Setting.reflects_of_some (lookup_of_text hset)).mp hreflects

/-- One variable is set, to a text or to what is none. -/
def single (value : Option String) : Surroundings := ⟨[(Setting.maxAttempts.name, value)], ⟨[]⟩, ""⟩

/-- A word is refused, a number counts. -/
theorem set_texts_decide_single :
    (∃ e, (single (some "many")).load = .error (.settings e)) ∧
      ∃ t, (single (some " +7")).load = .ok t ∧ t.retry.maxAttempts = 7 := by
  constructor
  · have hnothing : ∀ v, ¬ Setting.maxAttempts.form.Says "many" v := by
      intro v hv
      have hread : Setting.maxAttempts.read "many" = .ok v := Setting.read_eq_ok_iff.mpr hv
      have hfails : (Setting.maxAttempts.read "many").isOk = false := by decide
      rw [hread] at hfails
      contradiction
    have decided := (set_texts_decide (single (some "many"))).1
    obtain ⟨e, -, hload, -⟩ := decided .maxAttempts "many" rfl hnothing
    exact ⟨e, hload⟩
  · have hok : (single (some " +7")).load.isOk = true := by decide +kernel
    cases hload : (single (some " +7")).load with
    | error e =>
      rw [hload] at hok
      contradiction
    | ok t =>
      have hsaid := (set_texts_decide _).2 t (by decide) (.inr (.inl hload)) .maxAttempts
      have hread : Setting.maxAttempts.read " +7" = .ok (Setting.maxAttempts.get t) :=
        Setting.read_eq_ok_iff.mpr hsaid
      exact ⟨t, rfl, (Except.ok.inj hread).symm⟩

/-- A variable that is set to what is no text is no error on any way of loading. -/
theorem single_garbled : (single none).anySet = true ∧
    (single none).loadVariables = .ok .standard ∧ (single none).load = .ok .standard ∧
      (single none).loadOrStandard = .ok .standard := by
  have hset : (single none).anySet = true := by decide
  have hlookup (k : Setting) : (single none).lookup k.name = none := by
    cases k <;> rfl
  have hstandard : Settings.ofVariables (single none).lookup = .ok .standard := by
    rw [Settings.ofVariables_of_reflects fun k => (Setting.reflects_of_none (hlookup k)).mpr rfl,
      Settings.validate_standard]
    rfl
  obtain ⟨hvariables, hload, hdefault⟩ := loads_eq hset
  exact ⟨hset, hvariables.trans hstandard, hload.trans hstandard, hdefault.trans hstandard⟩

end Reattempt.Surroundings
