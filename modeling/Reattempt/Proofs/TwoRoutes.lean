import Reattempt.Proofs.CommaLists
import Reattempt.Proofs.WrittenSettings
import Reattempt.Settings.Load

/-!
Two routes to the same settings. The same choice of settings can be written as variables or as a
JSON document; whichever way each is written, reading gives the same settings, or refuses them with
the same error. Main statement: `routes_agree`.
-/
namespace Reattempt

namespace Form

/-- Whether a value can be written both ways: a span if it is whole milliseconds, and a number if
both readers take one literal for it. -/
def Writable : (f : Form) → f.Value → Prop
  | millis, (v : Duration) => ∃ n : UInt64, .ofMillis n.toNat = v
  | number, (v : Binary64) =>
    ∃ literal d, Says number literal v ∧ Denotes number v d ∧ Json.Spells d literal.toList
  | _, _ => True

open Text in
theorem exists_says {f : Form} {v : f.Value} (h : f.Writable v) : ∃ raw, f.Says raw v := by
  have hunsigned {limit n : Nat} (hn : n ≤ limit) :
      SaysUnsigned limit (trimChars (String.ofList (Nat.toDigits 10 n)).toList) n := by
    rw [String.toList_ofList,
      trimChars_of_solid fun c hc => not_isBlank_of_isDigit (isDigit_toDigits n c hc)]
    exact saysUnsigned_toDigits hn
  cases f with
  | u32 =>
    have hvalue (n : UInt32) := hunsigned (Nat.le_of_lt_succ n.toNat_lt)
    exact ⟨_, hvalue v⟩
  | u64 =>
    have hvalue (n : UInt64) := hunsigned (Nat.le_of_lt_succ n.toNat_lt)
    exact ⟨_, hvalue v⟩
  | millis =>
    obtain ⟨n, rfl⟩ := h
    exact ⟨_, n.toNat, hunsigned (Nat.le_of_lt_succ n.toNat_lt), rfl⟩
  | number =>
    obtain ⟨literal, -, hsays, -⟩ := h
    exact ⟨literal, hsays⟩
  | flag =>
    have hvalue (b : Bool) : ∃ raw, Says flag raw b := by
      cases b with
      | true => exact ⟨"true", (@read_eq_ok_iff flag "" "true" true).mp rfl⟩
      | false => exact ⟨"false", (@read_eq_ok_iff flag "" "false" false).mp rfl⟩
    exact hvalue v
  | verbatim => exact ⟨v, rfl⟩
  | kinds =>
    have hlist (ks : List FailureKind) : ∃ raw, Says kinds raw ks := by
      have hspelled := Variable.lists_map FailureKind.spelled_name ks
      exact ⟨_, (hspelled.saysList FailureKind.whole_spelled).imp
        fun _ _ => FailureKind.normalize_of_spelled⟩
    exact hlist v
  | statuses =>
    have hlist (ns : List UInt16) : ∃ raw, Says statuses raw ns := by
      have hsaid := Variable.lists_map Variable.saysStatus_toDigits ns
      exact ⟨_, hsaid.saysList Variable.whole_saysStatus⟩
    exact hlist v

theorem exists_denotes {f : Form} {v : f.Value} (h : f.Writable v) :
    ∃ d, f.Denotes v d ∧ ∃ cs, Json.Spells d cs := by
  cases f with
  | u32 =>
    have hvalue (n : UInt32) : ∃ cs, Json.Spells (.whole n.toNat) cs :=
      ⟨_, Json.spells_whole (Nat.lt_of_lt_of_le n.toNat_lt (by decide))⟩
    exact ⟨_, rfl, hvalue v⟩
  | u64 =>
    have hvalue (n : UInt64) : ∃ cs, Json.Spells (.whole n.toNat) cs :=
      ⟨_, Json.spells_whole n.toNat_lt⟩
    exact ⟨_, rfl, hvalue v⟩
  | millis =>
    obtain ⟨n, rfl⟩ := h
    exact ⟨_, ⟨n, rfl, rfl⟩, _, Json.spells_whole n.toNat_lt⟩
  | number =>
    obtain ⟨literal, d, -, hdenotes, hspells⟩ := h
    exact ⟨d, hdenotes, _, hspells⟩
  | flag => exact ⟨_, rfl, _, .flag _⟩
  | verbatim => exact ⟨_, rfl, _, .text (Json.spellsText_writeChar _)⟩
  | kinds =>
    refine ⟨_, rfl, Json.exists_spells_list ?_⟩
    intro d hd
    obtain ⟨k, -, rfl⟩ := List.mem_map.mp hd
    exact ⟨_, .text (Json.spellsText_writeChar _)⟩
  | statuses =>
    refine ⟨_, rfl, Json.exists_spells_list ?_⟩
    intro d hd
    obtain ⟨n, -, rfl⟩ := List.mem_map.mp hd
    exact ⟨_, Json.spells_whole (Nat.lt_of_lt_of_le n.toNat_lt (by decide))⟩

end Form

namespace Assignment

variable {a : Assignment} {lookup : String → Option String}

/-- The chosen settings, and no others, have variables that are set, to texts that say their
values. -/
def WrittenIn (a : Assignment) (lookup : String → Option String) : Prop :=
  ∀ k : Setting, Option.Rel (fun v raw => k.form.Says raw v) (a k) (lookup k.name)

theorem reflects_of_writtenIn (h : a.WrittenIn lookup) (k : Setting) :
    k.Reflects lookup .standard a.settings := by
  have hk := h k
  unfold Setting.Reflects settings
  rw [Setting.get_build, value]
  -- Whether the setting is chosen and whether its variable is set go together.
  generalize a k = v, lookup k.name = raw at hk ⊢
  cases hk with
  | none => rfl
  | some h => exact h

theorem parse_of_writtenAs {d : Document} {contents path : String} (h : a.WrittenAs d)
    (htext : Json.IsText d contents.toList) (hpath : Path.extension? path = some "json") :
    Settings.parse contents path = .ok a.settings := by
  rw [Settings.parse, hpath]
  simp only [Option.getD_some, Json.read?_of_isText htext, Option.bind_some,
    ofDocument?_of_writtenAs h]
  rfl

/-- Each setting that is chosen has a value that can be written. -/
def Writable (a : Assignment) : Prop := ∀ (k : Setting) v, a k = some v → k.form.Writable v

theorem exists_writtenIn (h : a.Writable) : ∃ lookup, a.WrittenIn lookup := by
  have hraw (k : Setting) : ∃ raw, Option.Rel (fun v raw => k.form.Says raw v) (a k) raw := by
    cases hk : a k with
    | none => exact ⟨none, .none⟩
    | some v =>
      obtain ⟨raw, hraw⟩ := Form.exists_says (h k v hk)
      exact ⟨some raw, .some hraw⟩
  choose raw hraw using hraw
  refine ⟨fun name => (Setting.ofName? name).bind raw, ?_⟩
  intro k
  beta_reduce
  rw [Setting.ofName?_name, Option.bind_some]
  exact hraw k

theorem exists_spells_present {fields : List (String × Option Document)}
    (h : ∀ f ∈ fields, ∀ d ∈ f.2, ∃ cs, Json.Spells d cs) :
    ∃ cs, Json.Spells (.table (Document.present fields)) cs := by
  apply Json.exists_spells_table
  intro e he
  obtain ⟨⟨name, d⟩, hf, hfe⟩ := List.mem_filterMap.mp he
  obtain ⟨d, hd, rfl⟩ := Option.map_eq_some_iff.mp hfe
  obtain ⟨cs, hcs⟩ := h _ hf d hd
  exact ⟨name, d, cs, rfl, hcs⟩

theorem exists_writtenAs (h : a.Writable) :
    ∃ d contents, a.WrittenAs d ∧ Json.IsText d (String.toList contents) := by
  have hdatum (k : Setting) : ∃ datum, Option.Rel k.form.Denotes (a k) datum ∧
      ∀ d ∈ datum, ∃ cs, Json.Spells d cs := by
    cases hk : a k with
    | none => exact ⟨none, .none, fun _ hd => nomatch hd⟩
    | some v =>
      obtain ⟨d, hdenotes, hspells⟩ := Form.exists_denotes (h k v hk)
      refine ⟨some d, .some hdenotes, ?_⟩
      intro d' hd'
      cases hd'
      exact hspells
  choose datum denoted hspells using hdatum
  have hfields (ks : List Setting) :
      ∀ f ∈ Setting.fields datum ks, ∀ d ∈ f.2, ∃ cs, Json.Spells d cs := by
    intro f hf
    obtain ⟨k, -, rfl⟩ := List.mem_map.mp hf
    exact hspells k
  -- Every section is written, even if nothing stands in it.
  have hsection (ks : List Setting) : ∃ d, Document.IsSection (Setting.fields datum ks) (some d) ∧
      ∃ cs, Json.Spells d cs :=
    ⟨_, .table (.refl _), exists_spells_present (hfields ks)⟩
  obtain ⟨breaker, hbreaker, breaker_spells⟩ := hsection Setting.ofBreaker
  obtain ⟨pool, hpool, pool_spells⟩ := hsection Setting.ofPool
  obtain ⟨log, hlog, log_spells⟩ := hsection Setting.ofLog
  obtain ⟨retry, hretry, retry_spells⟩ : ∃ d, Document.IsSection
      (Setting.fields datum Setting.ofRetry ++ [("circuit_breaker", some breaker)]) (some d) ∧
        ∃ cs, Json.Spells d cs := by
    refine ⟨_, .table (.refl _), exists_spells_present ?_⟩
    intro f hf
    rcases List.mem_append.mp hf with hf | hf
    · exact hfields _ f hf
    · cases List.mem_singleton.mp hf
      rintro d ⟨⟩
      exact breaker_spells
  obtain ⟨cs, hcs⟩ : ∃ cs, Json.Spells (.table (Document.present
      [("retry", some retry), ("scheduler", some pool), ("logging", some log)])) cs := by
    apply exists_spells_present
    simp only [List.forall_mem_cons, List.not_mem_nil, false_implies, implies_true, and_true,
      Option.mem_def, Option.some.injEq, forall_eq']
    exact ⟨retry_spells, pool_spells, log_spells⟩
  refine ⟨_, String.ofList cs, ⟨datum, some breaker, some retry, some pool, some log, denoted,
    hbreaker, hretry, hpool, hlog, .table (.refl _)⟩, [], cs, [], Json.blank_nil, hcs,
    Json.blank_nil, ?_⟩
  rw [String.toList_ofList, List.nil_append, List.append_nil]

/-- A choice of settings whose values can be written is written as variables and as a document, and
however it is written, both ways give the chosen values with the standard ones elsewhere, if these
settings are valid, and the same error if they are not. -/
theorem routes_agree (h : a.Writable) :
    (∃ lookup, a.WrittenIn lookup) ∧
    (∃ d contents, a.WrittenAs d ∧ Json.IsText d (String.toList contents)) ∧
    ∀ lookup d contents path, a.WrittenIn lookup → a.WrittenAs d →
      Json.IsText d (String.toList contents) → Path.extension? path = some "json" →
        Settings.ofVariables lookup = (do
          let s ← Settings.parse contents path
          s.validate.mapError .invalidConfig
          return s) ∧
        Settings.ofVariables lookup = match a.settings.validate with
          | .ok () => .ok a.settings
          | .error e => .error (.invalidConfig e) := by
  refine ⟨exists_writtenIn h, exists_writtenAs h, ?_⟩
  intro lookup d contents path hvariables hdocument htext hpath
  rw [Settings.ofVariables_of_reflects (reflects_of_writtenIn hvariables),
    parse_of_writtenAs hdocument htext hpath]
  cases hvalid : a.settings.validate with
  | ok =>
    constructor
    · simp only [bind, Except.bind, hvalid]
      rfl
    · rfl
  | error e =>
    constructor
    · simp only [bind, Except.bind, hvalid]
      rfl
    · rfl

/-- Settings of several forms, each away from its standard value. -/
def tuned : Assignment
  | .maxAttempts => some (7 : UInt32)
  | .backoffMultiplier => some (Binary64.ofRatio false 3 2)
  | .retryableKinds => some [FailureKind.timeout, .server]
  | .threadName => some "wait, \"then\" run"
  | .maxDelay => some (Duration.ofMillis 45000)
  | _ => none

/-- Both readers take the literal `1.5` for the same number. -/
theorem writable_literal : Form.number.Writable (Binary64.ofRatio false 3 2) := by
  let numeral : Json.Numeral := ⟨false, ['1'], some ['5'], none⟩
  have hsays : Form.number.Says "1.5" (Binary64.ofRatio false 3 2) := by
    have hread : Binary64.read "1.5" = .ok (Binary64.ofRatio false 3 2) := by
      decide +kernel
    exact Binary64.read_eq_ok_iff.mp hread
  have hdenotes : Form.number.Denotes (Binary64.ofRatio false 3 2) numeral.document := by
    have hnumber : numeral.document.number? = some (Binary64.ofRatio false 3 2) := by
      decide +kernel
    exact hnumber
  have hspells : Json.SpellsNumeral numeral "1.5".toList := by
    refine ⟨?_, by decide, by decide, ?_, [], .absent, rfl⟩
    · exact List.all_eq_true.mp (by decide)
    · rintro ds ⟨⟩
      exact ⟨by decide, List.all_eq_true.mp (by decide)⟩
  exact ⟨"1.5", numeral.document, hsays, hdenotes, .number hspells⟩

theorem writable_tuned : tuned.Writable := by
  intro k v hk
  cases k with
  | maxDelay =>
    cases hk
    exact ⟨45000, rfl⟩
  | backoffMultiplier =>
    obtain rfl := Option.some.inj hk
    exact writable_literal
  | _ => trivial

/-- Written either way, the tuned settings are valid and read as they were chosen. -/
theorem routes_agree_tuned : tuned.Writable ∧ ∃ lookup d contents,
    tuned.WrittenIn lookup ∧ tuned.WrittenAs d ∧ Json.IsText d (String.toList contents) ∧
      Settings.ofVariables lookup = .ok tuned.settings ∧
        (do
          let s ← Settings.parse contents "ratekeeper.json"
          s.validate.mapError SetupError.invalidConfig
          return s) = .ok tuned.settings := by
  have agree := routes_agree writable_tuned
  obtain ⟨⟨lookup, hvariables⟩, ⟨d, contents, hdocument, htext⟩, hagree⟩ := agree
  have hpath : Path.extension? "ratekeeper.json" = some "json" := by decide
  obtain ⟨hsame, hresult⟩ := hagree lookup d contents _ hvariables hdocument htext hpath
  rw [Settings.validate_eq_ok (by decide +kernel)] at hresult
  exact ⟨writable_tuned, lookup, d, contents, hvariables, hdocument, htext, hresult,
    hsame.symm.trans hresult⟩

end Assignment

end Reattempt
