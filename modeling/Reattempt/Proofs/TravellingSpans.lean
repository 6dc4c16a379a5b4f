import Reattempt.Document.Spans
import Reattempt.Proofs.Printed
import Reattempt.Proofs.WrittenSettings

/-!
Spans of time that travel as JSON. They are written in whole milliseconds, as many as 64 bits hold,
so that what is read back is the span without its rest below a millisecond, and writing that again
gives the same text. Spans that have no such rest come back as they were. Main statement:
`spans_travel`.
-/
namespace Reattempt

namespace Duration

/-- The whole milliseconds of a span, as many as 64 bits hold. -/
def truncated (d : Duration) : Duration := .ofMillis d.wholeMillis

theorem wholeMillis_lt (d : Duration) : d.wholeMillis < 2 ^ 64 := by
  unfold wholeMillis
  omega

theorem nanos_ofMillis {n : Nat} (h : n < 2 ^ 64) : (ofMillis n).nanos = n * 10 ^ 6 := by
  rw [ofMillis, nanos_ofNanos, maxNanos]
  omega

theorem wholeMillis_ofMillis {n : Nat} (h : n < 2 ^ 64) : (ofMillis n).wholeMillis = n := by
  rw [wholeMillis, nanos_ofMillis h]
  omega

theorem wholeMillis_truncated (d : Duration) : d.truncated.wholeMillis = d.wholeMillis :=
  wholeMillis_ofMillis d.wholeMillis_lt

theorem truncated_ofMillis {n : Nat} (h : n < 2 ^ 64) : (ofMillis n).truncated = ofMillis n := by
  rw [truncated, wholeMillis_ofMillis h]

theorem truncated_le (d : Duration) : d.truncated ≤ d := by
  change (ofMillis d.wholeMillis).nanos ≤ d.nanos
  rw [nanos_ofMillis d.wholeMillis_lt, wholeMillis]
  omega

end Duration

namespace Document

theorem millis?_ofMillis (d : Duration) : (ofMillis d).millis? = some d.truncated := by
  have hle : d.wholeMillis ≤ 2 ^ 64 - 1 := Nat.le_of_lt_succ d.wholeMillis_lt
  rw [ofMillis, millis?, Form.unsigned?_whole hle]
  rfl

theorem millisOrNull?_ofMillisOrNull (d : Option Duration) :
    (ofMillisOrNull d).millisOrNull? = some (d.map Duration.truncated) := by
  cases d with
  | none => rfl
  | some d => exact congrArg (Option.map some) (millis?_ofMillis d)

end Document

namespace Json

open Document

/-! ### What is written is a text of the document -/

theorem chars_whole (n : Nat) : chars (.whole n) = Nat.toDigits 10 n := by
  rw [chars]
  exact String.toList_ofList

theorem spells_ofMillis (d : Duration) : Spells (ofMillis d) (chars (ofMillis d)) := by
  rw [ofMillis, chars_whole]
  exact spells_whole d.wholeMillis_lt

theorem spells_ofMillisOrNull (d : Option Duration) :
    Spells (ofMillisOrNull d) (chars (ofMillisOrNull d)) := by
  cases d with
  | none => exact .null
  | some d => exact spells_ofMillis d

theorem spellsEntries_commas {fields : List (String × Document)} (hne : fields ≠ [])
    (h : ∀ f ∈ fields, Spells f.2 (chars f.2)) :
    SpellsEntries (fields.map fun (name, d) => (some name, d))
      (commas (entryChars (fields.map fun (name, d) => (some name, d)))) := by
  induction fields with
  | nil => exact absurd rfl hne
  | cons f fields ih =>
    have hkey := spellsText_writeChar f.1.toList
    have first := h f List.mem_cons_self
    cases fields with
    | nil =>
      have last := SpellsEntries.last blank_nil hkey blank_nil blank_nil first blank_nil
      simpa [entryChars, commas, writeText] using last
    | cons g fields =>
      have rest := ih (List.cons_ne_nil g fields) fun f hf => h f (List.mem_cons_of_mem _ hf)
      have all := SpellsEntries.cons blank_nil hkey blank_nil blank_nil first blank_nil rest
      simpa [entryChars, commas, writeText] using all

/-- A record whose fields are written so that they can be read is written so itself. -/
theorem spells_ofFields {fields : List (String × Document)} (hne : fields ≠ [])
    (h : ∀ f ∈ fields, Spells f.2 (chars f.2)) :
    Spells (ofFields fields) (chars (ofFields fields)) := by
  have hentries := spellsEntries_commas hne h
  rw [ofFields, chars]
  exact .table hentries

end Json

namespace TimeoutSpans

open Document

variable {s : TimeoutSpans} {es : List (Option String × Document)}

/-- The spans without their rests below a millisecond. -/
def truncated (s : TimeoutSpans) : TimeoutSpans :=
  ⟨s.timeout.truncated, s.remaining.map Duration.truncated⟩

/-- Both fields are read, in whatever order they stand. -/
theorem ofDocument?_of_perm (h : es.Perm [(some "timeout", .ofMillis s.timeout),
    (some "remaining", .ofMillisOrNull s.remaining)]) :
    ofDocument? (.table es) = some s.truncated := by
  let fields : List (String × Option Document) :=
    [("timeout", some (.ofMillis s.timeout)), ("remaining", some (.ofMillisOrNull s.remaining))]
  have nodup : (fields.map Prod.fst).Nodup :=
    show ["timeout", "remaining"].Nodup by decide
  have hfields : fields? .json ["timeout", "remaining"] (.table es) = some (fields.map Prod.snd) :=
    fields?_of_perm nodup h
  simp only [ofDocument?, hfields, fields, bind, Option.bind, List.map_cons, List.map_nil,
    millis?_ofMillis, millisOrNull?_ofMillisOrNull]
  rfl

theorem isText_write (s : TimeoutSpans) : Json.IsText s.toDocument s.write.toList := by
  refine ⟨[], _, [], Json.blank_nil, Json.spells_ofFields (List.cons_ne_nil _ _) ?_, Json.blank_nil,
    ?_⟩
  · simp only [List.forall_mem_cons]
    exact ⟨Json.spells_ofMillis _, Json.spells_ofMillisOrNull _, nofun⟩
  · rw [List.nil_append, List.append_nil]
    exact String.toList_ofList

/-- Nothing that is written depends on what is left out. -/
theorem write_truncated (s : TimeoutSpans) : s.truncated.write = s.write := by
  have htimeout : Document.ofMillis s.truncated.timeout = .ofMillis s.timeout :=
    congrArg (fun n : Nat => Document.whole n) s.timeout.wholeMillis_truncated
  have hremaining : ofMillisOrNull s.truncated.remaining = ofMillisOrNull s.remaining := by
    change ofMillisOrNull (s.remaining.map Duration.truncated) = ofMillisOrNull s.remaining
    cases s.remaining with
    | none => rfl
    | some d => exact congrArg (fun n : Nat => Document.whole n) d.wholeMillis_truncated
  rw [write, toDocument, htimeout, hremaining]
  rfl

/-- What is written of two spans is a text, in standard JSON, of their whole milliseconds as far as
64 bits hold them, and `null` for a missing rest. It is read back as those, like any other text with
the same two entries, and written again it is the same text. Spans of whole milliseconds that 64
bits hold come back unchanged, and no span comes back longer. -/
theorem spans_travel (s : TimeoutSpans) :
    (Json.IsText s.toDocument s.write.toList ∧ read? s.write = some s.truncated ∧
      s.truncated.write = s.write) ∧
    (∀ es contents, es.Perm [(some "timeout", .ofMillis s.timeout),
        (some "remaining", .ofMillisOrNull s.remaining)] →
      Json.IsText (.table es) contents.toList → read? contents = some s.truncated) ∧
    ((∃ n < 2 ^ 64, s.timeout = .ofMillis n) → (∀ d ∈ s.remaining, ∃ n < 2 ^ 64, d = .ofMillis n) →
      read? s.write = some s) ∧
    ∀ d : Duration, d.truncated ≤ d ∧
      d.truncated.nanos = min (d.nanos / 10 ^ 6) (2 ^ 64 - 1) * 10 ^ 6 := by
  have hread (es : List (Option String × Document)) (contents : String)
      (h : es.Perm [(some "timeout", .ofMillis s.timeout),
        (some "remaining", .ofMillisOrNull s.remaining)])
      (htext : Json.IsText (.table es) contents.toList) : read? contents = some s.truncated := by
    rw [read?, Json.read?_of_isText htext]
    exact ofDocument?_of_perm h
  have hwritten : read? s.write = some s.truncated := hread _ _ (.refl _) s.isText_write
  refine ⟨⟨s.isText_write, hwritten, s.write_truncated⟩, hread, ?_,
    fun d => ⟨d.truncated_le, Duration.nanos_ofMillis d.wholeMillis_lt⟩⟩
  rintro ⟨n, hn, htimeout⟩ hremaining
  have hsame : s.truncated = s := by
    obtain ⟨timeout, remaining⟩ := s
    subst htimeout
    cases remaining with
    | none => exact congrArg (TimeoutSpans.mk · none) (Duration.truncated_ofMillis hn)
    | some d =>
      obtain ⟨m, hm, rfl⟩ := hremaining d rfl
      exact congrArg₂ (fun t r => TimeoutSpans.mk t (some r)) (Duration.truncated_ofMillis hn)
        (Duration.truncated_ofMillis hm)
  rw [hwritten, hsame]

/-- The longest timeout, and a rest of which the last part is lost. -/
def lengthy : TimeoutSpans := ⟨.ofNanos Duration.maxNanos, some (.ofNanos 2999999)⟩

theorem spans_travel_lengthy :
    read? lengthy.write = some ⟨.ofMillis (2 ^ 64 - 1), some (.ofMillis 2)⟩ ∧
    lengthy.truncated.write = "\x7b\"timeout\":18446744073709551615,\"remaining\":2\x7d" ∧
    read? (lengthy.truncated.write) = some lengthy.truncated ∧
    lengthy.truncated.timeout ≤ lengthy.timeout := by
  have htruncated : lengthy.truncated = ⟨.ofMillis (2 ^ 64 - 1), some (.ofMillis 2)⟩ := by
    decide
  obtain ⟨⟨-, hread, hwrite⟩, -, -, shorter⟩ := spans_travel lengthy
  obtain ⟨-, -, unchanged, -⟩ := spans_travel lengthy.truncated
  refine ⟨htruncated ▸ hread, by decide, unchanged ⟨_, ?_, rfl⟩ ?_, (shorter _).1⟩
  · exact lengthy.timeout.wholeMillis_lt
  · intro d hd
    exact ⟨2, by decide, Option.some.inj (hd.symm.trans (congrArg remaining htruncated))⟩

end TimeoutSpans

end Reattempt
