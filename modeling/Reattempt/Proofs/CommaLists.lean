import Reattempt.Proofs.Printed

/-!
Lists in variables. A text that has written forms of values between its commas, with padding around
them and blank pieces anywhere, is read as the list of these values; a kind may be written in
capitals and with hyphens. If a piece is neither blank nor a value, the first such piece is
reported. Main statement: `lists_read_back`.
-/
namespace Reattempt

/-! ### Pieces of a list -/

namespace Variable

variable {α : Type} {said : List Char → α → Prop} {p q : List Char} {pieces : List (List Char)}
  {v : α} {vs : List α}

/-- A piece that says a value, with padding on both sides. -/
def Padded (said : List Char → α → Prop) (p : List Char) (v : α) : Prop :=
  ∃ left item right, Text.Padding left ∧ said item v ∧ Text.Padding right ∧
    p = left ++ (item ++ right)

/-- Pieces for a list of values: one for each of them in turn, and blank ones anywhere. -/
inductive Lists (said : List Char → α → Prop) : List (List Char) → List α → Prop
  | nil : Lists said [] []
  | blank {p : List Char} {pieces : List (List Char)} {vs : List α} (hp : Text.Padding p)
      (h : Lists said pieces vs) : Lists said (p :: pieces) vs
  | item {p : List Char} {pieces : List (List Char)} {v : α} {vs : List α} (hp : Padded said p v)
      (h : Lists said pieces vs) : Lists said (p :: pieces) (v :: vs)

/-- Neither blank nor a piece that says a value. -/
def Malformed (said : List Char → α → Prop) (p : List Char) : Prop :=
  ¬ Text.Padding p ∧ ∀ v, ¬ Padded said p v

/-- The malformed piece that no other one stands before. -/
def FirstMalformed (said : List Char → α → Prop) (pieces : List (List Char)) (p : List Char) :
    Prop :=
  Malformed said p ∧
    ∃ before after, pieces = before ++ p :: after ∧ ∀ q ∈ before, ¬ Malformed said q

/-- The text that has these pieces between its commas. -/
def joined (pieces : List (List Char)) : String := String.ofList ([','].intercalate pieces)

/-- What is left of the pieces once they are trimmed and the blank ones are passed over. -/
def itemsOf (pieces : List (List Char)) : List (List Char) :=
  (pieces.map Text.trimChars).filter (!·.isEmpty)

/-- Texts that say values stay whole in a list: none is empty or has a blank or a comma in it. -/
def Whole (said : List Char → α → Prop) : Prop :=
  ∀ cs v, said cs v → cs ≠ [] ∧ ∀ c ∈ cs, Text.isBlank c = false ∧ c ≠ ','

theorem itemsOf_append (before after : List (List Char)) :
    itemsOf (before ++ after) = itemsOf before ++ itemsOf after := by
  rw [itemsOf, List.map_append, List.filter_append, itemsOf, itemsOf]

theorem itemsOf_cons_of_padding (h : Text.Padding p) :
    itemsOf (p :: pieces) = itemsOf pieces := by
  rw [itemsOf, List.map_cons, Text.trimChars_eq_nil_iff.mpr h]
  rfl

theorem itemsOf_cons (h : ¬ Text.Padding p) :
    itemsOf (p :: pieces) = Text.trimChars p :: itemsOf pieces := by
  have hne : Text.trimChars p ≠ [] := mt Text.trimChars_eq_nil_iff.mp h
  simp [itemsOf, hne]

theorem exists_of_mem_itemsOf {item : List Char} (h : item ∈ itemsOf pieces) :
    ∃ p ∈ pieces, ¬ Text.Padding p ∧ Text.trimChars p = item := by
  obtain ⟨hmem, hne⟩ := List.mem_filter.mp h
  obtain ⟨p, hp, rfl⟩ := List.mem_map.mp hmem
  refine ⟨p, hp, fun hblank => ?_, rfl⟩
  rw [Text.trimChars_eq_nil_iff.mpr hblank] at hne
  contradiction

theorem padded_self (h : said p v) : Padded said p v :=
  ⟨[], p, [], fun _ hc => (List.not_mem_nil hc).elim, h, fun _ hc => (List.not_mem_nil hc).elim,
    (List.append_nil p).symm⟩

/-- What a piece says, the item in it says once the padding is gone. -/
theorem padded_iff (whole : Whole said) : Padded said p v ↔ said (Text.trimChars p) v := by
  constructor
  · rintro ⟨left, item, right, hleft, hitem, hright, rfl⟩
    rw [Text.trimChars_append hleft hright,
      Text.trimChars_of_solid fun c hc => ((whole item v hitem).2 c hc).1]
    exact hitem
  · intro h
    obtain ⟨left, right, hleft, hright, hp⟩ := Text.exists_padding p
    exact ⟨left, Text.trimChars p, right, hleft, h, hright, hp⟩

theorem Padded.not_padding (whole : Whole said) (h : Padded said p v) : ¬ Text.Padding p := by
  intro hblank
  rw [padded_iff whole, Text.trimChars_eq_nil_iff.mpr hblank] at h
  exact (whole [] v h).1 rfl

theorem comma_not_mem_of_padding (h : Text.Padding p) : ',' ∉ p := by
  intro hcomma
  have hblank := h ',' hcomma
  contradiction

theorem Padded.comma_not_mem (whole : Whole said) (h : Padded said p v) : ',' ∉ p := by
  obtain ⟨left, item, right, hleft, hitem, hright, rfl⟩ := h
  rw [List.mem_append, List.mem_append]
  rintro (hcomma | hcomma | hcomma)
  · exact comma_not_mem_of_padding hleft hcomma
  · exact ((whole item v hitem).2 ',' hcomma).2 rfl
  · exact comma_not_mem_of_padding hright hcomma

theorem Lists.comma_not_mem (whole : Whole said) (h : Lists said pieces vs) :
    ∀ p ∈ pieces, ',' ∉ p := by
  induction h with
  | nil => exact fun _ hp => (List.not_mem_nil hp).elim
  | blank hp _ ih => exact List.forall_mem_cons.mpr ⟨comma_not_mem_of_padding hp, ih⟩
  | item hp _ ih => exact List.forall_mem_cons.mpr ⟨hp.comma_not_mem whole, ih⟩

theorem Lists.forall₂ (whole : Whole said) (h : Lists said pieces vs) :
    List.Forall₂ said (itemsOf pieces) vs := by
  induction h with
  | nil => exact .nil
  | blank hp _ ih =>
    rw [itemsOf_cons_of_padding hp]
    exact ih
  | item hp _ ih =>
    rw [itemsOf_cons (hp.not_padding whole)]
    exact .cons ((padded_iff whole).mp hp) ih

/-- Joining pieces and splitting the text at its commas comes back to the pieces, since no comma
stands in any of them. -/
theorem Lists.saysList (whole : Whole said) (h : Lists said pieces vs) :
    SaysList said (joined pieces) vs := by
  refine ⟨itemsOf pieces, ?_, h.forall₂ whole⟩
  rw [joined, String.toList_ofList]
  cases pieces with
  | nil =>
    -- The empty text has one piece, which is blank.
    refine ⟨[[]], List.cons_ne_nil _ _, ?_, rfl, rfl⟩
    intro p hp
    rw [List.mem_singleton.mp hp]
    exact List.not_mem_nil
  | cons p pieces => exact ⟨p :: pieces, List.cons_ne_nil _ _, h.comma_not_mem whole, rfl, rfl⟩

theorem SaysList.imp {said' : List Char → α → Prop} {raw : String}
    (himp : ∀ cs v, said cs v → said' cs v) (h : SaysList said raw vs) :
    SaysList said' raw vs := by
  obtain ⟨items, hitems, hvs⟩ := h
  exact ⟨items, hitems, hvs.imp himp⟩

/-- Written forms with nothing around them are pieces for their values. -/
theorem lists_map {text : α → List Char} (h : ∀ v, said (text v) v) (vs : List α) :
    Lists said (vs.map text) vs := by
  induction vs with
  | nil => exact .nil
  | cons v vs ih => exact .item (padded_self (h v)) ih

/-! ### The first malformed piece -/

theorem exists_firstMalformed (h : ∃ p ∈ pieces, Malformed said p) :
    ∃ p, FirstMalformed said pieces p := by
  obtain ⟨p, hmem, hp⟩ := h
  induction pieces with
  | nil => exact (List.not_mem_nil hmem).elim
  | cons q pieces ih =>
    by_cases hq : Malformed said q
    · exact ⟨q, hq, [], pieces, rfl, fun _ h => (List.not_mem_nil h).elim⟩
    · have htail : p ∈ pieces := by
        rcases List.mem_cons.mp hmem with rfl | htail
        · exact absurd hp hq
        · exact htail
      obtain ⟨r, hr, before, after, rfl, hbefore⟩ := ih htail
      exact ⟨r, hr, q :: before, after, rfl, List.forall_mem_cons.mpr ⟨hq, hbefore⟩⟩

theorem FirstMalformed.unique (hp : FirstMalformed said pieces p)
    (hq : FirstMalformed said pieces q) : p = q := by
  obtain ⟨hp, before, after, rfl, hbefore⟩ := hp
  obtain ⟨hq, before', after', heq, hbefore'⟩ := hq
  rcases List.append_eq_append_iff.mp heq with ⟨between, rfl, h⟩ | ⟨between, rfl, h⟩
  · cases between with
    | nil => exact (List.cons.inj h).1
    | cons r between =>
      obtain ⟨rfl, -⟩ := List.cons.inj h
      exact absurd hp (hbefore' p (by simp))
  · cases between with
    | nil => exact (List.cons.inj h).1.symm
    | cons r between =>
      obtain ⟨rfl, -⟩ := List.cons.inj h
      exact absurd hq (hbefore q (by simp))

/-- A list is refused for its first malformed piece, if the reader of items refuses this one and
reads all texts that say a value. -/
theorem readList_of_firstMalformed {name raw : String} {read : String → Except ValueError α}
    {cause : ValueError} (whole : Whole said)
    (hread : ∀ item v, said item v → read (String.ofList item) = .ok v)
    (first : FirstMalformed said (raw.toList.splitOn ',') p)
    (hcause : read (String.ofList (Text.trimChars p)) = .error cause) :
    readList name read raw =
      .error (.invalidEntry name (String.ofList (Text.trimChars p)) cause) := by
  obtain ⟨⟨hblank, -⟩, before, after, hpieces, hbefore⟩ := first
  have hitems : listItems raw = itemsOf before ++ Text.trimChars p :: itemsOf after := by
    have hlist : listItems raw = itemsOf (raw.toList.splitOn ',') := rfl
    rw [hlist, hpieces, itemsOf_append, itemsOf_cons hblank]
  refine mapM_eq_error_iff.mpr ⟨_, _, _, hitems, ?_, by rw [hcause]⟩
  intro item hitem
  obtain ⟨q, hq, hqblank, rfl⟩ := exists_of_mem_itemsOf hitem
  -- A piece before the first malformed one says a value if it is not blank.
  obtain ⟨v, hv⟩ : ∃ v, Padded said q v := by
    by_contra hnone
    exact hbefore q hq ⟨hqblank, not_exists.mp hnone⟩
  exact ⟨v, by rw [hread _ v ((padded_iff whole).mp hv)]⟩

/-! ### Statuses -/

/-- A text that says a status: digits, with or without a plus sign, for a number of 16 bits. -/
def SaysStatus (cs : List Char) (n : UInt16) : Prop :=
  Text.SaysUnsigned (2 ^ 16 - 1) cs n.toNat

theorem saysStatus_toDigits (n : UInt16) : SaysStatus (Nat.toDigits 10 n.toNat) n :=
  Text.saysUnsigned_toDigits (Nat.le_of_lt_succ n.toNat_lt)

theorem whole_saysStatus : Whole SaysStatus := by
  intro cs n h
  have solid {ds : List Char} (digits : ∀ c ∈ ds, Text.isDigit c = true) :
      ∀ c ∈ ds, Text.isBlank c = false ∧ c ≠ ',' := by
    intro c hc
    refine ⟨Text.not_isBlank_of_isDigit (digits c hc), ?_⟩
    rintro rfl
    have hdigit := digits ',' hc
    contradiction
  unfold SaysStatus at h
  generalize n.toNat = m at h
  cases h with
  | plain hne digits => exact ⟨hne, solid digits⟩
  | plus hne digits =>
    exact ⟨List.cons_ne_nil _ _, List.forall_mem_cons.mpr ⟨by decide, solid digits⟩⟩

theorem readU16_iff_saysStatus {item : List Char} {n : UInt16} :
    readU16 (String.ofList item) = .ok n ↔ SaysStatus item n := by
  rw [readU16_eq_ok_iff, String.toList_ofList, SaysStatus]

theorem readU16_of_malformed (h : Malformed SaysStatus p) :
    ∃ why, readU16 (String.ofList (Text.trimChars p)) = .error (.integer why) := by
  cases hread : readU16 (String.ofList (Text.trimChars p)) with
  | ok n =>
    have hsaid := readU16_iff_saysStatus.mp hread
    exact absurd ((padded_iff whole_saysStatus).mpr hsaid) (h.2 n)
  | error e =>
    unfold readU16 readUnsigned at hread
    generalize Text.readUnsigned _ _ = digits at hread
    cases digits with
    | ok n => contradiction
    | error why =>
      cases hread
      exact ⟨why, rfl⟩

end Variable

/-! ### Kinds -/

theorem Text.toLower_eq_iff {c l : Char} (hl : l.toLower = l) :
    c.toLower = l ↔ c = l ∨ c = l.toUpper := by
  -- A capital comes thirty-two places before its small letter.
  delta Char.toLower Char.toUpper at *
  simp only [Char.ext_iff, UInt32.le_iff_toNat_le] at *
  split_ifs at * <;> grind [UInt32.toNat_add]

namespace FailureKind

open Variable

variable {k : FailureKind} {cs p : List Char}

/-- How a character of a name may be written: as it is, as a capital, or as a hyphen if it is an
underscore. -/
def WrittenFor (c l : Char) : Prop := c = l ∨ c = l.toUpper ∨ (c = '-' ∧ l = '_')

instance : DecidableRel WrittenFor :=
  fun c l => inferInstanceAs (Decidable (c = l ∨ c = l.toUpper ∨ (c = '-' ∧ l = '_')))

/-- A text that spells the name of a kind. -/
def Spelled (cs : List Char) (k : FailureKind) : Prop := List.Forall₂ WrittenFor cs k.name.toList

instance : DecidableRel Spelled :=
  fun cs k => inferInstanceAs (Decidable (List.Forall₂ WrittenFor cs k.name.toList))

theorem spelled_name (k : FailureKind) : Spelled k.name.toList k :=
  List.forall₂_same.mpr fun _ _ => .inl rfl

theorem name_ne_nil (k : FailureKind) : k.name.toList ≠ [] := by
  cases k <;> decide

/-- The characters of a name are neither capitals nor hyphens, and stay whole in a list, as capitals
too. -/
theorem name_letters (k : FailureKind) : ∀ l ∈ k.name.toList, l.toLower = l ∧ l ≠ '-' ∧
    (Text.isBlank l = false ∧ l ≠ ',') ∧ Text.isBlank l.toUpper = false ∧ l.toUpper ≠ ',' := by
  intro l hl
  -- A check of the name's letters, not of all characters, is what can be computed.
  have hall : k.name.toList.all (fun l => l.toLower = l ∧ l ≠ '-' ∧
      (Text.isBlank l = false ∧ l ≠ ',') ∧ Text.isBlank l.toUpper = false ∧ l.toUpper ≠ ',') := by
    cases k <;> decide
  exact of_decide_eq_true (List.all_eq_true.mp hall l hl)

theorem forall₂_name_congr {R S : Char → Char → Prop}
    (h : ∀ c, ∀ l ∈ k.name.toList, R c l ↔ S c l) :
    List.Forall₂ R cs k.name.toList ↔ List.Forall₂ S cs k.name.toList := by
  rw [List.forall₂_iff_zip, List.forall₂_iff_zip]
  refine and_congr_right fun _ => forall₂_congr fun c l => ?_
  exact forall_congr' fun hmem => h c l (List.of_mem_zip hmem).2

theorem normalized_eq_iff {c l : Char} (hl : l ∈ k.name.toList) :
    (if c.toLower = '-' then '_' else c.toLower) = l ↔ WrittenFor c l := by
  obtain ⟨hlower, hne, -⟩ := k.name_letters l hl
  have hhyphen : c.toLower = '-' ↔ c = '-' := by
    have hupper : '-'.toUpper = '-' := rfl
    rw [Text.toLower_eq_iff rfl, hupper, or_self]
  rw [WrittenFor, ← or_assoc, ← Text.toLower_eq_iff hlower, ← hhyphen]
  by_cases hc : c.toLower = '-'
  · have hl : c.toLower ≠ l := fun h => hne (h.symm.trans hc)
    rw [if_pos hc, or_iff_right hl, and_iff_right hc, eq_comm]
  · rw [if_neg hc, or_iff_left fun h => hc h.1]

/-- A text is looked up as the name that it spells between its blanks. -/
theorem normalize_eq_name_iff {s : String} :
    normalize s = k.name ↔ Spelled (Text.trimChars s.toList) k := by
  rw [normalize, Text.lowerAscii, List.map_map, ← String.toList_inj, String.toList_ofList,
    ← List.forall₂_eq_eq_eq, List.forall₂_map_left_iff]
  exact forall₂_name_congr fun c l hl => normalized_eq_iff hl

theorem whole_spelled : Whole Spelled := by
  intro cs k h
  constructor
  · rintro rfl
    exact name_ne_nil k (List.forall₂_nil_left_iff.mp h)
  · have hsolid : List.Forall₂ (fun c l => (Text.isBlank c = false ∧ c ≠ ',') ∧ WrittenFor c l) cs
        k.name.toList := by
      refine (forall₂_name_congr fun c l hl => ?_).mp h
      obtain ⟨-, -, hsmall, hcapital⟩ := k.name_letters l hl
      refine ⟨fun hwritten => ⟨?_, hwritten⟩, And.right⟩
      rcases hwritten with rfl | rfl | ⟨rfl, -⟩
      · exact hsmall
      · exact hcapital
      · decide
    exact ((List.forall₂_and_left _ _).mp hsolid).1

theorem normalize_of_spelled (h : Spelled cs k) : normalize (String.ofList cs) = k.name := by
  rw [normalize_eq_name_iff, String.toList_ofList,
    Text.trimChars_of_solid fun c hc => ((whole_spelled cs k h).2 c hc).1]
  exact h

theorem readKind_of_malformed (h : Malformed Spelled p) :
    readKind (String.ofList (Text.trimChars p)) =
      .error (.kind ⟨"error_kind", .knownKind (String.ofList (Text.trimChars p))⟩) := by
  have hnone : ofName? (normalize (String.ofList (Text.trimChars p))) = none := by
    rw [Option.eq_none_iff_forall_ne_some]
    intro k hk
    have hspelled := normalize_eq_name_iff.mp (ofName?_eq_some_iff.mp hk).symm
    rw [String.toList_ofList, Text.trimChars_trimChars] at hspelled
    exact h.2 k ((padded_iff whole_spelled).mpr hspelled)
  rw [readKind, FailureKind.read, hnone]
  rfl

end FailureKind

namespace Variable

/-- A text with written forms of values between its commas is read as the list of these values, in
their order, whatever padding stands around them and however many blank pieces between them. A kind
may be written as its name, any letters of it as capitals and any underscores as hyphens; a status
may be written as its digits. If some piece is malformed, the list is refused, and the error names
the first such item and quotes it in its message. -/
theorem lists_read_back (name : String) :
    (∀ pieces ks, Lists FailureKind.Spelled pieces ks →
      readList name readKind (joined pieces) = .ok ks) ∧
    (∀ pieces ns, Lists SaysStatus pieces ns →
      readList name readU16 (joined pieces) = .ok ns) ∧
    (∀ k : FailureKind, FailureKind.Spelled k.name.toList k) ∧
    (∀ n : UInt16, SaysStatus (Nat.toDigits 10 n.toNat) n) ∧
    (∀ raw, (∃ p ∈ raw.toList.splitOn ',', Malformed FailureKind.Spelled p) →
      ∃ p item, FirstMalformed FailureKind.Spelled (raw.toList.splitOn ',') p ∧
        item = String.ofList (Text.trimChars p) ∧ readList name readKind raw =
          .error (.invalidEntry name item (.kind ⟨"error_kind", .knownKind item⟩))) ∧
    (∀ raw, (∃ p ∈ raw.toList.splitOn ',', Malformed SaysStatus p) →
      ∃ p item why, FirstMalformed SaysStatus (raw.toList.splitOn ',') p ∧
        item = String.ofList (Text.trimChars p) ∧ readList name readU16 raw =
          .error (.invalidEntry name item (.integer why))) ∧
    ∀ item cause, (SettingsError.invalidEntry name item cause).message =
      "Invalid entry " ++ Text.quote item ++ " in " ++ name ++ ": " ++ cause.message := by
  refine ⟨?_, ?_, FailureKind.spelled_name, saysStatus_toDigits, ?_, ?_, fun _ _ => rfl⟩
  · intro pieces ks h
    have hspelled := h.saysList FailureKind.whole_spelled
    exact (readList_eq_ok_iff _ fun _ _ => readKind_eq_ok_iff).mpr
      (hspelled.imp fun _ _ => FailureKind.normalize_of_spelled)
  · intro pieces ns h
    have hsaid := h.saysList whole_saysStatus
    exact (readList_eq_ok_iff _ fun _ _ => readU16_iff_saysStatus).mpr hsaid
  · intro raw h
    obtain ⟨p, first⟩ := exists_firstMalformed h
    have hcause := FailureKind.readKind_of_malformed first.1
    refine ⟨p, _, first, rfl, ?_⟩
    refine readList_of_firstMalformed FailureKind.whole_spelled ?_ first hcause
    intro item k hk
    exact readKind_eq_ok_iff.mpr (FailureKind.normalize_of_spelled hk)
  · intro raw h
    obtain ⟨p, first⟩ := exists_firstMalformed h
    obtain ⟨why, hcause⟩ := readU16_of_malformed first.1
    refine ⟨p, _, why, first, rfl, ?_⟩
    refine readList_of_firstMalformed whole_saysStatus ?_ first hcause
    intro item n hn
    exact readU16_iff_saysStatus.mpr hn

/-- Capitals, a hyphen, blank pieces and one value twice; and two lists whose first item or piece is
fine and whose second says nothing. -/
theorem lists_read_back_scattered :
    readList "KINDS" readKind "\tRate-LIMITED ,, ,connection" = .ok [.rateLimited, .connection] ∧
    readList "STATUSES" readU16 " 503,7, 503" = .ok [503, 7, 503] ∧
    readList "KINDS" readKind "timeout, flaky ,?" =
      .error (.invalidEntry "KINDS" "flaky" (.kind ⟨"error_kind", .knownKind "flaky"⟩)) ∧
    ∃ why, readList "STATUSES" readU16 ",65536 ,x" =
      .error (.invalidEntry "STATUSES" "65536" (.integer why)) := by
  obtain ⟨kinds, -, -, -, kindsRefused, -, -⟩ := lists_read_back "KINDS"
  obtain ⟨-, statuses, -, printed, -, statusesRefused, -⟩ := lists_read_back "STATUSES"
  refine ⟨?_, ?_, ?_, ?_⟩
  · have capitals : Padded FailureKind.Spelled "\tRate-LIMITED ".toList .rateLimited :=
      (padded_iff FailureKind.whole_spelled).mpr (by decide)
    exact kinds ["\tRate-LIMITED ".toList, [], [' '], "connection".toList] _ <|
      .item capitals <| .blank (by decide) <| .blank (by decide) <|
        .item (padded_self (FailureKind.spelled_name .connection)) .nil
  · have padded : Padded SaysStatus " 503".toList 503 :=
      (padded_iff whole_saysStatus).mpr (printed 503)
    exact statuses [" 503".toList, "7".toList, " 503".toList] _ <|
      .item padded <| .item (padded_self (printed 7)) <| .item padded .nil
  · have flaky : Malformed FailureKind.Spelled " flaky ".toList := by
      refine ⟨by decide, fun k h => ?_⟩
      rw [padded_iff FailureKind.whole_spelled] at h
      revert h
      cases k <;> decide
    obtain ⟨p, item, first, rfl, refused⟩ :=
      kindsRefused "timeout, flaky ,?" ⟨_, by decide, flaky⟩
    have hp : p = " flaky ".toList := by
      refine first.unique ⟨flaky, ["timeout".toList], [['?']], by decide, ?_⟩
      rw [List.forall_mem_singleton]
      exact fun h => h.2 .timeout (padded_self (FailureKind.spelled_name .timeout))
    rw [refused, hp]
    rfl
  · have large : Malformed SaysStatus "65536 ".toList := by
      refine ⟨by decide, fun n h => ?_⟩
      have hread := readU16_iff_saysStatus.mpr ((padded_iff whole_saysStatus).mp h)
      have hfails : (readU16 (String.ofList (Text.trimChars "65536 ".toList))).isOk = false := by
        decide
      rw [hread] at hfails
      contradiction
    obtain ⟨p, item, why, first, rfl, refused⟩ :=
      statusesRefused ",65536 ,x" ⟨_, by decide, large⟩
    have hp : p = "65536 ".toList := by
      refine first.unique ⟨large, [[]], [['x']], by decide, ?_⟩
      rw [List.forall_mem_singleton]
      exact fun h => h.1 (by decide)
    rw [refused, hp]
    exact ⟨why, rfl⟩

end Variable

end Reattempt
