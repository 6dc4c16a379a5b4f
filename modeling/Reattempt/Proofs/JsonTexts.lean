import Reattempt.Json.Reader
import Reattempt.Proofs.Spellings

/-!
The texts of a document in JSON, as a grammar apart from the way they are read. A document has many
texts: blanks may stand between its parts, a number may be written with or without an exponent, and
any character of a string as an escape. Each of them is read as the document. Main statement:
`read?_of_spells`.
-/
namespace Reattempt.Json

open Text

/-! ### Blanks -/

def Blank (cs : List Char) : Prop := ∀ c ∈ cs, isSpace c = true

/-- A text that does not begin with a blank. -/
def Solid (cs : List Char) : Prop := ∀ c ∈ cs.head?, isSpace c = false

theorem skipSpace_of_solid {cs : List Char} (h : Solid cs) : skipSpace cs = cs := by
  cases cs with
  | nil => rfl
  | cons c cs => exact List.dropWhile_cons_of_neg (Bool.eq_false_iff.mp (h c rfl))

theorem skipSpace_skipSpace (cs : List Char) : skipSpace (skipSpace cs) = skipSpace cs := by
  apply skipSpace_of_solid
  intro c hc
  have := List.head?_dropWhile_not isSpace cs
  rw [skipSpace, Option.mem_def] at hc
  simpa only [hc, Bool.not_eq_true'] using this

theorem skipSpace_append {blank cs : List Char} (hblank : Blank blank) (h : Solid cs) :
    skipSpace (blank ++ cs) = cs := by
  rw [skipSpace, List.dropWhile_append_of_pos hblank]
  exact skipSpace_of_solid h

/-! ### Numbers -/

def Numeral.sign (n : Numeral) : List Char := if n.negative then ['-'] else []

/-- The point and the digits after it, if there is one. -/
def Numeral.point (n : Numeral) : List Char :=
  match n.fraction with
  | none => []
  | some ds => '.' :: ds

/-- The texts of a number: no zero before another digit, and a digit on each side of the point. -/
structure SpellsNumeral (n : Numeral) (cs : List Char) : Prop where
  digits : ∀ c ∈ n.whole, isDigit c = true
  whole_ne : n.whole ≠ []
  no_zero : n.whole.head? = some '0' → n.whole.length = 1
  fraction_digits : ∀ ds ∈ n.fraction, ds ≠ [] ∧ ∀ c ∈ ds, isDigit c = true
  text : ∃ mark, ExponentPart mark n.exponent ∧
    cs = n.sign ++ (n.whole ++ (n.point ++ mark))

/-- A rest of a text with which no number goes on. -/
def Stops (rest : List Char) : Prop :=
  ∀ c ∈ rest.head?, isDigit c = false ∧ c ≠ '.' ∧ c ≠ 'e' ∧ c ≠ 'E'

/-- The digits after a point, if there is one, and the rest. -/
def scanFraction (cs : List Char) : Option (List Char) × List Char :=
  match cs with
  | '.' :: r => (some (r.takeWhile isDigit), r.dropWhile isDigit)
  | r => (none, r)

/-- The exponent after a mark, if there is one, and the rest. -/
def scanExponent (cs : List Char) : Option (Bool × List Char) × List Char :=
  match cs with
  | c :: r =>
    if c = 'e' ∨ c = 'E' then
      let (down, r) : Bool × List Char :=
        match r with
        | '-' :: r => (true, r)
        | '+' :: r => (false, r)
        | r => (false, r)
      (some (down, r.takeWhile isDigit), r.dropWhile isDigit)
    else (none, c :: r)
  | [] => (none, [])

/-- A number after its sign. -/
def scanMagnitude? (negative : Bool) (cs : List Char) : Option (Numeral × List Char) :=
  let whole := cs.takeWhile isDigit
  if whole.isEmpty || (whole.head? == some '0' && 1 < whole.length) then none
  else
    let (fraction, rest) := scanFraction (cs.dropWhile isDigit)
    let (exponent, rest) := scanExponent rest
    if fraction == some [] || exponent.any (·.2.isEmpty) then none
    else some (⟨negative, whole, fraction, exponent⟩, rest)

theorem scanNumeral?_minus (cs : List Char) : scanNumeral? ('-' :: cs) = scanMagnitude? true cs :=
  rfl

theorem scanNumeral?_cons {c : Char} {cs : List Char} (h : c ≠ '-') :
    scanNumeral? (c :: cs) = scanMagnitude? false (c :: cs) := by
  unfold scanNumeral?
  split
  next hsign =>
    split at hsign
    · next heq => exact absurd (List.cons.inj heq).1 h
    · cases hsign
      rfl

theorem scanExponent_of_part {mark rest : List Char} {e : Option (Bool × List Char)}
    (h : ExponentPart mark e) (stops : Stops rest) : scanExponent (mark ++ rest) = (e, rest) := by
  have ends : Ends rest := fun c hc => (stops c hc).1
  cases h with
  | absent =>
    cases rest with
    | nil => rfl
    | cons c rest =>
      obtain ⟨-, -, hlower, hupper⟩ := stops c rfl
      exact if_neg (not_or.mpr ⟨hlower, hupper⟩)
  | @plain _ ds hmark hne digits =>
    obtain ⟨d, ds, rfl⟩ := List.exists_cons_of_ne_nil hne
    have unsigned {c : Char} {r : List Char} (hc : isDigit c = false) :
        d :: ds ++ rest ≠ c :: r := by
      intro heq
      rw [← (List.cons.inj heq).1, digits d (List.mem_cons_self ..)] at hc
      contradiction
    rw [List.cons_append, scanExponent, if_pos hmark, takeWhile_digits digits ends,
      dropWhile_digits digits ends]
    · exact fun _ => unsigned rfl
    · exact fun _ => unsigned rfl
  | plus hmark hne digits =>
    simp only [List.cons_append, scanExponent, if_pos hmark, takeWhile_digits digits ends,
      dropWhile_digits digits ends]
  | minus hmark hne digits =>
    simp only [List.cons_append, scanExponent, if_pos hmark, takeWhile_digits digits ends,
      dropWhile_digits digits ends]

theorem scanFraction_of_none {cs : List Char} (h : ∀ c ∈ cs.head?, c ≠ '.') :
    scanFraction cs = (none, cs) := by
  unfold scanFraction
  split
  · exact absurd rfl (h '.' rfl)
  · rfl

theorem scanMagnitude?_of_spells {n : Numeral} {mark rest : List Char}
    (digits : ∀ c ∈ n.whole, isDigit c = true) (whole_ne : n.whole ≠ [])
    (no_zero : n.whole.head? = some '0' → n.whole.length = 1)
    (fraction_digits : ∀ ds ∈ n.fraction, ds ≠ [] ∧ ∀ c ∈ ds, isDigit c = true)
    (hmark : ExponentPart mark n.exponent) (stops : Stops rest) :
    scanMagnitude? n.negative (n.whole ++ (n.point ++ (mark ++ rest))) = some (n, rest) := by
  obtain ⟨negative, whole, fraction, exponent⟩ := n
  simp only at digits whole_ne no_zero fraction_digits hmark
  have guard :
      (whole.isEmpty || (whole.head? == some '0' && decide (1 < whole.length))) = false := by
    rw [Bool.or_eq_false_iff, Bool.and_eq_false_iff, List.isEmpty_eq_false_iff, beq_eq_false_iff_ne,
      decide_eq_false_iff_not, Nat.not_lt]
    exact ⟨whole_ne, Classical.or_iff_not_imp_left.mpr fun h => (no_zero (not_not.mp h)).le⟩
  have hpart : (exponent.any (·.2.isEmpty)) = false := by
    cases hmark with
    | absent => rfl
    | plain _ hne | plus _ hne | minus _ hne => exact List.isEmpty_eq_false_iff.mpr hne
  -- Neither the exponent nor what follows the number goes on with digits or a point.
  have hrest : ∀ c ∈ (mark ++ rest).head?, isDigit c = false ∧ c ≠ '.' := by
    cases mark with
    | nil =>
      intro c hc
      exact ⟨(stops c hc).1, (stops c hc).2.1⟩
    | cons m mark => exact hmark.head
  have ends : Ends (mark ++ rest) := fun c hc => (hrest c hc).1
  cases fraction with
  | none =>
    simp only [scanMagnitude?, Numeral.point, List.nil_append, takeWhile_digits digits ends,
      dropWhile_digits digits ends, guard, scanFraction_of_none fun c hc => (hrest c hc).2,
      scanExponent_of_part hmark stops, hpart]
    rfl
  | some ds =>
    obtain ⟨ds_ne, ds_digits⟩ := fraction_digits ds rfl
    have hpoint : Ends ('.' :: ds ++ (mark ++ rest)) := by
      intro c hc
      cases hc
      rfl
    have hfraction : (some ds == some []) = false :=
      beq_eq_false_iff_ne.mpr fun h => ds_ne (Option.some.inj h)
    rw [scanMagnitude?, Numeral.point]
    simp only [takeWhile_digits digits hpoint, dropWhile_digits digits hpoint, guard]
    simp only [List.cons_append, scanFraction, takeWhile_digits ds_digits ends,
      dropWhile_digits ds_digits ends, scanExponent_of_part hmark stops, hpart, hfraction]
    rfl

theorem scanNumeral?_of_spells {n : Numeral} {cs rest : List Char} (h : SpellsNumeral n cs)
    (stops : Stops rest) : scanNumeral? (cs ++ rest) = some (n, rest) := by
  obtain ⟨digits, whole_ne, no_zero, fraction_digits, mark, hmark, rfl⟩ := h
  have hscan := scanMagnitude?_of_spells digits whole_ne no_zero fraction_digits hmark stops
  simp only [List.append_assoc]
  cases hsign : n.negative with
  | true =>
    rw [hsign] at hscan
    rw [Numeral.sign, hsign]
    exact (scanNumeral?_minus _).trans hscan
  | false =>
    rw [hsign] at hscan
    obtain ⟨d, ds, hds⟩ := List.exists_cons_of_ne_nil whole_ne
    have hd : d ≠ '-' := by
      rintro rfl
      have := digits '-' (by rw [hds]; exact List.mem_cons_self ..)
      contradiction
    rw [Numeral.sign, hsign]
    rw [hds] at hscan ⊢
    exact (scanNumeral?_cons hd).trans hscan

/-! ### Strings -/

/-- The texts of the characters of a string, without the quotes around them: a character may stand
for itself unless it is a quote, a backslash or a control character, and each may be escaped. -/
inductive SpellsText : List Char → List Char → Prop
  | nil : SpellsText [] []
  | plain {c s cs} (hcontrol : 0x20 ≤ c.toNat) (hquote : c ≠ '\x22') (hslash : c ≠ '\\')
      (h : SpellsText s cs) : SpellsText (c :: s) (c :: cs)
  | simple {e c s cs} (he : simpleEscape? e = some c) (h : SpellsText s cs) :
      SpellsText (c :: s) ('\\' :: e :: cs)
  | code {a b c d u s cs} (hu : hex4? a b c d = some u.toNat) (h : SpellsText s cs) :
      SpellsText (u :: s) ('\\' :: 'u' :: a :: b :: c :: d :: cs)
  /-- Past the first 65536 characters an escape takes the two halves of a surrogate pair. -/
  | pair {a b c d a' b' c' d' m n u s cs} (hm : hex4? a b c d = some m)
      (hn : hex4? a' b' c' d' = some n) (hhigh : 0xD800 ≤ m ∧ m < 0xDC00)
      (hlow : 0xDC00 ≤ n ∧ n < 0xE000)
      (hu : u = Char.ofNat (0x10000 + (m - 0xD800) * 0x400 + (n - 0xDC00))) (h : SpellsText s cs) :
      SpellsText (u :: s)
        ('\\' :: 'u' :: a :: b :: c :: d :: '\\' :: 'u' :: a' :: b' :: c' :: d' :: cs)

/-- A character is no half of a surrogate pair. -/
theorem joinPairs?_char (c : Char) (ns : List Nat) :
    joinPairs? (c.toNat :: ns) = (joinPairs? ns).map (c :: ·) := by
  have hvalid : ¬ (0xD800 ≤ c.toNat ∧ c.toNat < 0xDC00) ∧
      ¬ (0xDC00 ≤ c.toNat ∧ c.toNat < 0xE000) := by
    have : c.toNat < 0xD800 ∨ (0xDFFF < c.toNat ∧ c.toNat < 0x110000) := c.valid
    omega
  rw [joinPairs?.eq_def]
  simp only [if_neg hvalid.1, if_neg hvalid.2, Char.ofNat_toNat]

theorem joinPairs?_pair {m n : Nat} (hhigh : 0xD800 ≤ m ∧ m < 0xDC00)
    (hlow : 0xDC00 ≤ n ∧ n < 0xE000) (ns : List Nat) : joinPairs? (m :: n :: ns) =
      (joinPairs? ns).map (Char.ofNat (0x10000 + (m - 0xD800) * 0x400 + (n - 0xDC00)) :: ·) := by
  exact (if_pos hhigh).trans (if_pos hlow)

theorem scanString?_plain {c : Char} {r r' : List Char} {ns : List Nat} (hcontrol : 0x20 ≤ c.toNat)
    (hquote : c ≠ '\x22') (hslash : c ≠ '\\') (h : scanString? r = some (ns, r')) :
    scanString? (c :: r) = some (c.toNat :: ns, r') := by
  unfold scanString?
  split
  · next heq => exact absurd (List.cons.inj heq).1 hquote
  · next heq => exact absurd (List.cons.inj heq).1 hslash
  · next heq => exact absurd (List.cons.inj heq).1 hslash
  · next heq =>
    obtain ⟨rfl, rfl⟩ := List.cons.inj heq
    rw [if_neg (not_or.mpr ⟨Nat.not_lt.mpr hcontrol, hslash⟩), h]
    rfl
  · contradiction

theorem scanString?_simple {e c : Char} {r r' : List Char} {ns : List Nat}
    (he : simpleEscape? e = some c) (h : scanString? r = some (ns, r')) :
    scanString? ('\\' :: e :: r) = some (c.toNat :: ns, r') := by
  unfold scanString?
  split
  · next heq => exact absurd (List.cons.inj heq).1 (by decide)
  · next heq =>
    obtain ⟨-, heq⟩ := List.cons.inj heq
    rw [(List.cons.inj heq).1] at he
    contradiction
  · next heq =>
    obtain ⟨-, heq⟩ := List.cons.inj heq
    obtain ⟨rfl, rfl⟩ := List.cons.inj heq
    rw [he, h]
    rfl
  · next hnot heq =>
    obtain ⟨rfl, rfl⟩ := List.cons.inj heq
    exact (hnot e r rfl rfl).elim
  · contradiction

theorem scanString?_escape (a b c d : Char) (r : List Char) :
    scanString? ('\\' :: 'u' :: a :: b :: c :: d :: r) =
      (hex4? a b c d).bind fun n => (scanString? r).bind fun (ns, r) => some (n :: ns, r) := rfl

theorem scanString?_code {a b c d : Char} {r r' : List Char} {n : Nat} {ns : List Nat}
    (hn : hex4? a b c d = some n) (h : scanString? r = some (ns, r')) :
    scanString? ('\\' :: 'u' :: a :: b :: c :: d :: r) = some (n :: ns, r') := by
  rw [scanString?_escape, hn, h]
  rfl

theorem scanString?_of_spells {s cs : List Char} (h : SpellsText s cs) (rest : List Char) :
    ∃ ns, scanString? (cs ++ '\x22' :: rest) = some (ns, rest) ∧ joinPairs? ns = some s := by
  induction h with
  | nil => exact ⟨[], rfl, rfl⟩
  | plain hcontrol hquote hslash _ ih =>
    obtain ⟨ns, hscan, hjoin⟩ := ih
    refine ⟨_, scanString?_plain hcontrol hquote hslash hscan, ?_⟩
    rw [joinPairs?_char, hjoin]
    rfl
  | simple he _ ih =>
    obtain ⟨ns, hscan, hjoin⟩ := ih
    refine ⟨_, scanString?_simple he hscan, ?_⟩
    rw [joinPairs?_char, hjoin]
    rfl
  | code hu _ ih =>
    obtain ⟨ns, hscan, hjoin⟩ := ih
    refine ⟨_, scanString?_code hu hscan, ?_⟩
    rw [joinPairs?_char, hjoin]
    rfl
  | pair hm hn hhigh hlow hu _ ih =>
    obtain ⟨ns, hscan, hjoin⟩ := ih
    refine ⟨_, scanString?_code hm (scanString?_code hn hscan), ?_⟩
    rw [joinPairs?_pair hhigh hlow, hjoin, hu]
    rfl

/-! ### Documents -/

mutual

/-- The texts of a document, from its first character to its last. -/
inductive Spells : Document → List Char → Prop
  | null : Spells .null "null".toList
  | flag (b : Bool) : Spells (.flag b) (if b then "true" else "false").toList
  | number {n cs} (h : SpellsNumeral n cs) : Spells n.document cs
  | text {s : String} {cs} (h : SpellsText s.toList cs) :
      Spells (.text (some s)) ('\x22' :: (cs ++ ['\x22']))
  | emptyList {b} (hb : Blank b) : Spells (.list []) ('[' :: (b ++ [']']))
  | list {ds cs} (h : SpellsItems ds cs) : Spells (.list ds) ('[' :: (cs ++ [']']))
  | emptyTable {b} (hb : Blank b) : Spells (.table []) ('\x7b' :: (b ++ ['\x7d']))
  | table {es cs} (h : SpellsEntries es cs) : Spells (.table es) ('\x7b' :: (cs ++ ['\x7d']))

/-- The texts of one item or more, with commas between them. -/
inductive SpellsItems : List Document → List Char → Prop
  | last {d b cs b'} (hb : Blank b) (h : Spells d cs) (hb' : Blank b') :
      SpellsItems [d] (b ++ (cs ++ b'))
  | cons {d b cs b' ds cs'} (hb : Blank b) (h : Spells d cs) (hb' : Blank b')
      (hs : SpellsItems ds cs') : SpellsItems (d :: ds) (b ++ (cs ++ (b' ++ ',' :: cs')))

/-- The texts of one entry or more, each with a colon after its name. -/
inductive SpellsEntries : List (Option String × Document) → List Char → Prop
  | last {name : String} {d b key b₁ b₂ cs b'} (hb : Blank b) (hkey : SpellsText name.toList key)
      (hb₁ : Blank b₁) (hb₂ : Blank b₂) (h : Spells d cs) (hb' : Blank b') :
      SpellsEntries [(some name, d)]
        (b ++ '\x22' :: (key ++ '\x22' :: (b₁ ++ ':' :: (b₂ ++ (cs ++ b')))))
  | cons {name : String} {d b key b₁ b₂ cs b' es cs'} (hb : Blank b)
      (hkey : SpellsText name.toList key) (hb₁ : Blank b₁) (hb₂ : Blank b₂) (h : Spells d cs)
      (hb' : Blank b') (hs : SpellsEntries es cs') :
      SpellsEntries ((some name, d) :: es)
        (b ++ '\x22' :: (key ++ '\x22' :: (b₁ ++ ':' :: (b₂ ++ (cs ++ (b' ++ ',' :: cs'))))))

end

theorem not_space_of_isDigit {c : Char} (h : isDigit c = true) : isSpace c = false := by
  by_contra hspace
  simp only [isSpace, Bool.not_eq_false, Bool.or_eq_true, decide_eq_true_eq] at hspace
  rcases hspace with ((rfl | rfl) | rfl) | rfl <;> exact absurd h (by decide)

/-- What may follow a document: blanks, and what ends an item. -/
theorem stops_append {b rest : List Char} (hb : Blank b) (stops : Stops rest) :
    Stops (b ++ rest) := by
  cases b with
  | nil => exact stops
  | cons c b =>
    intro c' hc'
    cases hc'
    have hspace := hb c (List.mem_cons_self ..)
    simp only [isSpace, Bool.or_eq_true, decide_eq_true_eq] at hspace
    rcases hspace with ((rfl | rfl) | rfl) | rfl <;> decide

theorem stops_cons {rest : List Char} {c : Char} (hc : c = ',' ∨ c = ']' ∨ c = '\x7d') :
    Stops (c :: rest) := by
  intro c' hc'
  cases hc'
  rcases hc with rfl | rfl | rfl <;> decide

theorem SpellsNumeral.head {n : Numeral} {cs : List Char} (h : SpellsNumeral n cs) :
    ∃ c r, cs = c :: r ∧ (c = '-' ∨ isDigit c = true) := by
  obtain ⟨digits, whole_ne, -, -, mark, -, rfl⟩ := h
  obtain ⟨d, ds, hds⟩ := List.exists_cons_of_ne_nil whole_ne
  unfold Numeral.sign
  split
  · exact ⟨'-', _, rfl, .inl rfl⟩
  · rw [hds]
    exact ⟨d, _, rfl, .inr (digits d (by rw [hds]; exact List.mem_cons_self ..))⟩

/-- A document begins neither with a blank nor with what ends a list or a table. -/
theorem Spells.head {d : Document} {cs : List Char} (h : Spells d cs) :
    ∃ c r, cs = c :: r ∧ isSpace c = false ∧ c ≠ ']' ∧ c ≠ '\x7d' := by
  cases h with
  | null => exact ⟨'n', _, rfl, by decide⟩
  | flag b => cases b <;> exact ⟨_, _, rfl, by decide⟩
  | number h =>
    obtain ⟨c, r, rfl, hc⟩ := h.head
    refine ⟨c, r, rfl, ?_⟩
    rcases hc with rfl | hc
    · decide
    · refine ⟨not_space_of_isDigit hc, ?_, ?_⟩
      all_goals
        rintro rfl
        exact absurd hc (by decide)
  | text | emptyList | list | emptyTable | table => exact ⟨_, _, rfl, by decide⟩

/-! ### Reading -/

theorem scan?_skipSpace (left : Nat) (cs : List Char) :
    scan? left (skipSpace cs) = scan? left cs := by
  cases left with
  | zero => rfl
  | succ left => rw [scan?, scan?, skipSpace_skipSpace]

theorem scan?_blank {b cs : List Char} (hb : Blank b) (left : Nat) :
    scan? left (b ++ cs) = scan? left cs := by
  rw [← scan?_skipSpace, skipSpace, List.dropWhile_append_of_pos hb]
  exact scan?_skipSpace left cs

theorem scanItems?_succ (left : Nat) (cs : List Char) : scanItems? (left + 1) cs =
    (scan? left cs).bind fun (d, r) =>
      match skipSpace r with
      | ',' :: r => (scanItems? left r).bind fun (ds, r) => some (d :: ds, r)
      | ']' :: r => some ([d], r)
      | _ => none := rfl

theorem scanItems?_skipSpace (left : Nat) (cs : List Char) :
    scanItems? left (skipSpace cs) = scanItems? left cs := by
  cases left with
  | zero => rfl
  | succ left => rw [scanItems?_succ, scanItems?_succ, scan?_skipSpace]

theorem scanEntries?_skipSpace (left : Nat) (cs : List Char) :
    scanEntries? left (skipSpace cs) = scanEntries? left cs := by
  cases left with
  | zero => rfl
  | succ left => rw [scanEntries?, scanEntries?, skipSpace_skipSpace]

theorem scanEntries?_blank {b cs : List Char} (hb : Blank b) (left : Nat) :
    scanEntries? left (b ++ cs) = scanEntries? left cs := by
  rw [← scanEntries?_skipSpace, skipSpace, List.dropWhile_append_of_pos hb]
  exact scanEntries?_skipSpace left cs

theorem scanEntries?_quote (left : Nat) (cs : List Char) : scanEntries? (left + 1) ('\x22' :: cs) =
    (scanString? cs).bind fun (ns, r) =>
      match skipSpace r with
      | ':' :: r => (scan? left r).bind fun (d, r) =>
        match skipSpace r with
        | ',' :: r => (scanEntries? left r).bind fun (es, r) => some ((textOf ns, d) :: es, r)
        | '\x7d' :: r => some ([(textOf ns, d)], r)
        | _ => none
      | _ => none := rfl

theorem scan?_number {c : Char} {r : List Char} (hc : c = '-' ∨ isDigit c = true) (left : Nat) :
    scan? (left + 1) (c :: r) = (scanNumeral? (c :: r)).map fun (n, r) => (n.document, r) := by
  have hsolid : Solid (c :: r) := by
    intro c' hc'
    cases hc'
    rcases hc with rfl | hc
    · decide
    · exact not_space_of_isDigit hc
  have hother {w : Char} {r' : List Char} (heq : c :: r = w :: r')
      (hw : w ≠ '-' ∧ isDigit w = false) : False := by
    rw [← (List.cons.inj heq).1] at hw
    rcases hc with hc | hc
    · exact hw.1 hc
    · rw [hw.2] at hc
      contradiction
  rw [scan?, skipSpace_of_solid hsolid]
  split
  · next heq => exact (hother heq (by decide)).elim
  · next heq => exact (hother heq (by decide)).elim
  · next heq => exact (hother heq (by decide)).elim
  · next heq => exact (hother heq (by decide)).elim
  · next heq => exact (hother heq (by decide)).elim
  · next heq => exact (hother heq (by decide)).elim
  · rfl

theorem scan?_text (left : Nat) (cs : List Char) :
    scan? (left + 1) ('\x22' :: cs) =
      (scanString? cs).map fun (ns, r) => (.text (textOf ns), r) := rfl

theorem scan?_bracket (left : Nat) (cs : List Char) : scan? (left + 1) ('[' :: cs) =
    match skipSpace cs with
    | ']' :: r => some (.list [], r)
    | r => (scanItems? left r).map fun (ds, r) => (.list ds, r) := rfl

theorem scan?_brace (left : Nat) (cs : List Char) : scan? (left + 1) ('\x7b' :: cs) =
    match skipSpace cs with
    | '\x7d' :: r => some (.table [], r)
    | r => (scanEntries? left r).map fun (es, r) => (.table es, r) := rfl

theorem scan?_emptyList {cs rest : List Char} (h : skipSpace cs = ']' :: rest) (left : Nat) :
    scan? (left + 1) ('[' :: cs) = some (.list [], rest) := by
  rw [scan?_bracket, h]
  rfl

theorem scan?_emptyTable {cs rest : List Char} (h : skipSpace cs = '\x7d' :: rest) (left : Nat) :
    scan? (left + 1) ('\x7b' :: cs) = some (.table [], rest) := by
  rw [scan?_brace, h]
  rfl

/-- A list that does not end at once is read item by item. -/
theorem scan?_list {cs : List Char} (h : ∀ r, skipSpace cs ≠ ']' :: r) (left : Nat) :
    scan? (left + 1) ('[' :: cs) = (scanItems? left cs).map fun (ds, r) => (.list ds, r) := by
  rw [scan?_bracket, ← scanItems?_skipSpace]
  split
  · next r heq => exact absurd heq (h r)
  · rfl

/-- A table that does not end at once is read entry by entry. -/
theorem scan?_table {cs : List Char} (h : ∀ r, skipSpace cs ≠ '\x7d' :: r) (left : Nat) :
    scan? (left + 1) ('\x7b' :: cs) = (scanEntries? left cs).map fun (es, r) => (.table es, r) := by
  rw [scan?_brace, ← scanEntries?_skipSpace]
  split
  · next r heq => exact absurd heq (h r)
  · rfl

theorem textOf_of_joinPairs? {s : String} {ns : List Nat} (h : joinPairs? ns = some s.toList) :
    textOf ns = some s := by
  rw [textOf, h, Option.map_some, String.ofList_toList]

/-- Items do not begin with what ends a list, entries not with what ends a table. -/
theorem SpellsItems.skipSpace_ne {ds : List Document} {cs : List Char} (h : SpellsItems ds cs)
    (rest r : List Char) : skipSpace (cs ++ rest) ≠ ']' :: r := by
  have first {b cs rest : List Char} {d : Document} (hb : Blank b) (h : Spells d cs) :
      skipSpace (b ++ (cs ++ rest)) ≠ ']' :: r := by
    obtain ⟨c, r', rfl, hspace, hbracket, -⟩ := h.head
    have hsolid : Solid (c :: r' ++ rest) := by
      intro c' hc'
      cases hc'
      exact hspace
    rw [skipSpace_append hb hsolid]
    exact fun heq => hbracket (List.cons.inj heq).1
  cases h with
  | last hb h hb' =>
    simp only [List.append_assoc]
    exact first hb h
  | cons hb h hb' hs =>
    simp only [List.append_assoc]
    exact first hb h

theorem SpellsEntries.skipSpace_ne {es : List (Option String × Document)} {cs : List Char}
    (h : SpellsEntries es cs) (rest r : List Char) : skipSpace (cs ++ rest) ≠ '\x7d' :: r := by
  have first {b cs : List Char} (hb : Blank b) : skipSpace (b ++ '\x22' :: cs) ≠ '\x7d' :: r := by
    rw [skipSpace_append hb (by intro c hc; cases hc; rfl)]
    exact fun heq => absurd (List.cons.inj heq).1 (by decide)
  cases h with
  | last hb =>
    rw [List.append_assoc]
    exact first hb
  | cons hb =>
    rw [List.append_assoc]
    exact first hb

theorem skipSpace_ending {b rest : List Char} {c : Char} (hb : Blank b) (hc : isSpace c = false) :
    skipSpace (b ++ c :: rest) = c :: rest := by
  apply skipSpace_append hb
  intro c' hc'
  cases hc'
  exact hc

/-- One item, and what is read after it. -/
theorem scanItems?_item {d : Document} {b cs b' : List Char} {left : Nat} (hb : Blank b)
    (hb' : Blank b') (hscan : ∀ {c : Char} {rest : List Char}, c = ',' ∨ c = ']' ∨ c = '\x7d' →
      scan? left (cs ++ (b' ++ c :: rest)) = some (d, b' ++ c :: rest)) (rest : List Char) :
    scanItems? (left + 1) (b ++ (cs ++ (b' ++ ']' :: rest))) = some ([d], rest) ∧
      scanItems? (left + 1) (b ++ (cs ++ (b' ++ ',' :: rest))) =
        (scanItems? left rest).map fun (ds, r) => (d :: ds, r) := by
  have hcomma : isSpace ',' = false := rfl
  have hbracket : isSpace ']' = false := rfl
  constructor
  · simp only [scanItems?_succ, scan?_blank hb, hscan (.inr (.inl rfl)), Option.bind_some,
      skipSpace_ending hb' hbracket]
  · simp only [scanItems?_succ, scan?_blank hb, hscan (.inl rfl), Option.bind_some,
      skipSpace_ending hb' hcomma]
    cases scanItems? left rest <;> rfl

/-- One entry, and what is read after it. -/
theorem scanEntries?_entry {name : String} {d : Document} {b key b₁ b₂ cs b' : List Char}
    {left : Nat} (hb : Blank b) (hkey : SpellsText name.toList key) (hb₁ : Blank b₁)
    (hb₂ : Blank b₂) (hb' : Blank b')
    (hscan : ∀ {c : Char} {rest : List Char}, c = ',' ∨ c = ']' ∨ c = '\x7d' →
      scan? left (cs ++ (b' ++ c :: rest)) = some (d, b' ++ c :: rest)) (rest : List Char) :
    scanEntries? (left + 1) (b ++ '\x22' :: (key ++ '\x22' :: (b₁ ++ ':' :: (b₂ ++ (cs ++
        (b' ++ '\x7d' :: rest)))))) = some ([(some name, d)], rest) ∧
      scanEntries? (left + 1) (b ++ '\x22' :: (key ++ '\x22' :: (b₁ ++ ':' :: (b₂ ++ (cs ++
        (b' ++ ',' :: rest)))))) =
        (scanEntries? left rest).map fun (es, r) => ((some name, d) :: es, r) := by
  have hname (r : List Char) : ∃ ns, scanString? (key ++ '\x22' :: r) = some (ns, r) ∧
      textOf ns = some name := by
    obtain ⟨ns, hscan, hjoin⟩ := scanString?_of_spells hkey r
    exact ⟨ns, hscan, textOf_of_joinPairs? hjoin⟩
  have hcolon : isSpace ':' = false := rfl
  have hcomma : isSpace ',' = false := rfl
  have hbrace : isSpace '\x7d' = false := rfl
  constructor
  · obtain ⟨ns, hstring, htext⟩ := hname (b₁ ++ ':' :: (b₂ ++ (cs ++ (b' ++ '\x7d' :: rest))))
    simp only [scanEntries?_blank hb, scanEntries?_quote, hstring, Option.bind_some,
      skipSpace_ending hb₁ hcolon, scan?_blank hb₂, hscan (.inr (.inr rfl)),
      skipSpace_ending hb' hbrace, htext]
  · obtain ⟨ns, hstring, htext⟩ := hname (b₁ ++ ':' :: (b₂ ++ (cs ++ (b' ++ ',' :: rest))))
    simp only [scanEntries?_blank hb, scanEntries?_quote, hstring, Option.bind_some,
      skipSpace_ending hb₁ hcolon, scan?_blank hb₂, hscan (.inl rfl),
      skipSpace_ending hb' hcomma, htext]
    cases scanEntries? left rest <;> rfl

-- The steps left have to cover two for each character: one for what is scanned, one for the list or
-- table around it.
mutual

theorem scan?_of_spells {d : Document} {cs : List Char} :
    Spells d cs → ∀ {left : Nat} {rest : List Char}, 2 * cs.length ≤ left → Stops rest →
      scan? left (cs ++ rest) = some (d, rest)
  | .null, left + 1, rest, hleft, stops => rfl
  | .flag true, left + 1, rest, hleft, stops => rfl
  | .flag false, left + 1, rest, hleft, stops => rfl
  | .number h, left, rest, hleft, stops => by
    obtain ⟨c, r, rfl, hc⟩ := h.head
    obtain ⟨left, rfl⟩ := Nat.exists_eq_add_of_le' (Nat.lt_of_lt_of_le (by simp) hleft : 0 < left)
    have hscan := scanNumeral?_of_spells h stops
    rw [List.cons_append] at hscan ⊢
    rw [scan?_number hc, hscan]
    rfl
  | .text h, left + 1, rest, hleft, stops => by
    obtain ⟨ns, hscan, hjoin⟩ := scanString?_of_spells h rest
    rw [List.cons_append, List.append_assoc, scan?_text]
    rw [List.cons_append, List.nil_append, hscan]
    simp only [Option.map_some, textOf_of_joinPairs? hjoin]
  | .emptyList hb, left + 1, rest, hleft, stops => by
    rw [List.cons_append, List.append_assoc]
    exact scan?_emptyList (skipSpace_ending hb rfl) left
  | .list h, left + 1, rest, hleft, stops => by
    simp only [List.length_cons, List.length_append] at hleft
    rw [List.cons_append, List.append_assoc, scan?_list (h.skipSpace_ne _)]
    rw [List.cons_append, scanItems?_of_spells h (by omega)]
    rfl
  | .emptyTable hb, left + 1, rest, hleft, stops => by
    rw [List.cons_append, List.append_assoc]
    exact scan?_emptyTable (skipSpace_ending hb rfl) left
  | .table h, left + 1, rest, hleft, stops => by
    simp only [List.length_cons, List.length_append] at hleft
    rw [List.cons_append, List.append_assoc, scan?_table (h.skipSpace_ne _)]
    rw [List.cons_append, scanEntries?_of_spells h (by omega)]
    rfl

theorem scanItems?_of_spells {ds : List Document} {cs : List Char} :
    SpellsItems ds cs → ∀ {left : Nat} {rest : List Char}, 2 * cs.length + 1 ≤ left →
      scanItems? left (cs ++ ']' :: rest) = some (ds, rest)
  | .last hb h hb', left + 1, rest, hleft => by
    simp only [List.length_append] at hleft
    rw [List.append_assoc, List.append_assoc]
    exact (scanItems?_item hb hb'
      (fun hc => scan?_of_spells h (by omega) (stops_append hb' (stops_cons hc))) rest).1
  | .cons hb h hb' hs, left + 1, rest, hleft => by
    simp only [List.length_append, List.length_cons] at hleft
    simp only [List.append_assoc, List.cons_append]
    rw [(scanItems?_item hb hb'
        (fun hc => scan?_of_spells h (by omega) (stops_append hb' (stops_cons hc))) _).2,
      scanItems?_of_spells hs (by omega)]
    rfl

theorem scanEntries?_of_spells {es : List (Option String × Document)} {cs : List Char} :
    SpellsEntries es cs → ∀ {left : Nat} {rest : List Char}, 2 * cs.length + 1 ≤ left →
      scanEntries? left (cs ++ '\x7d' :: rest) = some (es, rest)
  | .last hb hkey hb₁ hb₂ h hb', left + 1, rest, hleft => by
    simp only [List.length_append, List.length_cons] at hleft
    simp only [List.append_assoc, List.cons_append]
    exact (scanEntries?_entry hb hkey hb₁ hb₂ hb'
      (fun hc => scan?_of_spells h (by omega) (stops_append hb' (stops_cons hc))) rest).1
  | .cons hb hkey hb₁ hb₂ h hb' hs, left + 1, rest, hleft => by
    simp only [List.length_append, List.length_cons] at hleft
    simp only [List.append_assoc, List.cons_append]
    rw [(scanEntries?_entry hb hkey hb₁ hb₂ hb'
        (fun hc => scan?_of_spells h (by omega) (stops_append hb' (stops_cons hc))) _).2,
      scanEntries?_of_spells hs (by omega)]
    rfl

end

/-- A text of a document, with blanks around it. -/
def IsText (d : Document) (cs : List Char) : Prop :=
  ∃ b cs' b', Blank b ∧ Spells d cs' ∧ Blank b' ∧ cs = b ++ (cs' ++ b')

/-- Every text of a document is read as the document. -/
theorem read?_of_isText {d : Document} {s : String} (h : IsText d s.toList) : read? s = some d := by
  obtain ⟨b, cs, b', hb, hspells, hb', hs⟩ := h
  have stops : Stops b' := by
    rw [← List.append_nil b']
    exact stops_append hb' fun _ hc => nomatch hc
  have hscan : scan? (2 * s.toList.length + 2) s.toList = some (d, b') := by
    rw [hs, scan?_blank hb]
    apply scan?_of_spells hspells _ stops
    simp only [List.length_append]
    omega
  have hend : skipSpace b' = [] := by
    rw [← List.append_nil b']
    exact skipSpace_append hb' fun _ hc => nomatch hc
  rw [read?, hscan]
  simp only [bind, Option.bind, hend]
  rfl

end Reattempt.Json
