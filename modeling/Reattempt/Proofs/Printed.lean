import Reattempt.Json.Writer
import Reattempt.Proofs.JsonTexts

/-!
Printed forms of values. What is printed is a text that says the value: decimal digits for an
integer, in a variable or in JSON, and strings with what JSON has to escape.
-/
namespace Reattempt

namespace Text

/-! ### Digits of a number -/

theorem isDigit_toDigits (n : Nat) : ∀ c ∈ Nat.toDigits 10 n, isDigit c = true := by
  intro c hc
  exact Nat.isDigit_of_mem_toDigits (by decide) le_rfl hc

theorem digitsValue_toDigits (n : Nat) : digitsValue (Nat.toDigits 10 n) = n := by
  have hfold (cs : List Char) (digits : ∀ c ∈ cs, isDigit c = true) (m : Nat) :
      cs.foldl (fun n c => 10 * n + (digit? c).getD 0) m = Nat.ofDigitChars 10 cs m := by
    induction cs generalizing m with
    | nil => rfl
    | cons c cs ih =>
      obtain ⟨hc, digits⟩ := List.forall_mem_cons.mp digits
      have hdigit : (digit? c).getD 0 = c.toNat - '0'.toNat := by
        simp only [isDigit, Bool.and_eq_true, decide_eq_true_eq] at hc
        rw [digit?, if_pos hc]
        rfl
      rw [List.foldl_cons, hdigit, ih digits]
      rfl
  rw [digitsValue, hfold _ (isDigit_toDigits n)]
  exact Nat.ofDigitChars_ten_toDigits

/-- The digits of a number do not begin with a zero, but for zero itself. -/
theorem head_toDigits {n : Nat} (h : 0 < n) : (Nat.toDigits 10 n).head? ≠ some '0' := by
  induction n using Nat.strong_induction_on with
  | _ n ih =>
    by_cases hsmall : n < 10
    · rw [Nat.toDigits_of_lt_base hsmall, List.head?_cons]
      intro hzero
      have := Nat.digitChar_eq_zero.mp (Option.some.inj hzero)
      omega
    · -- The first digit is that of the number without its last digit.
      rw [Nat.toDigits_of_base_le (by decide) (by omega),
        List.head?_append_of_ne_nil _ Nat.toDigits_ne_nil]
      exact ih (n / 10) (by omega) (by omega)

theorem saysUnsigned_toDigits {limit n : Nat} (h : n ≤ limit) :
    SaysUnsigned limit (Nat.toDigits 10 n) n := by
  have hsays : SaysUnsigned limit (Nat.toDigits 10 n) (digitsValue (Nat.toDigits 10 n)) :=
    .plain Nat.toDigits_ne_nil (isDigit_toDigits n) (by rwa [digitsValue_toDigits])
  rwa [digitsValue_toDigits] at hsays

theorem not_isBlank_of_isDigit {c : Char} (h : isDigit c = true) : isBlank c = false := by
  have hrange : 48 ≤ c.toNat ∧ c.toNat ≤ 57 := by
    simp only [isDigit, Bool.and_eq_true, decide_eq_true_eq] at h
    exact h
  simp only [isBlank, Bool.or_eq_false_iff, Bool.and_eq_false_iff, decide_eq_false_iff_not,
    beq_eq_false_iff_ne]
  omega

end Text

/-! ### JSON -/

namespace Json

open Text

theorem spells_whole {n : Nat} (h : n < 2 ^ 64) : Spells (.whole n) (Nat.toDigits 10 n) := by
  let numeral : Numeral := ⟨false, Nat.toDigits 10 n, none, none⟩
  have hspells : SpellsNumeral numeral (Nat.toDigits 10 n) := by
    refine ⟨isDigit_toDigits n, Nat.toDigits_ne_nil, ?_, (fun _ h => nomatch h),
      [], .absent, ?_⟩
    · intro hzero
      rcases Nat.eq_zero_or_pos n with rfl | hpos
      · rfl
      · exact absurd hzero (head_toDigits hpos)
    · simp [numeral, Numeral.sign, Numeral.point]
  have hdocument : numeral.document = .whole n := by
    simp [numeral, Numeral.document, digitsValue_toDigits, h]
  rw [← hdocument]
  exact .number hspells

theorem hex4?_control : ∀ n < 0x20,
    hex4? '0' '0' (Nat.digitChar (n / 16)) (Nat.digitChar (n % 16)) = some n := by
  decide

theorem spellsText_writeChar (s : List Char) : SpellsText s (s.flatMap writeChar) := by
  induction s with
  | nil => exact .nil
  | cons c s ih =>
    rw [List.flatMap_cons, writeChar]
    split_ifs with hquote hslash hn hr ht hb hf hcontrol
    · exact .simple (by rw [hquote]; rfl) ih
    · exact .simple (by rw [hslash]; rfl) ih
    · exact .simple (by rw [hn]; rfl) ih
    · exact .simple (by rw [hr]; rfl) ih
    · exact .simple (by rw [ht]; rfl) ih
    · exact .simple (by rw [hb]; rfl) ih
    · exact .simple (by rw [hf]; rfl) ih
    · exact .code (hex4?_control c.toNat hcontrol) ih
    · exact .plain (Nat.le_of_not_lt hcontrol) hquote hslash ih

theorem blank_nil : Blank [] := fun _ h => nomatch h

theorem exists_spells_list {ds : List Document} (h : ∀ d ∈ ds, ∃ cs, Spells d cs) :
    ∃ cs, Spells (.list ds) cs := by
  have hitems {d : Document} {ds : List Document} (h : ∀ d' ∈ d :: ds, ∃ cs, Spells d' cs) :
      ∃ cs, SpellsItems (d :: ds) cs := by
    induction ds generalizing d with
    | nil =>
      obtain ⟨cs, hcs⟩ := h d (List.mem_cons_self ..)
      exact ⟨_, .last blank_nil hcs blank_nil⟩
    | cons d' ds ih =>
      obtain ⟨cs, hcs⟩ := h d (List.mem_cons_self ..)
      obtain ⟨cs', hcs'⟩ := ih fun d hd => h d (List.mem_cons_of_mem _ hd)
      exact ⟨_, .cons blank_nil hcs blank_nil hcs'⟩
  cases ds with
  | nil => exact ⟨_, .emptyList blank_nil⟩
  | cons d ds =>
    obtain ⟨cs, hcs⟩ := hitems h
    exact ⟨_, .list hcs⟩

theorem exists_spells_table {es : List (Option String × Document)}
    (h : ∀ e ∈ es, ∃ name d cs, e = (some name, d) ∧ Spells d cs) :
    ∃ cs, Spells (.table es) cs := by
  have hentries {e : Option String × Document} {es : List (Option String × Document)}
      (h : ∀ e' ∈ e :: es, ∃ name d cs, e' = (some name, d) ∧ Spells d cs) :
      ∃ cs, SpellsEntries (e :: es) cs := by
    induction es generalizing e with
    | nil =>
      obtain ⟨name, d, cs, rfl, hcs⟩ := h e (List.mem_cons_self ..)
      exact ⟨_, .last blank_nil (spellsText_writeChar _) blank_nil blank_nil hcs blank_nil⟩
    | cons e' es ih =>
      obtain ⟨name, d, cs, rfl, hcs⟩ := h e (List.mem_cons_self ..)
      obtain ⟨cs', hcs'⟩ := ih fun d hd => h d (List.mem_cons_of_mem _ hd)
      exact ⟨_, .cons blank_nil (spellsText_writeChar _) blank_nil blank_nil hcs blank_nil hcs'⟩
  cases es with
  | nil => exact ⟨_, .emptyTable blank_nil⟩
  | cons e es =>
    obtain ⟨cs, hcs⟩ := hentries h
    exact ⟨_, .table hcs⟩

end Json

end Reattempt
