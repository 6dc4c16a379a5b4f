/-!
Blank characters: those with the Unicode property `White_Space`. The property has not changed
since it was given its present twenty-five members.
-/
namespace Reattempt.Text

/-- Has the property `White_Space`. -/
def isBlank (c : Char) : Bool :=
  let n := c.toNat
  (9 ≤ n && n ≤ 13) || n == 0x20 || n == 0x85 || n == 0xA0 || n == 0x1680
    || (0x2000 ≤ n && n ≤ 0x200A) || n == 0x2028 || n == 0x2029 || n == 0x202F || n == 0x205F
    || n == 0x3000

/-- The text without the blanks at its two ends. -/
def trimChars (cs : List Char) : List Char :=
  (((cs.dropWhile isBlank).reverse).dropWhile isBlank).reverse

def trim (s : String) : String := String.ofList (trimChars s.toList)

/-- Lower case for the letters of ASCII; every other character stays. -/
def lowerAscii (cs : List Char) : List Char := cs.map Char.toLower

theorem isBlank_of_isWhitespace {c : Char} (h : c.isWhitespace = true) : isBlank c = true := by
  simp only [Char.isWhitespace, Bool.or_eq_true, decide_eq_true_eq] at h
  rcases h with ((rfl | rfl) | rfl) | rfl <;> decide

/-! ### What trimming leaves out -/

/-- Nothing but blanks. -/
def Padding (cs : List Char) : Prop := ∀ c ∈ cs, isBlank c = true

instance (cs : List Char) : Decidable (Padding cs) :=
  decidable_of_iff (cs.all isBlank = true) List.all_eq_true

theorem Padding.append {cs ds : List Char} (hcs : Padding cs) (hds : Padding ds) :
    Padding (cs ++ ds) := by
  intro c hc
  rcases List.mem_append.mp hc with hc | hc
  · exact hcs c hc
  · exact hds c hc

theorem Padding.reverse {cs : List Char} (h : Padding cs) : Padding cs.reverse :=
  fun c hc => h c (List.mem_reverse.mp hc)

theorem Padding.dropWhile {cs : List Char} (h : Padding cs) : cs.dropWhile isBlank = [] := by
  calc cs.dropWhile isBlank = (cs ++ []).dropWhile isBlank := by rw [List.append_nil]
    _ = [] := List.dropWhile_append_of_pos h

theorem padding_takeWhile (cs : List Char) : Padding (cs.takeWhile isBlank) :=
  fun c hc => List.all_eq_true.mp List.all_takeWhile c hc

/-- Padding around a text makes no difference once it is trimmed. -/
theorem trimChars_append {left cs right : List Char} (hleft : Padding left)
    (hright : Padding right) : trimChars (left ++ (cs ++ right)) = trimChars cs := by
  rw [trimChars, trimChars, List.dropWhile_append_of_pos hleft, List.dropWhile_append]
  split
  · next h => rw [List.isEmpty_iff.mp h, hright.dropWhile]
  · rw [List.reverse_append, List.dropWhile_append_of_pos hright.reverse]

/-- A text is its trimmed form with padding around it. -/
theorem exists_padding (cs : List Char) :
    ∃ left right, Padding left ∧ Padding right ∧ cs = left ++ (trimChars cs ++ right) := by
  let rest := cs.dropWhile isBlank
  refine ⟨cs.takeWhile isBlank, (rest.reverse.takeWhile isBlank).reverse, padding_takeWhile cs,
    (padding_takeWhile _).reverse, ?_⟩
  have hrest : rest = trimChars cs ++ (rest.reverse.takeWhile isBlank).reverse := by
    rw [trimChars, ← List.reverse_append, List.takeWhile_append_dropWhile, List.reverse_reverse]
  rw [← hrest, List.takeWhile_append_dropWhile]

theorem trimChars_trimChars (cs : List Char) : trimChars (trimChars cs) = trimChars cs := by
  obtain ⟨left, right, hleft, hright, hcs⟩ := exists_padding cs
  calc trimChars (trimChars cs) = trimChars (left ++ (trimChars cs ++ right)) :=
        (trimChars_append hleft hright).symm
    _ = trimChars cs := by rw [← hcs]

theorem trimChars_eq_nil_iff {cs : List Char} : trimChars cs = [] ↔ Padding cs := by
  constructor
  · intro h
    obtain ⟨left, right, hleft, hright, hcs⟩ := exists_padding cs
    rw [h, List.nil_append] at hcs
    rw [hcs]
    exact hleft.append hright
  · intro h
    rw [trimChars, h.dropWhile]
    rfl

theorem trimChars_of_solid {cs : List Char} (h : ∀ c ∈ cs, isBlank c = false) :
    trimChars cs = cs := by
  have hkept {ds : List Char} (h : ∀ c ∈ ds, isBlank c = false) : ds.dropWhile isBlank = ds := by
    cases ds with
    | nil => rfl
    | cons d ds =>
      exact List.dropWhile_cons_of_neg (Bool.eq_false_iff.mp (h d (List.mem_cons_self ..)))
  rw [trimChars, hkept h, hkept fun c hc => h c (List.mem_reverse.mp hc), List.reverse_reverse]

end Reattempt.Text
