import Mathlib.Data.List.Forall2
import Mathlib.Data.List.TakeWhile
import Reattempt.Settings.Variables

/-!
What texts say, told by their shape and not by the way they are read: integers up to a limit,
decimal numerals, kinds of failure, and lists with commas between their items. A reader returns a
value for a text exactly if the text says that value.
-/
namespace Reattempt

namespace Text

/-! ### Digits -/

theorem digit?_eq_none_iff {c : Char} : digit? c = none ↔ isDigit c = false := by
  simp only [digit?, isDigit, ite_eq_right_iff, reduceCtorEq, imp_false, Bool.and_eq_false_iff,
    decide_eq_false_iff_not, not_and_or]

theorem isDigit_of_digit? {c : Char} {d : Nat} (h : digit? c = some d) : isDigit c = true := by
  by_contra hc
  rw [digit?_eq_none_iff.mpr (Bool.eq_false_iff.mpr hc)] at h
  contradiction

/-- Digits only make a number larger. -/
theorem le_foldl_digits (n : Nat) (cs : List Char) :
    n ≤ cs.foldl (fun n c => 10 * n + (digit? c).getD 0) n := by
  induction cs generalizing n with
  | nil => exact le_rfl
  | cons c cs ih =>
    rw [List.foldl_cons]
    apply le_trans _ (ih _)
    omega

/-- A rest of a text that does not go on with a digit. -/
def Ends (rest : List Char) : Prop := ∀ c ∈ rest.head?, isDigit c = false

theorem takeWhile_digits {ds rest : List Char} (digits : ∀ c ∈ ds, isDigit c = true)
    (ends : Ends rest) : (ds ++ rest).takeWhile isDigit = ds := by
  rw [List.takeWhile_append_of_pos digits]
  cases rest with
  | nil => rw [List.takeWhile_nil, List.append_nil]
  | cons c rest =>
    rw [List.takeWhile_cons_of_neg (Bool.eq_false_iff.mp (ends c rfl)), List.append_nil]

theorem dropWhile_digits {ds rest : List Char} (digits : ∀ c ∈ ds, isDigit c = true)
    (ends : Ends rest) : (ds ++ rest).dropWhile isDigit = rest := by
  rw [List.dropWhile_append_of_pos digits]
  cases rest with
  | nil => rfl
  | cons c rest => rw [List.dropWhile_cons_of_neg (Bool.eq_false_iff.mp (ends c rfl))]

theorem digits_takeWhile (cs : List Char) : ∀ c ∈ cs.takeWhile isDigit, isDigit c = true :=
  fun _ hc => List.mem_takeWhile_imp hc

/-! ### Integers -/

/-- Digits, with or without a plus sign, for a number up to a limit. -/
inductive SaysUnsigned (limit : Nat) : List Char → Nat → Prop
  | plain {ds} (hne : ds ≠ []) (digits : ∀ c ∈ ds, isDigit c = true) (h : digitsValue ds ≤ limit) :
      SaysUnsigned limit ds (digitsValue ds)
  | plus {ds} (hne : ds ≠ []) (digits : ∀ c ∈ ds, isDigit c = true) (h : digitsValue ds ≤ limit) :
      SaysUnsigned limit ('+' :: ds) (digitsValue ds)

theorem SaysUnsigned.le {limit n : Nat} {cs : List Char} (h : SaysUnsigned limit cs n) :
    n ≤ limit := by
  cases h <;> assumption

theorem readDigits_eq_ok_iff {limit n m : Nat} {cs : List Char} (hn : n ≤ limit) :
    readDigits limit n cs = .ok m ↔ (∀ c ∈ cs, isDigit c = true) ∧
      cs.foldl (fun n c => 10 * n + (digit? c).getD 0) n = m ∧ m ≤ limit := by
  induction cs generalizing n with
  | nil =>
    simp only [readDigits, Except.ok.injEq, List.not_mem_nil, false_implies, implies_true,
      List.foldl_nil, true_and]
    constructor
    · rintro rfl
      exact ⟨rfl, hn⟩
    · exact And.left
  | cons c cs ih =>
    rw [List.forall_mem_cons, List.foldl_cons]
    cases hd : digit? c with
    | none => simp [readDigits, hd, digit?_eq_none_iff.mp hd]
    | some d =>
      simp only [readDigits, hd, isDigit_of_digit? hd, true_and, Option.getD_some]
      by_cases hlarge : limit < 10 * n + d
      · rw [if_pos hlarge]
        -- What is too large already stays too large, so that it can be given up at this digit.
        have hle := le_foldl_digits (10 * n + d) cs
        constructor
        · intro h
          contradiction
        · rintro ⟨-, rfl, hm⟩
          omega
      · rw [if_neg hlarge]
        exact ih (by omega)

theorem readUnsigned_eq_ok_iff {limit n : Nat} {cs : List Char} :
    readUnsigned limit cs = .ok n ↔ SaysUnsigned limit cs n := by
  have read {ds : List Char} : readDigits limit 0 ds = .ok n ↔
      (∀ c ∈ ds, isDigit c = true) ∧ digitsValue ds = n ∧ n ≤ limit :=
    readDigits_eq_ok_iff (Nat.zero_le limit)
  constructor
  · intro h
    unfold readUnsigned at h
    split at h
    · contradiction
    · contradiction
    · next ds hne =>
      obtain ⟨digits, rfl, hle⟩ := read.mp h
      exact .plus (fun hnil => hne (by rw [hnil])) digits hle
    · next hne _ _ =>
      obtain ⟨digits, rfl, hle⟩ := read.mp h
      exact .plain hne digits hle
  · intro h
    cases h with
    | plain hne digits hle =>
      -- Digits do not begin with a sign.
      have hplus : ∀ ds, cs ≠ '+' :: ds := by
        rintro ds rfl
        have := digits '+' (List.mem_cons_self ..)
        contradiction
      unfold readUnsigned
      split
      · contradiction
      · exact absurd rfl (hplus [])
      · exact absurd rfl (hplus _)
      · exact read.mpr ⟨digits, rfl, hle⟩
    | plus hne digits hle =>
      unfold readUnsigned
      split
      · next h => cases h
      · next h => exact absurd (List.cons.inj h).2 hne
      · next h =>
        obtain ⟨-, rfl⟩ := List.cons.inj h
        exact read.mpr ⟨digits, rfl, hle⟩
      · next hplus => exact absurd rfl (hplus _)

/-! ### The exponent of a numeral -/

/-- The exponent part of a numeral: nothing, or a mark, a sign and digits; and what it comes to,
whether it is negative and its digits. -/
inductive ExponentPart : List Char → Option (Bool × List Char) → Prop
  | absent : ExponentPart [] none
  | plain {mark ds} (hmark : mark = 'e' ∨ mark = 'E') (hne : ds ≠ [])
      (digits : ∀ c ∈ ds, isDigit c = true) : ExponentPart (mark :: ds) (some (false, ds))
  | plus {mark ds} (hmark : mark = 'e' ∨ mark = 'E') (hne : ds ≠ [])
      (digits : ∀ c ∈ ds, isDigit c = true) : ExponentPart (mark :: '+' :: ds) (some (false, ds))
  | minus {mark ds} (hmark : mark = 'e' ∨ mark = 'E') (hne : ds ≠ [])
      (digits : ∀ c ∈ ds, isDigit c = true) : ExponentPart (mark :: '-' :: ds) (some (true, ds))

def exponentValue : Option (Bool × List Char) → Int
  | none => 0
  | some (negative, ds) => if negative then -digitsValue ds else digitsValue ds

/-- An exponent part begins with its mark, which is neither a digit nor a point. -/
theorem ExponentPart.head {cs : List Char} {e : Option (Bool × List Char)}
    (h : ExponentPart cs e) : ∀ c ∈ cs.head?, isDigit c = false ∧ c ≠ '.' := by
  intro c hc
  cases h with
  | absent => contradiction
  | plain hmark | plus hmark | minus hmark =>
    cases hc
    rcases hmark with rfl | rfl <;> decide

theorem ExponentPart.ends {cs : List Char} {e : Option (Bool × List Char)}
    (h : ExponentPart cs e) : Ends cs :=
  fun c hc => (h.head c hc).1

end Text

/-! ### Numbers -/

namespace Binary64

open Text

/-- The part after the whole digits: nothing, or a point and any number of digits. -/
inductive SaysFraction : List Char → List Char → Prop
  | absent : SaysFraction [] []
  | point {ds} (digits : ∀ c ∈ ds, isDigit c = true) : SaysFraction ('.' :: ds) ds

/-- A numeral without its sign, or a word in any case of letters. -/
inductive SaysMagnitude (negative : Bool) : List Char → Binary64 → Prop
  | infinity {cs} (h : String.ofList (lowerAscii cs) = "inf" ∨
      String.ofList (lowerAscii cs) = "infinity") : SaysMagnitude negative cs (infinity negative)
  | nan {cs} (h : String.ofList (lowerAscii cs) = "nan") : SaysMagnitude negative cs nan
  | decimal {whole point fraction mark e} (digits : ∀ c ∈ whole, isDigit c = true)
      (hpoint : SaysFraction point fraction) (hne : whole ≠ [] ∨ fraction ≠ [])
      (hmark : ExponentPart mark e) : SaysMagnitude negative (whole ++ (point ++ mark))
        (ofDecimal negative (digitsValue (whole ++ fraction)) (exponentValue e - fraction.length))

/-- A magnitude, with or without a sign. -/
inductive SaysNumber : List Char → Binary64 → Prop
  | plain {cs x} (h : SaysMagnitude false cs x) : SaysNumber cs x
  | plus {cs x} (h : SaysMagnitude false cs x) : SaysNumber ('+' :: cs) x
  | minus {cs x} (h : SaysMagnitude true cs x) : SaysNumber ('-' :: cs) x

theorem readExponent_eq_some_iff {cs : List Char} {e : Int} :
    readExponent cs = some e ↔ ∃ ex, ExponentPart cs ex ∧ exponentValue ex = e := by
  -- What is read after the sign, whichever sign it is.
  have guarded {ds : List Char} {n : Int} :
      (if ds.isEmpty || !ds.all isDigit then none else some n) = some e ↔
        ds ≠ [] ∧ (∀ c ∈ ds, isDigit c = true) ∧ n = e := by
    simp [and_assoc]
  constructor
  · intro h
    cases cs with
    | nil =>
      exact ⟨none, .absent, Option.some.inj h⟩
    | cons c cs =>
      simp only [readExponent] at h
      split at h
      · next hmark =>
        split at h
        all_goals
          obtain ⟨hne, digits, rfl⟩ := guarded.mp h
        · exact ⟨_, .minus hmark hne digits, rfl⟩
        · exact ⟨_, .plus hmark hne digits, rfl⟩
        · exact ⟨_, .plain hmark hne digits, rfl⟩
      · contradiction
  · rintro ⟨ex, h, rfl⟩
    cases h with
    | absent => rfl
    | @plain _ ds hmark hne digits =>
      simp only [readExponent, if_pos hmark]
      split
      · exact absurd (digits '-' (List.mem_cons_self ..)) Bool.false_ne_true
      · exact absurd (digits '+' (List.mem_cons_self ..)) Bool.false_ne_true
      · exact guarded.mpr ⟨hne, digits, rfl⟩
    | plus hmark hne digits =>
      simp only [readExponent, if_pos hmark]
      exact guarded.mpr ⟨hne, digits, rfl⟩
    | minus hmark hne digits =>
      simp only [readExponent, if_pos hmark]
      exact guarded.mpr ⟨hne, digits, rfl⟩

/-- A numeral begins with a digit or a point. -/
theorem SaysFraction.head {whole point fraction : List Char} (h : SaysFraction point fraction)
    (mark : List Char) (hne : whole ≠ [] ∨ fraction ≠ []) (digits : ∀ c ∈ whole, isDigit c = true) :
    ∃ c rest, whole ++ (point ++ mark) = c :: rest ∧ (isDigit c = true ∨ c = '.') := by
  cases whole with
  | cons c whole => exact ⟨c, _, rfl, .inl (digits c (List.mem_cons_self ..))⟩
  | nil =>
    cases h with
    | absent => exact absurd rfl (hne.resolve_left fun hne => hne rfl)
    | point => exact ⟨'.', _, rfl, .inr rfl⟩

theorem readMagnitude_eq_some_iff {negative : Bool} {cs : List Char} {x : Binary64} :
    readMagnitude negative cs = some x ↔ ∃ whole point fraction mark e,
      cs = whole ++ (point ++ mark) ∧ (∀ c ∈ whole, isDigit c = true) ∧
      SaysFraction point fraction ∧ (whole ≠ [] ∨ fraction ≠ []) ∧ ExponentPart mark e ∧
      ofDecimal negative (digitsValue (whole ++ fraction)) (exponentValue e - fraction.length) =
        x := by
  -- What is read once the digits on both sides of the point are known.
  have finished {whole fraction rest : List Char} :
      (if whole.isEmpty && fraction.isEmpty then none
        else (readExponent rest).map fun e =>
          ofDecimal negative (digitsValue (whole ++ fraction)) (e - fraction.length)) = some x ↔
        (whole ≠ [] ∨ fraction ≠ []) ∧ ∃ e, ExponentPart rest e ∧
          ofDecimal negative (digitsValue (whole ++ fraction))
            (exponentValue e - fraction.length) = x := by
    rw [ite_eq_iff]
    simp [readExponent_eq_some_iff, imp_iff_not_or]
  constructor
  · intro h
    have hcs := List.takeWhile_append_dropWhile (p := isDigit) (l := cs)
    simp only [readMagnitude] at h
    split at h
    · next r hrest =>
      obtain ⟨hne, e, hmark, rfl⟩ := finished.mp h
      refine ⟨_, '.' :: r.takeWhile isDigit, _, _, e, ?_, digits_takeWhile cs,
        .point (digits_takeWhile r), hne, hmark, rfl⟩
      rw [List.cons_append, List.takeWhile_append_dropWhile, ← hrest, hcs]
    · obtain ⟨hne, e, hmark, rfl⟩ := finished.mp h
      exact ⟨_, [], [], _, e, hcs.symm, digits_takeWhile cs, .absent, hne, hmark, rfl⟩
  · rintro ⟨whole, point, fraction, mark, e, rfl, digits, hpoint, hne, hmark, rfl⟩
    cases hpoint with
    | absent =>
      have ends : Ends ([] ++ mark) := hmark.ends
      simp only [readMagnitude, takeWhile_digits digits ends, dropWhile_digits digits ends]
      split
      · next h =>
        rw [List.nil_append] at h
        subst h
        exact absurd rfl (hmark.head '.' rfl).2
      · exact finished.mpr ⟨hne, e, hmark, rfl⟩
    | point hds =>
      have ends : Ends ('.' :: (fraction ++ mark)) := by
        intro c hc
        cases hc
        rfl
      rw [List.cons_append]
      simp only [readMagnitude, takeWhile_digits digits ends, dropWhile_digits digits ends,
        takeWhile_digits hds hmark.ends, dropWhile_digits hds hmark.ends]
      exact finished.mpr ⟨hne, e, hmark, rfl⟩

theorem toLower_of_isDigit {c : Char} (h : isDigit c = true ∨ c = '.') : c.toLower = c := by
  rcases h with h | rfl
  · simp only [isDigit, Bool.and_eq_true, decide_eq_true_eq, Char.le_def] at h
    apply dif_neg
    -- The letter `A` comes after all digits.
    intro hupper
    exact absurd (UInt32.le_trans hupper.1 h.2) (by decide)
  · rfl

/-- A numeral is none of the words. -/
theorem ne_word {c : Char} {rest w : List Char} {l : Char} (h : isDigit c = true ∨ c = '.')
    (hl : isDigit l = false ∧ l ≠ '.') :
    String.ofList (lowerAscii (c :: rest)) ≠ String.ofList (l :: w) := by
  intro heq
  have hhead := (List.cons.inj (String.ofList_injective heq)).1
  rw [toLower_of_isDigit h] at hhead
  subst hhead
  rcases h with h | h
  · rw [hl.1] at h
    contradiction
  · exact hl.2 h

theorem readUnsigned_eq_some_iff {negative : Bool} {cs : List Char} {x : Binary64} :
    readUnsigned negative cs = some x ↔ SaysMagnitude negative cs x := by
  constructor
  · intro h
    simp only [readUnsigned] at h
    split at h
    · next hword =>
      cases h
      exact .infinity hword
    · split at h
      · next hword =>
        cases h
        exact .nan hword
      · obtain ⟨_, _, _, _, _, rfl, digits, hpoint, hne, hmark, rfl⟩ :=
          readMagnitude_eq_some_iff.mp h
        exact .decimal digits hpoint hne hmark
  · intro h
    simp only [readUnsigned]
    cases h with
    | infinity h => exact if_pos h
    | nan h =>
      have h' : ¬ (String.ofList (cs.map Char.toLower) = "inf" ∨
          String.ofList (cs.map Char.toLower) = "infinity") := by
        rw [lowerAscii] at h
        rw [h]
        decide
      rw [if_neg h']
      exact if_pos h
    | @decimal whole point fraction mark e digits hpoint hne hmark =>
      obtain ⟨c, rest, hcs, hc⟩ := hpoint.head mark hne digits
      have hinf : ¬ (String.ofList (lowerAscii (whole ++ (point ++ mark))) = "inf" ∨
          String.ofList (lowerAscii (whole ++ (point ++ mark))) = "infinity") := by
        rw [hcs]
        rintro (h | h)
        · exact ne_word hc (by decide) h
        · exact ne_word hc (by decide) h
      have hnan : String.ofList (lowerAscii (whole ++ (point ++ mark))) ≠ "nan" := by
        rw [hcs]
        exact ne_word hc (by decide)
      rw [lowerAscii] at hinf hnan
      rw [if_neg hinf, if_neg hnan]
      exact readMagnitude_eq_some_iff.mpr
        ⟨whole, point, fraction, mark, e, rfl, digits, hpoint, hne, hmark, rfl⟩

/-- Neither a numeral nor a word is empty or begins with a sign. -/
theorem SaysMagnitude.head {negative : Bool} {cs : List Char} {x : Binary64}
    (h : SaysMagnitude negative cs x) : ∃ c rest, cs = c :: rest ∧ c ≠ '-' ∧ c ≠ '+' := by
  -- Both words for infinity and the one for not a number begin with a letter.
  have letter {cs w : List Char} {l : Char} (hl : l = 'i' ∨ l = 'n')
      (h : String.ofList (lowerAscii cs) = String.ofList (l :: w)) :
      ∃ c rest, cs = c :: rest ∧ c ≠ '-' ∧ c ≠ '+' := by
    cases cs with
    | nil => exact absurd (String.ofList_injective h) (List.cons_ne_nil _ _).symm
    | cons c rest =>
      have hc : c.toLower = l := (List.cons.inj (String.ofList_injective h)).1
      refine ⟨c, rest, rfl, ?_, ?_⟩
      all_goals
        rintro rfl
        rcases hl with rfl | rfl <;> exact absurd hc (by decide)
  cases h with
  | infinity h =>
    rcases h with h | h
    · exact letter (.inl rfl) h
    · exact letter (.inl rfl) h
  | nan h => exact letter (.inr rfl) h
  | decimal digits hpoint hne hmark =>
    obtain ⟨c, rest, hcs, hc⟩ := hpoint.head _ hne digits
    refine ⟨c, rest, hcs, ?_, ?_⟩
    all_goals
      rintro rfl
      rcases hc with hc | hc <;> exact absurd hc (by decide)

theorem read_eq_ok_iff {s : String} {x : Binary64} : read s = .ok x ↔ SaysNumber s.toList x := by
  have finished {negative : Bool} {cs : List Char} :
      ((readUnsigned negative cs).map Except.ok).getD (.error ReadError.malformed) = .ok x ↔
        SaysMagnitude negative cs x := by
    rw [← readUnsigned_eq_some_iff]
    cases readUnsigned negative cs <;> simp
  unfold read
  generalize s.toList = cs
  constructor
  · intro h
    split at h
    · contradiction
    · exact .minus (finished.mp h)
    · exact .plus (finished.mp h)
    · exact .plain (finished.mp h)
  · intro h
    cases h with
    | plain h =>
      obtain ⟨c, rest, rfl, hminus, hplus⟩ := h.head
      split
      · contradiction
      · next hcs => exact absurd (List.cons.inj hcs).1 hminus
      · next hcs => exact absurd (List.cons.inj hcs).1 hplus
      · exact finished.mpr h
    | plus h => exact finished.mpr h
    | minus h => exact finished.mpr h

end Binary64

/-! ### Kinds of failure -/

namespace FailureKind

theorem name_injective {k l : FailureKind} (h : k.name = l.name) : k = l := by
  cases k <;> cases l <;> first | rfl | exact absurd h (by decide)

theorem ofName?_eq_some_iff {s : String} {k : FailureKind} : ofName? s = some k ↔ k.name = s := by
  constructor
  · intro h
    simpa using List.find?_some h
  · rintro rfl
    have hsome : (ofName? k.name).isSome = true :=
      List.find?_isSome.mpr ⟨k, mem_all k, decide_eq_true rfl⟩
    obtain ⟨l, hl⟩ := Option.isSome_iff_exists.mp hsome
    have hname : l.name = k.name := by simpa using List.find?_some hl
    rw [hl, name_injective hname]

/-- A kind is said by its name, in any case of letters, with hyphens or underscores, and blanks
around it. -/
theorem read_eq_ok_iff {s : String} {k : FailureKind} : read s = .ok k ↔ normalize s = k.name := by
  rw [eq_comm (a := normalize s), ← ofName?_eq_some_iff, read]
  cases ofName? (normalize s) <;> simp

end FailureKind

/-! ### Lists -/

namespace Variable

/-- The items of a list: the pieces between the commas, without the blanks around them, apart from
those that are blank. -/
def SaysItems (cs : List Char) (items : List (List Char)) : Prop :=
  ∃ pieces : List (List Char), pieces ≠ [] ∧ (∀ p ∈ pieces, ',' ∉ p) ∧
    cs = [','].intercalate pieces ∧ items = (pieces.map Text.trimChars).filter (!·.isEmpty)

theorem not_mem_of_mem_splitOn {cs p : List Char} (hp : p ∈ cs.splitOn ',') : ',' ∉ p := by
  induction cs generalizing p with
  | nil =>
    rw [List.splitOn_nil, List.mem_singleton] at hp
    rw [hp]
    exact List.not_mem_nil
  | cons c cs ih =>
    rw [List.splitOn_cons_eq_if_modifyHead] at hp
    obtain ⟨q, qs, hqs⟩ := List.exists_cons_of_ne_nil (List.splitOn_ne_nil ',' cs)
    rw [hqs] at ih hp
    -- A comma begins a new piece; any other character goes to the front of the first one.
    split at hp
    · rcases List.mem_cons.mp hp with rfl | hp
      · exact List.not_mem_nil
      · exact ih hp
    · next hc =>
      rcases List.mem_cons.mp hp with rfl | hp
      · rw [List.mem_cons, not_or]
        exact ⟨fun h => hc (beq_iff_eq.mpr h.symm), ih (List.mem_cons_self ..)⟩
      · exact ih (List.mem_cons_of_mem q hp)

theorem saysItems_iff {raw : String} {items : List (List Char)} :
    SaysItems raw.toList items ↔ items = listItems raw := by
  constructor
  · rintro ⟨pieces, hne, hpieces, hraw, rfl⟩
    rw [listItems, hraw, List.splitOn_intercalate _ hpieces hne]
  · rintro rfl
    exact ⟨raw.toList.splitOn ',', List.splitOn_ne_nil _ _, fun _ => not_mem_of_mem_splitOn,
      (List.intercalate_splitOn ',').symm, rfl⟩

/-- A text that lists values, one for each item. -/
def SaysList {α : Type} (said : List Char → α → Prop) (raw : String) (vs : List α) : Prop :=
  ∃ items, SaysItems raw.toList items ∧ List.Forall₂ said items vs

theorem mapM_eq_ok_iff {α β ε : Type} {f : α → Except ε β} {as : List α} {bs : List β} :
    as.mapM f = .ok bs ↔ List.Forall₂ (fun a b => f a = .ok b) as bs := by
  induction as generalizing bs with
  | nil =>
    rw [List.mapM_nil, List.forall₂_nil_left_iff]
    exact ⟨fun h => (Except.ok.inj h).symm, fun h => congrArg Except.ok h.symm⟩
  | cons a as ih =>
    rw [List.mapM_cons, List.forall₂_cons_left_iff]
    constructor
    · intro h
      cases ha : f a with
      | error e =>
        rw [ha] at h
        contradiction
      | ok b =>
        cases has : as.mapM f with
        | error e =>
          rw [ha, has] at h
          contradiction
        | ok bs' =>
          rw [ha, has] at h
          exact ⟨b, bs', rfl, ih.mp has, (Except.ok.inj h).symm⟩
    · rintro ⟨b, bs', ha, has, rfl⟩
      rw [ha, ih.mpr has]
      rfl

/-- A monadic map stops at the first item that is refused. -/
theorem mapM_eq_error_iff {α β ε : Type} {f : α → Except ε β} {as : List α} {e : ε} :
    as.mapM f = .error e ↔ ∃ before a after, as = before ++ a :: after ∧
      (∀ b ∈ before, ∃ v, f b = .ok v) ∧ f a = .error e := by
  induction as with
  | nil =>
    rw [List.mapM_nil]
    constructor
    · intro h
      contradiction
    · rintro ⟨before, a, after, has, -⟩
      exact absurd has.symm (List.append_ne_nil_of_right_ne_nil before (List.cons_ne_nil a after))
  | cons a as ih =>
    rw [List.mapM_cons]
    cases ha : f a with
    | error e' =>
      constructor
      · intro h
        cases h
        exact ⟨[], a, as, rfl, fun _ hb => (List.not_mem_nil hb).elim, ha⟩
      · rintro ⟨before, b, after, has, hbefore, hb⟩
        cases before with
        | nil =>
          obtain ⟨rfl, -⟩ := List.cons.inj has
          cases ha.symm.trans hb
          rfl
        | cons c before =>
          obtain ⟨rfl, -⟩ := List.cons.inj has
          obtain ⟨v, hv⟩ := hbefore a (List.mem_cons_self ..)
          rw [ha] at hv
          contradiction
    | ok v =>
      -- The first item is accepted, so that the rest decides.
      have hrest : (do let vs ← as.mapM f; pure (v :: vs)) = Except.error e ↔
          as.mapM f = .error e := by
        cases as.mapM f with
        | error e' => exact Iff.rfl
        | ok vs => exact ⟨fun h => (nomatch h), fun h => (nomatch h)⟩
      refine hrest.trans (ih.trans ?_)
      constructor
      · rintro ⟨before, b, after, rfl, hbefore, hb⟩
        exact ⟨a :: before, b, after, rfl, List.forall_mem_cons.mpr ⟨⟨v, ha⟩, hbefore⟩, hb⟩
      · rintro ⟨before, b, after, has, hbefore, hb⟩
        cases before with
        | nil =>
          obtain ⟨rfl, -⟩ := List.cons.inj has
          rw [ha] at hb
          contradiction
        | cons c before =>
          obtain ⟨rfl, rfl⟩ := List.cons.inj has
          exact ⟨before, b, after, rfl, (List.forall_mem_cons.mp hbefore).2, hb⟩

theorem readList_eq_ok_iff {α : Type} {name raw : String} {read : String → Except ValueError α}
    (said : List Char → α → Prop) (h : ∀ item v, read (String.ofList item) = .ok v ↔ said item v)
    {vs : List α} : readList name read raw = .ok vs ↔ SaysList said raw vs := by
  have items : readList name read raw = .ok vs ↔ List.Forall₂ said (listItems raw) vs := by
    rw [readList, mapM_eq_ok_iff]
    apply iff_of_eq
    congr 1
    funext item v
    rw [← h]
    cases read (String.ofList item) <;> simp
  simp only [items, SaysList, saysItems_iff, exists_eq_left]

theorem readValue_eq_ok_iff {α : Type} {name raw : String} {read : String → Except ValueError α}
    (said : List Char → α → Prop) (h : ∀ s v, read s = .ok v ↔ said s.toList v) {v : α} :
    readValue name read raw = .ok v ↔ said (Text.trimChars raw.toList) v := by
  have hread := h (Text.trim raw) v
  rw [Text.trim, String.toList_ofList] at hread
  rw [← hread, readValue, Text.trim]
  cases read (String.ofList (Text.trimChars raw.toList)) <;> simp

/-! ### The readers of single values -/

theorem readUnsigned_eq_ok_iff {limit n : Nat} {s : String} :
    readUnsigned limit s = .ok n ↔ Text.SaysUnsigned limit s.toList n := by
  rw [← Text.readUnsigned_eq_ok_iff, readUnsigned]
  cases Text.readUnsigned limit s.toList <;> simp [Except.mapError]

theorem map_eq_ok_iff {α β ε : Type} {r : Except ε α} {f : α → β} {b : β} :
    r.map f = .ok b ↔ ∃ a, r = .ok a ∧ f a = b := by
  cases r <;> simp [Except.map]

/-- Integers of a width are the numbers up to its limit. -/
theorem readUnsigned_map_eq_ok_iff {α : Type} {limit : Nat} {ofNat : Nat → α} {toNat : α → Nat}
    (hto : ∀ n ≤ limit, toNat (ofNat n) = n) (hof : ∀ v, ofNat (toNat v) = v) {s : String} {v : α} :
    (readUnsigned limit s).map ofNat = .ok v ↔ Text.SaysUnsigned limit s.toList (toNat v) := by
  rw [map_eq_ok_iff]
  constructor
  · rintro ⟨n, hread, rfl⟩
    have hn := readUnsigned_eq_ok_iff.mp hread
    rwa [hto n hn.le]
  · intro h
    exact ⟨toNat v, readUnsigned_eq_ok_iff.mpr h, hof v⟩

theorem readU16_eq_ok_iff {s : String} {v : UInt16} :
    readU16 s = .ok v ↔ Text.SaysUnsigned (2 ^ 16 - 1) s.toList v.toNat :=
  readUnsigned_map_eq_ok_iff
    (fun _ hn => UInt16.toNat_ofNat_of_lt (Nat.lt_of_le_of_lt hn (by decide)))
    (fun _ => UInt16.ofNat_toNat)

theorem readU32_eq_ok_iff {s : String} {v : UInt32} :
    readU32 s = .ok v ↔ Text.SaysUnsigned (2 ^ 32 - 1) s.toList v.toNat :=
  readUnsigned_map_eq_ok_iff
    (fun _ hn => UInt32.toNat_ofNat_of_lt (Nat.lt_of_le_of_lt hn (by decide)))
    (fun _ => UInt32.ofNat_toNat)

theorem readU64_eq_ok_iff {s : String} {v : UInt64} :
    readU64 s = .ok v ↔ Text.SaysUnsigned (2 ^ 64 - 1) s.toList v.toNat :=
  readUnsigned_map_eq_ok_iff
    (fun _ hn => UInt64.toNat_ofNat_of_lt (Nat.lt_of_le_of_lt hn (by decide)))
    (fun _ => UInt64.ofNat_toNat)

theorem readMillis_eq_ok_iff {s : String} {v : Duration} :
    readMillis s = .ok v ↔ ∃ n, Text.SaysUnsigned (2 ^ 64 - 1) s.toList n ∧ .ofMillis n = v := by
  simp only [readMillis, map_eq_ok_iff, readUnsigned_eq_ok_iff]

theorem readFlag_eq_true_iff {raw : String} : readFlag raw = true ↔
    String.ofList (Text.lowerAscii (Text.trimChars raw.toList)) ∈ ["1", "true", "yes", "on"] :=
  List.contains_iff_mem

theorem readNumber_eq_ok_iff {s : String} {x : Binary64} :
    readNumber s = .ok x ↔ Binary64.SaysNumber s.toList x := by
  rw [← Binary64.read_eq_ok_iff, readNumber]
  cases Binary64.read s <;> simp [Except.mapError]

theorem readKind_eq_ok_iff {s : String} {k : FailureKind} :
    readKind s = .ok k ↔ FailureKind.normalize s = k.name := by
  rw [← FailureKind.read_eq_ok_iff, readKind]
  cases FailureKind.read s <;> simp [Except.mapError]

end Variable

end Reattempt
