import Mathlib.Data.List.TakeDrop
import LatticeLP.Decimal.Numeral

/-!
# The grammar of numerals

Which texts are numerals is said here by a grammar, without regard to how they are read:
a sign or none, and behind it a name of what is no finite number, or digits with at most
one point among them and at most one power of ten behind them. The texts that can be
read are those of the grammar (`exists_read?_iff`).

Reading takes as many digits as there are. That it takes those that the grammar means is
due to what can follow them: a point, the letter of a power of ten, or nothing, and none
of these begins with a digit.
-/

namespace LatticeLP.Numeral

/-! ## The grammar -/

/-- A sign, or nothing. -/
inductive IsSign : List Char → Prop where
  | none : IsSign []
  | plus : IsSign ['+']
  | minus : IsSign ['-']

/-- Digits and nothing else, if anything. -/
def AreDigits (cs : List Char) : Prop :=
  ∀ c ∈ cs, c.isDigit = true

/-- A power of ten, or nothing. -/
inductive IsPower : List Char → Prop where
  | none : IsPower []
  | power {e : Char} {s ds : List Char} (letter : e = 'e' ∨ e = 'E') (sign : IsSign s)
    (digits : AreDigits ds)
      (nonempty : ds ≠ []) : IsPower (e :: (s ++ ds))

/-- Digits with at most one point among them and at most one power of ten behind them. -/
inductive IsDecimal : List Char → Prop where
  | whole {ds power : List Char} (digits : AreDigits ds) (nonempty : ds ≠ [])
    (hpower : IsPower power) :
    IsDecimal (ds ++ power)
  | point {ds places power : List Char} (digits : AreDigits ds)
    (hplaces : AreDigits places)
      (nonempty : ds ++ places ≠ []) (hpower : IsPower power) :
      IsDecimal (ds ++ '.' :: (places ++ power))

/-- The name of an infinity or of not-a-number, in any case. -/
def IsName (cs : List Char) : Prop :=
  cs.map Char.toLower ∈ ["nan".toList, "inf".toList, "infinity".toList]

/-- **The texts of numbers.** -/
inductive IsLiteral : List Char → Prop where
  | name {s cs : List Char} (sign : IsSign s) (hname : IsName cs) : IsLiteral (s ++ cs)
  | decimal {s cs : List Char} (sign : IsSign s) (hdecimal : IsDecimal cs) : IsLiteral
    (s ++ cs)

variable {cs ds rest s power : List Char} {negative : Bool}

/-! ## Digits -/

theorem digits_eq (cs : List Char) :
    digits cs = (cs.takeWhile Char.isDigit, cs.dropWhile Char.isDigit) :=
  List.span_eq_takeWhile_dropWhile _ _

/-- The digits at the front are digits. -/
theorem areDigits_digits (cs : List Char) : AreDigits (digits cs).1 := fun c hc => by
  rw [digits_eq] at hc
  exact List.all_eq_true.mp List.all_takeWhile c hc

/-- Nothing is lost. -/
theorem digits_append_rest (cs : List Char) : (digits cs).1 ++ (digits cs).2 = cs := by
  rw [digits_eq]
  exact List.takeWhile_append_dropWhile

/-- A text does not begin with a digit. -/
def NoDigitFirst (cs : List Char) : Prop :=
  ∀ c ∈ cs.head?, c.isDigit = false

/-- **Digits are read up to where they end.** -/
theorem digits_append (hds : AreDigits ds) (hrest : NoDigitFirst rest) :
    digits (ds ++ rest) = (ds, rest) := by
  have hnone : rest.takeWhile Char.isDigit = [] ∧ rest.dropWhile Char.isDigit = rest := by
    cases rest with
    | nil => exact ⟨rfl, rfl⟩
    | cons c cs =>
      have hc : ¬ c.isDigit = true := Bool.eq_false_iff.mp (hrest c rfl)
      exact ⟨List.takeWhile_cons_of_neg hc, List.dropWhile_cons_of_neg hc⟩
  rw [digits_eq, List.takeWhile_append_of_pos hds, List.dropWhile_append_of_pos hds,
    hnone.1, hnone.2, List.append_nil]

theorem digits_of_areDigits (hds : AreDigits ds) : digits ds = (ds, []) := by
  have hnil : NoDigitFirst [] := fun c hc => nomatch hc
  have h := digits_append hds hnil
  rwa [List.append_nil] at h

/-! ## Signs -/

/-- A text does not begin with a sign. -/
def NoSignFirst (cs : List Char) : Prop :=
  ∀ c ∈ cs.head?, c ≠ '+' ∧ c ≠ '-'

/-- A sign that is there is taken away, and nothing else is. -/
theorem exists_sign (cs : List Char) : ∃ s, IsSign s ∧ cs = s ++ (sign cs).2 := by
  unfold sign
  split
  · exact ⟨_, .plus, rfl⟩
  · exact ⟨_, .minus, rfl⟩
  · exact ⟨_, .none, rfl⟩

theorem sign_append (hs : IsSign s) (hrest : NoSignFirst rest) :
    (sign (s ++ rest)).2 = rest := by
  cases hs with
  | plus | minus => rfl
  | none =>
    rw [List.nil_append]
    unfold sign
    split
    · exact absurd rfl (hrest '+' rfl).1
    · exact absurd rfl (hrest '-' rfl).2
    · rfl

/-- A digit is no sign. -/
theorem noSignFirst_of_areDigits (hds : AreDigits ds) (hne : ds ≠ []) (rest : List Char) :
    NoSignFirst (ds ++ rest) := by
  cases ds with
  | nil => exact absurd rfl hne
  | cons d ds =>
    rintro c ⟨⟩
    have hd : d.isDigit = true := hds d (.head _)
    constructor <;> rintro rfl <;> exact absurd hd (by decide)

/-! ## Powers of ten -/

theorem IsPower.noDigitFirst (h : IsPower power) : NoDigitFirst power := by
  cases h with
  | none => exact fun c hc => nomatch hc
  | power letter _ _ _ =>
    rintro c ⟨⟩
    rcases letter with rfl | rfl <;> rfl

theorem exponent?_cons_isSome_iff {e : Char} : (exponent? (e :: rest)).isSome = true ↔
    (e = 'e' ∨ e = 'E') ∧ (digits (sign rest).2).1 ≠ [] ∧
      (digits (sign rest).2).2 = [] := by
  by_cases he : e = 'e' ∨ e = 'E'
  · have hread : exponent? (e :: rest) =
        if (digits (sign rest).2).1.isEmpty || !(digits (sign rest).2).2.isEmpty then none
        else some (if (sign rest).1 then -(digitsValue 0 (digits (sign rest).2).1 : Int)
          else digitsValue 0 (digits (sign rest).2).1) := if_pos he
    rw [hread]
    simp [he]
  · have hread : exponent? (e :: rest) = none := if_neg he
    rw [hread]
    simp [he]

/-- **What is read at the end of a numeral** is a power of ten. -/
theorem exponent?_isSome_iff : (exponent? cs).isSome = true ↔ IsPower cs := by
  constructor
  · intro h
    cases cs with
    | nil => exact .none
    | cons e rest =>
      obtain ⟨letter, hne, hend⟩ := exponent?_cons_isSome_iff.mp h
      obtain ⟨s, hs, hrest⟩ := exists_sign rest
      have hdigits := digits_append_rest (sign rest).2
      rw [hend, List.append_nil] at hdigits
      rw [hrest, ← hdigits]
      exact .power letter hs (areDigits_digits _) hne
  · intro h
    cases h with
    | none => rfl
    | @power e s ds letter hs hds hne =>
      have hsign : (sign (s ++ ds)).2 = ds := by
        have hfirst := noSignFirst_of_areDigits hds hne []
        rw [List.append_nil] at hfirst
        exact sign_append hs hfirst
      rw [exponent?_cons_isSome_iff, hsign, digits_of_areDigits hds]
      exact ⟨letter, hne, rfl⟩

/-! ## Decimals -/

theorem decimal?_isSome_iff_exponent? : (decimal? cs).isSome = true ↔
    (digits cs).1 ++ (fraction (digits cs).2).1 ≠ [] ∧
      (exponent? (fraction (digits cs).2).2).isSome = true := by
  have hread : decimal? cs
    = if (digits cs).1.isEmpty && (fraction (digits cs).2).1.isEmpty then none
      else (exponent? (fraction (digits cs).2).2).map fun power =>
        ⟨digitsValue 0 ((digits cs).1 ++ (fraction (digits cs).2).1),
          power - (fraction (digits cs).2).1.length⟩ := by
    unfold decimal?
    simp only [Option.bind_eq_bind]
    split
    · rfl
    · cases exponent? (fraction (digits cs).2).2 <;> rfl
  rw [hread]
  split
  · next h =>
    simp only [Bool.and_eq_true, List.isEmpty_iff] at h
    simp [h]
  · next h =>
    simp only [Bool.and_eq_true, List.isEmpty_iff] at h
    simp [h]

/-- **What is read behind the sign of a numeral that is no name** is a decimal. -/
theorem decimal?_isSome_iff : (decimal? cs).isSome = true ↔ IsDecimal cs := by
  rw [decimal?_isSome_iff_exponent?, exponent?_isSome_iff]
  constructor
  · rintro ⟨hne, hpower⟩
    have hcs := digits_append_rest cs
    have hds := areDigits_digits cs
    -- what is behind the digits begins with a point or not
    generalize (digits cs).1 = ds at *
    generalize (digits cs).2 = rest at *
    subst hcs
    by_cases hpoint : ∃ places, rest = '.' :: places
    · obtain ⟨places, rfl⟩ := hpoint
      have hplaces := digits_append_rest places
      rw [← hplaces]
      exact .point hds (areDigits_digits places) hne hpower
    · have hfraction : fraction rest = ([], rest) := by
        unfold fraction
        split
        · next places => exact absurd ⟨places, rfl⟩ hpoint
        · rfl
      rw [hfraction, List.append_nil] at hne
      rw [hfraction] at hpower
      exact .whole hds hne hpower
  · intro h
    cases h with
    | @whole ds power hds hne hpower =>
      have hfraction : fraction power = ([], power) := by
        cases hpower with
        | none => rfl
        | power letter _ _ _ => rcases letter with rfl | rfl <;> rfl
      rw [digits_append hds hpower.noDigitFirst, hfraction, List.append_nil]
      exact ⟨hne, hpower⟩
    | @point ds places power hds hplaces hne hpower =>
      have hfraction : fraction ('.' :: (places ++ power)) = (places, power) :=
        digits_append hplaces hpower.noDigitFirst
      rw [digits_append hds (by rintro c ⟨⟩; rfl), hfraction]
      exact ⟨hne, hpower⟩

/-! ## Numerals -/

theorem IsDecimal.noSignFirst (h : IsDecimal cs) : NoSignFirst cs := by
  cases h with
  | whole hds hne _ => exact noSignFirst_of_areDigits hds hne _
  | @point ds places power hds _ _ _ =>
    cases ds with
    | nil => rintro c ⟨⟩; decide
    | cons d ds => exact noSignFirst_of_areDigits hds (List.cons_ne_nil d ds) _

theorem IsName.noSignFirst (h : IsName cs) : NoSignFirst cs := by
  cases cs with
  | nil => exact fun c hc => nomatch hc
  | cons d cs =>
    rintro c ⟨⟩
    constructor <;> rintro rfl <;> simp [IsName] at h

/-- **What is read behind the sign of a numeral** is a name or a decimal. -/
theorem unsigned?_isSome_iff :
    (unsigned? negative cs).isSome = true ↔ IsName cs ∨ IsDecimal cs := by
  have hread : unsigned? negative cs = if cs.map Char.toLower = "nan".toList then some nan
      else if cs.map Char.toLower = "inf".toList ∨
        cs.map Char.toLower = "infinity".toList then
        some (infinite negative)
      else (decimal? cs).map (decimal negative) := rfl
  rw [hread]
  split
  · next h => simp [IsName, h]
  · split
    · next h => rcases h with h | h <;> simp [IsName, h]
    · next hnan hinfinite =>
      have hname : ¬ IsName cs := by
        simp only [IsName, List.mem_cons, List.not_mem_nil, or_false]
        exact not_or.mpr ⟨hnan, hinfinite⟩
      rw [Option.isSome_map, decimal?_isSome_iff]
      simp [hname]

/-- Nothing is no numeral. -/
theorem unsigned?_nil (negative : Bool) : unsigned? negative [] = none :=
  rfl

theorem exists_read?_iff_unsigned? :
    (∃ n, read? cs = .ok n) ↔ (unsigned? (sign cs).1 (sign cs).2).isSome = true := by
  cases cs with
  | nil => simp [read?, sign, unsigned?_nil]
  | cons c cs =>
    unfold read?
    rw [List.isEmpty_cons, if_neg Bool.false_ne_true]
    generalize sign (c :: cs) = signed
    obtain ⟨negative, rest⟩ := signed
    cases hread : unsigned? negative rest <;> simp [hread]

/-- **A text can be read as a numeral if and only if it is one.** -/
theorem exists_read?_iff : (∃ n, read? cs = .ok n) ↔ IsLiteral cs := by
  rw [exists_read?_iff_unsigned?, unsigned?_isSome_iff]
  constructor
  · obtain ⟨s, hs, hcs⟩ := exists_sign cs
    rintro (hname | hdecimal)
    · rw [hcs]
      exact .name hs hname
    · rw [hcs]
      exact .decimal hs hdecimal
  · intro h
    cases h with
    | name hs hname =>
      rw [sign_append hs hname.noSignFirst]
      exact .inl hname
    | decimal hs hdecimal =>
      rw [sign_append hs hdecimal.noSignFirst]
      exact .inr hdecimal

end LatticeLP.Numeral
