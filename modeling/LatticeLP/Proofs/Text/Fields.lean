import Mathlib.Data.List.Forall2
import Mathlib.Data.List.TakeWhile
import LatticeLP.Decimal.Shortest
import LatticeLP.Text.Blank

/-!
# Numbers in a text

Several numbers are put into one text with commas between them and any number of blanks
around each. Since the text of a number contains no comma and no blank – it is **solid**
– the numbers' texts can be told apart again: they are the trimmed parts between the
commas (`fields_of_padded`).
-/

namespace LatticeLP

namespace Text

/-! ## Solid texts -/

/-- A character is neither a comma nor a blank. -/
def IsSolid (c : Char) : Prop :=
  c ≠ ',' ∧ isBlank c = false

instance (c : Char) : Decidable (IsSolid c) :=
  inferInstanceAs (Decidable (_ ∧ _))

/-- A text contains neither commas nor blanks. -/
def Solid (cs : List Char) : Prop :=
  ∀ c ∈ cs, IsSolid c

variable {cs cs' : List Char}

instance : Decidable (Solid cs) :=
  List.decidableBAll IsSolid cs

theorem solid_append : Solid (cs ++ cs') ↔ Solid cs ∧ Solid cs' :=
  List.forall_mem_append

/-- Digits are solid. -/
theorem isSolid_of_isDigit {c : Char} (h : c.isDigit = true) : IsSolid c := by
  obtain ⟨hlow, hhigh⟩ := Char.isDigit_iff_toNat.mp h
  have hcomma : c ≠ ',' := by
    rintro rfl
    exact absurd h (by decide)
  have hlow : 48 ≤ c.toNat := hlow
  have hhigh : c.toNat ≤ 57 := hhigh
  refine ⟨hcomma, ?_⟩
  simp only [isBlank]
  grind

/-! ## Blanks around a text -/

/-- Blanks and nothing else, if anything. -/
def Blank (cs : List Char) : Prop :=
  ∀ c ∈ cs, isBlank c = true

instance : Decidable (Blank cs) :=
  List.decidableBAll (fun c => isBlank c = true) cs

theorem Solid.dropWhile (h : Solid cs) : cs.dropWhile isBlank = cs := by
  cases cs with
  | nil => rfl
  | cons c cs => exact List.dropWhile_cons_of_neg (Bool.eq_false_iff.mp (h c (.head _)).2)

theorem Solid.reverse (h : Solid cs) : Solid cs.reverse := fun c hc =>
  h c (List.mem_reverse.mp hc)

/-- **Trimming takes away the blanks around a solid text.** -/
theorem trim_padded {before after : List Char} (hbefore : Blank before) (h : Solid cs)
    (hafter : Blank after) :
    trim (before ++ cs ++ after) = cs := by
  rw [trim, List.append_assoc, List.dropWhile_append_of_pos hbefore]
  by_cases hcs : cs = []
  · subst hcs
    rw [List.nil_append, List.dropWhile_eq_nil_iff.mpr hafter]
    rfl
  · have hfront : (cs ++ after).dropWhile isBlank = cs ++ after := by
      rw [List.dropWhile_append, h.dropWhile, if_neg (mt List.isEmpty_iff.mp hcs)]
    have hback : Blank after.reverse := fun c hc => hafter c (List.mem_reverse.mp hc)
    rw [hfront, List.reverse_append, List.dropWhile_append_of_pos hback,
      h.reverse.dropWhile, List.reverse_reverse]

/-! ## Commas between texts -/

theorem splitAt_eq_splitOn (separator : Char) (cs : List Char) :
    splitAt separator cs = cs.splitOn separator := by
  induction cs with
  | nil => rfl
  | cons c cs ih =>
    have hne := List.splitOn_ne_nil separator cs
    rw [List.splitOn, List.splitOnP_cons_eq_if_modifyHead, ← List.splitOn, splitAt, ih]
    by_cases hc : c = separator
    · simp [hc]
    · cases hparts : cs.splitOn separator with
      | nil => exact absurd hparts hne
      | cons part parts => simp [hc]

/-- A text with blanks around it. -/
def Padded (cs part : List Char) : Prop :=
  ∃ before after, Blank before ∧ Blank after ∧ part = before ++ cs ++ after

/-- A comma is no blank. -/
theorem comma_notMem_padded {part : List Char} (h : Solid cs) (hpart : Padded cs part) :
    ',' ∉ part := by
  obtain ⟨before, after, hbefore, hafter, rfl⟩ := hpart
  simp only [List.mem_append, not_or]
  exact ⟨⟨fun hc => absurd (hbefore _ hc) (by decide), fun hc => (h _ hc).1 rfl⟩,
    fun hc => absurd (hafter _ hc) (by decide)⟩

/-- **Solid texts with blanks around them and commas between them can be told apart.** -/
theorem fields_of_padded {words parts : List (List Char)} {text : String}
    (hwords : ∀ cs ∈ words, Solid cs)
    (hparts : List.Forall₂ Padded words parts) (hne : words ≠ [])
    (htext : text.toList = [','].intercalate parts) :
    fields text = words := by
  have hne' : parts ≠ [] := by
    rintro rfl
    exact hne (List.forall₂_nil_right_iff.mp hparts)
  have hall : (∀ part ∈ parts, ',' ∉ part) ∧ parts.map trim = words := by
    clear htext hne hne'
    induction hparts with
    | nil => simp
    | @cons cs part words parts hpart _ ih =>
      obtain ⟨hcs, hwords⟩ := List.forall_mem_cons.mp hwords
      obtain ⟨hcommas, htrim⟩ := ih hwords
      refine ⟨List.forall_mem_cons.mpr ⟨comma_notMem_padded hcs hpart, hcommas⟩, ?_⟩
      obtain ⟨before, after, hbefore, hafter, rfl⟩ := hpart
      rw [List.map_cons, trim_padded hbefore hcs hafter, htrim]
  rw [fields, htext, splitAt_eq_splitOn, List.splitOn_intercalate ',' hall.1 hne', hall.2]

end Text

/-! ## The text of a number -/

open Text

/-- Minus signs and points are solid, and zeros are digits. -/
theorem Decimal.solid_text (d : Decimal) : Solid d.text.toList := fun c hc => by
  rw [text, show toString d.digits = d.digits.repr from rfl, Nat.toList_repr] at hc
  exact isSolid_of_isDigit (Nat.isDigit_of_mem_toDigits (by decide) (by decide) hc)

theorem Decimal.solid_zeros (n : Nat) : Solid (zeros n).toList := fun c hc => by
  rw [zeros, String.toList_ofList] at hc
  rw [List.eq_of_mem_replicate hc]
  decide

theorem Decimal.solid_positional (d : Decimal) : Solid d.positional.toList := by
  unfold positional
  split
  · rw [String.toList_append, solid_append]
    exact ⟨d.solid_text, solid_zeros _⟩
  · next k _ =>
    have hall : Solid ((zeros (k + 1 + 1 - d.width)).toList ++ d.text.toList) :=
      solid_append.mpr ⟨solid_zeros _, d.solid_text⟩
    simp only [String.toList_append, String.toList_ofList, solid_append]
    refine ⟨⟨fun c hc => hall c (List.mem_of_mem_take hc), by decide⟩,
      fun c hc => hall c (List.mem_of_mem_drop hc)⟩

/-- **The text of a number is solid**, also if the number is not finite. -/
theorem solid_numberText (x : Float) : Solid (numberText x).toList := by
  unfold numberText
  cases Double.decode x with
  | nan => decide
  | infinite negative => cases negative <;> decide
  | finite negative m q =>
    have hsign : Solid (NumberStyle.plain.sign negative).toList := by
      cases negative <;> decide
    have hlayOut : ∀ d, Solid (NumberStyle.plain.layOut d).toList := fun d => by
      have h : NumberStyle.plain.layOut d = d.positional ++ "" := rfl
      rw [h, String.append_empty]
      exact d.solid_positional
    rw [NumberStyle.write, String.toList_append, solid_append]
    refine ⟨hsign, ?_⟩
    split <;> exact hlayOut _

/-- So is the text of a number with fixed places. -/
theorem solid_fixedText (places : Nat) (x : Float) :
    Solid (fixedText places x).toList := by
  unfold fixedText
  cases Double.decode x with
  | nan => exact (by decide : Solid Double.nan.specialText.toList)
  | infinite negative =>
    have hspecial : Solid (Double.infinite negative).specialText.toList := by
      cases negative <;> decide
    exact hspecial
  | finite negative m q =>
    have hsign : Solid (minusIf negative).toList := by cases negative <;> decide
    rw [Double.fixed, String.toList_append, solid_append]
    exact ⟨hsign, Decimal.solid_positional _⟩

end LatticeLP
