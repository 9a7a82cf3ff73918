import Mathlib.Data.List.TakeWhile
import Passbook.Text.Blank
/-!
# Blanks around a text

Blanks at both ends of a text make no difference once it is trimmed, and a text without blanks is trimmed to
itself.
-/

namespace Passbook.Text

variable {before after cs : List Char}

/-- Blanks around a text are dropped with those at its own ends. -/
theorem trimChars_surrounded (blank : ∀ c ∈ before, isBlank c = true) (blank' : ∀ c ∈ after, isBlank c = true)
    (cs : List Char) : trimChars (before ++ cs ++ after) = trimChars cs := by
  unfold trimChars
  rw [List.append_assoc, List.dropWhile_append_of_pos blank, List.dropWhile_append]
  split
  · rename_i allBlank
    rw [List.isEmpty_iff.mp allBlank, List.dropWhile_eq_nil_iff.mpr blank']
  · rw [List.reverse_append, List.dropWhile_append_of_pos fun c member => blank' c (List.mem_reverse.mp member)]

/-- A text is what it is trimmed to, with blanks around it. -/
theorem exists_surrounded (cs : List Char) : ∃ before after, (∀ c ∈ before, isBlank c = true) ∧
    (∀ c ∈ after, isBlank c = true) ∧ cs = before ++ trimChars cs ++ after := by
  refine ⟨cs.takeWhile isBlank, ((cs.dropWhile isBlank).reverse.takeWhile isBlank).reverse, fun c member => ?_,
    fun c member => ?_, ?_⟩
  · exact List.mem_takeWhile_imp member
  · exact List.mem_takeWhile_imp (List.mem_reverse.mp member)
  · rw [trimChars, List.append_assoc, ← List.reverse_append, List.takeWhile_append_dropWhile, List.reverse_reverse,
      List.takeWhile_append_dropWhile]

/-- Nothing is left of a text exactly if there are only blanks in it. -/
theorem trimChars_eq_nil_iff : trimChars cs = [] ↔ ∀ c ∈ cs, isBlank c = true := by
  constructor
  · intro nothing
    obtain ⟨before, after, blank, blank', eq⟩ := exists_surrounded cs
    rw [eq, nothing, List.append_nil]
    exact fun c member => (List.mem_append.mp member).elim (blank c) (blank' c)
  · intro blank
    unfold trimChars
    rw [List.dropWhile_eq_nil_iff.mpr blank]
    rfl

/-- A text without blanks has none at its ends. -/
theorem trimChars_of_no_blank (noBlank : ∀ c ∈ cs, isBlank c = false) : trimChars cs = cs := by
  have keeps : ∀ cs : List Char, (∀ c ∈ cs, isBlank c = false) → cs.dropWhile isBlank = cs := by
    intro cs noBlank
    cases cs with
    | nil => rfl
    | cons c rest => rw [List.dropWhile_cons, noBlank c List.mem_cons_self, if_neg Bool.false_ne_true]
  unfold trimChars
  rw [keeps cs noBlank, keeps cs.reverse fun c member => noBlank c (List.mem_reverse.mp member), List.reverse_reverse]

/-- Visible characters of ASCII are not blank. -/
theorem isBlank_of_visible {c : Char} (visible : 0x21 ≤ c.toNat ∧ c.toNat ≤ 0x7E) : isBlank c = false := by
  simp only [isBlank, blankRanges, List.any_cons, List.any_nil, Bool.or_false, Bool.or_eq_false_iff,
    Bool.and_eq_false_iff, decide_eq_false_iff_not]
  omega

end Passbook.Text
