import LiveBoard.Text.WhiteSpace
import Mathlib.Data.List.TakeWhile
import Mathlib.Tactic.SplitIfs

/-!
# Trimmed texts

Around the trimmed text there is white space only (`exists_trim`), and it neither starts nor ends
with white space. Characters that are printed in ASCII are no white space, so what stands between
two of them stays (`trim_eq_self`).
-/

set_option autoImplicit false
set_option relaxedAutoImplicit false

namespace LiveBoard.Text

section Trimming

variable {text : List Char} {c : Char}

theorem isWhiteSpace_of_printed (h : 0x21 ≤ c.toNat ∧ c.toNat ≤ 0x7E) :
    isWhiteSpace c = false := by
  simp only [isWhiteSpace, CodePoints.mem, whiteSpace, List.any_eq_false, Bool.and_eq_true,
    decide_eq_true_eq]
  intro range hrange
  simp only [List.mem_cons, List.not_mem_nil, or_false] at hrange
  rcases hrange with rfl | rfl | rfl | rfl | rfl | rfl | rfl | rfl | rfl | rfl <;>
    dsimp only <;> omega

theorem isWhiteSpace_of_isDigit (hdigit : c.isDigit = true) : isWhiteSpace c = false := by
  have hrange : 48 ≤ c.toNat ∧ c.toNat ≤ 57 := Char.isDigit_iff_toNat.mp hdigit
  exact isWhiteSpace_of_printed (by omega)

theorem dropWhile_isWhiteSpace (hc : text.head? = some c) (hspace : isWhiteSpace c = false) :
    text.dropWhile isWhiteSpace = text := by
  obtain ⟨rest, rfl⟩ := List.head?_eq_some_iff.mp hc
  exact List.dropWhile_cons_of_neg (by simp [hspace])

theorem trimEnd_eq_self (hc : text.getLast? = some c) (hspace : isWhiteSpace c = false) :
    trimEnd text = text := by
  rw [trimEnd, dropWhile_isWhiteSpace (by rw [List.head?_reverse]; exact hc) hspace,
    List.reverse_reverse]

/-- White space behind a text is trimmed. -/
theorem trimEnd_append {back : List Char} (hback : ∀ c ∈ back, isWhiteSpace c = true) :
    trimEnd (text ++ back) = trimEnd text := by
  have hreverse : ∀ c ∈ back.reverse, isWhiteSpace c = true :=
    fun c hc ↦ hback c (List.mem_reverse.mp hc)
  rw [trimEnd, List.reverse_append, List.dropWhile_append_of_pos hreverse, trimEnd]

/-- A text between two characters that are no white space has nothing to trim. -/
theorem trim_eq_self {first last : Char} (hfirst : text.head? = some first)
    (hlast : text.getLast? = some last) (hstart : isWhiteSpace first = false)
    (hend : isWhiteSpace last = false) : trim text = text := by
  rw [trim, trimStart, dropWhile_isWhiteSpace hfirst hstart, trimEnd_eq_self hlast hend]

theorem exists_trimStart_eq (text : List Char) : ∃ back, trimStart text = trim text ++ back ∧
    ∀ c ∈ back, isWhiteSpace c = true := by
  refine ⟨((trimStart text).reverse.takeWhile isWhiteSpace).reverse, ?_,
    fun c hc ↦ List.mem_takeWhile_imp (List.mem_reverse.mp hc)⟩
  rw [trim, trimEnd, ← List.reverse_append, List.takeWhile_append_dropWhile, List.reverse_reverse]

/-- Around the trimmed text there is white space only. -/
theorem exists_trim (text : List Char) : ∃ front back, text = front ++ trim text ++ back ∧
    ∀ c ∈ front ++ back, isWhiteSpace c = true := by
  obtain ⟨back, hstart, hback⟩ := exists_trimStart_eq text
  refine ⟨text.takeWhile isWhiteSpace, back, ?_, ?_⟩
  · rw [List.append_assoc, ← hstart]
    exact List.takeWhile_append_dropWhile.symm
  · exact List.forall_mem_append.mpr ⟨fun c hc ↦ List.mem_takeWhile_imp hc, hback⟩

/-- A character is in a trimmed text no more often than in the text. -/
theorem count_trim_le (c : Char) (text : List Char) : (trim text).count c ≤ text.count c := by
  obtain ⟨front, back, htext, -⟩ := exists_trim text
  have hcount := congrArg (List.count c) htext
  rw [List.count_append, List.count_append] at hcount
  omega

/-- A trimmed text starts with no white space. -/
theorem isWhiteSpace_of_head?_trim (hc : (trim text).head? = some c) :
    isWhiteSpace c = false := by
  obtain ⟨rest, htrim⟩ := List.head?_eq_some_iff.mp hc
  obtain ⟨back, hstart, -⟩ := exists_trimStart_eq text
  have hfirst := List.head?_dropWhile_not isWhiteSpace text
  rw [show text.dropWhile isWhiteSpace = trimStart text from rfl, hstart, htrim] at hfirst
  exact hfirst

/-- A trimmed text ends with no white space. -/
theorem isWhiteSpace_of_getLast?_trim (hc : (trim text).getLast? = some c) :
    isWhiteSpace c = false := by
  have hlast := List.head?_dropWhile_not isWhiteSpace (trimStart text).reverse
  rw [trim, trimEnd, List.getLast?_reverse] at hc
  rwa [hc] at hlast

end Trimming

end LiveBoard.Text
