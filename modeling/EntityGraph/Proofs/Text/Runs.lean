import EntityGraph.Text.Blank
import Mathlib.Data.List.TakeWhile
/-!
Runs of characters of one kind, and texts without the white space around them.

* `while_append`: a run ends at the first character of another kind.
* `exists_stripChars`: stripping a text takes nothing but white space away.
* `stripChars_surrounded`: what begins and ends with something else is left as it is.
-/

namespace EntityGraph.Text

/-- A run of characters of one kind ends at the first character that is of another. -/
lemma while_append {p : Char → Bool} {xs ys : List Char} (hxs : ∀ c ∈ xs, p c = true)
    (hys : ∀ c ∈ ys.head?, p c = false) :
    (xs ++ ys).takeWhile p = xs ∧ (xs ++ ys).dropWhile p = ys := by
  rw [List.takeWhile_append_of_pos hxs, List.dropWhile_append_of_pos hxs]
  cases ys with
  | nil => simp
  | cons c ys => simp [hys c rfl]

/-- Stripping a text takes nothing but white space away. -/
lemma exists_stripChars (cs : List Char) : ∃ before after, cs = before ++ stripChars cs ++ after ∧
    ∀ c ∈ before ++ after, isBlank c = true := by
  refine ⟨cs.takeWhile isBlank, ((cs.dropWhile isBlank).reverse.takeWhile isBlank).reverse, ?_, ?_⟩
  · rw [stripChars, List.append_assoc, ← List.reverse_append, List.takeWhile_append_dropWhile,
      List.reverse_reverse, List.takeWhile_append_dropWhile]
  · intro c hc
    rw [List.mem_append, List.mem_reverse] at hc
    exact hc.elim (fun h => List.mem_takeWhile_imp h) fun h => List.mem_takeWhile_imp h

/-- What begins and ends with something else than white space is left of a text. -/
lemma stripChars_surrounded {before middle after : List Char} (hne : middle ≠ [])
    (hfirst : ∀ c ∈ middle.head?, isBlank c = false)
    (hlast : ∀ c ∈ middle.getLast?, isBlank c = false)
    (hblank : ∀ c ∈ before ++ after, isBlank c = true) :
    stripChars (before ++ middle ++ after) = middle := by
  obtain ⟨hbefore, hafter⟩ := List.forall_mem_append.mp hblank
  have hhead : ∀ c ∈ (middle ++ after).head?, isBlank c = false := by
    intro c hc
    rw [List.head?_append, List.head?_eq_some_head hne, Option.some_or,
      ← List.head?_eq_some_head hne] at hc
    exact hfirst c hc
  rw [← List.head?_reverse] at hlast
  rw [stripChars, List.append_assoc, (while_append hbefore hhead).2, List.reverse_append,
    (while_append (fun c hc => hafter c (List.mem_reverse.mp hc)) hlast).2, List.reverse_reverse]

end EntityGraph.Text
