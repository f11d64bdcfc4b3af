import Mathlib.Logic.Function.Iterate
import CCheck.Proofs.Token.Step
/-!
# Where a cursor stands

A scan's cursor starts at the first code point of its text and moves one code point at a time;
past the end a move changes nothing. After `k` moves it stands at position `k`
(`cursor_at_position`): what is left is the text from `k` on, its current code point is the one
at `k`, or none past the end, and its line is one more than the line feeds up to and including
position `k`. Skipping white space and collecting a run are moves as well, as many as the run at
the cursor is long (`skipBlanks_eq_iterate`, `collect_eq_iterate`), so each stops at the first
position from the cursor on whose code point fails its test, or at the end of the text. Words are
collected with `isWordChar` and numbers with `isDigit`.
-/

namespace CCheck.Token.Cursor

open Unicode

/-- The run of code points passing `p` at position `k` of `text` is `j` long: the `j` positions
from `k` on hold code points that pass, and position `k + j` is the end of the text or holds one
that fails. -/
def RunAt (p : CodePoint → Bool) (text : List CodePoint) (k j : Nat) : Prop :=
  (∀ i, k ≤ i → i < k + j → ∃ x, text[i]? = some x ∧ p x = true) ∧
    ∀ x, text[k + j]? = some x → p x = false

theorem advance_of_rest_eq_nil {c : Cursor} (h : c.rest = []) : c.advance = c := by
  simp [advance, h]

theorem rest_iterate_advance (c : Cursor) (k : Nat) : (advance^[k] c).rest = c.rest.drop k := by
  induction k generalizing c with
  | zero => rfl
  | succ k ih =>
    rw [Function.iterate_succ_apply, ih, rest_advance, List.drop_drop, Nat.add_comm]

theorem onLine_iterate_advance {c : Cursor} {base : Nat} (h : c.OnLine base) (k : Nat) :
    (advance^[k] c).OnLine (base + (c.rest.take k).count (.char '\n')) := by
  induction k generalizing c base with
  | zero => simpa using h
  | succ k ih =>
    rw [Function.iterate_succ_apply]
    cases hr : c.rest with
    | nil =>
      have h' := ih h
      rw [advance_of_rest_eq_nil hr]
      simpa [hr] using h'
    | cons x xs =>
      have h' := ih (onLine_advance hr h)
      rw [rest_advance, hr] at h'
      simpa [List.take_succ_cons, List.count_cons, List.count_singleton, Nat.add_assoc,
        Nat.add_comm] using h'

theorem collect_eq_iterate (p : CodePoint → Bool) (c : Cursor) :
    c.collect p = (c.rest.takeWhile p, advance^[(c.rest.takeWhile p).length] c) := by
  fun_induction collect p c with
  | case1 c hr => simp [hr]
  | case2 c ch cs hr hp found ih =>
    have hadv : c.advance.rest = cs := by rw [rest_advance, hr]; rfl
    simp only [found, ih, hadv, hr, List.takeWhile_cons_of_pos hp, List.length_cons,
      Function.iterate_succ_apply]
  | case3 c ch cs hr hp => simp [hr, hp]

theorem skipBlanks_eq_iterate (c : Cursor) :
    c.skipBlanks = advance^[(c.rest.takeWhile isSpace).length] c := by
  fun_induction skipBlanks c with
  | case1 c hr => simp [hr]
  | case2 c ch cs hr hs ih =>
    have hadv : c.advance.rest = cs := by rw [rest_advance, hr]; rfl
    rw [ih, hadv, hr, List.takeWhile_cons_of_pos hs, List.length_cons,
      Function.iterate_succ_apply]
  | case3 c ch cs hr hs => simp [hr, hs]

theorem take_length_takeWhile (p : CodePoint → Bool) (l : List CodePoint) :
    l.take (l.takeWhile p).length = l.takeWhile p := by
  have h : (l.takeWhile p ++ l.dropWhile p).take (l.takeWhile p).length = l.takeWhile p :=
    List.take_left
  rwa [List.takeWhile_append_dropWhile] at h

theorem getElem?_length_takeWhile (p : CodePoint → Bool) (l : List CodePoint) :
    l[(l.takeWhile p).length]? = (l.dropWhile p).head? := by
  have h : (l.takeWhile p ++ l.dropWhile p)[(l.takeWhile p).length]? = (l.dropWhile p).head? := by
    rw [List.getElem?_append_right (Nat.le_refl _), Nat.sub_self, List.head?_eq_getElem?]
  rwa [List.takeWhile_append_dropWhile] at h

theorem runAt_takeWhile (p : CodePoint → Bool) (text : List CodePoint) (k : Nat) :
    RunAt p text k ((text.drop k).takeWhile p).length := by
  refine ⟨fun i hk hi => ?_, fun x hx => ?_⟩
  · -- position `i` lies inside the run, `i - k` places into it
    have hin : i - k < ((text.drop k).takeWhile p).length := by omega
    have hat : text[i]? = ((text.drop k).takeWhile p)[i - k]? := by
      rw [← take_length_takeWhile, List.getElem?_take_of_lt hin, List.getElem?_drop]
      congr 1
      omega
    refine ⟨_, hat.trans (List.getElem?_eq_getElem hin), ?_⟩
    exact List.all_eq_true.mp List.all_takeWhile _ (List.getElem_mem hin)
  · -- position `k + j` is the first code point after the run
    have hnot := List.head?_dropWhile_not p (text.drop k)
    rw [← getElem?_length_takeWhile, List.getElem?_drop, hx] at hnot
    exact hnot

theorem collect_iterate_advance (p : CodePoint → Bool) (text : List CodePoint) (k : Nat) :
    ∃ j, (advance^[k] (start text)).collect p =
        ((text.drop k).take j, advance^[k + j] (start text)) ∧ RunAt p text k j := by
  refine ⟨((text.drop k).takeWhile p).length, ?_, runAt_takeWhile p text k⟩
  rw [collect_eq_iterate, rest_iterate_advance, take_length_takeWhile, Nat.add_comm,
    Function.iterate_add_apply]
  rfl

theorem skipBlanks_eq_collect (c : Cursor) : c.skipBlanks = (c.collect isSpace).2 := by
  rw [skipBlanks_eq_iterate, collect_eq_iterate]

/-- After the constructor and `k` further moves, a cursor stands at position `k` of its text, on
the line that the line feeds up to and including position `k` lead to; skipping white space and
collecting a run from there stop at the first position that fails their test. -/
theorem cursor_at_position (text : List CodePoint) (k : Nat) :
    ((advance^[k] (start text)).rest = text.drop k ∧
      (advance^[k] (start text)).current? = text[k]? ∧
      (advance^[k] (start text)).line = 1 + (text.take (k + 1)).count (.char '\n')) ∧
    (∃ j, (advance^[k] (start text)).skipBlanks = advance^[k + j] (start text) ∧
      RunAt isSpace text k j) ∧
    ∀ p, ∃ j, (advance^[k] (start text)).collect p =
        ((text.drop k).take j, advance^[k + j] (start text)) ∧ RunAt p text k j := by
  have hrest : (advance^[k] (start text)).rest = text.drop k := rest_iterate_advance _ k
  have hline : (advance^[k] (start text)).line = 1 + (text.take (k + 1)).count (.char '\n') := by
    have h := onLine_iterate_advance (onLine_start text) k
    rw [OnLine, hrest] at h
    rw [h, List.take_add, List.count_append, Nat.add_assoc]
    rfl
  refine ⟨⟨hrest, by rw [current?, hrest, List.head?_drop], hline⟩, ?_,
    fun p => collect_iterate_advance p text k⟩
  obtain ⟨j, hcollect, hrun⟩ := collect_iterate_advance isSpace text k
  exact ⟨j, by rw [skipBlanks_eq_collect, hcollect], hrun⟩

end CCheck.Token.Cursor
