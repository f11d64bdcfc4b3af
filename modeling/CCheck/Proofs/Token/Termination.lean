import CCheck.Proofs.Token.Position
/-!
# The scan ends

A turn of the scan moves its cursor on by as many code points as it passes over: the text of the
token it reads, or the whole run of white space at the cursor (`Cursor.step_eq_iterate`). That is
never nothing, because a turn reads a run only from a code point that the run's own test accepts:
a word starts at a letter or an underscore, and every letter is a word character
(`isWordChar_of_startsWord`); a number starts at a digit and runs over digits.

So a turn started at position `k` of a text ends at a later position, and a scan takes at most
as many turns as its text has code points, and at least one for each token it reads
(`scan_turns_le_length`).
-/

namespace CCheck.Token

open Unicode

/-- How far a turn that reads `t?` moves a cursor whose rest is `rest`: the length of the token,
or, when it reads none, of the whole run of white space at the front of `rest`. -/
def turnLength (rest : List CodePoint) : Option Token → Nat
  | some t => t.value.length
  | none => (rest.takeWhile isSpace).length

namespace Cursor

theorem collect_eq_iterate_of_head {p : CodePoint → Bool} {c : Cursor} {ch : CodePoint}
    {more : List CodePoint} (hr : c.rest = ch :: more) (hp : p ch = true) :
    0 < (c.collect p).1.length ∧ (c.collect p).2 = advance^[(c.collect p).1.length] c := by
  rw [collect_eq_iterate]
  refine ⟨?_, rfl⟩
  simp [hr, hp]

/-- What one turn does to the cursor: it moves it on by the length of the turn, which is never
zero. -/
theorem step_eq_iterate {v : Vocabulary} {c after : Cursor} {t? : Option Token}
    (h : c.step v = some (t?, after)) :
    0 < turnLength c.rest t? ∧ after = advance^[turnLength c.rest t?] c := by
  unfold step at h
  split at h
  · exact absurd h (by simp)
  rename_i ch more hr
  split at h
  · -- white space: the turn skips the run, which is what collecting white space passes over
    rename_i hs
    simp only [Option.some.injEq, Prod.mk.injEq] at h
    obtain ⟨rfl, rfl⟩ := h
    rw [turnLength, ← collect_fst, skipBlanks_eq_collect]
    exact collect_eq_iterate_of_head hr hs
  split at h
  · rename_i _ hw
    simp only [Option.some.injEq, Prod.mk.injEq] at h
    obtain ⟨rfl, rfl⟩ := h
    exact collect_eq_iterate_of_head hr (isWordChar_of_startsWord hw)
  split at h
  · rename_i _ _ hd
    simp only [Option.some.injEq, Prod.mk.injEq] at h
    obtain ⟨rfl, rfl⟩ := h
    exact collect_eq_iterate_of_head hr hd
  split at h
  · split at h
    · simp only [Option.some.injEq, Prod.mk.injEq] at h
      obtain ⟨rfl, rfl⟩ := h
      exact ⟨by simp [turnLength], rfl⟩
    · simp only [Option.some.injEq, Prod.mk.injEq] at h
      obtain ⟨rfl, rfl⟩ := h
      exact ⟨by simp [turnLength], rfl⟩
  · simp only [Option.some.injEq, Prod.mk.injEq] at h
    obtain ⟨rfl, rfl⟩ := h
    exact ⟨by simp [turnLength], rfl⟩

end Cursor

theorem turns_of_step {v : Vocabulary} {c after : Cursor} {t? : Option Token}
    (h : c.step v = some (t?, after)) : turns v c = turns v after + 1 := by
  rw [turns]
  split
  · simp_all
  · simp_all

theorem turns_le_length_rest (v : Vocabulary) (c : Cursor) : turns v c ≤ c.rest.length := by
  fun_induction turns v c with
  | case1 => exact Nat.zero_le _
  | case2 c t? after h ih =>
    have hlt := Cursor.length_rest_step h
    omega

theorem length_tokensFrom_le_turns (v : Vocabulary) (c : Cursor) :
    (tokensFrom v c).length ≤ turns v c := by
  fun_induction tokensFrom v c with
  | case1 => exact Nat.zero_le _
  | case2 c t? after h ih =>
    have hone : t?.toList.length ≤ 1 := by cases t? <;> simp
    rw [turns_of_step h, List.length_append]
    omega

/-- The scan of a text ends. A turn started at position `k` of the text moves the cursor to
position `k + n`, where `n > 0` is the length of the token it reads or of the run of white space
it skips; and the scan takes at least one turn for each token and at most one for each code
point. -/
theorem scan_turns_le_length (text : List CodePoint) :
    (∀ k t? after, (Cursor.advance^[k] (Cursor.start text)).step Vocabulary.c = some (t?, after) →
      0 < turnLength (text.drop k) t? ∧
        after = Cursor.advance^[k + turnLength (text.drop k) t?] (Cursor.start text)) ∧
    (scan text).length ≤ turns Vocabulary.c (Cursor.start text) ∧
    turns Vocabulary.c (Cursor.start text) ≤ text.length := by
  refine ⟨fun k t? after h => ?_, length_tokensFrom_le_turns _ _, turns_le_length_rest _ _⟩
  have hrest : (Cursor.advance^[k] (Cursor.start text)).rest = text.drop k :=
    Cursor.rest_iterate_advance _ k
  obtain ⟨hpos, hafter⟩ := Cursor.step_eq_iterate h
  rw [hrest] at hpos hafter
  refine ⟨hpos, ?_⟩
  rw [hafter, Nat.add_comm, Function.iterate_add_apply]

example : (scan (codePoints "x  +++ 1")).length = 4 ∧
    turns Vocabulary.c (Cursor.start (codePoints "x  +++ 1")) = 6 := by
  decide +kernel

end CCheck.Token
