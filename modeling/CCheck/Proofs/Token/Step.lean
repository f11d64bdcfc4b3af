import CCheck.Token.Scan
/-!
# One turn of the scan

White space shares no code point with the word characters or the digits, so a turn either
passes over a non-empty run of white space or reads a lexeme with no white space in it
(`Lexeme`). A cursor's line is the line before its current code point, plus one when that code
point is a line feed (`Cursor.OnLine`); every move keeps this, and `Cursor.step_cases` says all
that one turn can do.
-/

namespace CCheck.Unicode

theorem Ranges.contains_eq_false_of_contains {rs ss : Ranges} (hs : ss.ascending = true)
    (hall : ss.all (fun r => rs.avoids r.1 r.2) = true) {n : Nat} (hn : ss.contains n = true) :
    rs.contains n = false := by
  obtain ⟨r, hr, h1, h2⟩ := (Ranges.contains_iff hs n).mp hn
  exact Ranges.contains_eq_false_of_avoids (List.all_eq_true.mp hall r hr) h1 h2

theorem blankRanges_avoid_letters :
    blankRanges.all (fun r => letterRanges.avoids r.1 r.2) = true := by
  decide +kernel

theorem blankRanges_avoid_numerics :
    blankRanges.all (fun r => numericRanges.avoids r.1 r.2) = true := by
  decide +kernel

theorem blankRanges_avoid_digits :
    blankRanges.all (fun r => digitRanges.avoids r.1 r.2) = true := by
  decide +kernel

theorem isWordChar_eq_false_of_isSpace {c : CodePoint} (h : isSpace c = true) :
    isWordChar c = false := by
  have hl : isLetter c = false :=
    Ranges.contains_eq_false_of_contains blankRanges_ascending blankRanges_avoid_letters h
  have hn : isNumeric c = false :=
    Ranges.contains_eq_false_of_contains blankRanges_ascending blankRanges_avoid_numerics h
  have hu : c ≠ '_' := by
    rintro rfl
    exact absurd h (by decide)
  simp [isWordChar, isAlnum, hl, hn, hu]

theorem isDigit_eq_false_of_isSpace {c : CodePoint} (h : isSpace c = true) : isDigit c = false :=
  Ranges.contains_eq_false_of_contains blankRanges_ascending blankRanges_avoid_digits h

theorem isSpace_eq_false_of_isWordChar {c : CodePoint} (h : isWordChar c = true) :
    isSpace c = false := by
  cases hs : isSpace c with
  | false => rfl
  | true => simp [isWordChar_eq_false_of_isSpace hs] at h

theorem isSpace_eq_false_of_isDigit {c : CodePoint} (h : isDigit c = true) :
    isSpace c = false := by
  cases hs : isSpace c with
  | false => rfl
  | true => simp [isDigit_eq_false_of_isSpace hs] at h

theorem ne_lineFeed_of_isSpace_eq_false {c : CodePoint} (h : isSpace c = false) :
    c ≠ .char '\n' := by
  rintro rfl
  exact absurd h (by decide)

end CCheck.Unicode

namespace CCheck.Token

open Unicode

theorem isSpace_of_mem_pairOperators {x y : CodePoint} (h : (x, y) ∈ pairOperators) :
    isSpace x = false ∧ isSpace y = false := by
  have hall : ∀ p ∈ pairOperators, isSpace p.1 = false ∧ isSpace p.2 = false := by decide
  exact hall _ h

/-- `t` is what the scanning rules read under `v` at the front of `t.value ++ after`, where the
front is no white space: a word, a letter or underscore and then word characters; a number, a
run of digits; a two-character operator; or else one code point, an operator, a symbol or an
unknown token. A word or a number stops only where the next code point could not go on with it,
and a one-code-point token stands only where it does not start a two-character operator. -/
inductive Lexeme (v : Vocabulary) : Token → List CodePoint → Prop
  | word {line : Nat} {x : CodePoint} {xs after : List CodePoint} :
      startsWord x = true → (∀ y ∈ xs, isWordChar y = true) →
      (∀ y ∈ after.head?, isWordChar y = false) →
      Lexeme v ⟨v.classify (x :: xs), x :: xs, line⟩ after
  | number {line : Nat} {x : CodePoint} {xs after : List CodePoint} :
      startsWord x = false → isDigit x = true → (∀ y ∈ xs, isDigit y = true) →
      (∀ y ∈ after.head?, isDigit y = false) →
      Lexeme v ⟨.number, x :: xs, line⟩ after
  | pair {line : Nat} {x y : CodePoint} {after : List CodePoint} :
      isSpace x = false → startsWord x = false → isDigit x = false → (x, y) ∈ pairOperators →
      Lexeme v ⟨.operator, [x, y], line⟩ after
  | single {line : Nat} {x : CodePoint} {after : List CodePoint} :
      isSpace x = false → startsWord x = false → isDigit x = false →
      (∀ y ∈ after.head?, (x, y) ∉ pairOperators) →
      Lexeme v ⟨singleKind x, [x], line⟩ after

namespace Lexeme

variable {v : Vocabulary} {t : Token} {after : List CodePoint}

theorem value_ne_nil (h : Lexeme v t after) : t.value ≠ [] := by
  cases h <;> simp

theorem isSpace_eq_false (h : Lexeme v t after) : ∀ x ∈ t.value, isSpace x = false := by
  cases h with
  | word hx hxs _ =>
    intro y hy
    rcases List.mem_cons.mp hy with rfl | hy
    · exact isSpace_eq_false_of_isWordChar (isWordChar_of_startsWord hx)
    · exact isSpace_eq_false_of_isWordChar (hxs y hy)
  | number _ hx hxs _ =>
    intro y hy
    rcases List.mem_cons.mp hy with rfl | hy
    · exact isSpace_eq_false_of_isDigit hx
    · exact isSpace_eq_false_of_isDigit (hxs y hy)
  | pair _ _ _ hp =>
    have hs := isSpace_of_mem_pairOperators hp
    intro y hy
    simp only [List.mem_cons, List.not_mem_nil, or_false] at hy
    rcases hy with rfl | rfl
    · exact hs.1
    · exact hs.2
  | single hx _ _ _ =>
    intro y hy
    rw [List.mem_singleton.mp hy]
    exact hx

end Lexeme

namespace Cursor

/-- `c` stands where line `base` goes on with its current code point: its line is `base`, or one
more when the current code point is a line feed. -/
def OnLine (base : Nat) (c : Cursor) : Prop :=
  c.line = base + (c.rest.take 1).count (.char '\n')

theorem onLine_enter (line : Nat) (cs : List CodePoint) : (enter line cs).OnLine line := by
  cases cs with
  | nil => simp [enter, OnLine]
  | cons x xs =>
    by_cases hx : x = .char '\n'
    · simp [enter, OnLine, hx]
    · simp [enter, OnLine, hx]

theorem onLine_start (text : List CodePoint) : (start text).OnLine 1 := onLine_enter 1 text

theorem onLine_advance {c : Cursor} {x : CodePoint} {xs : List CodePoint} {base : Nat}
    (hr : c.rest = x :: xs) (h : c.OnLine base) :
    c.advance.OnLine (base + [x].count (.char '\n')) := by
  have hline : c.line = base + [x].count (.char '\n') := by simpa [OnLine, hr] using h
  have hadv : c.advance = enter c.line xs := by simp [advance, hr]
  rw [hadv, ← hline]
  exact onLine_enter c.line xs

theorem line_eq_of_onLine {c : Cursor} {x : CodePoint} {xs : List CodePoint} {base : Nat}
    (hr : c.rest = x :: xs) (hx : isSpace x = false) (h : c.OnLine base) : c.line = base := by
  have hne : (x == .char '\n') = false :=
    beq_eq_false_iff_ne.mpr (ne_lineFeed_of_isSpace_eq_false hx)
  simpa [OnLine, hr, List.count_singleton, hne] using h

theorem onLine_skipBlanks {c : Cursor} {base : Nat} (h : c.OnLine base) :
    c.skipBlanks.OnLine (base + (c.rest.takeWhile isSpace).count (.char '\n')) := by
  fun_induction skipBlanks c generalizing base with
  | case1 c hr => simpa [hr] using h
  | case2 c ch cs hr hs ih =>
    have h' := ih (onLine_advance hr h)
    rw [rest_advance, hr] at h'
    simp only [hr, List.takeWhile_cons_of_pos hs, List.count_cons]
    simpa [List.count_singleton, Nat.add_assoc, Nat.add_comm] using h'
  | case3 c ch cs hr hs => simpa [hr, hs] using h

theorem onLine_collect (p : CodePoint → Bool) {c : Cursor} {base : Nat} (h : c.OnLine base) :
    (c.collect p).2.OnLine (base + (c.rest.takeWhile p).count (.char '\n')) := by
  fun_induction collect p c generalizing base with
  | case1 c hr => simpa [hr] using h
  | case2 c ch cs hr hp found =>
    rename_i ih
    have h' := ih (onLine_advance hr h)
    rw [rest_advance, hr] at h'
    simp only [found, hr, List.takeWhile_cons_of_pos hp, List.count_cons]
    simpa [List.count_singleton, Nat.add_assoc, Nat.add_comm] using h'
  | case3 c ch cs hr hp => simpa [hr, hp] using h

theorem collect_turn (p : CodePoint → Bool) {c : Cursor} {base : Nat} (hc : c.OnLine base) :
    c.rest = (c.collect p).1 ++ (c.collect p).2.rest ∧
      (c.collect p).2.OnLine (base + (c.collect p).1.count (.char '\n')) ∧
      ∀ y ∈ ((c.collect p).2.rest).head?, p y = false := by
  refine ⟨?_, ?_, ?_⟩
  · rw [collect_fst, collect_snd_rest, List.takeWhile_append_dropWhile]
  · rw [collect_fst]
    exact onLine_collect p hc
  · intro y hy
    have hnot := List.head?_dropWhile_not p c.rest
    rw [← collect_snd_rest, Option.mem_def.mp hy] at hnot
    exact hnot

/-- All that one turn can do: pass over a non-empty run of white space, or read a lexeme that
starts on the cursor's line. Either way the cursor after it is on the line that what it passed
over leads to. -/
theorem step_cases {v : Vocabulary} {c after : Cursor} {t? : Option Token} {base : Nat}
    (hc : c.OnLine base) (h : c.step v = some (t?, after)) :
    (t? = none ∧ ∃ ws, ws ≠ [] ∧ (∀ x ∈ ws, isSpace x = true) ∧ c.rest = ws ++ after.rest ∧
        after.OnLine (base + ws.count (.char '\n'))) ∨
      ∃ t, t? = some t ∧ t.line = base ∧ c.rest = t.value ++ after.rest ∧
        after.OnLine (base + t.value.count (.char '\n')) ∧ Lexeme v t after.rest := by
  unfold step at h
  split at h
  · exact absurd h (by simp)
  rename_i ch more hr
  split at h
  · rename_i hs
    simp only [Option.some.injEq, Prod.mk.injEq] at h
    obtain ⟨rfl, rfl⟩ := h
    refine .inl ⟨rfl, c.rest.takeWhile isSpace, ?_, ?_, ?_, onLine_skipBlanks hc⟩
    · simp [hr, hs]
    · exact List.all_eq_true.mp List.all_takeWhile
    · rw [skipBlanks_rest, List.takeWhile_append_dropWhile]
  rename_i hs
  have hs' : isSpace ch = false := by simpa using hs
  have hline := line_eq_of_onLine hr hs' hc
  split at h
  · rename_i hw
    simp only [Option.some.injEq, Prod.mk.injEq] at h
    obtain ⟨rfl, rfl⟩ := h
    obtain ⟨hsplit, hon, hstop⟩ := collect_turn isWordChar hc
    refine .inr ⟨_, rfl, hline, hsplit, hon, ?_⟩
    have hxs := List.all_eq_true.mp (List.all_takeWhile (l := more) (p := isWordChar))
    rw [collect_fst, hr, List.takeWhile_cons_of_pos (isWordChar_of_startsWord hw)]
    exact Lexeme.word hw hxs hstop
  split at h
  · rename_i hw hd
    simp only [Option.some.injEq, Prod.mk.injEq] at h
    obtain ⟨rfl, rfl⟩ := h
    obtain ⟨hsplit, hon, hstop⟩ := collect_turn isDigit hc
    refine .inr ⟨_, rfl, hline, hsplit, hon, ?_⟩
    have hxs := List.all_eq_true.mp (List.all_takeWhile (l := more) (p := isDigit))
    rw [collect_fst, hr, List.takeWhile_cons_of_pos hd]
    exact Lexeme.number (by simpa using hw) hd hxs hstop
  rename_i hw hd
  have hw' : startsWord ch = false := by simpa using hw
  have hd' : isDigit ch = false := by simpa using hd
  have hon₁ := onLine_advance hr hc
  have hrest₁ : c.advance.rest = more := by rw [rest_advance, hr]; rfl
  split at h
  · rename_i _ d more'
    have hon₂ := onLine_advance hrest₁ hon₁
    have hrest₂ : c.advance.advance.rest = more' := by rw [rest_advance, hrest₁]; rfl
    split at h
    · rename_i hp
      simp only [Option.some.injEq, Prod.mk.injEq] at h
      obtain ⟨rfl, rfl⟩ := h
      refine .inr ⟨_, rfl, hline, by simp [hr, hrest₂], ?_,
        Lexeme.pair hs' hw' hd' (by simpa using hp)⟩
      have hcount :
          [ch, d].count (.char '\n') = [ch].count (.char '\n') + [d].count (.char '\n') := by
        simp only [List.count_cons, List.count_nil]
        omega
      rw [hcount, ← Nat.add_assoc]
      exact hon₂
    · rename_i hp
      simp only [Option.some.injEq, Prod.mk.injEq] at h
      obtain ⟨rfl, rfl⟩ := h
      refine .inr ⟨_, rfl, hline, by simp [hr, hrest₁], hon₁, Lexeme.single hs' hw' hd' ?_⟩
      intro y hy
      rw [hrest₁, List.head?_cons, Option.mem_some_iff] at hy
      subst hy
      simpa using hp
  · simp only [Option.some.injEq, Prod.mk.injEq] at h
    obtain ⟨rfl, rfl⟩ := h
    refine .inr ⟨_, rfl, hline, by simp [hr, hrest₁], hon₁, Lexeme.single hs' hw' hd' ?_⟩
    simp [hrest₁]

end Cursor

end CCheck.Token
