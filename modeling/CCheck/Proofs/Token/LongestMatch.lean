import CCheck.Proofs.Token.Segmentation
/-!
# Kinds and longest matches

What each kind of token says of its text and of the code points around its segment. Under the C
vocabulary a word is a keyword exactly when it is one of the C keywords, and since every
control-flow word is a keyword, no token is a control-flow word. A word or a number always ends
where the next code point cannot extend it, and a token of one code point never stands where a
two-character operator starts.
-/

namespace CCheck.Vocabulary

open Unicode

theorem c_classify (w : List CodePoint) :
    c.classify w = if w ∈ c.keywords then .keyword else .identifier := by
  have hsub : ∀ u ∈ c.controlFlow, u ∈ c.keywords := by decide
  unfold classify
  by_cases hk : w ∈ c.keywords
  · simp [hk]
  · have hf : w ∉ c.controlFlow := fun hf => hk (hsub w hf)
    simp [hk, hf]

end CCheck.Vocabulary

namespace CCheck.Token

open Unicode

/-- What the kind of a token read from the segment `[s, e)` of `text` says of it. A keyword or
identifier starts with a letter or underscore, holds only word characters, is a keyword exactly
when it is a C keyword, and is followed by no word character; a number holds only digits and is
followed by no digit; an operator is one of the operators, and one of a single code point does
not start a two-character operator; a symbol is one punctuation mark; an unknown token is one
code point that no other rule takes, and does not start a two-character operator; no token is a
control-flow word. -/
def ClassifiedAt (text : List CodePoint) (t : Token) (s e : Nat) : Prop :=
  ((t.kind = .keyword ∨ t.kind = .identifier) →
      (∀ x ∈ t.value.head?, startsWord x = true) ∧ (∀ x ∈ t.value, isWordChar x = true) ∧
      (t.kind = .keyword ↔ t.value ∈ Vocabulary.c.keywords) ∧
      ∀ x ∈ (text.drop e).head?, isWordChar x = false) ∧
  (t.kind = .number →
      (∀ x ∈ t.value, isDigit x = true) ∧ ∀ x ∈ (text.drop e).head?, isDigit x = false) ∧
  (t.kind = .operator →
      t.value ∈ operators ∧
      (t.value.length = 1 → (text.drop s).take 2 ∉ pairOperators.map fun p => [p.1, p.2])) ∧
  (t.kind = .symbol → ∃ x ∈ symbols, t.value = [x]) ∧
  (t.kind = .unknown → ∃ x, t.value = [x] ∧ isSpace x = false ∧ isLetter x = false ∧
      x ≠ '_' ∧ isDigit x = false ∧ x ∉ singleOperators ∧ x ∉ symbols ∧
      (text.drop s).take 2 ∉ pairOperators.map fun p => [p.1, p.2]) ∧
  t.kind ≠ .controlFlow

theorem take_two_not_mem_pairs {x : CodePoint} {after : List CodePoint}
    (h : ∀ y ∈ after.head?, (x, y) ∉ pairOperators) :
    (x :: after).take 2 ∉ pairOperators.map fun p => [p.1, p.2] := by
  cases after with
  | nil => simp
  | cons y ys =>
    have hy := h y (by simp)
    simpa using hy

theorem mem_operators_of_mem_pairOperators {x y : CodePoint} (h : (x, y) ∈ pairOperators) :
    [x, y] ∈ operators :=
  List.mem_append_left _ (List.mem_map.mpr ⟨(x, y), h, rfl⟩)

theorem mem_operators_of_mem_singleOperators {x : CodePoint} (h : x ∈ singleOperators) :
    [x] ∈ operators :=
  List.mem_append_right _ (List.mem_map.mpr ⟨x, h, rfl⟩)

theorem Lexeme.classifiedAt {t : Token} {after text : List CodePoint} {s e : Nat}
    (h : Lexeme Vocabulary.c t after) (hs : text.drop s = t.value ++ after)
    (he : text.drop e = after) : ClassifiedAt text t s e := by
  unfold ClassifiedAt
  rw [he]
  cases h with
  | @word line x xs _ hx hxs hstop =>
    have hall : ∀ y ∈ x :: xs, isWordChar y = true :=
      List.forall_mem_cons.mpr ⟨isWordChar_of_startsWord hx, hxs⟩
    rw [Vocabulary.c_classify]
    split <;> rename_i hk <;>
      exact ⟨fun _ => ⟨by simpa using hx, hall, by simp [hk], hstop⟩, by simp, by simp, by simp,
        by simp, by simp⟩
  | @number line x xs _ _ hx hxs hstop =>
    refine ⟨by simp, fun _ => ⟨List.forall_mem_cons.mpr ⟨hx, hxs⟩, hstop⟩, by simp, by simp,
      by simp, by simp⟩
  | @pair line x y _ _ _ _ hp =>
    refine ⟨by simp, by simp, fun _ => ⟨mem_operators_of_mem_pairOperators hp, by simp⟩, by simp,
      by simp, by simp⟩
  | @single line x _ hsp hw hd hpair =>
    have htake := take_two_not_mem_pairs hpair
    simp only [List.singleton_append] at hs
    rw [hs]
    have hw' : isLetter x = false ∧ x ≠ '_' := by
      simpa [startsWord] using hw
    unfold singleKind
    by_cases ho : x ∈ singleOperators
    · simp only [List.elem_eq_mem, ho, decide_true, if_true]
      refine ⟨by simp, by simp, fun _ => ⟨mem_operators_of_mem_singleOperators ho, fun _ => htake⟩,
        by simp, by simp, by simp⟩
    by_cases hy : x ∈ symbols
    · simp only [List.elem_eq_mem, ho, hy, decide_true, decide_false, if_true,
        if_false, Bool.false_eq_true]
      refine ⟨by simp, by simp, by simp, fun _ => ⟨x, hy, rfl⟩, by simp, by simp⟩
    · simp only [List.elem_eq_mem, ho, hy, decide_false, if_false,
        Bool.false_eq_true]
      exact ⟨by simp, by simp, by simp, by simp,
        fun _ => ⟨x, rfl, hsp, hw'.1, hw'.2, hd, ho, hy, htake⟩, by simp⟩

/-- Every token of a scan meets what its kind says, on the segment it was read from. -/
theorem scan_classified (text : List CodePoint) :
    ∃ spans, Segmentation 1 text (scan text) spans ∧
      ∀ q ∈ (scan text).zip spans, ClassifiedAt text q.1 q.2.1 q.2.2 := by
  obtain ⟨spans, hseg, hlexes⟩ := (scan_tiling text).exists_segmentation
  exact ⟨spans, hseg, fun q hq => (hlexes q hq).classifiedAt (hseg.drop_start hq) rfl⟩

end CCheck.Token
