import CCheck.Proofs.Token.Compose
/-!
# One code point of lookahead

The scan decides where a token ends from the code points up to the one right after it. So text
added at the end of a scanned text leaves every token but the last as it was, in its place, and
the last one keeps its start and line and can only grow (`scan_append_extends_last`): a word or a
number runs on into the added text, and a one-character operator may become a two-character
one. After white space at the end, the last token stays as it was too.
-/

namespace CCheck.Token

open Unicode

variable {v : Vocabulary}

theorem head?_dropWhile_stop {p : CodePoint → Bool} (l : List CodePoint) :
    ∀ y ∈ (l.dropWhile p).head?, p y = false := by
  intro y hy
  have hnot := List.head?_dropWhile_not p l
  rw [Option.mem_def.mp hy] at hnot
  exact hnot

theorem forall_mem_append_takeWhile {p : CodePoint → Bool} {xs : List CodePoint}
    (hxs : ∀ y ∈ xs, p y = true) (q : List CodePoint) : ∀ y ∈ xs ++ q.takeWhile p, p y = true := by
  intro y hy
  rcases List.mem_append.mp hy with hy | hy
  · exact hxs y hy
  · exact List.all_eq_true.mp List.all_takeWhile y hy

theorem Lexeme.prefix_of_nil {t t' : Token} {after' q : List CodePoint} (h : Lexeme v t [])
    (h' : Lexeme v t' after') (htext : t'.value ++ after' = t.value ++ q) :
    t.value <+: t'.value := by
  cases h with
  | @word line x xs _ hx hxs _ =>
    have hrun := forall_mem_append_takeWhile hxs q
    have hlong : Lexeme v ⟨v.classify (x :: (xs ++ q.takeWhile isWordChar)),
        x :: (xs ++ q.takeWhile isWordChar), t'.line⟩ (q.dropWhile isWordChar) :=
      .word hx hrun (head?_dropWhile_stop q)
    obtain ⟨ht', -⟩ := h'.unique hlong (by simp [htext]) rfl
    rw [ht']
    exact ⟨q.takeWhile isWordChar, by simp⟩
  | @number line x xs _ hw hx hxs _ =>
    have hrun := forall_mem_append_takeWhile hxs q
    have hlong : Lexeme v ⟨.number, x :: (xs ++ q.takeWhile isDigit), t'.line⟩
        (q.dropWhile isDigit) :=
      .number hw hx hrun (head?_dropWhile_stop q)
    obtain ⟨ht', -⟩ := h'.unique hlong (by simp [htext]) rfl
    rw [ht']
    exact ⟨q.takeWhile isDigit, by simp⟩
  | @pair line x y _ hsp hw hd hp =>
    obtain ⟨ht', -⟩ := h'.unique (.pair hsp hw hd hp : Lexeme v ⟨.operator, [x, y], t'.line⟩ q)
      (by simp [htext]) rfl
    exact ht' ▸ List.prefix_refl _
  | @single line x _ hsp hw hd _ =>
    cases q with
    | nil =>
      obtain ⟨ht', -⟩ := h'.unique
        (.single hsp hw hd (by simp) : Lexeme v ⟨singleKind x, [x], t'.line⟩ []) (by simp [htext]) rfl
      exact ht' ▸ List.prefix_refl _
    | cons y ys =>
      by_cases hp : (x, y) ∈ pairOperators
      · obtain ⟨ht', -⟩ := h'.unique
          (.pair hsp hw hd hp : Lexeme v ⟨.operator, [x, y], t'.line⟩ ys) (by simp [htext]) rfl
        rw [ht']
        exact ⟨[y], rfl⟩
      · obtain ⟨ht', -⟩ := h'.unique
          (.single hsp hw hd (by simpa using hp) : Lexeme v ⟨singleKind x, [x], t'.line⟩ (y :: ys))
          (by simp [htext]) rfl
        exact ht' ▸ List.prefix_refl _

namespace Tiling

variable {base : Nat} {p q : List CodePoint} {ts : List Token} {t : Token}

theorem ne_nil_of_ne_nil {text : List CodePoint} (h : Tiling v base text ts) (hts : ts ≠ []) :
    text ≠ [] := by
  rintro rfl
  exact hts (h.eq_nil_of_blank (by simp))

/-- Text added to a tiled text keeps every token but the last, and the last one's line; the
last one can only grow, and stays as it was when the text ends in white space. -/
theorem extend {us : List Token} (hp : Tiling v base p (ts ++ [t]))
    (hpq : Tiling v base (p ++ q) us) :
    ∃ t' more, us = ts ++ t' :: more ∧ t'.line = t.line ∧ t.value <+: t'.value ∧
      ∀ x, p.getLast? = some x → isSpace x = true → t' = t := by
  induction ts generalizing base p us with
  | nil =>
    rw [List.nil_append] at hp
    cases hp with
    | @lexeme _ ws rest _ _ hws hline hlex hrest =>
      have hblank := hrest.blank_of_nil
      simp only [List.append_assoc] at hpq
      obtain ⟨t', after', more, rfl, hfront, hline', hlex', -⟩ := hpq.front_lexeme hws hlex
      refine ⟨t', more, rfl, by rw [hline, hline'], ?_⟩
      cases rest with
      | nil =>
        -- `t` ends the text, so the text ends in no white space and what is added may extend `t`
        refine ⟨hlex.prefix_of_nil hlex' (by simpa using hfront.symm), fun x hx hsp => ?_⟩
        have hlast := hlex.isSpace_eq_false _ (List.getLast_mem hlex.value_ne_nil)
        rw [List.append_nil, List.getLast?_append, List.getLast?_eq_some_getLast hlex.value_ne_nil,
          Option.some_or, Option.some.injEq] at hx
        rw [hx, hsp] at hlast
        cases hlast
      | cons r rs =>
        -- white space ends `t` before what is added
        have hlong : Lexeme v t (r :: rs ++ q) :=
          hlex.of_blank_head (by simpa using hblank r List.mem_cons_self)
        obtain ⟨rfl, -⟩ := hlong.unique hlex' hfront (by rw [hline, hline'])
        exact ⟨List.prefix_refl _, fun _ _ _ => rfl⟩
  | cons t₀ ts ih =>
    rw [List.cons_append] at hp
    cases hp with
    | @lexeme _ ws rest _ _ hws hline hlex hrest =>
      have hne : rest ≠ [] := hrest.ne_nil_of_ne_nil (by simp)
      simp only [List.append_assoc] at hpq
      obtain ⟨t₀', after', more, rfl, hfront, hline', hlex', hrest'⟩ := hpq.front_lexeme hws hlex
      have hlex₁ : Lexeme v t₀ (rest ++ q) := by
        obtain ⟨r, rs, rfl⟩ := List.exists_cons_of_ne_nil hne
        exact hlex.of_head?_eq (by simp)
      obtain ⟨rfl, rfl⟩ := hlex₁.unique hlex' hfront (by rw [hline, hline'])
      obtain ⟨t', more', rfl, hline₁, hpre, hlast⟩ := ih hrest hrest'
      refine ⟨t', more', rfl, hline₁, hpre, fun x hx hsp => hlast x ?_ hsp⟩
      rw [List.getLast?_eq_some_getLast hne]
      rwa [List.getLast?_append, List.getLast?_eq_some_getLast hne, Option.some_or] at hx

theorem extend_segments {t' : Token} {more : List Token} (hp : Tiling v base p (ts ++ [t]))
    (hpq : Tiling v base (p ++ q) (ts ++ t' :: more)) :
    ∃ spans s e e' rest, Segmentation base p (ts ++ [t]) (spans ++ [(s, e)]) ∧
      Segmentation base (p ++ q) (ts ++ t' :: more) (spans ++ (s, e') :: rest) := by
  induction ts generalizing base p with
  | nil =>
    rw [List.nil_append] at hp hpq
    cases hp with
    | @lexeme _ ws rest _ _ hws hline hlex hrest =>
      simp only [List.append_assoc] at hpq
      obtain ⟨t'', after', more', hts, hfront, hline', hlex', hrest'⟩ := hpq.front_lexeme hws hlex
      obtain ⟨rfl, rfl⟩ := List.cons.inj hts
      obtain ⟨spans, hspans, -⟩ := hrest'.exists_segmentation
      refine ⟨[], ws.length, ws.length + t.value.length, ws.length + t'.value.length,
        shiftSpans (ws.length + t'.value.length) spans, ?_, ?_⟩
      · exact Segmentation.lexeme hws hline hlex.value_ne_nil hlex.isSpace_eq_false
          (.blank hrest.blank_of_nil)
      · simp only [List.append_assoc, List.nil_append]
        rw [hfront]
        simpa only [List.append_assoc] using
          Segmentation.lexeme hws hline' hlex'.value_ne_nil hlex'.isSpace_eq_false hspans
  | cons t₀ ts ih =>
    rw [List.cons_append] at hp hpq
    cases hp with
    | @lexeme _ ws rest _ _ hws hline hlex hrest =>
      simp only [List.append_assoc] at hpq
      obtain ⟨t₀', after', more', hts, hfront, hline', hlex', hrest'⟩ := hpq.front_lexeme hws hlex
      obtain ⟨rfl, rfl⟩ := List.cons.inj hts
      obtain rfl : after' = rest ++ q := (List.append_cancel_left hfront).symm
      obtain ⟨spans, s, e, e', spans', hspans, hspans'⟩ := ih hrest hrest'
      refine ⟨(ws.length, ws.length + t₀.value.length) ::
          shiftSpans (ws.length + t₀.value.length) spans,
        ws.length + t₀.value.length + s, ws.length + t₀.value.length + e,
        ws.length + t₀.value.length + e', shiftSpans (ws.length + t₀.value.length) spans', ?_, ?_⟩
      · simpa [shiftSpans] using
          Segmentation.lexeme hws hline hlex.value_ne_nil hlex.isSpace_eq_false hspans
      · simpa [shiftSpans] using
          Segmentation.lexeme hws hline' hlex'.value_ne_nil hlex'.isSpace_eq_false hspans'

end Tiling

/-- Text added after a scanned text `p` keeps every token of its scan but the last, with its
kind, text, line and segment; the last token keeps its line and the start of its segment, and
its text can only grow. When `p` ends in white space, the last token is kept as it was too. -/
theorem scan_append_extends_last {p q : List CodePoint} {ts : List Token} {t : Token}
    (h : scan p = ts ++ [t]) :
    ∃ t' more, scan (p ++ q) = ts ++ t' :: more ∧ t'.line = t.line ∧ t.value <+: t'.value ∧
      (∀ x, p.getLast? = some x → isSpace x = true → t' = t) ∧
      ∀ spans s e spans', Segmentation 1 p (scan p) (spans ++ [(s, e)]) →
        Segmentation 1 (p ++ q) (scan (p ++ q)) spans' →
          ∃ e' rest, spans' = spans ++ (s, e') :: rest := by
  have hp : Tiling Vocabulary.c 1 p (ts ++ [t]) := h ▸ scan_tiling p
  obtain ⟨t', more, hpq, hline, hpre, hlast⟩ := hp.extend (scan_tiling (p ++ q))
  refine ⟨t', more, hpq, hline, hpre, hlast, fun spans s e spans' hseg hseg' => ?_⟩
  obtain ⟨σ, s₀, e₀, e₀', σ', hσ, hσ'⟩ := hp.extend_segments (hpq ▸ scan_tiling (p ++ q))
  rw [h] at hseg
  rw [hpq] at hseg'
  obtain ⟨rfl, hlast'⟩ := List.append_inj' (hseg.unique hσ) rfl
  simp only [List.cons.injEq, Prod.mk.injEq, and_true] at hlast'
  obtain ⟨rfl, -⟩ := hlast'
  exact ⟨e₀', σ', hseg'.unique hσ'⟩

theorem scan_append_extends_plus :
    scan (codePoints "a +") = [⟨.identifier, codePoints "a", 1⟩] ++ [⟨.operator, codePoints "+", 1⟩] ∧
      ∃ t' more, scan (codePoints "a +" ++ codePoints "= 1") =
          [⟨.identifier, codePoints "a", 1⟩] ++ t' :: more ∧
        t'.line = (⟨.operator, codePoints "+", 1⟩ : Token).line ∧
        (⟨.operator, codePoints "+", 1⟩ : Token).value <+: t'.value ∧
        (∀ x, (codePoints "a +").getLast? = some x → isSpace x = true →
          t' = ⟨.operator, codePoints "+", 1⟩) ∧
        ∀ spans s e spans', Segmentation 1 (codePoints "a +") (scan (codePoints "a +"))
            (spans ++ [(s, e)]) →
          Segmentation 1 (codePoints "a +" ++ codePoints "= 1")
            (scan (codePoints "a +" ++ codePoints "= 1")) spans' →
            ∃ e' rest, spans' = spans ++ (s, e') :: rest :=
  ⟨by decide +kernel, scan_append_extends_last (by decide +kernel)⟩

end CCheck.Token
