import CCheck.Proofs.Token.Segmentation
/-!
# One tiling per text

A lexeme at a cursor is exactly what one turn of the scan reads there (`Cursor.step_of_lexeme`),
so two lexemes at the front of one text are the same (`Lexeme.unique`); and the white space
before a lexeme is the whole run of it. Hence a text has at most one tiling from a given line
(`Tiling.unique`), and the scan of a text is the one list of tokens that tiles it
(`scan_eq_iff_tiling`). Its segments are unique too (`Segmentation.unique`): they are the places
of the code points that are no white space, cut by the lengths of the token texts.
-/

namespace CCheck.Token

open Unicode

section Runs

variable {α : Type} {p : α → Bool} {run rest run' rest' : List α}

theorem takeWhile_append_of_stop (hrun : ∀ x ∈ run, p x = true)
    (hstop : ∀ y ∈ rest.head?, p y = false) : (run ++ rest).takeWhile p = run := by
  rw [List.takeWhile_append_of_pos hrun]
  cases rest with
  | nil => simp
  | cons y ys => simp [hstop y (by simp)]

theorem dropWhile_append_of_stop (hrun : ∀ x ∈ run, p x = true)
    (hstop : ∀ y ∈ rest.head?, p y = false) : (run ++ rest).dropWhile p = rest := by
  rw [List.dropWhile_append_of_pos hrun]
  cases rest with
  | nil => rfl
  | cons y ys => simp [hstop y (by simp)]

theorem eq_of_append_eq_of_stop (hrun : ∀ x ∈ run, p x = true)
    (hstop : ∀ y ∈ rest.head?, p y = false) (hrun' : ∀ x ∈ run', p x = true)
    (hstop' : ∀ y ∈ rest'.head?, p y = false) (h : run ++ rest = run' ++ rest') :
    run = run' ∧ rest = rest' := by
  constructor
  · rw [← takeWhile_append_of_stop hrun hstop, h, takeWhile_append_of_stop hrun' hstop']
  · rw [← dropWhile_append_of_stop hrun hstop, h, dropWhile_append_of_stop hrun' hstop']

end Runs

variable {v : Vocabulary}

theorem Cursor.collect_of_stop {p : CodePoint → Bool} {c : Cursor} {run rest : List CodePoint}
    (hrest : c.rest = run ++ rest) (hrun : ∀ x ∈ run, p x = true)
    (hstop : ∀ y ∈ rest.head?, p y = false) :
    (c.collect p).1 = run ∧ (c.collect p).2.rest = rest := by
  rw [Cursor.collect_fst, Cursor.collect_snd_rest, hrest]
  exact ⟨takeWhile_append_of_stop hrun hstop, dropWhile_append_of_stop hrun hstop⟩

theorem Cursor.step_of_lexeme {c : Cursor} {t : Token} {after : List CodePoint}
    (hlex : Lexeme v t after) (hrest : c.rest = t.value ++ after) (hline : c.line = t.line) :
    ∃ c', c.step v = some (some t, c') ∧ c'.rest = after := by
  cases hlex with
  | @word line x xs _ hx hxs hstop =>
    have hsp : isSpace x = false := isSpace_eq_false_of_isWordChar (isWordChar_of_startsWord hx)
    obtain ⟨hfound, hafter⟩ := Cursor.collect_of_stop hrest
      (List.forall_mem_cons.mpr ⟨isWordChar_of_startsWord hx, hxs⟩) hstop
    refine ⟨(c.collect isWordChar).2, ?_, hafter⟩
    simp only [List.cons_append] at hrest
    simp [Cursor.step, hrest, hsp, hx, hfound, hline]
  | @number line x xs _ hw hx hxs hstop =>
    have hsp : isSpace x = false := isSpace_eq_false_of_isDigit hx
    obtain ⟨hfound, hafter⟩ := Cursor.collect_of_stop hrest (List.forall_mem_cons.mpr ⟨hx, hxs⟩) hstop
    refine ⟨(c.collect isDigit).2, ?_, hafter⟩
    simp only [List.cons_append] at hrest
    simp [Cursor.step, hrest, hsp, hw, hx, hfound, hline]
  | @pair line x y _ hsp hw hd hp =>
    simp only [List.cons_append, List.nil_append] at hrest
    refine ⟨c.advance.advance, ?_, ?_⟩
    · simp [Cursor.step, hrest, hsp, hw, hd, hp, hline]
    · rw [Cursor.rest_advance, Cursor.rest_advance, hrest]
      rfl
  | @single line x _ hsp hw hd hpair =>
    simp only [List.cons_append, List.nil_append] at hrest
    refine ⟨c.advance, ?_, ?_⟩
    · cases after with
      | nil => simp [Cursor.step, hrest, hsp, hw, hd, hline]
      | cons y ys =>
        have hp : (x, y) ∉ pairOperators := hpair y (by simp)
        simp [Cursor.step, hrest, hsp, hw, hd, hp, hline]
    · rw [Cursor.rest_advance, hrest]
      rfl

namespace Lexeme

variable {t t' : Token} {after after' : List CodePoint}

theorem unique (h : Lexeme v t after) (h' : Lexeme v t' after')
    (htext : t.value ++ after = t'.value ++ after') (hline : t.line = t'.line) :
    t = t' ∧ after = after' := by
  obtain ⟨c, hc, hrest⟩ :=
    Cursor.step_of_lexeme (c := ⟨t.value ++ after, t.line⟩) h rfl rfl
  obtain ⟨c', hc', hrest'⟩ :=
    Cursor.step_of_lexeme (c := ⟨t.value ++ after, t.line⟩) h' htext hline
  rw [hc] at hc'
  simp only [Option.some.injEq, Prod.mk.injEq] at hc'
  obtain ⟨rfl, rfl⟩ := hc'
  exact ⟨rfl, hrest.symm.trans hrest'⟩

theorem exists_mem_isSpace_eq_false (h : Lexeme v t after) : ∃ x ∈ t.value, isSpace x = false := by
  obtain ⟨x, xs, hv⟩ := List.exists_cons_of_ne_nil h.value_ne_nil
  exact ⟨x, by simp [hv], h.isSpace_eq_false x (by simp [hv])⟩

theorem head_isSpace_eq_false (h : Lexeme v t after) (more : List CodePoint) :
    ∀ y ∈ (t.value ++ more).head?, isSpace y = false := by
  obtain ⟨x, xs, hv⟩ := List.exists_cons_of_ne_nil h.value_ne_nil
  intro y hy
  simp only [hv, List.cons_append, List.head?_cons, Option.mem_some_iff] at hy
  rw [← hy]
  exact h.isSpace_eq_false x (by simp [hv])

end Lexeme

namespace Tiling

variable {base : Nat} {text : List CodePoint} {ts ts' : List Token}

theorem eq_nil_of_blank (h : Tiling v base text ts) (hblank : ∀ x ∈ text, isSpace x = true) :
    ts = [] := by
  cases h with
  | blank => rfl
  | lexeme _ _ hlex _ =>
    obtain ⟨x, hx, hsp⟩ := hlex.exists_mem_isSpace_eq_false
    rw [hblank x (by simp [hx])] at hsp
    cases hsp

theorem front {ws u : List CodePoint} (h : Tiling v base (ws ++ u) ts)
    (hws : ∀ x ∈ ws, isSpace x = true) (hne : u ≠ [])
    (hhead : ∀ y ∈ u.head?, isSpace y = false) :
    ∃ t' after' more, ts = t' :: more ∧ u = t'.value ++ after' ∧
      t'.line = base + ws.count (.char '\n') ∧ Lexeme v t' after' ∧
      Tiling v (t'.line + t'.value.count (.char '\n')) after' more := by
  generalize htext : ws ++ u = text at h
  cases h with
  | blank hblank =>
    obtain ⟨x, xs, rfl⟩ := List.exists_cons_of_ne_nil hne
    have hx := hhead x (by simp)
    rw [hblank x (by simp [← htext])] at hx
    cases hx
  | @lexeme _ ws' after' t' more hws' hline' hlex' hrest' =>
    have hcut := eq_of_append_eq_of_stop hws hhead hws' (hlex'.head_isSpace_eq_false _)
      (by simpa only [List.append_assoc] using htext)
    obtain ⟨rfl, hfront⟩ := hcut
    exact ⟨t', after', more, rfl, hfront, hline', hlex', hrest'⟩

theorem front_lexeme {ws more : List CodePoint} {t : Token} {after : List CodePoint}
    (h : Tiling v base (ws ++ (t.value ++ more)) ts) (hws : ∀ x ∈ ws, isSpace x = true)
    (hlex : Lexeme v t after) :
    ∃ t' after' more', ts = t' :: more' ∧ t.value ++ more = t'.value ++ after' ∧
      t'.line = base + ws.count (.char '\n') ∧ Lexeme v t' after' ∧
      Tiling v (t'.line + t'.value.count (.char '\n')) after' more' :=
  h.front hws (by simp [hlex.value_ne_nil]) (hlex.head_isSpace_eq_false _)

/-- A text has at most one tiling from a given line. -/
theorem unique (h : Tiling v base text ts) (h' : Tiling v base text ts') : ts = ts' := by
  induction h generalizing ts' with
  | blank hws => exact (h'.eq_nil_of_blank hws).symm
  | @lexeme base ws rest t ts hws hline hlex _ ih =>
    rw [List.append_assoc] at h'
    obtain ⟨t', after', more, rfl, hfront, hline', hlex', hrest'⟩ := h'.front_lexeme hws hlex
    obtain ⟨rfl, rfl⟩ := hlex.unique hlex' hfront (by rw [hline, hline'])
    rw [ih hrest']

end Tiling

/-- The scan of a text is the one list of tokens that tiles it from line 1. -/
theorem scan_eq_iff_tiling {text : List CodePoint} {ts : List Token} :
    scan text = ts ↔ Tiling Vocabulary.c 1 text ts := by
  constructor
  · rintro rfl
    exact scan_tiling text
  · intro h
    exact (scan_tiling text).unique h

/-! ## Segments are unique -/

def Outside (spans : List (Nat × Nat)) (j : Nat) : Prop := ∀ p ∈ spans, ¬ (p.1 ≤ j ∧ j < p.2)

/-- Segments in order from `m` on, each non-empty. -/
def OrderedFrom (m : Nat) (spans : List (Nat × Nat)) : Prop :=
  spans.Pairwise (fun a b => a.2 ≤ b.1) ∧ ∀ p ∈ spans, m ≤ p.1 ∧ p.1 < p.2

theorem OrderedFrom.tail {m : Nat} {a : Nat × Nat} {spans : List (Nat × Nat)}
    (h : OrderedFrom m (a :: spans)) : OrderedFrom a.2 spans := by
  obtain ⟨hord, hpos⟩ := h
  rw [List.pairwise_cons] at hord
  exact ⟨hord.2, fun p hp => ⟨hord.1 p hp, (hpos p (List.mem_cons_of_mem _ hp)).2⟩⟩

theorem OrderedFrom.outside_of_lt {m j : Nat} {a : Nat × Nat} {spans : List (Nat × Nat)}
    (h : OrderedFrom m (a :: spans)) (hj : j < a.1) : Outside (a :: spans) j := by
  intro p hp hcov
  rcases List.mem_cons.mp hp with rfl | hp
  · omega
  · have := (h.tail.2 p hp).1
    have := (h.2 a List.mem_cons_self).2
    omega

theorem eq_of_outside_iff {m : Nat} {spans spans' : List (Nat × Nat)}
    (hwidth : spans.map (fun p => p.2 - p.1) = spans'.map (fun p => p.2 - p.1))
    (h : OrderedFrom m spans) (h' : OrderedFrom m spans')
    (hout : ∀ j, m ≤ j → (Outside spans j ↔ Outside spans' j)) : spans = spans' := by
  induction spans generalizing spans' m with
  | nil => exact (List.map_eq_nil_iff.mp hwidth.symm).symm
  | cons a spans ih =>
    cases spans' with
    | nil => simp at hwidth
    | cons b spans' =>
      simp only [List.map_cons, List.cons.injEq] at hwidth
      have ha := h.2 a List.mem_cons_self
      have hb := h'.2 b List.mem_cons_self
      -- each first segment starts at the first position the other leaves out
      have hba : ¬ b.1 < a.1 := fun hlt =>
        (hout b.1 hb.1).mp (h.outside_of_lt hlt) b List.mem_cons_self ⟨Nat.le_refl _, hb.2⟩
      have hab : ¬ a.1 < b.1 := fun hlt =>
        (hout a.1 ha.1).mpr (h'.outside_of_lt hlt) a List.mem_cons_self ⟨Nat.le_refl _, ha.2⟩
      have hfirst : a = b := Prod.ext (by omega) (by omega)
      subst hfirst
      have hrest : ∀ j, a.2 ≤ j → (Outside spans j ↔ Outside spans' j) := by
        intro j hj
        have hcons : ∀ l : List (Nat × Nat), Outside (a :: l) j ↔ Outside l j := by
          intro l
          simp only [Outside, List.mem_cons, forall_eq_or_imp]
          constructor
          · exact fun h => h.2
          · exact fun h => ⟨by omega, h⟩
        rw [← hcons spans, ← hcons spans']
        exact hout j (by omega)
      rw [ih hwidth.2 h.tail h'.tail hrest]

namespace Segmentation

variable {base : Nat} {text : List CodePoint} {ts : List Token} {spans spans' : List (Nat × Nat)}

theorem map_width (h : Segmentation base text ts spans) :
    spans.map (fun p => p.2 - p.1) = ts.map (fun t => t.value.length) := by
  have hlen : spans.length = ts.length := h.length_eq
  refine List.ext_getElem (by simp [hlen]) fun i h1 h2 => ?_
  simp only [List.length_map] at h1 h2
  simp only [List.getElem_map]
  have hi : i < (ts.zip spans).length := by
    rw [List.length_zip]
    omega
  have hq : (ts[i], spans[i]) ∈ ts.zip spans := by
    rw [← List.getElem_zip (h := hi)]
    exact List.getElem_mem hi
  have hv := h.value_eq _ hq
  have hb := h.bounded _ (List.getElem_mem h1)
  simp only at hv
  rw [hv, List.length_take, List.length_drop]
  omega

theorem orderedFrom (h : Segmentation base text ts spans) : OrderedFrom 0 spans :=
  ⟨h.ordered, fun p hp => ⟨Nat.zero_le _, (h.bounded p hp).1⟩⟩

theorem outside_iff (h : Segmentation base text ts spans) (j : Nat) :
    Outside spans j ↔ ∀ x, text[j]? = some x → isSpace x = true := by
  by_cases hj : j < text.length
  · have hx : text[j]? = some text[j] := List.getElem?_eq_getElem hj
    constructor
    · intro hout x hx'
      rw [hx] at hx'
      cases hx'
      exact (h.isSpace_iff j _ hx).mpr hout
    · intro hsp
      exact (h.isSpace_iff j _ hx).mp (hsp _ hx)
  · refine iff_of_true (fun p hp hcov => ?_) (fun x hx => ?_)
    · have := (h.bounded p hp).2
      omega
    · rw [List.getElem?_eq_none (by omega)] at hx
      cases hx

theorem unique (h : Segmentation base text ts spans) (h' : Segmentation base text ts spans') :
    spans = spans' :=
  eq_of_outside_iff (h.map_width.trans h'.map_width.symm) h.orderedFrom h'.orderedFrom
    fun j _ => (h.outside_iff j).trans (h'.outside_iff j).symm

end Segmentation

end CCheck.Token
