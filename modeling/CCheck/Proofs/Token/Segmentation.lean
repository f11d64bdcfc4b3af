import CCheck.Proofs.Token.Step
/-!
# Segmentation of a scanned text

A scan cuts its text into runs of white space and lexemes. `Tiling` says so without positions:
the text is white space, then the first token's text, then the tiling of what follows, with each
token on the line its first code point is on. `Segmentation` says the same with positions, as
segments `[s, e)` of the text. Every scan tiles its text (`scan_tiling`), and so it segments it.
-/

namespace CCheck.Token

open Unicode

/-- `text`, read from a place where line `base` goes on, is runs of white space around the
lexemes of `ts` in order, each token on the line of its first code point. -/
inductive Tiling (v : Vocabulary) : Nat → List CodePoint → List Token → Prop
  | blank {base : Nat} {ws : List CodePoint} :
      (∀ x ∈ ws, isSpace x = true) → Tiling v base ws []
  | lexeme {base : Nat} {ws rest : List CodePoint} {t : Token} {ts : List Token} :
      (∀ x ∈ ws, isSpace x = true) → t.line = base + ws.count (.char '\n') → Lexeme v t rest →
      Tiling v (t.line + t.value.count (.char '\n')) rest ts →
      Tiling v base (ws ++ t.value ++ rest) (t :: ts)

/-- Segments `[s, e)` of `text` for the tokens `ts`, one for each: in order and apart, each
non-empty and inside the text, each holding the text of its token, whose line is `base` plus the
line feeds before the segment. What lies outside every segment is white space, and nothing
inside one is. -/
structure Segmentation (base : Nat) (text : List CodePoint) (ts : List Token)
    (spans : List (Nat × Nat)) : Prop where
  length_eq : spans.length = ts.length
  ordered : spans.Pairwise fun a b => a.2 ≤ b.1
  bounded : ∀ p ∈ spans, p.1 < p.2 ∧ p.2 ≤ text.length
  value_eq : ∀ q ∈ ts.zip spans, q.1.value = (text.drop q.2.1).take (q.2.2 - q.2.1)
  line_eq : ∀ q ∈ ts.zip spans, q.1.line = base + (text.take q.2.1).count (.char '\n')
  isSpace_iff : ∀ j x, text[j]? = some x →
    (isSpace x = true ↔ ∀ p ∈ spans, ¬ (p.1 ≤ j ∧ j < p.2))

def shiftSpans (d : Nat) (spans : List (Nat × Nat)) : List (Nat × Nat) :=
  spans.map fun p => (d + p.1, d + p.2)

theorem mem_shiftSpans {spans : List (Nat × Nat)} {d : Nat} {q : Nat × Nat} :
    q ∈ shiftSpans d spans ↔ ∃ p ∈ spans, q = (d + p.1, d + p.2) := by
  simp only [shiftSpans, List.mem_map]
  constructor
  · rintro ⟨p, hp, rfl⟩
    exact ⟨p, hp, rfl⟩
  · rintro ⟨p, hp, rfl⟩
    exact ⟨p, hp, rfl⟩

theorem mem_zip_shiftSpans {ts : List Token} {spans : List (Nat × Nat)} {d : Nat}
    {q : Token × (Nat × Nat)} (h : q ∈ ts.zip (shiftSpans d spans)) :
    ∃ p, (q.1, p) ∈ ts.zip spans ∧ q.2 = (d + p.1, d + p.2) := by
  rw [shiftSpans, List.zip_map_right, List.mem_map] at h
  obtain ⟨⟨t, p⟩, hp, rfl⟩ := h
  exact ⟨p, hp, rfl⟩

namespace Segmentation

theorem blank {base : Nat} {ws : List CodePoint} (hws : ∀ x ∈ ws, isSpace x = true) :
    Segmentation base ws [] [] where
  length_eq := rfl
  ordered := List.Pairwise.nil
  bounded := by simp
  value_eq := by simp
  line_eq := by simp
  isSpace_iff := by
    intro j x hx
    simp [hws x (List.mem_of_getElem? hx)]

theorem lexeme {base : Nat} {ws rest : List CodePoint} {t : Token} {ts : List Token}
    {spans : List (Nat × Nat)} (hws : ∀ x ∈ ws, isSpace x = true)
    (hline : t.line = base + ws.count (.char '\n')) (hne : t.value ≠ [])
    (hvalue : ∀ x ∈ t.value, isSpace x = false)
    (h : Segmentation (t.line + t.value.count (.char '\n')) rest ts spans) :
    Segmentation base (ws ++ t.value ++ rest) (t :: ts)
      ((ws.length, ws.length + t.value.length) ::
        shiftSpans (ws.length + t.value.length) spans) := by
  have hd : ws.length + t.value.length = (ws ++ t.value).length := by simp
  have hpos := List.length_pos_iff.mpr hne
  refine ⟨?_, ?_, ?_, ?_, ?_, ?_⟩
  · simp [shiftSpans, h.length_eq]
  · rw [List.pairwise_cons]
    refine ⟨fun b hb => ?_, List.pairwise_map.mpr (h.ordered.imp fun hab => by omega)⟩
    obtain ⟨p, _, rfl⟩ := mem_shiftSpans.mp hb
    simp only
    omega
  · intro p hp
    rcases List.mem_cons.mp hp with rfl | hp
    · simp only [List.length_append]
      omega
    · obtain ⟨p', hp', rfl⟩ := mem_shiftSpans.mp hp
      have hb := h.bounded p' hp'
      simp only [List.length_append]
      omega
  · intro q hq
    rw [List.zip_cons_cons] at hq
    rcases List.mem_cons.mp hq with rfl | hq
    · simp
    · obtain ⟨p, hp, hq2⟩ := mem_zip_shiftSpans hq
      have hv := h.value_eq _ hp
      simp only at hv
      rw [hq2, hv, hd, List.drop_length_add_append]
      congr 1
      omega
  · intro q hq
    rw [List.zip_cons_cons] at hq
    rcases List.mem_cons.mp hq with rfl | hq
    · simp [hline]
    · obtain ⟨p, hp, hq2⟩ := mem_zip_shiftSpans hq
      have hl := h.line_eq _ hp
      simp only at hl
      rw [hq2, hl, hline, hd, List.take_length_add_append, List.count_append,
        List.count_append]
      omega
  · intro j x hx
    rw [List.append_assoc, List.getElem?_append] at hx
    split at hx
    · rename_i hj
      simp only [hws x (List.mem_of_getElem? hx), true_iff]
      intro p hp
      rcases List.mem_cons.mp hp with rfl | hp
      · omega
      · obtain ⟨p', _, rfl⟩ := mem_shiftSpans.mp hp
        omega
    rw [List.getElem?_append] at hx
    split at hx
    · simp only [hvalue x (List.mem_of_getElem? hx), Bool.false_eq_true, false_iff]
      intro hout
      exact hout _ List.mem_cons_self (by omega)
    rename_i hj hj'
    rw [h.isSpace_iff _ x hx]
    constructor
    · intro hout p hp
      rcases List.mem_cons.mp hp with rfl | hp
      · omega
      · obtain ⟨p', hp', rfl⟩ := mem_shiftSpans.mp hp
        have := hout p' hp'
        omega
    · intro hout p hp
      have := hout _ (List.mem_cons_of_mem _ (mem_shiftSpans.mpr ⟨p, hp, rfl⟩))
      omega

theorem drop_start {base : Nat} {text : List CodePoint} {ts : List Token}
    {spans : List (Nat × Nat)} (h : Segmentation base text ts spans)
    {q : Token × (Nat × Nat)} (hq : q ∈ ts.zip spans) :
    text.drop q.2.1 = q.1.value ++ text.drop q.2.2 := by
  have hlt := (h.bounded q.2 (List.of_mem_zip hq).2).1
  have he : text.drop q.2.2 = (text.drop q.2.1).drop (q.2.2 - q.2.1) := by
    rw [List.drop_drop]
    congr 1
    omega
  rw [h.value_eq q hq, he, List.take_append_drop]

end Segmentation

namespace Tiling

variable {v : Vocabulary}

theorem blank_append {base : Nat} {ws text : List CodePoint} {ts : List Token}
    (hws : ∀ x ∈ ws, isSpace x = true) (h : Tiling v (base + ws.count (.char '\n')) text ts) :
    Tiling v base (ws ++ text) ts := by
  cases h with
  | blank hws' =>
    refine blank fun x hx => ?_
    rcases List.mem_append.mp hx with hx | hx
    · exact hws x hx
    · exact hws' x hx
  | @lexeme _ ws' rest t ts hws' hline hlex hrest =>
    have htext : ws ++ (ws' ++ t.value ++ rest) = ws ++ ws' ++ t.value ++ rest := by simp
    rw [htext]
    refine lexeme (fun x hx => ?_) ?_ hlex hrest
    · rcases List.mem_append.mp hx with hx | hx
      · exact hws x hx
      · exact hws' x hx
    · rw [hline, List.count_append, Nat.add_assoc]

theorem flatMap_value {base : Nat} {text : List CodePoint} {ts : List Token}
    (h : Tiling v base text ts) : ts.flatMap Token.value = text.filter (fun x => !isSpace x) := by
  induction h with
  | blank hws =>
    rw [List.flatMap_nil, eq_comm, List.filter_eq_nil_iff]
    intro x hx
    simp [hws x hx]
  | @lexeme base ws rest t ts hws _ hlex _ ih =>
    have hblank : ws.filter (fun x => !isSpace x) = [] := by
      rw [List.filter_eq_nil_iff]
      intro x hx
      simp [hws x hx]
    have hvalue : t.value.filter (fun x => !isSpace x) = t.value := by
      rw [List.filter_eq_self]
      intro x hx
      simp [hlex.isSpace_eq_false x hx]
    rw [List.flatMap_cons, ih, List.filter_append, List.filter_append, hblank, hvalue,
      List.nil_append]

theorem exists_segmentation {base : Nat} {text : List CodePoint} {ts : List Token}
    (h : Tiling v base text ts) :
    ∃ spans, Segmentation base text ts spans ∧
      ∀ q ∈ ts.zip spans, Lexeme v q.1 (text.drop q.2.2) := by
  induction h with
  | blank hws => exact ⟨[], .blank hws, by simp⟩
  | @lexeme base ws rest t ts hws hline hlex _ ih =>
    obtain ⟨spans, hseg, hlexes⟩ := ih
    refine ⟨_, hseg.lexeme hws hline hlex.value_ne_nil hlex.isSpace_eq_false, ?_⟩
    have hd : ws.length + t.value.length = (ws ++ t.value).length := by simp
    intro q hq
    rw [List.zip_cons_cons] at hq
    rcases List.mem_cons.mp hq with rfl | hq
    · show Lexeme v t ((ws ++ t.value ++ rest).drop (ws.length + t.value.length))
      rw [hd, List.drop_left]
      exact hlex
    · obtain ⟨p, hp, hq2⟩ := mem_zip_shiftSpans hq
      rw [hq2, hd, List.drop_length_add_append]
      exact hlexes _ hp

end Tiling

theorem Cursor.rest_eq_nil_of_step_eq_none {v : Vocabulary} {c : Cursor} (h : c.step v = none) :
    c.rest = [] := by
  unfold Cursor.step at h
  split at h
  · assumption
  · split at h
    · simp at h
    split at h
    · simp at h
    split at h
    · simp at h
    split at h
    · split at h <;> simp at h
    · simp at h

theorem tokensFrom_tiling (v : Vocabulary) (c : Cursor) {base : Nat} (hc : c.OnLine base) :
    Tiling v base c.rest (tokensFrom v c) := by
  fun_induction tokensFrom v c generalizing base with
  | case1 c h =>
    rw [Cursor.rest_eq_nil_of_step_eq_none h]
    exact .blank (by simp)
  | case2 c t? after h ih =>
    rcases Cursor.step_cases hc h with ⟨rfl, ws, _, hws, hsplit, hon⟩ | ⟨t, rfl, hline, hsplit, hon, hlex⟩
    · rw [hsplit, Option.toList_none, List.nil_append]
      exact Tiling.blank_append hws (ih hon)
    · rw [hsplit, Option.toList_some, List.singleton_append, ← List.nil_append t.value]
      refine .lexeme (by simp) (by simp [hline]) hlex ?_
      rw [hline]
      exact ih hon

theorem scan_tiling (text : List CodePoint) : Tiling Vocabulary.c 1 text (scan text) :=
  tokensFrom_tiling Vocabulary.c (Cursor.start text) (Cursor.onLine_start text)

/-- A scan cuts its text into segments, one for each token, with white space between and around
them and none inside; the tokens' texts, joined, are the text without its white space. -/
theorem scan_segmentation (text : List CodePoint) :
    ∃ spans, Segmentation 1 text (scan text) spans ∧
      (scan text).flatMap Token.value = text.filter (fun x => !isSpace x) := by
  obtain ⟨spans, hseg, _⟩ := (scan_tiling text).exists_segmentation
  exact ⟨spans, hseg, (scan_tiling text).flatMap_value⟩

end CCheck.Token
