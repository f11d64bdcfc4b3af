import Mathlib.Data.List.TakeWhile
import CCheck.Text.Split
/-!
# Laws of trimming and splitting

Trimming ignores a front or a back made of what it drops (`trimBy_prepend`, `trimBy_append`), and
a text that starts and ends with something it keeps is its own trimming (`trimBy_eq_self`).
Splitting at a separator puts a front or back without separators on the first or last piece, so
white space there is lost again when the pieces are trimmed (`map_trim_splitAt_blank_ends`).
Splitting into words passes over white space and ends a word at it (`words_append_blank_append`).
-/

namespace CCheck.Text

open Unicode

section Trimming

variable {α : Type} {p : α → Bool}

theorem dropWhile_eq_self {l : List α} (h : ∀ c ∈ l.head?, p c = false) : l.dropWhile p = l :=
  List.dropWhile_eq_self_iff.mpr fun hl => by
    have hfirst := h l[0] (by rw [List.head?_eq_getElem?, List.getElem?_eq_getElem hl]; rfl)
    simp [hfirst]

theorem trimBy_prepend {t : List α} (ht : ∀ c ∈ t, p c = true) (l : List α) :
    trimBy p (t ++ l) = trimBy p l := by
  rw [trimBy, List.dropWhile_append_of_pos ht]
  rfl

theorem trimBy_append {s : List α} (hs : ∀ c ∈ s, p c = true) (l : List α) :
    trimBy p (l ++ s) = trimBy p l := by
  rw [trimBy, trimBy, List.dropWhile_append]
  split
  · rename_i hl
    rw [List.dropWhile_eq_nil_iff.mpr hs, List.isEmpty_iff.mp hl]
  · rw [List.reverse_append, List.dropWhile_append_of_pos (by simpa using hs)]

theorem trimBy_eq_self {m : List α} (hhead : ∀ c ∈ m.head?, p c = false)
    (hlast : ∀ c ∈ m.getLast?, p c = false) : trimBy p m = m := by
  have hback : m.reverse.dropWhile p = m.reverse :=
    dropWhile_eq_self (by rw [List.head?_reverse]; exact hlast)
  rw [trimBy, dropWhile_eq_self hhead, hback, List.reverse_reverse]

theorem exists_eq_takeWhile_trimBy (p : α → Bool) (l : List α) :
    ∃ s, l = l.takeWhile p ++ trimBy p l ++ s ∧ ∀ c ∈ s, p c = true := by
  refine ⟨((l.dropWhile p).reverse.takeWhile p).reverse, ?_, ?_⟩
  · have hback := congrArg List.reverse
      (List.takeWhile_append_dropWhile (p := p) (l := (l.dropWhile p).reverse))
    rw [List.reverse_reverse, List.reverse_append] at hback
    rw [trimBy, List.append_assoc, hback, List.takeWhile_append_dropWhile]
  · intro c hc
    exact List.all_eq_true.mp List.all_takeWhile c (List.mem_reverse.mp hc)

end Trimming

theorem trim_blank_append {a : List CodePoint} (ha : ∀ c ∈ a, isSpace c = true)
    (l : List CodePoint) : trim (a ++ l) = trim l :=
  trimBy_prepend ha l

theorem trim_append_blank {b : List CodePoint} (hb : ∀ c ∈ b, isSpace c = true)
    (l : List CodePoint) : trim (l ++ b) = trim l :=
  trimBy_append hb l

theorem splitAt_prepend {t : List CodePoint} {sep : CodePoint} (ht : ∀ c ∈ t, c ≠ sep)
    (l : List CodePoint) : splitAt sep (t ++ l) = (splitAt sep l).modifyHead (t ++ ·) := by
  induction t with
  | nil =>
    rw [List.nil_append]
    cases splitAt sep l <;> rfl
  | cons c cs ih =>
    have hc : (c == sep) = false := beq_eq_false_iff_ne.mpr (ht c List.mem_cons_self)
    rw [List.cons_append, splitAt, List.splitOnP_cons_eq_if_modifyHead, hc, ← splitAt,
      ih fun x hx => ht x (List.mem_cons_of_mem c hx), List.modifyHead_modifyHead]
    rfl

theorem splitAt_append {s : List CodePoint} {sep : CodePoint} (hs : ∀ c ∈ s, c ≠ sep)
    (l : List CodePoint) :
    ∃ init last, splitAt sep l = init ++ [last] ∧ splitAt sep (l ++ s) = init ++ [last ++ s] := by
  induction l with
  | nil =>
    refine ⟨[], [], rfl, ?_⟩
    rw [List.nil_append, splitAt, List.splitOnP_eq_singleton (by simpa using hs)]
    rfl
  | cons c cs ih =>
    obtain ⟨init, last, hl, hls⟩ := ih
    simp only [splitAt] at hl hls ⊢
    rw [List.cons_append, List.splitOnP_cons_eq_if_modifyHead,
      List.splitOnP_cons_eq_if_modifyHead, hl, hls]
    split
    · exact ⟨[] :: init, last, rfl, rfl⟩
    · cases init with
      | nil => exact ⟨[], c :: last, rfl, rfl⟩
      | cons i is => exact ⟨(c :: i) :: is, last, rfl, rfl⟩

/-- Trimmed pieces do not see white space without separators at either end of the text. -/
theorem map_trim_splitAt_blank_ends {t s : List CodePoint} {sep : CodePoint}
    (ht : ∀ c ∈ t, isSpace c = true ∧ c ≠ sep) (hs : ∀ c ∈ s, isSpace c = true ∧ c ≠ sep)
    (l : List CodePoint) : (splitAt sep (t ++ l ++ s)).map trim = (splitAt sep l).map trim := by
  obtain ⟨init, last, hl, hls⟩ := splitAt_append (fun c hc => (hs c hc).2) l
  rw [List.append_assoc, splitAt_prepend (fun c hc => (ht c hc).2), hls, hl]
  cases init with
  | nil =>
    simp [trim_blank_append (fun c hc => (ht c hc).1), trim_append_blank fun c hc => (hs c hc).1]
  | cons i is =>
    have hback : (is ++ [last ++ s]).map trim = (is ++ [last]).map trim := by
      simp [trim_append_blank fun c hc => (hs c hc).1]
    simp only [List.cons_append, List.modifyHead_cons, List.map_cons,
      trim_blank_append fun c hc => (ht c hc).1, hback]

theorem words_blank_append {ws : List CodePoint} (hws : ∀ c ∈ ws, isSpace c = true)
    (rest : List CodePoint) : words (ws ++ rest) = words rest := by
  induction ws with
  | nil => rfl
  | cons c cs ih =>
    have hc : isSpace c = true := hws c List.mem_cons_self
    have hcs := ih fun x hx => hws x (List.mem_cons_of_mem c hx)
    -- a leading blank only adds an empty piece, which `words` drops
    simp only [words, List.cons_append, List.splitOnP_cons_eq_if_modifyHead, hc, if_true,
      List.filter_cons, ne_eq, not_true_eq_false, decide_false] at hcs ⊢
    exact hcs

theorem words_append_blank_append {w ws : List CodePoint} (hw : w ≠ [])
    (hsp : ∀ c ∈ w, isSpace c = false) (hws : ws ≠ []) (hblank : ∀ c ∈ ws, isSpace c = true)
    (rest : List CodePoint) : words (w ++ (ws ++ rest)) = w :: words rest := by
  obtain ⟨s, ws', rfl⟩ := List.exists_cons_of_ne_nil hws
  have hs : isSpace s = true := hblank s List.mem_cons_self
  have hrest : words (ws' ++ rest) = words rest :=
    words_blank_append (fun x hx => hblank x (List.mem_cons_of_mem s hx)) rest
  rw [← hrest, List.cons_append]
  simp only [words, List.splitOnP_append_cons_of_forall_mem hsp s hs, List.filter_cons,
    ne_eq, hw, not_false_eq_true, decide_true, if_true]

theorem words_of_forall_isSpace_eq_false {w : List CodePoint} (hw : w ≠ [])
    (hsp : ∀ c ∈ w, isSpace c = false) : words w = [w] := by
  simp [words, List.splitOnP_eq_singleton hsp, hw]

end CCheck.Text
