import CCheck.Proofs.Token.Unique
/-!
# Scanning joined texts

A lexeme looks at no more than the code point right after it, and white space never continues a
lexeme, so a lexeme stays one whatever follows it after white space (`Lexeme.of_blank_head`).
Tilings therefore join across white space (`Tiling.append`) and move to other lines
(`Tiling.shift`), and by uniqueness of tilings so do scans: the scan of two texts with white
space between them is the scan of the first followed by the scan of the second, moved down by
the line feeds before it (`scan_append_blank`). The token texts of a scan, joined by spaces, scan
back to the same tokens, all on line 1 (`scan_joined`).
-/

namespace CCheck.Token

open Unicode

variable {v : Vocabulary}

namespace Lexeme

variable {t : Token} {after after' : List CodePoint}

theorem of_head?_eq (h : Lexeme v t after) (hhead : after.head? = after'.head?) :
    Lexeme v t after' := by
  cases h with
  | word hx hxs hstop => exact .word hx hxs (hhead ▸ hstop)
  | number hw hx hxs hstop => exact .number hw hx hxs (hhead ▸ hstop)
  | pair hsp hw hd hp => exact .pair hsp hw hd hp
  | single hsp hw hd hpair => exact .single hsp hw hd (hhead ▸ hpair)

theorem of_blank_head (h : Lexeme v t after) (hblank : ∀ y ∈ after'.head?, isSpace y = true) :
    Lexeme v t after' := by
  cases h with
  | word hx hxs _ =>
    exact .word hx hxs fun y hy => isWordChar_eq_false_of_isSpace (hblank y hy)
  | number hw hx hxs _ =>
    exact .number hw hx hxs fun y hy => isDigit_eq_false_of_isSpace (hblank y hy)
  | pair hsp hw hd hp => exact .pair hsp hw hd hp
  | single hsp hw hd _ =>
    refine .single hsp hw hd fun y hy hp => ?_
    have hy' := (isSpace_of_mem_pairOperators hp).2
    rw [hblank y hy] at hy'
    cases hy'

theorem withLine (h : Lexeme v t after) (line : Nat) : Lexeme v { t with line := line } after := by
  cases h with
  | word hx hxs hstop => exact .word hx hxs hstop
  | number hw hx hxs hstop => exact .number hw hx hxs hstop
  | pair hsp hw hd hp => exact .pair hsp hw hd hp
  | single hsp hw hd hpair => exact .single hsp hw hd hpair

theorem count_lineFeed (h : Lexeme v t after) : t.value.count (.char '\n') = 0 :=
  List.count_eq_zero.mpr fun hmem => absurd (h.isSpace_eq_false _ hmem) (by decide)

end Lexeme

namespace Tiling

variable {base : Nat} {text : List CodePoint} {ts : List Token}

theorem blank_of_nil (h : Tiling v base text []) : ∀ x ∈ text, isSpace x = true := by
  cases h with
  | blank hws => exact hws

theorem exists_lexeme (h : Tiling v base text ts) : ∀ t ∈ ts, ∃ after, Lexeme v t after := by
  induction h with
  | blank => simp
  | @lexeme _ ws rest t ts _ _ hlex _ ih =>
    intro t' ht'
    rcases List.mem_cons.mp ht' with rfl | ht'
    · exact ⟨rest, hlex⟩
    · exact ih t' ht'

theorem shift (h : Tiling v base text ts) (k : Nat) :
    Tiling v (base + k) text (ts.map fun t => { t with line := t.line + k }) := by
  induction h with
  | blank hws => exact .blank hws
  | @lexeme base ws rest t ts hws hline hlex _ ih =>
    have hbase : t.line + k + t.value.count (.char '\n') =
        t.line + t.value.count (.char '\n') + k := by omega
    show Tiling v (base + k) (ws ++ t.value ++ rest)
      ({ t with line := t.line + k } :: ts.map fun t => { t with line := t.line + k })
    refine .lexeme hws (by simp only [hline]; omega) (hlex.withLine (t.line + k)) ?_
    simpa only [hbase] using ih

/-- Tilings join across white space: a tiling of `a` and one of `b` from the line `a` leads to,
when `b` is empty or starts with white space, tile `a ++ b`. -/
theorem append {a b : List CodePoint} {us : List Token} (ha : Tiling v base a ts)
    (hb : Tiling v (base + a.count (.char '\n')) b us)
    (hhead : ∀ y ∈ b.head?, isSpace y = true) : Tiling v base (a ++ b) (ts ++ us) := by
  induction ha with
  | blank hws => exact blank_append hws hb
  | @lexeme base ws rest t ts hws hline hlex _ ih =>
    -- the last lexeme of `a` may end `a`, and then the white space of `b` ends it
    have hlex' : Lexeme v t (rest ++ b) := by
      cases rest with
      | nil => exact hlex.of_blank_head hhead
      | cons r rs => exact hlex.of_head?_eq (by simp)
    have hb' : Tiling v (t.line + t.value.count (.char '\n') + rest.count (.char '\n')) b us := by
      simpa only [hline, List.count_append, Nat.add_assoc] using hb
    have htail := ih hb'
    simpa only [List.append_assoc, List.cons_append] using
      (Tiling.lexeme hws hline hlex' htail : Tiling v base (ws ++ t.value ++ (rest ++ b)) _)

theorem joined (ts : List Token) (hlex : ∀ t ∈ ts, ∃ after, Lexeme v t after) :
    Tiling v base ([.char ' '].intercalate (ts.map Token.value))
      (ts.map fun t => { t with line := base }) := by
  induction ts with
  | nil => exact .blank (by simp)
  | cons t ts ih =>
    obtain ⟨after, ht⟩ := hlex t List.mem_cons_self
    have hcount := ht.count_lineFeed
    cases ts with
    | nil =>
      have hone : Tiling v base ([] ++ t.value ++ []) [{ t with line := base }] :=
        .lexeme (by simp) (by simp) ((ht.withLine base).of_blank_head (by simp)) (.blank (by simp))
      simpa using hone
    | cons t' ts =>
      have htail := ih fun u hu => hlex u (List.mem_cons_of_mem _ hu)
      have hspace : Tiling v (base + t.value.count (.char '\n'))
          ([.char ' '] ++ [.char ' '].intercalate ((t' :: ts).map Token.value))
          ((t' :: ts).map fun t => { t with line := base }) :=
        blank_append (by decide) (by simpa [hcount] using htail)
      have hlex' : Lexeme v { t with line := base }
          ([.char ' '] ++ [.char ' '].intercalate ((t' :: ts).map Token.value)) :=
        (ht.withLine base).of_blank_head (by simp; decide)
      have hall : Tiling v base
          ([] ++ t.value ++ ([.char ' '] ++ [.char ' '].intercalate ((t' :: ts).map Token.value)))
          ({ t with line := base } :: (t' :: ts).map fun t => { t with line := base }) :=
        .lexeme (by simp) (by simp) hlex' hspace
      simpa [List.intercalate_cons_cons, List.append_assoc] using hall

end Tiling

/-- White space between two texts separates their scans: the scan of `a ++ w ++ b` is the scan
of `a` followed by the scan of `b`, moved down by the line feeds in `a ++ w`. -/
theorem scan_append_blank (a w b : List CodePoint) (hw : w ≠ [])
    (hblank : ∀ x ∈ w, isSpace x = true) :
    scan (a ++ w ++ b) =
      scan a ++ (scan b).map fun t => { t with line := t.line + (a ++ w).count (.char '\n') } := by
  rw [scan_eq_iff_tiling]
  have hb := (scan_tiling b).shift ((a ++ w).count (.char '\n'))
  have hwb : Tiling Vocabulary.c (1 + a.count (.char '\n')) (w ++ b)
      ((scan b).map fun t => { t with line := t.line + (a ++ w).count (.char '\n') }) := by
    refine Tiling.blank_append hblank ?_
    rw [Nat.add_assoc, ← List.count_append]
    exact hb
  have hhead : ∀ y ∈ (w ++ b).head?, isSpace y = true := by
    obtain ⟨x, xs, rfl⟩ := List.exists_cons_of_ne_nil hw
    simpa using hblank x List.mem_cons_self
  rw [List.append_assoc]
  exact (scan_tiling a).append hwb hhead

theorem scan_append_blank_newline :
    codePoints " \n" ≠ [] ∧ (∀ x ∈ codePoints " \n", isSpace x = true) ∧
      scan (codePoints "x+" ++ codePoints " \n" ++ codePoints "+y") =
        scan (codePoints "x+") ++ (scan (codePoints "+y")).map fun t =>
          { t with line := t.line + (codePoints "x+" ++ codePoints " \n").count (.char '\n') } :=
  ⟨by decide, by decide, scan_append_blank _ _ _ (by decide) (by decide)⟩

/-- The token texts of a scan, joined by single spaces, scan back to the same tokens, all on
line 1. -/
theorem scan_joined (text : List CodePoint) :
    scan ([.char ' '].intercalate ((scan text).map Token.value)) =
      (scan text).map fun t => { t with line := 1 } :=
  scan_eq_iff_tiling.mpr (Tiling.joined _ (scan_tiling text).exists_lexeme)

example : scan ([.char ' '].intercalate ((scan (codePoints "a+++b\n&&&")).map Token.value)) =
    (scan (codePoints "a+++b\n&&&")).map fun t => { t with line := 1 } := by
  decide +kernel

end CCheck.Token
