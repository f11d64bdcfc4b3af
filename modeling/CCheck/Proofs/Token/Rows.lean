import CCheck.Proofs.Token.Compose
import CCheck.Proofs.Text.Trim
/-!
# Token table rows read back

A row of a token table is the token's text and its kind's name, each padded to the column width,
then its line, with single spaces between. The white space of a row is the padding and the
separators and nothing else whenever the token's text is non-empty and has no white space; every
token a scan gives is such a lexeme. So split at white space, every row of a scan gives back the
token's text, the name of its kind and its line, and the kind's column starts one place after the
wider of the text and the column (`scan_rows_read_back`).
-/

namespace CCheck.Token

open Unicode Text

theorem codePoints_toString_ne_nil (n : Nat) : codePoints (toString n) ≠ [] := by
  simp [codePoints, Nat.toString_eq_repr, Nat.toList_repr, Nat.toDigits_ne_nil]

theorem isSpace_of_mem_codePoints_toString {n : Nat} {x : CodePoint}
    (hx : x ∈ codePoints (toString n)) : isSpace x = false := by
  simp only [codePoints, Nat.toString_eq_repr, Nat.toList_repr, List.mem_map] at hx
  obtain ⟨c, hc, rfl⟩ := hx
  -- `toString` writes ASCII digits only
  have h := Nat.isDigit_of_mem_toDigits (by decide) (by decide) hc
  simp only [Char.isDigit, Bool.and_eq_true, decide_eq_true_eq] at h
  exact isSpace_eq_false_of_asciiDigit ⟨h.1, h.2⟩

theorem codePoints_name_ne_nil (k : Kind) : codePoints k.name ≠ [] := by
  cases k <;> decide

theorem isSpace_of_mem_codePoints_name (k : Kind) : ∀ x ∈ codePoints k.name, isSpace x = false := by
  cases k <;> decide

theorem padding_blank (n : Nat) :
    ∀ c ∈ List.replicate n (CodePoint.char ' ') ++ codePoints " ", isSpace c = true := by
  intro c hc
  rcases List.mem_append.mp hc with hc | hc
  · rw [List.eq_of_mem_replicate hc]
    rfl
  · rw [List.mem_singleton.mp hc]
    rfl

theorem words_row {t : Token} (hne : t.value ≠ []) (hsp : ∀ x ∈ t.value, isSpace x = false) :
    words (row t) = [t.value, codePoints t.kind.name, codePoints (toString t.line)] := by
  have hgap : ∀ n, List.replicate n (CodePoint.char ' ') ++ codePoints " " ≠ [] := by
    simp [codePoints]
  simp only [row, leftJustify, codePoints_append, List.append_assoc]
  rw [← List.append_assoc (List.replicate _ _),
    words_append_blank_append hne hsp (hgap _) (padding_blank _),
    ← List.append_assoc (List.replicate _ _),
    words_append_blank_append (codePoints_name_ne_nil _) (isSpace_of_mem_codePoints_name _)
      (hgap _) (padding_blank _),
    words_of_forall_isSpace_eq_false (codePoints_toString_ne_nil _)
      (fun _ => isSpace_of_mem_codePoints_toString)]

theorem drop_row (t : Token) :
    (row t).drop (max columnWidth t.value.length + 1) =
      leftJustify columnWidth (codePoints t.kind.name) ++ codePoints (" " ++ toString t.line) := by
  have hwidth : (leftJustify columnWidth t.value ++ codePoints " ").length =
      max columnWidth t.value.length + 1 := by
    rw [List.length_append, length_leftJustify]
    rfl
  rw [← hwidth, row, List.append_assoc, List.append_assoc, ← List.append_assoc _ (codePoints " "),
    List.drop_left]

/-- Every row of the token table of a scan splits at white space into the token's text, the name
of its kind and its line, and its kind's column starts one place after the wider of the text and
the column. -/
theorem scan_rows_read_back (text : List CodePoint) :
    ∀ t ∈ scan text,
      words (row t) = [t.value, codePoints t.kind.name, codePoints (toString t.line)] ∧
      (row t).drop (max columnWidth t.value.length + 1) =
        leftJustify columnWidth (codePoints t.kind.name) ++ codePoints (" " ++ toString t.line) := by
  intro t ht
  obtain ⟨after, hlex⟩ := (scan_tiling text).exists_lexeme t ht
  exact ⟨words_row hlex.value_ne_nil hlex.isSpace_eq_false, drop_row t⟩

theorem scan_rows_read_back_wide :
    (⟨.identifier, codePoints "items_per_column", 2⟩ : Token) ∈
        scan (codePoints "x\n items_per_column") ∧
      words (row ⟨.identifier, codePoints "items_per_column", 2⟩) =
        [codePoints "items_per_column", codePoints Kind.identifier.name, codePoints (toString 2)] ∧
      (row ⟨.identifier, codePoints "items_per_column", 2⟩).drop
          (max columnWidth (codePoints "items_per_column").length + 1) =
        leftJustify columnWidth (codePoints Kind.identifier.name) ++ codePoints (" " ++ toString 2) := by
  have hmem : (⟨.identifier, codePoints "items_per_column", 2⟩ : Token) ∈
      scan (codePoints "x\n items_per_column") := by
    decide +kernel
  exact ⟨hmem, scan_rows_read_back _ _ hmem⟩

end CCheck.Token
