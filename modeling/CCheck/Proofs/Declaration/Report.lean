import CCheck.Proofs.Declaration.Run
/-!
# The shape of a report

A run that ends without a fault prints one line per diagnostic, "Line k: " and its message,
with `k` the number of the input line that gave it, so the numbers never go down; then it prints
`No errors found.` exactly when it printed nothing else (`Report.Shaped`,
`checkLines_shaped`). A line gives at most three diagnostics: one about its name being declared
before, and two about the elements of an integer row (`length_found_checkLine_le`). A line that
the first rules reject gives exactly one.
-/

namespace CCheck.Declaration

open Unicode Text

/-! ## One line -/

theorem length_redeclarationNotes_le (s : Scope) (d : Declarator) :
    (redeclarationNotes s d).length ≤ 1 := by
  unfold redeclarationNotes
  split <;> simp

theorem length_found_checkLine_le (setting : Setting) (s : Scope) (raw : List CodePoint) :
    (checkLine setting s raw).found.length ≤ 3 := by
  unfold checkLine
  dsimp only
  split
  · simp
  split
  · simp
  · simp
  · simp
  · simp
  · simp
  · rename_i t d value _
    rw [declareAndCheck_found, List.length_append]
    have hnotes := length_redeclarationNotes_le s d
    have htests : ((initializerDiagnostics s (testedType t d) d value).toOption.getD []).length ≤ 2 := by
      cases hd : initializerDiagnostics s (testedType t d) d value with
      | ok ds => exact (initializerDiagnostics_ok hd).1
      | error f => simp [Except.toOption]
    omega

/-! ## A run -/

theorem lt_of_mem_found_checkFrom {setting : Setting} {scope : Scope} {n : Nat}
    {entries : List Entry} {p : Nat × Diagnostic}
    (hp : p ∈ (checkFrom setting scope n entries).found) : p.1 < n + entries.length := by
  induction entries generalizing scope n with
  | nil => simp [checkFrom] at hp
  | cons e rest ih =>
    cases e with
    | other kind => simp [checkFrom] at hp
    | line text =>
      simp only [checkFrom] at hp
      split at hp
      · obtain ⟨d, -, rfl⟩ := List.mem_map.mp hp
        simp
      · rcases List.mem_append.mp hp with hp | hp
        · obtain ⟨d, -, rfl⟩ := List.mem_map.mp hp
          simp
        · have := ih hp
          simp only [List.length_cons]
          omega

theorem found_checkFrom_sorted (setting : Setting) (scope : Scope) (n : Nat) (entries : List Entry) :
    ((checkFrom setting scope n entries).found.map Prod.fst).Pairwise (· ≤ ·) := by
  induction entries generalizing scope n with
  | nil => simp [checkFrom]
  | cons e rest ih =>
    cases e with
    | other kind => simp [checkFrom]
    | line text =>
      have hhere : (((checkLine setting scope text).found.map fun d => (n, d)).map Prod.fst).Pairwise
          (· ≤ ·) := by
        rw [List.map_map, List.pairwise_map]
        exact List.pairwise_of_forall fun _ _ => Nat.le_refl n
      simp only [checkFrom]
      split
      · exact hhere
      · rename_i after _
        rw [List.map_append]
        refine List.pairwise_append.mpr ⟨hhere, ih after (n + 1), fun a ha b hb => ?_⟩
        obtain ⟨p, hp, rfl⟩ := List.mem_map.mp hb
        obtain ⟨q, hq, rfl⟩ := List.mem_map.mp ha
        obtain ⟨d, -, rfl⟩ := List.mem_map.mp hq
        have := le_of_mem_found_checkFrom hp
        simp only
        omega

theorem scopeAfter_take {setting : Setting} {scope s : Scope} {lines : List (List CodePoint)}
    (h : scopeAfter setting scope lines = .ok s) (i : Nat) :
    ∃ s', scopeAfter setting scope (lines.take i) = .ok s' := by
  induction lines generalizing scope i with
  | nil => exact ⟨s, by simpa using h⟩
  | cons l rest ih =>
    cases i with
    | zero => exact ⟨scope, rfl⟩
    | succ i =>
      obtain ⟨after, hnext, hrest⟩ := scopeAfter_cons h
      obtain ⟨s', hs'⟩ := ih hrest i
      exact ⟨s', by simp only [List.take_succ_cons, scopeAfter, hnext]; exact hs'⟩

/-- What a report of a run over `lines` that ended without a fault looks like. -/
structure Report.Shaped (lines : List (List CodePoint)) (r : Report) : Prop where
  /-- One printed line per diagnostic, "Line k: " and its message, then `No errors found.`
  exactly when there is no diagnostic. -/
  lines_eq : r.lines =
    r.found.map (fun ⟨k, d⟩ => codePoints s!"Line {k}: " ++ d.message) ++
      if r.found = [] then [codePoints "No errors found."] else []
  /-- The line numbers never go down. -/
  sorted : (r.found.map Prod.fst).Pairwise (· ≤ ·)
  /-- Every number is that of an input line. -/
  bounded : ∀ p ∈ r.found, 1 ≤ p.1 ∧ p.1 ≤ lines.length
  /-- The diagnostics under the number of line `i` are those the line gets in the scope that the
  lines before it leave. -/
  foundAt_eq : ∀ i (hi : i < lines.length), ∃ s, scopeAfter .standard .empty (lines.take i) = .ok s ∧
    r.foundAt (i + 1) = (checkLine .standard s lines[i]).found
  /-- At most three diagnostics per line. -/
  length_foundAt_le : ∀ k, (r.foundAt k).length ≤ 3
  /-- A line without its semicolon gets exactly that diagnostic. -/
  unterminated : ∀ i (hi : i < lines.length), Statement.read (trim lines[i]) = .ok .unterminated →
    r.foundAt (i + 1) = [.missingSemicolon]
  /-- A declaration of fewer than two words gets exactly that diagnostic. -/
  incomplete : ∀ i (hi : i < lines.length), Statement.read (trim lines[i]) = .ok .incomplete →
    r.foundAt (i + 1) = [.invalidDeclaration]
  /-- A declaration with a type word after its first word gets exactly that diagnostic. -/
  repeatedType : ∀ i (hi : i < lines.length), Statement.read (trim lines[i]) = .ok .repeatedType →
    r.foundAt (i + 1) = [.repeatedType]

theorem foundAt_eq_nil {r : Report} {k : Nat} (h : ∀ p ∈ r.found, p.1 ≠ k) : r.foundAt k = [] := by
  unfold Report.foundAt
  rw [List.map_eq_nil_iff, List.filter_eq_nil_iff]
  intro p hp
  simpa using h p hp

/-- A run over lines that ends without a fault has the shape of `Report.Shaped`. -/
theorem checkLines_shaped {lines : List (List CodePoint)} (hok : (checkLines lines).fault = none) :
    (checkLines lines).Shaped lines := by
  obtain ⟨s, hs⟩ := (checkLines_fault_eq_none_iff_scopeAfter lines).mp hok
  have hbounded : ∀ p ∈ (checkLines lines).found, 1 ≤ p.1 ∧ p.1 ≤ lines.length := by
    intro p hp
    have hlo := le_of_mem_found_checkFrom hp
    have hhi := lt_of_mem_found_checkFrom hp
    simp only [List.length_map] at hhi
    omega
  have hat : ∀ i (hi : i < lines.length), ∃ s, scopeAfter .standard .empty (lines.take i) = .ok s ∧
      (checkLines lines).foundAt (i + 1) = (checkLine .standard s lines[i]).found := by
    intro i hi
    obtain ⟨s', hs'⟩ := scopeAfter_take hs i
    refine ⟨s', hs', ?_⟩
    rw [Nat.add_comm]
    exact foundAt_checkFrom .standard 1 hi hs'
  -- a line the first rules reject gets the one diagnostic its statement says
  have hread : ∀ i (hi : i < lines.length) ds, (∀ s, (checkLine .standard s lines[i]).found = ds) →
      (checkLines lines).foundAt (i + 1) = ds := by
    intro i hi ds hds
    obtain ⟨s', -, hfound⟩ := hat i hi
    rw [hfound, hds]
  refine ⟨?_, found_checkFrom_sorted _ _ _ _, hbounded, hat, fun k => ?_, ?_, ?_, ?_⟩
  · simp [Report.lines, hok, Diagnostic.reportLine, cleanMessage]
  · by_cases hk : 1 ≤ k ∧ k ≤ lines.length
    · obtain ⟨s', -, hfound⟩ := hat (k - 1) (by omega)
      rw [show k = k - 1 + 1 by omega, hfound]
      exact length_found_checkLine_le _ _ _
    · rw [foundAt_eq_nil fun p hp hpk => hk (by rw [← hpk]; exact hbounded p hp)]
      simp
  · exact fun i hi h => hread i hi _ fun s => by rw [checkLine_of_read h]
  · exact fun i hi h => hread i hi _ fun s => by rw [checkLine_of_read h]
  · exact fun i hi h => hread i hi _ fun s => by rw [checkLine_of_read h]

theorem checkLines_shaped_redeclared :
    (checkLines (["int x = 5;", "int x", "int a[2] = \x7b1, y\x7d;", "int a;"].map codePoints)).fault =
        none ∧
      (checkLines (["int x = 5;", "int x", "int a[2] = \x7b1, y\x7d;", "int a;"].map codePoints)).Shaped
        (["int x = 5;", "int x", "int a[2] = \x7b1, y\x7d;", "int a;"].map codePoints) :=
  ⟨by decide +kernel, checkLines_shaped (by decide +kernel)⟩

end CCheck.Declaration
