import CCheck.Proofs.Declaration.Line
/-!
# Checking a sequence of lines

A run threads the scope from line to line. When a line starts, the known structs are the struct
headers of the lines before it, and each declared name has the shape of the first line that
declared it (`scopeAfter_isStruct`, `scopeAfter_shapeOf?`). The diagnostics a run reports for a
line are the ones that line gets in that scope (`foundAt_checkFrom`), and the run stops
exactly at the first line that cannot be finished (`fault_checkFrom`, `scopeAfter_ok_iff`).

From the empty scope this says when a run over lines ends without a fault
(`checkLines_fault_eq_none_iff`): not when a declaration without initializer is an integer array,
such as `int a[2];`. It also says what a line sees and reports when the run reaches it
(`checkLines_scope_at_line`), where a declarator with two sizes and `[]` over a grid gets the
shape-conflict message although both are grids.
-/

namespace CCheck.Declaration

open Unicode Text

def structsIn (lines : List (List CodePoint)) : List (List CodePoint) :=
  lines.filterMap fun l => structHeader? (trim l)

/-- The names and shapes of the declarations among `lines`, in order, so that the first binding
of a name is the shape of its first declaration. -/
def declarationsIn (lines : List (List CodePoint)) : List (List CodePoint × Shape) :=
  lines.filterMap fun l => (Statement.read (trim l)).toOption.bind Statement.declares?

theorem structsIn_nil : structsIn [] = [] := rfl

theorem structsIn_cons (l : List CodePoint) (lines : List (List CodePoint)) :
    structsIn (l :: lines) = structsIn [l] ++ structsIn lines := by
  simp only [structsIn, List.filterMap_cons, List.filterMap_nil]
  cases structHeader? (trim l) <;> rfl

theorem mem_structsIn_singleton {l name : List CodePoint} :
    name ∈ structsIn [l] ↔ structHeader? (trim l) = some name := by
  simp only [structsIn, List.filterMap_cons, List.filterMap_nil]
  cases structHeader? (trim l) with
  | none => simp
  | some n => simp [eq_comm]

theorem scopeAfter_cons {setting : Setting} {scope s : Scope} {l : List CodePoint}
    {rest : List (List CodePoint)} (h : scopeAfter setting scope (l :: rest) = .ok s) :
    ∃ after, (checkLine setting scope l).next = .ok after ∧ scopeAfter setting after rest = .ok s := by
  simp only [scopeAfter] at h
  split at h
  · rename_i after hnext
    exact ⟨after, hnext, h⟩
  · cases h

theorem record_of_checkLine_next {s after : Scope} {raw : List CodePoint}
    (h : (checkLine .standard s raw).next = .ok after) :
    ∃ st, Statement.read (trim raw) = .ok st ∧ after = s.record st := by
  cases hr : Statement.read (trim raw) with
  | error f =>
    rw [checkLine_of_read_error hr] at h
    cases h
  | ok st =>
    refine ⟨st, rfl, ?_⟩
    rw [checkLine_of_read hr] at h
    cases st with
    | declaration t d value =>
      rw [declareAndCheck_next] at h
      obtain ⟨_, -, hrec⟩ := exists_of_map_eq_ok h
      exact hrec.symm
    | _ =>
      cases h
      rfl

theorem scopeAfter_isStruct {scope s : Scope} {lines : List (List CodePoint)}
    (h : scopeAfter .standard scope lines = .ok s) (name : List CodePoint) :
    s.isStruct name = true ↔ scope.isStruct name = true ∨ name ∈ structsIn lines := by
  induction lines generalizing scope with
  | nil =>
    cases h
    simp [structsIn]
  | cons l rest ih =>
    obtain ⟨after, hnext, hrest⟩ := scopeAfter_cons h
    obtain ⟨st, hread, rfl⟩ := record_of_checkLine_next hnext
    rw [ih hrest, Scope.isStruct_record, Statement.header?_read hread, structsIn_cons,
      List.mem_append, mem_structsIn_singleton, or_assoc]

/-- A name's shape after a run is its shape before, or else the shape of its first declaration
in the run. -/
theorem scopeAfter_shapeOf? {scope s : Scope} {lines : List (List CodePoint)}
    (h : scopeAfter .standard scope lines = .ok s) (name : List CodePoint) :
    s.shapeOf? name = (scope.shapeOf? name).or ((declarationsIn lines).lookup name) := by
  induction lines generalizing scope with
  | nil =>
    cases h
    simp [declarationsIn]
  | cons l rest ih =>
    obtain ⟨after, hnext, hrest⟩ := scopeAfter_cons h
    obtain ⟨st, hread, rfl⟩ := record_of_checkLine_next hnext
    have hdecl : declarationsIn (l :: rest) = st.declares?.toList ++ declarationsIn rest := by
      simp only [declarationsIn, List.filterMap_cons, hread, Except.toOption, Option.bind_some]
      cases st.declares? <;> rfl
    rw [ih hrest, Scope.shapeOf?_record, hdecl, List.lookup_append, Option.or_assoc]

/-- A run stops with the fault of the first line that cannot be finished, and with none when
every line is finished. -/
theorem fault_checkFrom (setting : Setting) (scope : Scope) (n : Nat)
    (lines : List (List CodePoint)) :
    (checkFrom setting scope n (lines.map .line)).fault =
      match scopeAfter setting scope lines with
      | .ok _ => none
      | .error f => some f := by
  induction lines generalizing scope n with
  | nil => rfl
  | cons l rest ih =>
    simp only [List.map_cons, checkFrom, scopeAfter]
    cases (checkLine setting scope l).next with
    | error f => rfl
    | ok after => exact ih after (n + 1)

theorem le_of_mem_found_checkFrom {setting : Setting} {scope : Scope} {n : Nat}
    {entries : List Entry} {p : Nat × Diagnostic} (hp : p ∈ (checkFrom setting scope n entries).found) :
    n ≤ p.1 := by
  induction entries generalizing scope n with
  | nil => simp [checkFrom] at hp
  | cons e rest ih =>
    cases e with
    | other kind => simp [checkFrom] at hp
    | line text =>
      simp only [checkFrom] at hp
      split at hp
      · obtain ⟨d, -, rfl⟩ := List.mem_map.mp hp
        exact Nat.le_refl n
      · rcases List.mem_append.mp hp with hp | hp
        · obtain ⟨d, -, rfl⟩ := List.mem_map.mp hp
          exact Nat.le_refl n
        · exact Nat.le_of_succ_le (ih hp)

def Report.foundAt (r : Report) (n : Nat) : List Diagnostic :=
  (r.found.filter (·.1 = n)).map (·.2)

/-- The diagnostics a run reports under the number of its line `i` are those the line gets in
the scope the lines before it leave. -/
theorem foundAt_checkFrom (setting : Setting) {scope s : Scope} (n : Nat)
    {lines : List (List CodePoint)} {i : Nat} (hi : i < lines.length)
    (hs : scopeAfter setting scope (lines.take i) = .ok s) :
    (checkFrom setting scope n (lines.map .line)).foundAt (n + i) =
      (checkLine setting s lines[i]).found := by
  unfold Report.foundAt
  induction lines generalizing scope n i with
  | nil => simp at hi
  | cons l rest ih =>
    cases i with
    | zero =>
      cases hs
      have hhere : ((checkLine setting s l).found.map fun d => (n, d)).filter
          (fun p => decide (p.1 = n)) = (checkLine setting s l).found.map fun d => (n, d) :=
        List.filter_eq_self.mpr (by simp)
      simp only [List.map_cons, checkFrom, List.getElem_cons_zero, Nat.add_zero]
      cases (checkLine setting s l).next with
      | error f => simp [hhere, Function.comp_def]
      | ok after =>
        have hlater : (checkFrom setting after (n + 1) (rest.map .line)).found.filter
            (fun p => decide (p.1 = n)) = [] := by
          rw [List.filter_eq_nil_iff]
          intro p hp
          have := le_of_mem_found_checkFrom hp
          simp only [decide_eq_true_eq]
          omega
        simp [List.filter_append, hhere, hlater, Function.comp_def]
    | succ i =>
      obtain ⟨after, hnext, hrest⟩ := scopeAfter_cons hs
      have hhere : ((checkLine setting scope l).found.map fun d => (n, d)).filter
          (fun p => decide (p.1 = n + (i + 1))) = [] := by
        rw [List.filter_eq_nil_iff]
        intro p hp
        obtain ⟨d, -, rfl⟩ := List.mem_map.mp hp
        simp
      simp only [List.map_cons, checkFrom, hnext, List.filter_append, List.map_append,
        List.getElem_cons_succ]
      rw [hhere, List.map_nil, List.nil_append, show n + (i + 1) = n + 1 + i by omega]
      exact ih (n + 1) (by simpa using hi) hrest

theorem isStruct_record_of_read {scope : Scope} {S : List (List CodePoint)} {l : List CodePoint}
    {st : Statement} (hS : ∀ n, scope.isStruct n = true ↔ n ∈ S)
    (hread : Statement.read (trim l) = .ok st) (name : List CodePoint) :
    (scope.record st).isStruct name = true ↔ name ∈ S ++ structsIn [l] := by
  rw [Scope.isStruct_record, hS, Statement.header?_read hread, List.mem_append,
    mem_structsIn_singleton]

theorem scopeAfter_ok_iff {scope : Scope} {S : List (List CodePoint)}
    (hS : ∀ n, scope.isStruct n = true ↔ n ∈ S) (lines : List (List CodePoint)) :
    (∃ s, scopeAfter .standard scope lines = .ok s) ↔
      ∀ i (hi : i < lines.length), ∃ st, Statement.read (trim lines[i]) = .ok st ∧
        ¬ LacksInitializer (S ++ structsIn (lines.take i)) st := by
  induction lines generalizing scope S with
  | nil => simp [scopeAfter]
  | cons l rest ih =>
    -- a later line sees the headers of `l` after those of `S`
    have hshift : ∀ i st, LacksInitializer (S ++ structsIn ((l :: rest).take (i + 1))) st ↔
        LacksInitializer (S ++ structsIn [l] ++ structsIn (rest.take i)) st := by
      intro i st
      rw [List.take_succ_cons, structsIn_cons, List.append_assoc]
    constructor
    · rintro ⟨s, hs⟩ i hi
      obtain ⟨after, hnext, hrest⟩ := scopeAfter_cons hs
      obtain ⟨st, hread, rfl⟩ := record_of_checkLine_next hnext
      cases i with
      | zero =>
        refine ⟨st, hread, fun hl => ?_⟩
        have herr := checkLine_next_of_lacks hS hread (by simpa [structsIn_nil] using hl)
        rw [hnext] at herr
        cases herr
      | succ i =>
        obtain ⟨st', hread', hl'⟩ :=
          (ih (isStruct_record_of_read hS hread)).mp ⟨s, hrest⟩ i (by simpa using hi)
        exact ⟨st', hread', (not_congr (hshift i st')).mpr hl'⟩
    · intro hall
      obtain ⟨st, hread, hl⟩ := hall 0 (by simp)
      simp only [List.getElem_cons_zero, List.take_zero, structsIn_nil, List.append_nil] at hread hl
      have hnext := checkLine_next_of_not_lacks hS hread hl
      obtain ⟨s, hs⟩ := (ih (isStruct_record_of_read hS hread)).mpr fun i hi => by
        obtain ⟨st', hread', hl'⟩ := hall (i + 1) (by simpa using hi)
        exact ⟨st', hread', (not_congr (hshift i st')).mp hl'⟩
      refine ⟨s, ?_⟩
      simp only [scopeAfter, hnext]
      exact hs

/-! ## Runs from the empty scope -/

theorem redeclarationNotes_eq (s : Scope) (d : Declarator) :
    redeclarationNotes s d = (s.shapeOf? d.name).toList.map fun k =>
      if d.clashes k then .shapeConflict d.name else .redeclared d.name := by
  unfold redeclarationNotes
  cases s.shapeOf? d.name <;> rfl

theorem checkLines_fault_eq_none_iff_scopeAfter (lines : List (List CodePoint)) :
    (checkLines lines).fault = none ↔ ∃ s, scopeAfter .standard .empty lines = .ok s := by
  rw [checkLines, check, fault_checkFrom]
  cases scopeAfter .standard .empty lines with
  | ok s => simp
  | error f => simp

/-- A run over lines ends without a fault exactly when every line reads as a statement and no
line is a declaration without the initializer its type needs: an array of an integer type, or a
struct named by an earlier header whose type word no earlier test takes. -/
theorem checkLines_fault_eq_none_iff (lines : List (List CodePoint)) :
    (checkLines lines).fault = none ↔
      ∀ i (hi : i < lines.length), ∃ st, Statement.read (trim lines[i]) = .ok st ∧
        ¬ LacksInitializer (structsIn (lines.take i)) st := by
  rw [checkLines_fault_eq_none_iff_scopeAfter]
  have h := @scopeAfter_ok_iff .empty [] (by simp) lines
  simpa only [List.nil_append] using h

theorem checkLines_int_array_without_initializer :
    (checkLines [codePoints "int a[2];"]).fault = some .initializerMissing := by
  decide +kernel

/-- What a line sees when a run reaches it: the structs are the struct headers before it, and each
declared name has the shape of its first declaration. A declaration there gets one redeclaration
note exactly when its name is declared, and the note is a shape conflict when a row meets a grid,
or when the new declarator has both two sizes and an empty pair and meets a grid. A struct
initializer not in braces is reported exactly when the tested type word is a known struct that
no earlier test takes. -/
theorem checkLines_scope_at_line {lines : List (List CodePoint)} {i : Nat} (hi : i < lines.length)
    (hreach : (checkLines (lines.take i)).fault = none) :
    (∃ s, scopeAfter .standard .empty (lines.take i) = .ok s ∧
      (∀ name, s.isStruct name = true ↔ name ∈ structsIn (lines.take i)) ∧
      ∀ name, s.shapeOf? name = (declarationsIn (lines.take i)).lookup name) ∧
    ∀ t d value, Statement.read (trim lines[i]) = .ok (.declaration t d value) →
      ((checkLines lines).foundAt (i + 1)).filter Diagnostic.isRedeclaration =
        ((declarationsIn (lines.take i)).lookup d.name).toList.map (fun k =>
          if ((d.shape = .row ∧ k = .grid) ∨ (d.shape = .grid ∧ k = .row)) ∨
              (d.isRow = true ∧ d.isGrid = true ∧ k = .grid)
          then .shapeConflict d.name else .redeclared d.name) ∧
      ∀ v, value = some v → enclosedBy [.char '{'] [.char '}'] v = false →
        (.structInitializer ∈ (checkLines lines).foundAt (i + 1) ↔
          testedType t d ∈ structsIn (lines.take i) ∧ ¬ TestedBeforeStructs (testedType t d)) := by
  obtain ⟨s, hs⟩ := (checkLines_fault_eq_none_iff_scopeAfter _).mp hreach
  have hstructs : ∀ name, s.isStruct name = true ↔ name ∈ structsIn (lines.take i) := by
    intro name
    rw [scopeAfter_isStruct hs, Scope.isStruct_empty]
    simp
  have hshapes : ∀ name, s.shapeOf? name = (declarationsIn (lines.take i)).lookup name := by
    intro name
    rw [scopeAfter_shapeOf? hs, Scope.shapeOf?_empty, Option.none_or]
  have hline : (checkLines lines).foundAt (i + 1) = (checkLine .standard s lines[i]).found := by
    rw [Nat.add_comm]
    exact foundAt_checkFrom .standard 1 hi hs
  refine ⟨⟨s, hs, hstructs, hshapes⟩, fun t d value hread => ⟨?_, fun v hv hopen => ?_⟩⟩
  · rw [hline, checkLine_redeclarations hread, redeclarationNotes_eq, hshapes]
    simp only [Declarator.clashes_iff]
  · subst hv
    rw [hline, structInitializer_mem_checkLine hread, hstructs]
    simp only [hopen, and_true]
    exact and_comm

theorem checkLines_scope_at_line_struct :
    ((checkLines (["struct Point \x7b", "Point p = 5;", "Point p = 6;"].map codePoints)).foundAt 3).filter
      Diagnostic.isRedeclaration = [.redeclared (codePoints "p")] := by
  have h := (@checkLines_scope_at_line
    (["struct Point \x7b", "Point p = 5;", "Point p = 6;"].map codePoints) 2
    (by decide) (by decide +kernel)).2 (codePoints "Point") ⟨codePoints "p", [], false⟩
    (some (codePoints "6")) rfl
  rw [h.1]
  decide +kernel

theorem checkLines_grid_then_grid_with_empty_pair :
    (checkLines (["int a[2][2] = \x7b\x7b1\x7d\x7d;", "int a[2][2][] = \x7b\x7b1\x7d\x7d;"].map
      codePoints)).lines =
      [codePoints "Line 2: Error - 'a' cannot be declared as both 1D and 2D array."] := by
  decide +kernel

end CCheck.Declaration
