import CCheck.Declaration.Session
/-!
# Checking one line

What one line does to the scope and to the report, with pattern matching available. A struct
header is never taken for a line without its semicolon, so every struct header adds its name. A
declaration declares its name only when the name is new. The only ways a line stops the check
are an over-long size in its declarator and a declaration without initializer whose type needs
one: an integer array, or a known struct whose type word no earlier test takes.
-/

namespace CCheck.Declaration

open Unicode Text

/-- The type word a declaration's initializer is tested against: for an array, without its
`[]` pairs. -/
def testedType (t : List CodePoint) (d : Declarator) : List CodePoint :=
  if d.isArray then eraseEmptyBrackets t else t

/-- Type words whose initializer tests come before the struct test. -/
def TestedBeforeStructs (ty : List CodePoint) : Prop :=
  ty ∈ integerTypes.map codePoints ∨ ty ∈ floatingTypes.map codePoints ∨ ty = codePoints "bool"

theorem not_testedBeforeStructs {ty : List CodePoint} (hi : ty ∉ integerTypes.map codePoints)
    (hf : ty ∉ floatingTypes.map codePoints) (hb : ty ≠ codePoints "bool") :
    ¬ TestedBeforeStructs ty := by
  rintro (h | h | h)
  · exact hi h
  · exact hf h
  · exact hb h

/-- A declaration the checker cannot finish, given the known struct names: it has no initializer,
and its tested type needs one, as an integer array or as a known struct whose type word no earlier
test takes. -/
def LacksInitializer (structs : List (List CodePoint)) : Statement → Prop
  | .declaration t d none =>
    (testedType t d ∈ integerTypes.map codePoints ∧ d.isArray = true) ∨
      (¬ TestedBeforeStructs (testedType t d) ∧ testedType t d ∈ structs)
  | _ => False

theorem exists_of_map_eq_ok {ε α β : Type} {f : α → β} {x : Except ε α} {b : β}
    (h : f <$> x = .ok b) : ∃ a, x = .ok a ∧ f a = b := by
  cases x with
  | error e => cases h
  | ok a =>
    cases h
    exact ⟨a, rfl, rfl⟩

theorem isUnterminated_eq_false_of_structHeader? {line name : List CodePoint}
    (h : structHeader? line = some name) : isUnterminated line = false := by
  have hword : codePoints "struct" =
      [.char 's', .char 't', .char 'r', .char 'u', .char 'c', .char 't'] := by decide
  unfold structHeader? at h
  split at h
  · simp [isUnterminated, hword, hasInfix, List.isPrefixOf]
  · cases h

theorem Statement.read_of_structHeader? {line name : List CodePoint}
    (h : structHeader? line = some name) : Statement.read line = .ok (.structHeader name) := by
  unfold Statement.read
  rw [isUnterminated_eq_false_of_structHeader? h, h]
  rfl

def Statement.header? : Statement → Option (List CodePoint)
  | .structHeader name => some name
  | _ => none

def Statement.declares? : Statement → Option (List CodePoint × Shape)
  | .declaration _ d _ => some (d.name, d.shape)
  | _ => none

theorem Statement.header?_read {line : List CodePoint} {st : Statement}
    (h : Statement.read line = .ok st) : st.header? = structHeader? line := by
  cases hs : structHeader? line with
  | some name =>
    rw [Statement.read_of_structHeader? hs] at h
    cases h
    rfl
  | none =>
    unfold Statement.read at h
    split at h
    · cases h
      rfl
    rw [hs] at h
    dsimp only at h
    split at h
    · split at h
      · cases h
        rfl
      · obtain ⟨d, -, rfl⟩ := exists_of_map_eq_ok h
        rfl
    · cases h
      rfl

/-- The scope after a statement the checker finished: a struct header adds its name, a
declaration adds its name with its shape when the name is new, and nothing else changes it. -/
def Scope.record (s : Scope) : Statement → Scope
  | .structHeader name => s.addStruct name
  | .declaration _ d _ =>
    match s.shapeOf? d.name with
    | some _ => s
    | none => s.declare d.name d.shape
  | _ => s

theorem Scope.isStruct_record (s : Scope) (st : Statement) (name : List CodePoint) :
    (s.record st).isStruct name = true ↔ s.isStruct name = true ∨ st.header? = some name := by
  cases st with
  | structHeader n =>
    by_cases hn : name = n
    · subst hn
      simp [record, Statement.header?]
    · simp [record, Statement.header?, isStruct_addStruct_of_ne s hn, Ne.symm hn]
  | declaration t d v =>
    simp only [record, Statement.header?, reduceCtorEq, or_false]
    split <;> simp
  | _ => simp [record, Statement.header?]

theorem Scope.shapeOf?_record (s : Scope) (st : Statement) (name : List CodePoint) :
    (s.record st).shapeOf? name = (s.shapeOf? name).or (st.declares?.toList.lookup name) := by
  cases st with
  | declaration t d v =>
    simp only [record, Statement.declares?, Option.toList_some]
    by_cases hn : name = d.name
    · subst hn
      split <;> rename_i h <;> simp [h]
    · have hb : (name == d.name) = false := beq_eq_false_iff_ne.mpr hn
      split <;> simp [List.lookup_cons, hb, shapeOf?_declare_of_ne s _ hn]
  | _ => simp [record, Statement.declares?]

theorem Declarator.shape_eq_scalar_iff (d : Declarator) : d.shape = .scalar ↔ d.isArray = false := by
  unfold shape isArray
  by_cases hg : d.isGrid = true <;> by_cases hr : d.isRow = true <;> simp [hg, hr]

theorem integerDiagnostics_eq_error_iff {ty : List CodePoint} {d : Declarator}
    {value : Option (List CodePoint)} {f : Fault} :
    integerDiagnostics ty d value = .error f ↔
      f = .initializerMissing ∧ value = none ∧ d.isArray = true := by
  have hs := d.shape_eq_scalar_iff
  unfold integerDiagnostics
  split
  · simp_all
    exact eq_comm
  · simp_all
    exact eq_comm
  · simp_all
  · split <;> simp_all
  · simp_all
  · simp_all

theorem initializerDiagnostics_eq_error_iff {s : Scope} {ty : List CodePoint} {d : Declarator}
    {value : Option (List CodePoint)} {f : Fault} :
    initializerDiagnostics s ty d value = .error f ↔
      f = .initializerMissing ∧ value = none ∧
        ((ty ∈ integerTypes.map codePoints ∧ d.isArray = true) ∨
          (¬ TestedBeforeStructs ty ∧ s.isStruct ty = true)) := by
  unfold initializerDiagnostics
  by_cases hi : ty ∈ integerTypes.map codePoints
  · rw [if_pos (List.contains_iff_mem.mpr hi), integerDiagnostics_eq_error_iff]
    have ht : TestedBeforeStructs ty := .inl hi
    simp [hi, ht]
  rw [if_neg (mt List.contains_iff_mem.mp hi)]
  -- past the integer test only the struct test can stop the check
  have hnot : ∀ {p : Prop}, (¬ TestedBeforeStructs ty → s.isStruct ty = true → p) →
      (f = .initializerMissing ∧ value = none ∧
        ((ty ∈ integerTypes.map codePoints ∧ d.isArray = true) ∨
          (¬ TestedBeforeStructs ty ∧ s.isStruct ty = true))) → p := by
    rintro p hp ⟨-, -, ⟨hi', -⟩ | ⟨hn, hs⟩⟩
    · exact absurd hi' hi
    · exact hp hn hs
  by_cases hf : ty ∈ floatingTypes.map codePoints
  · rw [if_pos (List.contains_iff_mem.mpr hf)]
    exact iff_of_false (fun h => by cases h) (hnot fun hn _ => hn (.inr (.inl hf)))
  rw [if_neg (mt List.contains_iff_mem.mp hf)]
  by_cases hb : ty = codePoints "bool"
  · rw [if_pos hb]
    exact iff_of_false (fun h => by cases h) (hnot fun hn _ => hn (.inr (.inr hb)))
  rw [if_neg hb]
  have hn := not_testedBeforeStructs hi hf hb
  by_cases hs : s.isStruct ty = true
  · rw [if_pos hs]
    cases value with
    | none =>
      constructor
      · intro h
        cases h
        exact ⟨rfl, rfl, .inr ⟨hn, hs⟩⟩
      · rintro ⟨rfl, -, -⟩
        rfl
    | some v =>
      refine iff_of_false (fun h => by cases h) ?_
      rintro ⟨-, h, -⟩
      cases h
  rw [if_neg hs]
  refine iff_of_false ?_ (hnot fun _ hs' => absurd hs' hs)
  intro h
  split at h
  · cases h
  split at h
  · cases h
  · cases h

theorem initializerDiagnostics_declare (s : Scope) (name : List CodePoint) (shape : Shape)
    (ty : List CodePoint) (d : Declarator) (value : Option (List CodePoint)) :
    initializerDiagnostics (s.declare name shape) ty d value = initializerDiagnostics s ty d value :=
  rfl

theorem declareAndCheck_next (s : Scope) (t : List CodePoint) (d : Declarator)
    (value : Option (List CodePoint)) :
    (declareAndCheck s t d value).next =
      (fun _ => s.record (.declaration t d value)) <$>
        initializerDiagnostics s (testedType t d) d value := by
  unfold declareAndCheck testedType
  cases hk : s.shapeOf? d.name with
  | some k =>
    simp only [Scope.record, hk]
    cases initializerDiagnostics s (if d.isArray = true then eraseEmptyBrackets t else t) d value <;>
      rfl
  | none =>
    simp only [Scope.record, hk, initializerDiagnostics_declare]
    cases initializerDiagnostics s (if d.isArray = true then eraseEmptyBrackets t else t) d value <;>
      rfl

/-- The notes a declaration gets from the scope: one, a shape conflict or a redeclaration, when
its name is already declared, and none otherwise. -/
def redeclarationNotes (s : Scope) (d : Declarator) : List Diagnostic :=
  match s.shapeOf? d.name with
  | some k => [if d.clashes k then .shapeConflict d.name else .redeclared d.name]
  | none => []

theorem declareAndCheck_found (s : Scope) (t : List CodePoint) (d : Declarator)
    (value : Option (List CodePoint)) :
    (declareAndCheck s t d value).found =
      redeclarationNotes s d ++ ((initializerDiagnostics s (testedType t d) d value).toOption.getD []) := by
  unfold declareAndCheck testedType redeclarationNotes
  cases hk : s.shapeOf? d.name with
  | some k =>
    simp only [hk]
    cases initializerDiagnostics s (if d.isArray = true then eraseEmptyBrackets t else t) d value <;>
      simp [Except.toOption]
  | none =>
    simp only [hk, initializerDiagnostics_declare]
    cases initializerDiagnostics s (if d.isArray = true then eraseEmptyBrackets t else t) d value <;>
      simp [Except.toOption]

theorem checkLine_of_read_error {s : Scope} {raw : List CodePoint} {f : Fault}
    (h : Statement.read (trim raw) = .error f) : checkLine .standard s raw = ⟨[], .error f⟩ := by
  unfold checkLine
  simp [Setting.standard, h]

theorem checkLine_of_read {s : Scope} {raw : List CodePoint} {st : Statement}
    (h : Statement.read (trim raw) = .ok st) :
    checkLine .standard s raw =
      match st with
      | .unterminated => ⟨[.missingSemicolon], .ok s⟩
      | .structHeader name => ⟨[], .ok (s.addStruct name)⟩
      | .incomplete => ⟨[.invalidDeclaration], .ok s⟩
      | .repeatedType => ⟨[.repeatedType], .ok s⟩
      | .declaration t d value => declareAndCheck s t d value := by
  unfold checkLine
  simp only [Setting.standard, Bool.not_true, Bool.and_false, Bool.false_eq_true, if_false, h]
  cases st <;> rfl

variable {s : Scope} {S : List (List CodePoint)} {raw : List CodePoint} {st : Statement}

theorem lacksInitializer_declaration_iff (hS : ∀ n, s.isStruct n = true ↔ n ∈ S)
    {t : List CodePoint} {d : Declarator} {value : Option (List CodePoint)} :
    LacksInitializer S (.declaration t d value) ↔
      initializerDiagnostics s (testedType t d) d value = .error .initializerMissing := by
  rw [initializerDiagnostics_eq_error_iff, hS]
  cases value with
  | none => simp [LacksInitializer]
  | some v => simp [LacksInitializer]

theorem checkLine_next_of_lacks (hS : ∀ n, s.isStruct n = true ↔ n ∈ S)
    (h : Statement.read (trim raw) = .ok st) (hl : LacksInitializer S st) :
    (checkLine .standard s raw).next = .error .initializerMissing := by
  rw [checkLine_of_read h]
  cases st with
  | declaration t d value =>
    simp only [declareAndCheck_next, (lacksInitializer_declaration_iff hS).mp hl]
    rfl
  | _ => exact absurd hl id

theorem checkLine_next_of_not_lacks (hS : ∀ n, s.isStruct n = true ↔ n ∈ S)
    (h : Statement.read (trim raw) = .ok st) (hl : ¬ LacksInitializer S st) :
    (checkLine .standard s raw).next = .ok (s.record st) := by
  rw [checkLine_of_read h]
  cases st with
  | declaration t d value =>
    simp only [declareAndCheck_next]
    cases hd : initializerDiagnostics s (testedType t d) d value with
    | ok ds => rfl
    | error f =>
      -- the only fault the initializer tests raise is the missing initializer
      obtain ⟨rfl, -⟩ := initializerDiagnostics_eq_error_iff.mp hd
      exact absurd ((lacksInitializer_declaration_iff hS).mpr hd) hl
  | _ => rfl

theorem checkLine_found_of_declaration {t : List CodePoint} {d : Declarator}
    {value : Option (List CodePoint)} (h : Statement.read (trim raw) = .ok (.declaration t d value)) :
    (checkLine .standard s raw).found =
      redeclarationNotes s d ++ ((initializerDiagnostics s (testedType t d) d value).toOption.getD []) := by
  rw [checkLine_of_read h, declareAndCheck_found]

def Diagnostic.isRedeclaration : Diagnostic → Bool
  | .shapeConflict _ | .redeclared _ => true
  | _ => false

theorem integerDiagnostics_ok {ty : List CodePoint} {d : Declarator}
    {value : Option (List CodePoint)} {ds : List Diagnostic}
    (h : integerDiagnostics ty d value = .ok ds) :
    ds.length ≤ 2 ∧ ∀ x ∈ ds, x.isRedeclaration = false ∧ x ≠ .structInitializer := by
  cases value with
  | none =>
    cases hs : d.shape with
    | grid | row => simp [integerDiagnostics, hs] at h
    | scalar =>
      simp only [integerDiagnostics, hs, Except.ok.injEq] at h
      simp [← h]
  | some v =>
    cases hs : d.shape with
    | grid =>
      simp only [integerDiagnostics, hs, Except.ok.injEq] at h
      subst h
      split <;> simp [Diagnostic.isRedeclaration]
    | row =>
      simp only [integerDiagnostics, hs] at h
      by_cases he : enclosedBy [.char '{'] [.char '}'] v = true
      · rw [if_pos he] at h
        cases h
        cases hsizes : d.sizes with
        | nil => split <;> simp [Diagnostic.isRedeclaration]
        | cons n _ =>
          dsimp only
          split <;> split <;> simp [Diagnostic.isRedeclaration]
      · rw [if_neg he] at h
        cases h
        simp [Diagnostic.isRedeclaration]
    | scalar =>
      simp only [integerDiagnostics, hs, Except.ok.injEq] at h
      subst h
      split <;> simp [Diagnostic.isRedeclaration]

/-- What the initializer tests can give: the integer tests' notes; for a known struct whose type
word no earlier test takes, the struct note or nothing; or else, when the struct test is not
reached, at most one note, neither about a name declared before nor about a struct. -/
theorem initializerDiagnostics_ok_cases {ty : List CodePoint} {d : Declarator}
    {value : Option (List CodePoint)} {ds : List Diagnostic}
    (h : initializerDiagnostics s ty d value = .ok ds) :
    (ty ∈ integerTypes.map codePoints ∧ integerDiagnostics ty d value = .ok ds) ∨
      (¬ TestedBeforeStructs ty ∧ s.isStruct ty = true ∧ ∃ v, value = some v ∧
        ds = if enclosedBy [.char '{'] [.char '}'] v then [] else [.structInitializer]) ∨
      (TestedBeforeStructs ty ∨ s.isStruct ty = false) ∧
        ∃ x, List.Sublist ds [x] ∧ x.isRedeclaration = false ∧ x ≠ .structInitializer := by
  unfold initializerDiagnostics at h
  by_cases hi : ty ∈ integerTypes.map codePoints
  · rw [if_pos (List.contains_iff_mem.mpr hi)] at h
    exact .inl ⟨hi, h⟩
  rw [if_neg (mt List.contains_iff_mem.mp hi)] at h
  by_cases hf : ty ∈ floatingTypes.map codePoints
  · rw [if_pos (List.contains_iff_mem.mpr hf)] at h
    cases h
    refine .inr (.inr ⟨.inl (.inr (.inl hf)), .valueMismatch ty, ?_, rfl, by simp⟩)
    split
    · split <;> simp
    · simp
  rw [if_neg (mt List.contains_iff_mem.mp hf)] at h
  by_cases hb : ty = codePoints "bool"
  · rw [if_pos hb] at h
    cases h
    refine .inr (.inr ⟨.inl (.inr (.inr hb)), .boolInitializer, ?_, rfl, by simp⟩)
    split
    · split <;> simp
    · simp
  rw [if_neg hb] at h
  by_cases hs : s.isStruct ty = true
  · rw [if_pos hs] at h
    cases value with
    | none => cases h
    | some v =>
      cases h
      exact .inr (.inl ⟨not_testedBeforeStructs hi hf hb, hs, v, rfl, rfl⟩)
  rw [if_neg hs] at h
  have hs' : s.isStruct ty = false := by simpa using hs
  by_cases hc : ty = codePoints "char"
  · rw [if_pos hc] at h
    cases h
    refine .inr (.inr ⟨.inr hs', .charInitializer, ?_, rfl, by simp⟩)
    split
    · split <;> simp
    · simp
  rw [if_neg hc] at h
  by_cases hcs : ty = codePoints "char[]"
  · rw [if_pos hcs] at h
    cases h
    refine .inr (.inr ⟨.inr hs', .stringInitializer, ?_, rfl, by simp⟩)
    split
    · split <;> simp
    · simp
  rw [if_neg hcs] at h
  cases h
  exact .inr (.inr ⟨.inr hs', .unknownType ty, List.Sublist.refl _, rfl, by simp⟩)

theorem initializerDiagnostics_ok {ty : List CodePoint} {d : Declarator}
    {value : Option (List CodePoint)} {ds : List Diagnostic}
    (h : initializerDiagnostics s ty d value = .ok ds) :
    ds.length ≤ 2 ∧ ∀ x ∈ ds, x.isRedeclaration = false := by
  rcases initializerDiagnostics_ok_cases h with ⟨-, hint⟩ | ⟨-, -, v, -, rfl⟩ | ⟨-, x, hsub, hx, -⟩
  · obtain ⟨hlen, hnotes⟩ := integerDiagnostics_ok hint
    exact ⟨hlen, fun x hm => (hnotes x hm).1⟩
  · split <;> simp [Diagnostic.isRedeclaration]
  · refine ⟨Nat.le_succ_of_le hsub.length_le, fun y hy => ?_⟩
    rw [List.mem_singleton.mp (hsub.subset hy)]
    exact hx

theorem isRedeclaration_of_initializerDiagnostics {ty : List CodePoint} {d : Declarator}
    {value : Option (List CodePoint)} {ds : List Diagnostic}
    (h : initializerDiagnostics s ty d value = .ok ds) : ds.filter Diagnostic.isRedeclaration = [] :=
  List.filter_eq_nil_iff.mpr fun x hx => by simp [(initializerDiagnostics_ok h).2 x hx]

theorem structInitializer_mem_iff {ty : List CodePoint} {d : Declarator} {v : List CodePoint}
    {ds : List Diagnostic} (h : initializerDiagnostics s ty d (some v) = .ok ds) :
    .structInitializer ∈ ds ↔
      ¬ TestedBeforeStructs ty ∧ s.isStruct ty = true ∧ enclosedBy [.char '{'] [.char '}'] v = false := by
  rcases initializerDiagnostics_ok_cases h with ⟨hi, hint⟩ | ⟨hn, hs, w, hw, rfl⟩ |
    ⟨htaken, x, hsub, -, hx⟩
  · -- an integer type is tested before structs, and its tests give no struct note
    exact iff_of_false (fun hm => ((integerDiagnostics_ok hint).2 _ hm).2 rfl)
      fun hc => hc.1 (.inl hi)
  · cases hw
    by_cases he : enclosedBy [.char '{'] [.char '}'] v = true <;> simp [he, hn, hs]
  · refine iff_of_false (fun hm => hx ?_) fun ⟨hn, hs, _⟩ => ?_
    · exact (List.mem_singleton.mp (hsub.subset hm)).symm
    · rcases htaken with ht | ht
      · exact hn ht
      · rw [hs] at ht
        cases ht

/-- A name declared before gets the shape-conflict message exactly when one of the two
declarations is a row and the other a grid, or when the new declarator is both a row and a grid
over a grid: its `[]` makes it a row for the conflict test even though it is stored as a grid. -/
theorem Declarator.clashes_iff (d : Declarator) (k : Shape) :
    d.clashes k = true ↔
      ((d.shape = .row ∧ k = .grid) ∨ (d.shape = .grid ∧ k = .row)) ∨
        (d.isRow = true ∧ d.isGrid = true ∧ k = .grid) := by
  unfold clashes shape
  cases hg : d.isGrid <;> cases hr : d.isRow <;> cases k <;> simp

theorem checkLine_redeclarations {t : List CodePoint} {d : Declarator}
    {value : Option (List CodePoint)} (h : Statement.read (trim raw) = .ok (.declaration t d value)) :
    (checkLine .standard s raw).found.filter Diagnostic.isRedeclaration = redeclarationNotes s d := by
  have hnotes : (redeclarationNotes s d).filter Diagnostic.isRedeclaration = redeclarationNotes s d := by
    unfold redeclarationNotes
    split
    · split <;> rfl
    · rfl
  rw [checkLine_found_of_declaration h, List.filter_append, hnotes]
  cases hd : initializerDiagnostics s (testedType t d) d value with
  | ok ds => simp [Except.toOption, isRedeclaration_of_initializerDiagnostics hd]
  | error f => simp [Except.toOption]

theorem structInitializer_mem_checkLine {t v : List CodePoint} {d : Declarator}
    (h : Statement.read (trim raw) = .ok (.declaration t d (some v))) :
    .structInitializer ∈ (checkLine .standard s raw).found ↔
      ¬ TestedBeforeStructs (testedType t d) ∧ s.isStruct (testedType t d) = true ∧
        enclosedBy [.char '{'] [.char '}'] v = false := by
  have hnotes : .structInitializer ∉ redeclarationNotes s d := by
    unfold redeclarationNotes
    split
    · split <;> simp
    · simp
  rw [checkLine_found_of_declaration h]
  cases hd : initializerDiagnostics s (testedType t d) d (some v) with
  | ok ds =>
    simp only [Except.toOption, Option.getD_some, List.mem_append, hnotes, false_or]
    exact structInitializer_mem_iff hd
  | error f =>
    obtain ⟨-, hv, -⟩ := initializerDiagnostics_eq_error_iff.mp hd
    cases hv

end CCheck.Declaration