import CCheck.Proofs.Declaration.Line
/-!
# Bracketed declarators

A declarator written `x[g₁]…[gᵣ]`, a name without an opening bracket followed by groups of
decimal digits, is read group by group: its size groups are exactly `g₁ … gᵣ`, it holds `[]`
exactly when some group is empty, and cut at its first bracket it gives back `x`
(`Declarator.read_bracketed`). Its shape therefore depends on how many groups give a size and on
whether one is empty, not on how many groups there are (`groupShape`): two sizes make a grid, one
size or an empty group a row, and anything else a scalar, which keeps the whole declarator as its
name. So `m[][3]` is a row with one size, and `t[1][2][3]` a scalar named `t[1][2][3]`.

A line that gets past the rules before its declarator is read (`ReachesDeclarator`) declares that
name with that shape, and for an integer type its shape alone picks which of the brace tests its
initializer gets (`checkLine_bracketed_declarator`).
-/

namespace CCheck.Declaration

open Unicode Text

/-- The declarator `x[g₁]…[gᵣ]` of a name `x` and groups `g₁ … gᵣ`. -/
def bracketed (x : List CodePoint) (gs : List (List CodePoint)) : List CodePoint :=
  x ++ gs.flatMap fun g => .char '[' :: (g ++ [.char ']'])

def sizeCount (gs : List (List CodePoint)) : Nat := (gs.filter (!·.isEmpty)).length

/-- The shape that size groups give a declarator: a grid for two sizes, else a row for one size
or an empty group, else a scalar. -/
def groupShape (gs : List (List CodePoint)) : Shape :=
  if sizeCount gs = 2 then .grid else if sizeCount gs = 1 ∨ [] ∈ gs then .row else .scalar

/-- A trimmed line gets past the rules before its declarator is read: it ends with a semicolon
or mentions `struct`, it is no struct header, its initializer is `value`, and its declaration
part is the type word `t`, the declarator `w` and maybe more words, none of them a type word. -/
def ReachesDeclarator (line t w : List CodePoint) (value : Option (List CodePoint)) : Prop :=
  isUnterminated line = false ∧ structHeader? line = none ∧ (splitDeclaration line).2 = value ∧
    ∃ more, words (splitDeclaration line).1 = t :: w :: more ∧
      (w :: more).any (typeWords.map codePoints).contains = false

theorem Statement.read_of_reachesDeclarator {line t w : List CodePoint}
    {value : Option (List CodePoint)} (h : ReachesDeclarator line t w value) :
    Statement.read line = (fun d => .declaration t d value) <$> Declarator.read w := by
  obtain ⟨hterm, hhead, hvalue, more, hwords, htypes⟩ := h
  unfold Statement.read
  rw [hterm, hhead, ← hvalue]
  simp only [Bool.false_eq_true, if_false, hwords, htypes]

theorem ne_of_test {f : CodePoint → Bool} {c d : CodePoint} (hc : f c = true) (hd : f d = false) :
    c ≠ d :=
  ne_of_apply_ne f (by simp [hc, hd])

theorem ne_brackets_of_isDecimal {c : CodePoint} (h : isDecimal c = true) :
    c ≠ .char '[' ∧ c ≠ .char ']' :=
  ⟨ne_of_test h (by decide), ne_of_test h (by decide)⟩

/-! ## Size groups -/

theorem sizeGroupsFrom_none_cons {c : CodePoint} (hc : c ≠ .char '[') (rest : List CodePoint) :
    sizeGroupsFrom none (c :: rest) = sizeGroupsFrom none rest := by
  rw [sizeGroupsFrom.eq_def]
  split <;> simp_all

theorem sizeGroupsFrom_some_cons {c : CodePoint} (hc : isDecimal c = true)
    (ds rest : List CodePoint) :
    sizeGroupsFrom (some ds) (c :: rest) = sizeGroupsFrom (some (c :: ds)) rest := by
  obtain ⟨hopen, hclose⟩ := ne_brackets_of_isDecimal hc
  rw [sizeGroupsFrom.eq_def]
  split <;> simp_all

theorem sizeGroupsFrom_none_append {x : List CodePoint} (hx : ∀ c ∈ x, c ≠ .char '[')
    (rest : List CodePoint) : sizeGroupsFrom none (x ++ rest) = sizeGroupsFrom none rest := by
  induction x with
  | nil => rfl
  | cons c cs ih =>
    rw [List.cons_append, sizeGroupsFrom_none_cons (hx c List.mem_cons_self),
      ih fun y hy => hx y (List.mem_cons_of_mem c hy)]

theorem sizeGroupsFrom_some_append {g : List CodePoint} (hg : ∀ c ∈ g, isDecimal c = true)
    (ds rest : List CodePoint) :
    sizeGroupsFrom (some ds) (g ++ rest) = sizeGroupsFrom (some (g.reverse ++ ds)) rest := by
  induction g generalizing ds with
  | nil => rfl
  | cons c cs ih =>
    rw [List.cons_append, sizeGroupsFrom_some_cons (hg c List.mem_cons_self),
      ih (fun y hy => hg y (List.mem_cons_of_mem c hy)), List.reverse_cons, List.append_assoc,
      List.singleton_append]

theorem sizeGroupsFrom_group {g : List CodePoint} (hg : ∀ c ∈ g, isDecimal c = true)
    (rest : List CodePoint) :
    sizeGroupsFrom none (.char '[' :: (g ++ .char ']' :: rest)) = g :: sizeGroupsFrom none rest := by
  rw [sizeGroupsFrom, sizeGroupsFrom_some_append hg, List.append_nil, sizeGroupsFrom,
    List.reverse_reverse]

theorem flatMap_group_cons (g : List CodePoint) (gs : List (List CodePoint)) :
    ((g :: gs).flatMap fun g => .char '[' :: (g ++ [.char ']'])) =
      .char '[' :: (g ++ .char ']' :: gs.flatMap fun g => .char '[' :: (g ++ [.char ']'])) := by
  simp

theorem sizeGroups_bracketed {x : List CodePoint} {gs : List (List CodePoint)}
    (hx : ∀ c ∈ x, c ≠ .char '[') (hg : ∀ g ∈ gs, ∀ c ∈ g, isDecimal c = true) :
    sizeGroups (bracketed x gs) = gs := by
  rw [sizeGroups, bracketed, sizeGroupsFrom_none_append hx]
  induction gs with
  | nil => rfl
  | cons g gs ih =>
    rw [flatMap_group_cons, sizeGroupsFrom_group (hg g List.mem_cons_self),
      ih fun g' hg' => hg g' (List.mem_cons_of_mem g hg')]

theorem readSizes_of_length_le {gs : List (List CodePoint)}
    (hlen : ∀ g ∈ gs, g.length ≤ maxSizeDigits) :
    readSizes gs = .ok ((gs.filter (!·.isEmpty)).map decimalNumeral) := by
  induction gs with
  | nil => rfl
  | cons g gs ih =>
    have hrest := ih fun g' hg' => hlen g' (List.mem_cons_of_mem g hg')
    have hg : ¬ maxSizeDigits < g.length := Nat.not_lt.mpr (hlen g List.mem_cons_self)
    by_cases he : g.isEmpty = true
    · simp [readSizes, he, hrest]
    · rw [readSizes, if_neg he, if_neg hg, hrest, List.filter_cons_of_pos (by simpa using he)]
      rfl

/-! ## The empty pair and the name -/

theorem emptyPair_eq : codePoints "[]" = [.char '[', .char ']'] := rfl

theorem hasInfix_emptyPair_append {x : List CodePoint} (hx : ∀ c ∈ x, c ≠ .char '[')
    (rest : List CodePoint) :
    hasInfix (codePoints "[]") (x ++ rest) = hasInfix (codePoints "[]") rest := by
  induction x with
  | nil => rfl
  | cons c cs ih =>
    have hc : (CodePoint.char '[' == c) = false := beq_eq_false_iff_ne.mpr (hx c List.mem_cons_self).symm
    rw [List.cons_append, hasInfix, ih fun y hy => hx y (List.mem_cons_of_mem c hy), emptyPair_eq]
    simp [List.isPrefixOf, hc]

theorem hasInfix_emptyPair_group {g : List CodePoint} (hg : ∀ c ∈ g, isDecimal c = true)
    (rest : List CodePoint) :
    hasInfix (codePoints "[]") (.char '[' :: (g ++ .char ']' :: rest)) =
      (g.isEmpty || hasInfix (codePoints "[]") rest) := by
  cases g with
  | nil => simp [hasInfix, emptyPair_eq, List.isPrefixOf]
  | cons c cs =>
    have hclose : (CodePoint.char ']' == c) = false :=
      beq_eq_false_iff_ne.mpr (ne_brackets_of_isDecimal (hg c List.mem_cons_self)).2.symm
    have hopen : ∀ y ∈ c :: cs, y ≠ .char '[' := fun y hy => (ne_brackets_of_isDecimal (hg y hy)).1
    rw [hasInfix, ← List.cons_append, hasInfix_emptyPair_append hopen, emptyPair_eq]
    simp [hasInfix, List.isPrefixOf, hclose]

theorem hasInfix_emptyPair_bracketed {x : List CodePoint} {gs : List (List CodePoint)}
    (hx : ∀ c ∈ x, c ≠ .char '[') (hg : ∀ g ∈ gs, ∀ c ∈ g, isDecimal c = true) :
    hasInfix (codePoints "[]") (bracketed x gs) = gs.any List.isEmpty := by
  rw [bracketed, hasInfix_emptyPair_append hx]
  induction gs with
  | nil => rfl
  | cons g gs ih =>
    rw [flatMap_group_cons, hasInfix_emptyPair_group (hg g List.mem_cons_self),
      ih fun g' hg' => hg g' (List.mem_cons_of_mem g hg'), List.any_cons]

theorem beforeFirst_bracketed {x : List CodePoint} (gs : List (List CodePoint))
    (hx : ∀ c ∈ x, c ≠ .char '[') : beforeFirst (.char '[') (bracketed x gs) = x := by
  have hrun : ∀ c ∈ x, (c != .char '[') = true := fun c hc => by simp [hx c hc]
  rw [beforeFirst, bracketed, List.takeWhile_append_of_pos hrun]
  cases gs with
  | nil => simp
  | cons g gs => rw [flatMap_group_cons]; simp

/-! ## Reading a bracketed declarator -/

/-- A bracketed declarator whose sizes are short enough reads as the sizes of its non-empty
groups, with an empty pair exactly when a group is empty. -/
theorem Declarator.read_bracketed {x : List CodePoint} {gs : List (List CodePoint)}
    (hx : ∀ c ∈ x, c ≠ .char '[') (hg : ∀ g ∈ gs, ∀ c ∈ g, isDecimal c = true)
    (hlen : ∀ g ∈ gs, g.length ≤ maxSizeDigits) :
    Declarator.read (bracketed x gs) =
      .ok ⟨bracketed x gs, (gs.filter (!·.isEmpty)).map decimalNumeral, gs.any List.isEmpty⟩ := by
  rw [Declarator.read, sizeGroups_bracketed hx hg, readSizes_of_length_le hlen,
    hasInfix_emptyPair_bracketed hx hg]
  rfl

theorem any_isEmpty_iff {gs : List (List CodePoint)} : gs.any List.isEmpty = true ↔ [] ∈ gs := by
  simp [List.any_eq_true]

theorem Declarator.shape_bracketed (w : List CodePoint) (gs : List (List CodePoint)) :
    Declarator.shape ⟨w, (gs.filter (!·.isEmpty)).map decimalNumeral, gs.any List.isEmpty⟩ =
      groupShape gs := by
  have hcount : ((gs.filter (!·.isEmpty)).map decimalNumeral).length = sizeCount gs := by
    simp [sizeCount]
  simp only [Declarator.shape, Declarator.isGrid, Declarator.isRow, hcount, groupShape,
    ← any_isEmpty_iff, beq_iff_eq, Bool.or_eq_true]

theorem Declarator.name_bracketed {x : List CodePoint} (gs : List (List CodePoint))
    (hx : ∀ c ∈ x, c ≠ .char '[') :
    Declarator.name ⟨bracketed x gs, (gs.filter (!·.isEmpty)).map decimalNumeral,
      gs.any List.isEmpty⟩ = if groupShape gs = .scalar then bracketed x gs else x := by
  rw [Declarator.name]
  split
  · rename_i harray
    have hns : groupShape gs ≠ .scalar := by
      rw [← Declarator.shape_bracketed (bracketed x gs), ne_eq, Declarator.shape_eq_scalar_iff,
        harray]
      decide
    rw [if_neg hns, beforeFirst_bracketed gs hx]
  · rename_i harray
    have hs : groupShape gs = .scalar := by
      rw [← Declarator.shape_bracketed (bracketed x gs), Declarator.shape_eq_scalar_iff]
      simpa using harray
    rw [if_pos hs]

/-! ## What a line does with its declarator -/

theorem shapeOf?_record_declaration (s : Scope) (t : List CodePoint) (d : Declarator)
    (value : Option (List CodePoint)) :
    (s.record (.declaration t d value)).shapeOf? d.name = some ((s.shapeOf? d.name).getD d.shape) := by
  rw [Scope.shapeOf?_record]
  cases s.shapeOf? d.name <;> simp [Statement.declares?]

theorem shapeOf?_after_declaration {s after : Scope} {raw t : List CodePoint} {d : Declarator}
    {value : Option (List CodePoint)}
    (hread : Statement.read (trim raw) = .ok (.declaration t d value))
    (hnext : (checkLine .standard s raw).next = .ok after) :
    after.shapeOf? d.name = some ((s.shapeOf? d.name).getD d.shape) := by
  rw [checkLine_of_read hread, declareAndCheck_next] at hnext
  obtain ⟨_, -, rfl⟩ := exists_of_map_eq_ok hnext
  exact shapeOf?_record_declaration s t d value

theorem brace_tests_of_integerDiagnostics {ty v : List CodePoint} {d : Declarator}
    {ds : List Diagnostic} (h : integerDiagnostics ty d (some v) = .ok ds) :
    (.gridInitializer ty ∈ ds ↔
        d.shape = .grid ∧ enclosedBy (codePoints "\x7b\x7b") (codePoints "\x7d\x7d") v = false) ∧
      (.rowInitializer ty ∈ ds ↔ d.shape = .row ∧ enclosedBy [.char '{'] [.char '}'] v = false) ∧
      (.valueMismatch ty ∈ ds ↔ d.shape = .scalar ∧ (v.isEmpty || isDigitText v) = false) := by
  cases hs : d.shape with
  | grid =>
    simp only [integerDiagnostics, hs, Except.ok.injEq] at h
    subst h
    by_cases he : enclosedBy (codePoints "\x7b\x7b") (codePoints "\x7d\x7d") v = true <;> simp [he]
  | row =>
    simp only [integerDiagnostics, hs] at h
    by_cases he : enclosedBy [.char '{'] [.char '}'] v = true
    · rw [if_pos he] at h
      cases h
      cases hsizes : d.sizes with
      | nil => simp [he]
      | cons n _ => simp [he]
    · rw [if_neg he] at h
      cases h
      simp [he]
  | scalar =>
    simp only [integerDiagnostics, hs, Except.ok.injEq] at h
    subst h
    by_cases he : (v.isEmpty || isDigitText v) = true <;> simp [he]

theorem brace_not_mem_redeclarationNotes (s : Scope) (d : Declarator) (ty : List CodePoint) :
    .gridInitializer ty ∉ redeclarationNotes s d ∧ .rowInitializer ty ∉ redeclarationNotes s d ∧
      .valueMismatch ty ∉ redeclarationNotes s d := by
  unfold redeclarationNotes
  split
  · split <;> simp
  · simp

theorem brace_tests_checkLine {s : Scope} {raw t v : List CodePoint} {d : Declarator}
    (hread : Statement.read (trim raw) = .ok (.declaration t d (some v)))
    (hint : testedType t d ∈ integerTypes.map codePoints) :
    (.gridInitializer (testedType t d) ∈ (checkLine .standard s raw).found ↔
        d.shape = .grid ∧ enclosedBy (codePoints "\x7b\x7b") (codePoints "\x7d\x7d") v = false) ∧
      (.rowInitializer (testedType t d) ∈ (checkLine .standard s raw).found ↔
        d.shape = .row ∧ enclosedBy [.char '{'] [.char '}'] v = false) ∧
      (.valueMismatch (testedType t d) ∈ (checkLine .standard s raw).found ↔
        d.shape = .scalar ∧ (v.isEmpty || isDigitText v) = false) := by
  have hdiag : initializerDiagnostics s (testedType t d) d (some v) =
      integerDiagnostics (testedType t d) d (some v) := by
    rw [initializerDiagnostics, if_pos (List.contains_iff_mem.mpr hint)]
  cases hd : integerDiagnostics (testedType t d) d (some v) with
  | error f =>
    obtain ⟨-, hnone, -⟩ := integerDiagnostics_eq_error_iff.mp hd
    cases hnone
  | ok ds =>
    obtain ⟨ngrid, nrow, nscalar⟩ := brace_not_mem_redeclarationNotes s d (testedType t d)
    rw [checkLine_found_of_declaration hread, hdiag, hd]
    simp only [Except.toOption, Option.getD_some, List.mem_append, ngrid, nrow, nscalar,
      false_or]
    exact brace_tests_of_integerDiagnostics hd

/-- A line that gets past the rules before its declarator is read, with a declarator `x[g₁]…[gᵣ]`
whose groups are short runs of decimal digits, declares `x` (or, as a scalar, the whole
declarator) with the shape its groups give; when it is finished that name is bound to its first
shape or else to this one, and for an integer type the shape alone picks the brace test of its
initializer. -/
theorem checkLine_bracketed_declarator {s : Scope} {raw t x : List CodePoint}
    {gs : List (List CodePoint)} {value : Option (List CodePoint)}
    (hreach : ReachesDeclarator (trim raw) t (bracketed x gs) value)
    (hx : ∀ c ∈ x, c ≠ .char '[') (hg : ∀ g ∈ gs, ∀ c ∈ g, isDecimal c = true)
    (hlen : ∀ g ∈ gs, g.length ≤ maxSizeDigits) :
    ∃ d, Statement.read (trim raw) = .ok (.declaration t d value) ∧
      d.name = (if groupShape gs = .scalar then bracketed x gs else x) ∧ d.shape = groupShape gs ∧
      (∀ after, (checkLine .standard s raw).next = .ok after →
        after.shapeOf? d.name = some ((s.shapeOf? d.name).getD d.shape)) ∧
      ∀ v, value = some v → testedType t d ∈ integerTypes.map codePoints →
        (.gridInitializer (testedType t d) ∈ (checkLine .standard s raw).found ↔
          d.shape = .grid ∧ enclosedBy (codePoints "\x7b\x7b") (codePoints "\x7d\x7d") v = false) ∧
        (.rowInitializer (testedType t d) ∈ (checkLine .standard s raw).found ↔
          d.shape = .row ∧ enclosedBy [.char '{'] [.char '}'] v = false) ∧
        (.valueMismatch (testedType t d) ∈ (checkLine .standard s raw).found ↔
          d.shape = .scalar ∧ (v.isEmpty || isDigitText v) = false) := by
  have hread : Statement.read (trim raw) = .ok (.declaration t
      ⟨bracketed x gs, (gs.filter (!·.isEmpty)).map decimalNumeral, gs.any List.isEmpty⟩ value) := by
    rw [Statement.read_of_reachesDeclarator hreach, Declarator.read_bracketed hx hg hlen]
    rfl
  refine ⟨_, hread, Declarator.name_bracketed gs hx, Declarator.shape_bracketed _ gs,
    fun after hnext => shapeOf?_after_declaration hread hnext, fun v hv hint => ?_⟩
  subst hv
  exact brace_tests_checkLine hread hint

/-- A declarator with an empty first group and a size, `m[][3]`, is a row, so its initializer
gets the row test and the count of its one size; and one with three sizes, `t[1][2][3]`, is a
scalar named by the whole declarator. -/
theorem checkLines_implicit_first_size_is_row :
    (Declarator.read (codePoints "m[][3]")).toOption.map Declarator.shape = some .row ∧
    (Declarator.read (codePoints "t[1][2][3]")).toOption.map
        (fun d => (d.name, d.shape)) = some (codePoints "t[1][2][3]", .scalar) ∧
    (checkLines [codePoints "int m[][3] = \x7b\x7b1\x7d\x7d;"]).lines =
      [codePoints "Line 1: Expected 3 elements, but found 1."] := by
  decide +kernel

theorem checkLine_bracketed_declarator_grid :
    ReachesDeclarator (trim (codePoints "int m[2][3] = \x7b\x7b1\x7d\x7d;")) (codePoints "int")
      (bracketed (codePoints "m") [codePoints "2", codePoints "3"])
      (some (codePoints "\x7b\x7b1\x7d\x7d")) ∧
    ∃ d, Statement.read (trim (codePoints "int m[2][3] = \x7b\x7b1\x7d\x7d;")) =
        .ok (.declaration (codePoints "int") d (some (codePoints "\x7b\x7b1\x7d\x7d"))) ∧
      d.name = codePoints "m" ∧ d.shape = .grid := by
  have hreach : ReachesDeclarator (trim (codePoints "int m[2][3] = \x7b\x7b1\x7d\x7d;"))
      (codePoints "int") (bracketed (codePoints "m") [codePoints "2", codePoints "3"])
      (some (codePoints "\x7b\x7b1\x7d\x7d")) := by
    refine ⟨?_, ?_, ?_, [], ?_, ?_⟩ <;> decide +kernel
  obtain ⟨d, hread, hname, hshape, -⟩ := @checkLine_bracketed_declarator .empty
    (codePoints "int m[2][3] = \x7b\x7b1\x7d\x7d;") _ _ _ _ hreach (by decide) (by decide)
    (by decide)
  refine ⟨hreach, d, hread, ?_, ?_⟩
  · rw [hname]; decide
  · rw [hshape]; decide

end CCheck.Declaration
