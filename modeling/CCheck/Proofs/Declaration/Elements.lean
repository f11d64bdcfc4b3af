import CCheck.Proofs.Declaration.Brackets
import CCheck.Proofs.Text.Trim
import CCheck.Proofs.Token.Step
/-!
# Element counts of integer rows

A row of an integer type declared with one size, `T x[n] = {e₁,…,eₘ};`, has its initializer split
into elements: braces and spaces are trimmed from both ends of the braced text, which is cut at
its commas, and each piece is trimmed of white space. When every `eₖ` is a run of ASCII digits
with white space around it, the pieces are those runs, one for each element (`elements_braced`),
except for the empty list `{}`: its text trims to nothing, and nothing cut at commas is one
empty piece. So the line reports exactly this (`checkLine_row_elements`): a datatype mismatch
only for `{}`, and a count other than the size `N` written in brackets as "expected `N`
elements, but found `max m 1`", besides any note that the name was declared before.
-/

namespace CCheck.Declaration

open Unicode Text

def isAsciiDigit (c : CodePoint) : Bool := 0x30 ≤ c.toNat && c.toNat ≤ 0x39

/-- The value of a text of ASCII digits, most significant first. -/
def asciiValue (ds : List CodePoint) : Nat := ds.foldl (fun acc c => acc * 10 + (c.toNat - 0x30)) 0

def braced (es : List (List CodePoint)) : List CodePoint :=
  .char '{' :: [.char ','].intercalate es ++ [.char '}']

/-- `e` is a non-empty run of ASCII digits with white space around it. -/
def SpacedDigits (e : List CodePoint) : Prop :=
  ∃ a d b, e = a ++ d ++ b ∧ (∀ c ∈ a ++ b, isSpace c = true) ∧ d ≠ [] ∧
    ∀ c ∈ d, isAsciiDigit c = true

def rowLine (T x n : List CodePoint) (es : List (List CodePoint)) : List CodePoint :=
  T ++ .char ' ' :: bracketed x [n] ++ codePoints " = " ++ braced es ++ [.char ';']

/-! ## ASCII digits -/

section Digits

variable {c : CodePoint}

theorem isAsciiDigit_iff : isAsciiDigit c = true ↔ 0x30 ≤ c.toNat ∧ c.toNat ≤ 0x39 := by
  simp only [isAsciiDigit, Bool.and_eq_true, decide_eq_true_eq]

theorem Ranges.contains_of_isAsciiDigit {rs : Ranges} (hasc : rs.ascending = true)
    (hmem : (0x30, 0x39) ∈ rs) (h : isAsciiDigit c = true) : rs.contains c.toNat = true :=
  (Ranges.contains_iff hasc _).mpr ⟨(0x30, 0x39), hmem, isAsciiDigit_iff.mp h⟩

theorem isDecimal_of_isAsciiDigit (h : isAsciiDigit c = true) : isDecimal c = true :=
  Ranges.contains_of_isAsciiDigit decimalRanges_ascending (by decide) h

theorem isDigit_of_isAsciiDigit (h : isAsciiDigit c = true) : isDigit c = true :=
  Ranges.contains_of_isAsciiDigit digitRanges_ascending (by decide) h

theorem decimalValue?_of_isAsciiDigit (h : isAsciiDigit c = true) :
    decimalValue? c = some (c.toNat - 0x30) := by
  rw [isAsciiDigit_iff] at h
  -- the ASCII digits are the first run of ten in the table of decimal digits
  have hhead : decimalRanges = (0x30, 0x39) :: decimalRanges.tail := rfl
  rw [decimalValue?, hhead, decimalValueIn, if_neg (by omega), if_pos h.2, Nat.mod_eq_of_lt (by omega)]

theorem decimalNumeral_eq_asciiValue {ds : List CodePoint} (h : ∀ c ∈ ds, isAsciiDigit c = true) :
    decimalNumeral ds = asciiValue ds := by
  -- both read the digits from the left, from any value read so far
  have hfold : ∀ acc, ds.foldl (fun acc c => acc * 10 + (decimalValue? c).getD 0) acc =
      ds.foldl (fun acc c => acc * 10 + (c.toNat - 0x30)) acc := by
    induction ds with
    | nil => intro acc; rfl
    | cons c cs ih =>
      intro acc
      rw [List.foldl_cons, List.foldl_cons, decimalValue?_of_isAsciiDigit (h c List.mem_cons_self),
        Option.getD_some, ih fun x hx => h x (List.mem_cons_of_mem c hx)]
  exact hfold 0

end Digits

/-! ## Elements of a braced list -/

theorem mem_intercalate_sep {sep c : CodePoint} {es : List (List CodePoint)}
    (h : c ∈ [sep].intercalate es) : c = sep ∨ ∃ e ∈ es, c ∈ e := by
  induction es with
  | nil => simp [List.intercalate_nil] at h
  | cons e es ih =>
    cases es with
    | nil => exact .inr ⟨e, List.mem_cons_self, by simpa [List.intercalate_singleton] using h⟩
    | cons e' es' =>
      rw [List.intercalate_cons_cons] at h
      rcases List.mem_append.mp h with h | h
      · rcases List.mem_append.mp h with h | h
        · exact .inr ⟨e, List.mem_cons_self, h⟩
        · exact .inl (List.mem_singleton.mp h)
      · rcases ih h with h | ⟨e'', he'', hc⟩
        · exact .inl h
        · exact .inr ⟨e'', List.mem_cons_of_mem e he'', hc⟩

/-- The elements of a braced list whose items hold no braces or commas are its items trimmed;
the empty list has one empty element. -/
theorem elements_braced {es : List (List CodePoint)}
    (hes : ∀ e ∈ es, ∀ c ∈ e, c ≠ .char '{' ∧ c ≠ .char '}' ∧ c ≠ .char ',') :
    elements (braced es) = if es = [] then [[]] else es.map trim := by
  let inner := [CodePoint.char ','].intercalate es
  have hspaces : ∀ c ∈ inner, (c == .char '{' || c == .char '}' || c == .char ' ') = true →
      isSpace c = true ∧ c ≠ .char ',' := by
    intro c hc hp
    rcases mem_intercalate_sep hc with rfl | ⟨e, he, hce⟩
    · cases hp
    · obtain ⟨hl, hr, hcomma⟩ := hes e he c hce
      simp only [Bool.or_eq_true, beq_iff_eq, hl, hr, false_or] at hp
      subst hp
      exact ⟨rfl, hcomma⟩
  obtain ⟨s, hsplit, hs⟩ := exists_eq_takeWhile_trimBy
    (fun c => c == .char '{' || c == .char '}' || c == .char ' ') inner
  have hmem_s : ∀ c ∈ s, c ∈ inner := fun c hc => by
    rw [hsplit]
    exact List.mem_append_right _ hc
  have htrim : (splitAt (.char ',') (trimBy (fun c => c == .char '{' || c == .char '}' ||
      c == .char ' ') inner)).map trim = (splitAt (.char ',') inner).map trim := by
    have h := map_trim_splitAt_blank_ends
      (fun c hc => hspaces c (List.takeWhile_subset _ hc)
        (List.all_eq_true.mp List.all_takeWhile c hc))
      (fun c hc => hspaces c (hmem_s c hc) (hs c hc))
      (trimBy (fun c => c == .char '{' || c == .char '}' || c == .char ' ') inner)
    rw [← hsplit] at h
    exact h.symm
  rw [elements, braced, List.cons_append, ← List.singleton_append,
    trimBy_prepend (by simp), trimBy_append (by simp)]
  show (splitAt (.char ',') (trimBy _ inner)).map trim = _
  rw [htrim]
  split
  · rename_i hnil
    subst hnil
    rfl
  · rename_i hne
    rw [splitAt, ← List.splitOn_eq_splitOnP,
      List.splitOn_intercalate _ (fun e he hc => (hes e he _ hc).2.2 rfl) hne]

theorem trim_of_spacedDigits {e : List CodePoint} (h : SpacedDigits e) :
    ∃ d, trim e = d ∧ d ≠ [] ∧ ∀ c ∈ d, isAsciiDigit c = true := by
  obtain ⟨a, d, b, rfl, hab, hne, hd⟩ := h
  have hlast : ∀ c ∈ d.getLast?, isSpace c = false := fun c hc =>
    isSpace_eq_false_of_asciiDigit (isAsciiDigit_iff.mp (hd c (List.mem_of_getLast? hc)))
  have hhead : ∀ c ∈ d.head?, isSpace c = false := fun c hc =>
    isSpace_eq_false_of_asciiDigit (isAsciiDigit_iff.mp (hd c (List.mem_of_head? hc)))
  refine ⟨d, ?_, hne, hd⟩
  rw [trim_append_blank (fun c hc => hab c (List.mem_append_right a hc)),
    trim_blank_append (fun c hc => hab c (List.mem_append_left b hc)), trim,
    trimBy_eq_self hhead hlast]

theorem item_of_spacedDigits {e : List CodePoint} (h : SpacedDigits e) :
    ∀ c ∈ e, c ≠ .char '{' ∧ c ≠ .char '}' ∧ c ≠ .char ',' := by
  obtain ⟨a, d, b, rfl, hab, -, hd⟩ := h
  intro c hc
  rcases List.mem_append.mp hc with hc | hc
  · rcases List.mem_append.mp hc with hc | hc
    · have hsp := hab c (List.mem_append_left b hc)
      refine ⟨?_, ?_, ?_⟩ <;> (rintro rfl; cases hsp)
    · have hdig := hd c hc
      exact ⟨ne_of_test hdig (by decide), ne_of_test hdig (by decide),
        ne_of_test hdig (by decide)⟩
  · have hsp := hab c (List.mem_append_right a hc)
    refine ⟨?_, ?_, ?_⟩ <;> (rintro rfl; cases hsp)

theorem elements_braced_spacedDigits {es : List (List CodePoint)} (hes : ∀ e ∈ es, SpacedDigits e) :
    (elements (braced es)).all isDigitText = !es.isEmpty ∧
      (elements (braced es)).length = max es.length 1 := by
  rw [elements_braced fun e he => item_of_spacedDigits (hes e he)]
  split
  · rename_i hnil
    subst hnil
    decide
  · rename_i hne
    have hlen : 1 ≤ es.length := List.length_pos_iff.mpr hne
    refine ⟨?_, by simp; omega⟩
    rw [List.isEmpty_eq_false_iff.mpr hne, Bool.not_false, List.all_map, List.all_eq_true]
    intro e he
    obtain ⟨d, htrim, hne', hd⟩ := trim_of_spacedDigits (hes e he)
    simp only [Function.comp_apply, htrim, isDigitText, Bool.and_eq_true, Bool.not_eq_true',
      List.isEmpty_eq_false_iff.mpr hne', List.all_eq_true, true_and]
    exact fun c hc => isDigit_of_isAsciiDigit (hd c hc)

/-! ## Reading the line -/

theorem integer_type_word {T : List CodePoint} (hT : T ∈ integerTypes.map codePoints) :
    T ≠ [] ∧ (∀ c ∈ T, isSpace c = false ∧ c ≠ .char '=' ∧ c ≠ .char '[') ∧
      (∀ r, structHeader? (T ++ r) = none) ∧ eraseEmptyBrackets T = T ∧
      ∀ tw ∈ typeWords.map codePoints, .char '[' ∉ tw := by
  have htypes : ∀ tw ∈ typeWords.map codePoints, .char '[' ∉ tw := by decide
  simp only [integerTypes, List.map_cons, List.map_nil, List.mem_cons, List.not_mem_nil,
    or_false] at hT
  rcases hT with rfl | rfl | rfl
  · exact ⟨by decide, by decide, fun r => rfl, by decide, htypes⟩
  · exact ⟨by decide, by decide, fun r => by simp [structHeader?, codePoints], by decide, htypes⟩
  · exact ⟨by decide, by decide, fun r => rfl, by decide, htypes⟩

section Line

variable {T x n : List CodePoint} {es : List (List CodePoint)}

theorem sized_declarator (hx : ∀ c ∈ x, isWordChar c = true)
    (hdigits : ∀ c ∈ n, isAsciiDigit c = true) :
    (∀ c ∈ bracketed x [n], isSpace c = false ∧ c ≠ .char '=') ∧ .char '[' ∈ bracketed x [n] ∧
      (bracketed x [n]).getLast? = some (.char ']') := by
  have hword : ∀ c ∈ x, isSpace c = false ∧ c ≠ .char '=' := fun c hc =>
    ⟨isSpace_eq_false_of_isWordChar (hx c hc), ne_of_test (hx c hc) (by decide)⟩
  have hnum : ∀ c ∈ n, isSpace c = false ∧ c ≠ .char '=' := fun c hc =>
    ⟨isSpace_eq_false_of_asciiDigit (isAsciiDigit_iff.mp (hdigits c hc)), ne_of_test (hdigits c hc) (by decide)⟩
  refine ⟨fun c hc => ?_, by simp [bracketed], by simp [bracketed, List.getLast?_cons,
    List.getLast?_append]⟩
  simp only [bracketed, List.flatMap_cons, List.flatMap_nil, List.append_nil, List.mem_append,
    List.mem_cons, List.not_mem_nil, or_false] at hc
  rcases hc with hc | rfl | hc | rfl
  · exact hword c hc
  · exact ⟨rfl, by decide⟩
  · exact hnum c hc
  · exact ⟨rfl, by decide⟩

theorem rowLine_eq :
    rowLine T x n es =
      (T ++ .char ' ' :: bracketed x [n] ++ [.char ' ']) ++ .char '=' ::
        (.char ' ' :: braced es ++ [.char ';']) := by
  simp [rowLine, codePoints]

theorem braced_ends (es : List (List CodePoint)) :
    (braced es).head? = some (.char '{') ∧ (braced es).getLast? = some (.char '}') := by
  simp [braced, List.getLast?_cons, List.getLast?_append]

theorem getLast?_rowLine : (rowLine T x n es).getLast? = some (.char ';') := by
  rw [rowLine, List.getLast?_append]
  rfl

theorem trim_rowLine (hT : T ∈ integerTypes.map codePoints) :
    trim (rowLine T x n es) = rowLine T x n es := by
  obtain ⟨hne, hchars, -⟩ := integer_type_word hT
  obtain ⟨t, ts, rfl⟩ := List.exists_cons_of_ne_nil hne
  apply trimBy_eq_self
  · intro c hc
    simp only [rowLine, List.cons_append, List.head?_cons, Option.mem_def,
      Option.some.injEq] at hc
    obtain rfl := hc
    exact (hchars _ List.mem_cons_self).1
  · intro c hc
    simp only [rowLine, List.getLast?_append, List.getLast?_singleton, Option.some_or,
      Option.mem_def, Option.some.injEq] at hc
    subst hc
    rfl

theorem reachesDeclarator_rowLine (hT : T ∈ integerTypes.map codePoints)
    (hx : ∀ c ∈ x, isWordChar c = true) (hdigits : ∀ c ∈ n, isAsciiDigit c = true) :
    ReachesDeclarator (trim (rowLine T x n es)) T (bracketed x [n]) (some (braced es)) := by
  obtain ⟨hne, hchars, hhead, -, htypes⟩ := integer_type_word hT
  obtain ⟨hdecl, hopen, hclose⟩ := sized_declarator hx hdigits
  have hcloseSp : isSpace (.char ']') = false := by decide
  have hnoeq : .char '=' ∉ T ++ .char ' ' :: bracketed x [n] ++ [.char ' '] := by
    intro hmem
    rcases List.mem_append.mp hmem with h | h
    · rcases List.mem_append.mp h with h | h
      · exact (hchars _ h).2.1 rfl
      · rcases List.mem_cons.mp h with h | h
        · exact absurd h (by decide)
        · exact (hdecl _ h).2 rfl
    · exact absurd (List.mem_singleton.mp h) (by decide)
  have hsplit : splitDeclaration (rowLine T x n es) =
      (trim (T ++ .char ' ' :: bracketed x [n] ++ [.char ' ']),
        some (trim (trimBy (· == .char ';') (.char ' ' :: braced es ++ [.char ';'])))) := by
    rw [splitDeclaration, rowLine_eq, splitAtFirst_append_cons hnoeq]
  -- the declaration part loses its last space, and the initializer its semicolon and first space
  have hleft : trim (T ++ .char ' ' :: bracketed x [n] ++ [.char ' ']) =
      T ++ .char ' ' :: bracketed x [n] := by
    have hlast : (T ++ .char ' ' :: bracketed x [n]).getLast? = some (.char ']') := by
      simp [List.getLast?_append, List.getLast?_cons, hclose]
    rw [trim_append_blank (by decide), trim]
    obtain ⟨t, ts, rfl⟩ := List.exists_cons_of_ne_nil hne
    apply trimBy_eq_self
    · simpa using (hchars t List.mem_cons_self).1
    · intro c hc
      rw [hlast] at hc
      obtain rfl := Option.some.inj hc
      exact hcloseSp
  have hvalue : trim (trimBy (· == .char ';') (.char ' ' :: braced es ++ [.char ';'])) =
      braced es := by
    obtain ⟨hb1, hb2⟩ := braced_ends es
    have hopenSp : isSpace (.char '{') = false := by decide
    have hcurlySp : isSpace (.char '}') = false := by decide
    rw [trimBy_append (by simp), trimBy_eq_self (by simp) (by simp [List.getLast?_cons, hb2]),
      ← List.singleton_append, trim_blank_append (by decide), trim, trimBy_eq_self]
    · simp [hb1, hopenSp]
    · simp [hb2, hcurlySp]
  have hwords : words (T ++ .char ' ' :: bracketed x [n]) = [T, bracketed x [n]] := by
    rw [← List.singleton_append, words_append_blank_append hne (fun c hc => (hchars c hc).1)
      (by simp) (by decide), words_of_forall_isSpace_eq_false (List.ne_nil_of_mem hopen)
      (fun c hc => (hdecl c hc).1)]
  refine ⟨?_, ?_, ?_, [], ?_, ?_⟩
  · rw [trim_rowLine hT]
    simp [isUnterminated, getLast?_rowLine]
  · rw [trim_rowLine hT, rowLine]
    simp only [List.append_assoc, List.cons_append]
    exact hhead _
  · rw [trim_rowLine hT, hsplit, hvalue]
  · rw [trim_rowLine hT, hsplit, hleft, hwords]
  · -- the declarator holds a bracket, and no type word does
    simp only [List.any_cons, List.any_nil, Bool.or_false]
    exact Bool.eq_false_iff.mpr fun hmem => htypes _ (List.contains_iff_mem.mp hmem) hopen

end Line

/-! ## The diagnostics of the line -/

theorem integerDiagnostics_row {ty v : List CodePoint} {d : Declarator} {N : Nat} {rest : List Nat}
    (hshape : d.shape = .row) (hsizes : d.sizes = N :: rest)
    (henc : enclosedBy [.char '{'] [.char '}'] v = true) :
    integerDiagnostics ty d (some v) =
      .ok ((if (elements v).all isDigitText then [] else [.elementMismatch ty]) ++
        if (elements v).length = N then [] else [.elementCount N (elements v).length]) := by
  simp only [integerDiagnostics, hshape, henc, if_true, hsizes]

/-- A row declaration `T x[n] = {e₁,…,eₘ};` of an integer type, with a short size of ASCII digits
and items that are runs of ASCII digits with white space around them, reports, after any note
that `x` was declared before, a datatype mismatch exactly when the list is empty, and a count
mismatch exactly when `max m 1` differs from the size. -/
theorem checkLine_row_elements {s : Scope} {T x n : List CodePoint} {es : List (List CodePoint)}
    (hT : T ∈ integerTypes.map codePoints) (hx : ∀ c ∈ x, isWordChar c = true) (hn : n ≠ [])
    (hdigits : ∀ c ∈ n, isAsciiDigit c = true) (hlen : n.length ≤ maxSizeDigits)
    (hes : ∀ e ∈ es, SpacedDigits e) :
    (checkLine .standard s (rowLine T x n es)).found =
      redeclarationNotes s ⟨bracketed x [n], [asciiValue n], false⟩ ++
        ((if es = [] then [.elementMismatch T] else []) ++
          if max es.length 1 = asciiValue n then [] else
            [.elementCount (asciiValue n) (max es.length 1)]) := by
  have hx' : ∀ c ∈ x, c ≠ .char '[' := fun c hc => ne_of_test (hx c hc) (by decide)
  have hg : ∀ g ∈ [n], ∀ c ∈ g, isDecimal c = true := by
    simpa using fun c hc => isDecimal_of_isAsciiDigit (hdigits c hc)
  have hd : Declarator.read (bracketed x [n]) = .ok ⟨bracketed x [n], [asciiValue n], false⟩ := by
    rw [Declarator.read_bracketed hx' hg (by simpa using hlen),
      ← decimalNumeral_eq_asciiValue hdigits]
    simp [List.isEmpty_eq_false_iff.mpr hn]
  have hread : Statement.read (trim (rowLine T x n es)) =
      .ok (.declaration T ⟨bracketed x [n], [asciiValue n], false⟩ (some (braced es))) := by
    rw [Statement.read_of_reachesDeclarator (reachesDeclarator_rowLine hT hx hdigits), hd]
    rfl
  obtain ⟨-, -, -, herase, -⟩ := integer_type_word hT
  have htested : testedType T ⟨bracketed x [n], [asciiValue n], false⟩ = T := by
    simp [testedType, Declarator.isArray, Declarator.isRow, herase]
  obtain ⟨hall, hcount⟩ := elements_braced_spacedDigits hes
  have henc : enclosedBy [.char '{'] [.char '}'] (braced es) = true := by
    simp [enclosedBy, braced, List.isPrefixOf, List.isSuffixOf]
  have hshape : Declarator.shape ⟨bracketed x [n], [asciiValue n], false⟩ = .row := by
    simp [Declarator.shape, Declarator.isGrid, Declarator.isRow]
  have hmismatch : (if (!es.isEmpty) = true then [] else [Diagnostic.elementMismatch T]) =
      if es = [] then [.elementMismatch T] else [] := by
    cases es <;> rfl
  rw [checkLine_found_of_declaration hread, htested, initializerDiagnostics,
    if_pos (List.contains_iff_mem.mpr hT), integerDiagnostics_row hshape rfl henc, hall, hcount,
    hmismatch]
  rfl

theorem checkLine_row_elements_two_of_three :
    (codePoints "int" ∈ integerTypes.map codePoints ∧ (∀ c ∈ codePoints "a", isWordChar c = true) ∧
      codePoints "3" ≠ [] ∧ (∀ c ∈ codePoints "3", isAsciiDigit c = true) ∧
      (codePoints "3").length ≤ maxSizeDigits ∧
      ∀ e ∈ [codePoints "1", codePoints " 2 "], SpacedDigits e) ∧
    (checkLine .standard .empty
        (rowLine (codePoints "int") (codePoints "a") (codePoints "3")
          [codePoints "1", codePoints " 2 "])).found =
      [.elementCount 3 2] := by
  have hes : ∀ e ∈ [codePoints "1", codePoints " 2 "], SpacedDigits e := by
    intro e he
    simp only [List.mem_cons, List.not_mem_nil, or_false] at he
    rcases he with rfl | rfl
    · exact ⟨[], codePoints "1", [], by decide, by decide, by decide, by decide⟩
    · exact ⟨codePoints " ", codePoints "2", codePoints " ", by decide, by decide, by decide,
        by decide⟩
  refine ⟨⟨by decide, by decide, by decide, by decide, by decide, hes⟩, ?_⟩
  rw [checkLine_row_elements (by decide) (by decide) (by decide) (by decide) (by decide) hes]
  decide

/-- The empty list `{}` reports a datatype mismatch and one element found. -/
theorem checkLines_empty_row_initializer :
    (checkLines [codePoints "int a[2] = \x7b\x7d;"]).lines =
      [codePoints "Line 1: Datatype mismatch in 'int[]' initialization.",
        codePoints "Line 1: Expected 2 elements, but found 1."] := by
  decide +kernel

end CCheck.Declaration
