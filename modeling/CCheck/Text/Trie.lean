import CCheck.Unicode.CodePoint
/-!
# Tables keyed by texts

A table from texts to values, kept as a trie: a node holds the value of the text that ends there,
if any, and a branch for each code point that some longer text continues with. Finding or
entering a text walks one node per code point, so a table of many names answers in time bounded
by the length of the name asked for and the number of branches met on the way, not by the
number of names in it.

Both walks recurse on the text, so they reduce by evaluation alone. What they mean is the law
of a finite map: the value found for a text is the value last entered for it
(`find?_insert_self`), entering one text leaves every other as it was (`find?_insert_of_ne`),
and the empty table holds nothing (`find?_empty`).
-/

namespace CCheck.Text

open Unicode

/-- A table from texts to values of type `α`: the value of the empty text, and the subtable of
the texts that go on with each code point. -/
inductive Trie (α : Type) where
  | node (here : Option α) (branches : List (CodePoint × Trie α))

namespace Trie

variable {α : Type}

def empty : Trie α := .node none []

def here : Trie α → Option α
  | .node h _ => h

def branches : Trie α → List (CodePoint × Trie α)
  | .node _ bs => bs

def find? (t : Trie α) : List CodePoint → Option α
  | [] => t.here
  | c :: cs => (t.branches.lookup c).bind fun u => u.find? cs

def contains (t : Trie α) (key : List CodePoint) : Bool := (t.find? key).isSome

/-- The branches with the subtable at `c` replaced by `f` of it, or, when there is none, with a
new branch `f empty` after the others. -/
def updateBranch (c : CodePoint) (f : Trie α → Trie α) :
    List (CodePoint × Trie α) → List (CodePoint × Trie α)
  | [] => [(c, f empty)]
  | (d, t) :: bs => if d = c then (d, f t) :: bs else (d, t) :: updateBranch c f bs

def insert (t : Trie α) : List CodePoint → α → Trie α
  | [], v => .node (some v) t.branches
  | c :: cs, v => .node t.here (updateBranch c (fun u => u.insert cs v) t.branches)

theorem lookup_updateBranch (c d : CodePoint) (f : Trie α → Trie α)
    (bs : List (CodePoint × Trie α)) :
    (updateBranch c f bs).lookup d =
      if d = c then some (f ((bs.lookup c).getD empty)) else bs.lookup d := by
  induction bs with
  | nil =>
    by_cases h : d = c
    · subst h; simp [updateBranch]
    · have hb : (d == c) = false := beq_eq_false_iff_ne.mpr h
      simp [updateBranch, List.lookup_cons, hb, h]
  | cons b bs ih =>
    obtain ⟨e, t⟩ := b
    by_cases hec : e = c
    · subst hec
      by_cases hd : d = e
      · subst hd; simp [updateBranch]
      · have hb : (d == e) = false := beq_eq_false_iff_ne.mpr hd
        simp [updateBranch, List.lookup_cons, hb, hd]
    · simp only [updateBranch, hec, if_false, List.lookup_cons]
      rw [ih]
      by_cases hd : d = c
      · subst hd
        have hb : (d == e) = false := beq_eq_false_iff_ne.mpr (fun h => hec h.symm)
        simp [hb]
      · simp [hd]

@[simp] theorem find?_empty (key : List CodePoint) : (empty : Trie α).find? key = none := by
  cases key <;> rfl

theorem find?_getD_empty (key : List CodePoint) (o : Option (Trie α)) :
    (o.getD empty).find? key = o.bind fun u => u.find? key := by
  cases o with
  | none => exact find?_empty key
  | some t => rfl

theorem find?_insert (t : Trie α) (key other : List CodePoint) (v : α) :
    (t.insert key v).find? other = if other = key then some v else t.find? other := by
  induction key generalizing other t with
  | nil =>
    cases other with
    | nil => rfl
    | cons c cs => simp [insert, find?, branches]
  | cons c cs ih =>
    cases other with
    | nil => simp [insert, find?, here]
    | cons d ds =>
      simp only [insert, find?, branches, lookup_updateBranch]
      by_cases h : d = c
      · subst h
        simp only [if_true, Option.bind_some, ih, List.cons.injEq, true_and, find?_getD_empty]
      · simp [h]

@[simp] theorem find?_insert_self (t : Trie α) (key : List CodePoint) (v : α) :
    (t.insert key v).find? key = some v := by
  rw [find?_insert, if_pos rfl]

theorem find?_insert_of_ne (t : Trie α) {key other : List CodePoint} (v : α)
    (h : other ≠ key) : (t.insert key v).find? other = t.find? other := by
  rw [find?_insert, if_neg h]

end Trie

end CCheck.Text
