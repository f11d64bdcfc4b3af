/-!
# Code point ranges

A character class is given as closed ranges of code points, ascending and apart. Membership
walks the table and stops at the first range that starts above the code point, so on a
well-formed table it agrees with "some range holds the point" (`contains_iff`). A table none of
whose ranges meets an interval holds no point of it, well-formed or not
(`contains_eq_false_of_avoids`); so one check of the table settles a whole block of code points,
such as the surrogates.
-/

namespace CCheck.Unicode

/-- Closed ranges `(lo, hi)` of code points, meant to be ascending and apart. -/
abbrev Ranges := List (Nat × Nat)

namespace Ranges

/-- Whether `n` lies in a range; the walk stops at the first range that starts above `n`. -/
def contains : Ranges → Nat → Bool
  | [], _ => false
  | (lo, hi) :: rs, n => if n < lo then false else if n ≤ hi then true else contains rs n

/-- Each range is non-empty and ends at least two below the start of the next one. -/
def ascending : Ranges → Bool
  | [] => true
  | [r] => r.1 ≤ r.2
  | r :: s :: rs => r.1 ≤ r.2 && r.2 + 1 < s.1 && ascending (s :: rs)

/-- Whether no range meets the closed interval from `lo` to `hi`. -/
def avoids (rs : Ranges) (lo hi : Nat) : Bool := rs.all fun r => r.2 < lo || hi < r.1

theorem ascending_tail {r : Nat × Nat} {rs : Ranges} (h : ascending (r :: rs) = true) :
    ascending rs = true := by
  cases rs with
  | nil => rfl
  | cons s rs => simp only [ascending, Bool.and_eq_true] at h; exact h.2

theorem fst_le_snd_of_ascending {r : Nat × Nat} {rs : Ranges} (h : ascending (r :: rs) = true) :
    r.1 ≤ r.2 := by
  cases rs with
  | nil => simpa [ascending] using h
  | cons s rs => simp only [ascending, Bool.and_eq_true, decide_eq_true_eq] at h; exact h.1.1

theorem lt_of_mem_tail {r : Nat × Nat} {rs : Ranges} (h : ascending (r :: rs) = true) :
    ∀ s ∈ rs, r.2 < s.1 := by
  induction rs generalizing r with
  | nil => simp
  | cons t ts ih =>
    simp only [ascending, Bool.and_eq_true, decide_eq_true_eq] at h
    obtain ⟨⟨_, hrt⟩, ht⟩ := h
    intro s hs
    rcases List.mem_cons.mp hs with rfl | hs
    · omega
    · have := ih ht s hs
      cases ts with
      | nil => simp at hs
      | cons u us =>
        simp only [ascending, Bool.and_eq_true, decide_eq_true_eq] at ht
        omega

/-- On an ascending table the early-stopping walk finds exactly the points some range holds. -/
theorem contains_iff {rs : Ranges} (h : ascending rs = true) (n : Nat) :
    contains rs n = true ↔ ∃ r ∈ rs, r.1 ≤ n ∧ n ≤ r.2 := by
  induction rs with
  | nil => simp [contains]
  | cons r rs ih =>
    obtain ⟨lo, hi⟩ := r
    have hb := lt_of_mem_tail h
    have hlh := fst_le_snd_of_ascending h
    simp only at hlh
    simp only [contains]
    split
    · simp only [Bool.false_eq_true, false_iff, not_exists, not_and, List.mem_cons]
      rintro s (rfl | hs) h1
      · omega
      · have := hb s hs; simp at this; omega
    · split
      · simp only [true_iff]; exact ⟨(lo, hi), by simp, by omega, by omega⟩
      · rw [ih (ascending_tail h)]
        constructor
        · rintro ⟨s, hs, h1, h2⟩; exact ⟨s, List.mem_cons_of_mem _ hs, h1, h2⟩
        · rintro ⟨s, hs, h1, h2⟩
          rcases List.mem_cons.mp hs with rfl | hs
          · simp at h1 h2; omega
          · exact ⟨s, hs, h1, h2⟩

theorem contains_eq_false_of_avoids {rs : Ranges} {lo hi n : Nat} (h : rs.avoids lo hi = true)
    (h1 : lo ≤ n) (h2 : n ≤ hi) : contains rs n = false := by
  induction rs with
  | nil => rfl
  | cons r rs ih =>
    obtain ⟨a, b⟩ := r
    simp only [avoids, List.all_cons, Bool.and_eq_true] at h
    obtain ⟨hr, hrs⟩ := h
    simp only [Bool.or_eq_true, decide_eq_true_eq] at hr
    simp only [contains]
    split
    · rfl
    · split
      · omega
      · exact ih hrs

end Ranges

end CCheck.Unicode
