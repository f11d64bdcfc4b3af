import CCheck.Fault
/-!
# Workload counts

A workload takes one count. A count repeats a sequence or bounds a range of steps. A repeat
count must be a whole number that fits a machine index, a signed 64-bit word; a range bound
may be any whole number. A negative count repeats nothing and bounds an empty range. A count of
another kind is refused, and how it is refused depends on its use.

A repeated sequence must also fit the machine. A text longer than the largest index cannot exist
at all (`repeatTooLong`); a text or list that fits the index but needs more memory than the
machine has is refused for want of memory (`outOfMemory`). A text takes one byte a code point, as
the sample texts are plain ASCII, and a list takes one machine word, eight bytes, an item. The
repeated sequence is only built once both tests pass.
-/

namespace CCheck.Workload

open Unicode

/-- A count as given: a whole number, or a value of another kind, named. -/
inductive Count where
  | whole (n : Int)
  | other (kind : String)
  deriving DecidableEq, Repr

/-- Whether `n` fits a signed 64-bit machine index, from `-2 ^ 63` to `2 ^ 63 - 1`. -/
def fitsIndex (n : Int) : Bool := -9223372036854775808 ≤ n && n ≤ 9223372036854775807

def indexLimit : Nat := 9223372036854775807

/-- The most bytes one block of memory may take: the memory of the machine, 32 GiB. -/
def memoryLimit : Nat := 34359738368

/-- `s` repeated `n` times, refused when it would be longer than the largest index or larger
than the memory limit. -/
def repeatText (s : List CodePoint) (n : Nat) : Except Fault (List CodePoint) :=
  let size := s.length * n
  if indexLimit < size then .error .repeatTooLong
  else if memoryLimit < size then .error .outOfMemory
  else .ok (List.replicate n s).flatten

/-- `xs` repeated `n` times, refused when its items would take more than the memory limit. -/
def repeatList {α : Type} (xs : List α) (n : Nat) : Except Fault (List α) :=
  if memoryLimit < 8 * (xs.length * n) then .error .outOfMemory
  else .ok (List.replicate n xs).flatten

theorem repeatText_of_le {s : List CodePoint} {n : Nat} (h : s.length * n ≤ memoryLimit) :
    repeatText s n = .ok (List.replicate n s).flatten := by
  have hi : ¬ indexLimit < s.length * n := by
    simp only [indexLimit, memoryLimit] at h ⊢
    omega
  have hm : ¬ memoryLimit < s.length * n := Nat.not_lt.mpr h
  simp only [repeatText, hi, hm, if_false]

namespace Count

def repeats : Count → Except Fault Nat
  | .whole n => if fitsIndex n then .ok n.toNat else .error .countTooLarge
  | .other kind => .error (.repeatByNonInteger kind)

def steps : Count → Except Fault Nat
  | .whole n => .ok n.toNat
  | .other kind => .error (.rangeByNonInteger kind)

end Count

end CCheck.Workload
