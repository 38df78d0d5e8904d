/-!
# Runs of code points

The character classes of Unicode are unions of a few hundred arithmetic runs:
blocks of letters have step one, and alphabets that alternate capital and small
letters have step two.
-/

namespace ApiTypings

/-- The code points `first, first + step, …` up to `last`. -/
structure CodeRun where
  first : Nat
  last : Nat
  step : Nat
deriving Repr, DecidableEq

namespace CodeRun

def contains (run : CodeRun) (point : Nat) : Bool :=
  run.first ≤ point && point ≤ run.last && (point - run.first) % run.step == 0

/-- Whether a character outside ASCII lies in one of the runs. Classes name their
ASCII members themselves, so a table never has to be searched for those. -/
def cover (runs : List CodeRun) (c : Char) : Bool :=
  0x80 ≤ c.toNat && runs.any (·.contains c.toNat)

theorem cover_of_ascii (runs : List CodeRun) {c : Char} (h : c.toNat < 0x80) :
    cover runs c = false := by
  simp [cover, Nat.not_le.mpr h]

end CodeRun

end ApiTypings
