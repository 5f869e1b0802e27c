/-!
Runs of characters: a property of characters, or a case mapping, is stored as a list of runs. A run
holds every `step`-th code point from its first to its last one, so a stretch of an alphabet where
capital and small letters alternate is a single run.
-/

namespace ShallowTransfer.Text

/-- Every `step`-th code point from `first` to `last`. -/
structure CharRun where
  first : Nat
  last : Nat
  step : Nat
deriving Repr, DecidableEq

/-- Whether a code point lies on the run. -/
def CharRun.covers (r : CharRun) (n : Nat) : Bool :=
  Nat.ble r.first n && Nat.ble n r.last && Nat.beq ((n - r.first) % r.step) 0

/-- Whether one of the runs holds the character. -/
def inRuns (runs : List CharRun) (c : Char) : Bool :=
  runs.any fun r => r.covers c.toNat

/-- A run of characters whose forms in the other case all lie at the same distance. -/
structure CaseRun where
  run : CharRun
  shift : Int
deriving Repr, DecidableEq

/-- The character at the distance of the run from `c`. -/
def CaseRun.apply (r : CaseRun) (c : Char) : Char :=
  Char.ofNat (c.toNat + r.shift).toNat

/-- The form of `c` that the first run holding it gives, or `c` itself. -/
def shiftCase (runs : List CaseRun) (c : Char) : Char :=
  match runs.find? fun r => r.run.covers c.toNat with
  | some r => r.apply c
  | none => c

end ShallowTransfer.Text
