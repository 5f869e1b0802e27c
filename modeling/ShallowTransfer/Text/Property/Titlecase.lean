import ShallowTransfer.Text.CharRun

/-!
Title case: the digraph and iota letters whose first part alone is a capital.
-/

namespace ShallowTransfer.Text

/-- The runs of title case letters, in ascending order. -/
def titlecaseRuns : List CharRun := [
  ⟨0x1C5, 0x1CB, 3⟩, ⟨0x1F2, 0x1F2, 1⟩, ⟨0x1F88, 0x1F8F, 1⟩, ⟨0x1F98, 0x1F9F, 1⟩,
  ⟨0x1FA8, 0x1FAF, 1⟩, ⟨0x1FBC, 0x1FBC, 1⟩, ⟨0x1FCC, 0x1FCC, 1⟩, ⟨0x1FFC, 0x1FFC, 1⟩]

/-- Whether a character is a title case letter. -/
def isTitle (c : Char) : Bool :=
  inRuns titlecaseRuns c

end ShallowTransfer.Text
