import AsmLens.Proofs.FileTree.LastName
import AsmLens.Proofs.FileTree.Preparing

/-!
# The place of an object

Preparing the place of an object makes directories and takes away at most what stands there. It ends with
the place vacant, or with an error of the operating system and everything still there.
-/

namespace AsmLens.ObjectFile

variable {tree prepared : FileTree} {room : Nat} {object : Path} {place : Location} {entry : Entry}
  {result : Except Failure Unit}

theorem StandsAt.unique (hstands : StandsAt tree object place) {other : Location}
    (hother : StandsAt tree object other) : place = other := by
  obtain ⟨made, hmade, hnames⟩ := hstands
  obtain ⟨again, hagain, _, hslot⟩ := hother
  obtain rfl := (Prod.mk.inj (hmade.symm.trans hagain)).2
  exact hnames.eq_of_slot? hslot

/-- An object below an absent directory that its path enters and leaves again and again. -/
def deepObject : Path :=
  ⟨.relative, (List.replicate 600 [("x" : Text), ".."]).flatten ++ [("x.o" : Text)]⟩

end AsmLens.ObjectFile
