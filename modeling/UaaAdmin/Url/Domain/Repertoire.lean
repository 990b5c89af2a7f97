import UaaAdmin.Text.Invisible
import UaaAdmin.Text.Mark

/-!
# The repertoire of domain names

Domain names take their characters from Unicode 18, one version beyond the tables of `Text`. The
characters that came in between stand here, together with the classes of characters that a domain
name asks for.
-/

namespace UaaAdmin.Url.Domain.Repertoire

open UaaAdmin.Text

/-- Letters and signs that came in with Unicode 18. -/
def addedRanges : List (Nat × Nat) := [
  (0x558, 0x558), (0x58c, 0x58c), (0x9ff, 0x9ff), (0x208f, 0x208f), (0x209d, 0x209f),
  (0x20c2, 0x20c4), (0xa7dd, 0xa7dd), (0xa7e2, 0xa7e2), (0xab6c, 0xab6d), (0x107bb, 0x107bb),
  (0x10ec9, 0x10eca), (0x10ece, 0x10ece), (0x10ed9, 0x10ed9), (0x11b0a, 0x11b0a),
  (0x11df0, 0x11df1), (0x1246f, 0x1246f), (0x12475, 0x1247a), (0x12550, 0x12686),
  (0x18cd6, 0x18cd6), (0x18d1f, 0x18d1f), (0x18e00, 0x19191), (0x191a0, 0x191d2),
  (0x1b125, 0x1b125), (0x1ced1, 0x1ced2), (0x1cedd, 0x1cedd), (0x1d1eb, 0x1d1ed),
  (0x1d250, 0x1d25c), (0x1d6a6, 0x1d6a6), (0x1db00, 0x1db13), (0x1df24, 0x1df24),
  (0x1df6f, 0x1df6f), (0x1f1ae, 0x1f1ae), (0x1f6d9, 0x1f6d9), (0x1f7f1, 0x1f7f2),
  (0x1fa8b, 0x1fa8d), (0x1facc, 0x1facc), (0x1fadd, 0x1fadd), (0x1faeb, 0x1faeb),
  (0x1faf9, 0x1fafa), (0x2b81e, 0x2b81e), (0x3d000, 0x3fc3f)]

/-- Nonspacing marks that came in with Unicode 18. -/
def addedMarks : List MarkRun := [⟨0x1ade, 0x1ade, 230⟩, ⟨0x10ef2, 0x10ef9, 220⟩]

/-- The character is one of the added marks. -/
def isAddedMark (c : Char) : Bool :=
  addedMarks.any (·.has c.toNat)

/-- The character has a visible form in the repertoire. -/
def contains (c : Char) : Bool :=
  !isInvisible c || inRanges addedRanges c.toNat || isAddedMark c

/-- The character takes no room of its own. -/
def isNonspacingMark (c : Char) : Bool :=
  Text.isNonspacingMark c || isAddedMark c

/-- The character is written onto the one in front of it. -/
def isMark (c : Char) : Bool :=
  Text.isMark c || isAddedMark c

/-- The combining class of a character, which is 0 for all but marks. -/
def combiningClass (c : Char) : Nat :=
  ((addedMarks.find? (·.has c.toNat)).map MarkRun.order).getD (Text.combiningClass c)

end UaaAdmin.Url.Domain.Repertoire
