import LoadTest.Text.Category

/-!
# Visible characters

What leaves a mark of its own when it is printed: something that is written, and does not extend the
character before it.
-/

namespace LoadTest.Text

/-- marks that take room and still belong to the character before them -/
def extendingRanges : List CodeRange := rangesOf
  ["9BE 9D7 B3E B57 BBE BD7 CC0 CC2 CC7-CC8 CCA-CCB CD5-CD6 D3E D57 DCF DDF 1715 1734 1B35 1B3B",
   "1B3D 1B43-1B44 1BAA 1BF2-1BF3 302E-302F A953 A9C0 111C0 11235 1133E 1134D 11357 113B8 113C2",
   "113C5 113C7-113C9 113CF 114B0 114BD 115AF 116B6 11930 1193D 11F41 16FF0-16FF1 1D165-1D166",
   "1D16D-1D172"]

def isExtending (c : Char) : Bool := isNonspacing c || isIn extendingRanges c

def isVisible (c : Char) : Bool :=
  if c.toNat < 0x7F then 0x20 ≤ c.toNat else !(isOther c || isExtending c)

theorem isVisible_ascii {c : Char} (h : 0x20 ≤ c.toNat) (h' : c.toNat < 0x7F) :
    isVisible c = true := by
  simp [isVisible, h, h']

end LoadTest.Text
