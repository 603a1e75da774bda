/-!
# White space

The characters of the White_Space property of Unicode. Timestamps allow them between their
parts.
-/

namespace ClusterAudit.Text

/-- Whether a character is white space. -/
def isWhiteSpace (c : Char) : Bool :=
  let n := c.toNat
  (decide (0x09 ≤ n) && decide (n ≤ 0x0D)) || n = 0x20 || n = 0x85 || n = 0xA0 || n = 0x1680
    || (decide (0x2000 ≤ n) && decide (n ≤ 0x200A)) || n = 0x2028 || n = 0x2029 || n = 0x202F
    || n = 0x205F || n = 0x3000

/-- The text without the white space at its start. -/
def skipWhiteSpace (cs : List Char) : List Char :=
  cs.dropWhile isWhiteSpace

end ClusterAudit.Text
