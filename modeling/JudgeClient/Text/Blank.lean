/-!
# Blank characters

The characters with the Unicode property `White_Space`, and trimming by them.  Response bodies,
error contexts and source code are trimmed this way, so a no-break space counts as blank here
although the JSON grammar does not skip it.
-/

namespace JudgeClient.Text

/-- The character has the Unicode property `White_Space`. -/
def isBlank (c : Char) : Bool :=
  let n := c.toNat
  (0x09 ≤ n && n ≤ 0x0D) || n == 0x20 || n == 0x85 || n == 0xA0 || n == 0x1680 ||
    (0x2000 ≤ n && n ≤ 0x200A) || n == 0x2028 || n == 0x2029 || n == 0x202F || n == 0x205F ||
    n == 0x3000

/-! ### Trimming -/

/-- The text without its leading blanks. -/
def trimStart (s : List Char) : List Char := s.dropWhile isBlank

/-- The text without its trailing blanks. -/
def trimEnd (s : List Char) : List Char := (s.reverse.dropWhile isBlank).reverse

/-- The text without surrounding blanks. -/
def trim (s : List Char) : List Char := trimEnd (trimStart s)

/-- The text without the run of `c` that it ends in. -/
def dropTrailing (c : Char) (s : List Char) : List Char := (s.reverse.dropWhile (· == c)).reverse

end JudgeClient.Text
