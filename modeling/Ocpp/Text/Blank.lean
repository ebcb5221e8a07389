/-!
# Blank characters and trimming

The characters that count as blank around a scalar value, and the text left when
they are taken off both ends.

## Main definitions

* `isBlank c` — `c` is in the Unicode class White_Space.
* `trim s` — `s` without the blanks at its two ends.
-/

namespace Ocpp

namespace Text

/-- The Unicode class White_Space: the five controls from tab to carriage return,
the space, the next-line and no-break characters, and the spaces and separators
of the general punctuation and ideographic blocks.  Zero-width characters and the
four information separators are not in it. -/
def isBlank (c : Char) : Bool :=
  let n := c.toNat
  (0x09 ≤ n && n ≤ 0x0D) || n == 0x20 || n == 0x85 || n == 0xA0 || n == 0x1680 ||
    (0x2000 ≤ n && n ≤ 0x200A) || n == 0x2028 || n == 0x2029 || n == 0x202F ||
    n == 0x205F || n == 0x3000

/-- The characters left when the blanks at the start are dropped. -/
def trimStart (cs : List Char) : List Char := cs.dropWhile isBlank

/-- The characters left when the blanks at both ends are dropped. -/
def trimChars (cs : List Char) : List Char :=
  (trimStart (trimStart cs).reverse).reverse

/-- The text left when the blanks at both ends are dropped. -/
def trim (s : String) : String := String.ofList (trimChars s.toList)

end Text

end Ocpp
