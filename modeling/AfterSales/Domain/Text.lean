import Mathlib.Data.List.Infix

/-! Text as the source handles it: code points, white space, occurrence. -/

namespace AfterSales

/-- One of the cues occurs in the text. -/
def mentions (text : String) (cues : List String) : Bool :=
  cues.any fun cue => text.toList.tails.any cue.toList.isPrefixOf

/-- White space in the sense of the source's language. -/
def isSpace (c : Char) : Bool :=
  let n := c.toNat
  (9 ≤ n && n ≤ 13) || (28 ≤ n && n ≤ 32) || n = 0x85 || n = 0xA0 || n = 0x1680 ||
    (0x2000 ≤ n && n ≤ 0x200A) || n = 0x2028 || n = 0x2029 || n = 0x202F || n = 0x205F || n = 0x3000

def isBlank (text : String) : Bool := text.toList.all isSpace

/-- The words of a text, one space between them. -/
def joinWords (text : List Char) : List Char :=
  [' '].intercalate ((text.splitOnP isSpace).filter (· ≠ []))

end AfterSales
