import RpcProxy.Text.CodePoints

/-!
# Blank characters

The Unicode property White_Space, and the text that is left when blanks are cut from both ends.
-/

namespace RpcProxy.Text

/-- The property White_Space. -/
def blankPoints : CodePoints :=
  [(0x9, 0xD), (0x20, 0x20), (0x85, 0x85), (0xA0, 0xA0), (0x1680, 0x1680), (0x2000, 0x200A),
   (0x2028, 0x2029), (0x202F, 0x202F), (0x205F, 0x205F), (0x3000, 0x3000)]

def isBlank (letter : Char) : Bool := blankPoints.holds letter

/-- The letters without the blanks at either end. -/
def trimBlanks (letters : List Char) : List Char :=
  ((letters.dropWhile isBlank).reverse.dropWhile isBlank).reverse

end RpcProxy.Text
