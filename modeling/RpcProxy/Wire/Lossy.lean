/-!
# Reading any bytes as a text

Bytes that are no text in UTF-8 can still be read: what cannot be read as a character is replaced,
piece by piece. A piece is as long as it could have become a character, and at least one byte.
-/

namespace RpcProxy.Wire

/-- The bytes that characters consist of: each row has the intervals of the first byte and of those
behind it. -/
def characterRows : List (List (UInt8 × UInt8)) :=
  [[(0x00, 0x7F)],
   [(0xC2, 0xDF), (0x80, 0xBF)],
   [(0xE0, 0xE0), (0xA0, 0xBF), (0x80, 0xBF)],
   [(0xE1, 0xEC), (0x80, 0xBF), (0x80, 0xBF)],
   [(0xED, 0xED), (0x80, 0x9F), (0x80, 0xBF)],
   [(0xEE, 0xEF), (0x80, 0xBF), (0x80, 0xBF)],
   [(0xF0, 0xF0), (0x90, 0xBF), (0x80, 0xBF), (0x80, 0xBF)],
   [(0xF1, 0xF3), (0x80, 0xBF), (0x80, 0xBF), (0x80, 0xBF)],
   [(0xF4, 0xF4), (0x80, 0x8F), (0x80, 0xBF), (0x80, 0xBF)]]

/-- How many of the first bytes lie in the intervals of a row. -/
def fitting : List (UInt8 × UInt8) → List UInt8 → Nat
  | (first, last) :: row, byte :: bytes =>
    if first ≤ byte && byte ≤ last then fitting row bytes + 1 else 0
  | _, _ => 0

/-- How many of the first bytes are replaced at once if they are no character. -/
def brokenSize (bytes : List UInt8) : Nat :=
  max 1 ((characterRows.map fun row => fitting row bytes).foldl max 0)

/-- The character that the first bytes are. -/
def firstLetter? (bytes : List UInt8) : Option Char := bytes.toByteArray.utf8DecodeChar? 0

/-- The characters that some bytes are, with a gap for each piece that is no character. -/
def lossyLetters (bytes : List UInt8) : List (Option Char) :=
  match bytes with
  | [] => []
  | byte :: rest =>
    match firstLetter? (byte :: rest) with
    | some letter => some letter :: lossyLetters ((byte :: rest).drop letter.utf8Size)
    | none => none :: lossyLetters ((byte :: rest).drop (brokenSize (byte :: rest)))
termination_by bytes.length
decreasing_by
  · have positive := letter.utf8Size_pos
    rw [List.length_drop, List.length_cons]
    omega
  · have positive : 1 ≤ brokenSize (byte :: rest) := Nat.le_max_left 1 _
    rw [List.length_drop, List.length_cons]
    omega

/-- The text that some bytes are read as, with replacement characters in the gaps. -/
def lossyText (bytes : List UInt8) : String :=
  String.ofList ((lossyLetters bytes).map fun letter => letter.getD '\uFFFD')

end RpcProxy.Wire
