/-! White space in user text. `isBlank` holds exactly of the characters with the Unicode property
White_Space; `trim` and `words` are built on it. -/
namespace Armory.Text

/-- White space, in every script. -/
def isBlank (c : Char) : Bool :=
  let n := c.toNat
  (9 ≤ n && n ≤ 13) || n == 0x20 || n == 0x85 || n == 0xA0 || n == 0x1680 ||
    (0x2000 ≤ n && n ≤ 0x200A) || n == 0x2028 || n == 0x2029 || n == 0x202F ||
    n == 0x205F || n == 0x3000

/-- A text without its leading white space. -/
def trimStart (s : List Char) : List Char := s.dropWhile isBlank

/-- A text without its trailing white space. -/
def trimEnd (s : List Char) : List Char := (s.reverse.dropWhile isBlank).reverse

/-- A text without the white space at its two ends. -/
def trimChars (s : List Char) : List Char := trimEnd (trimStart s)

/-- A text without the white space at its two ends. -/
def trim (s : String) : String := String.ofList (trimChars s.toList)

/-- Whether a text is empty or consists of white space. -/
def blank (s : String) : Bool := s.toList.all isBlank

/-- The maximal stretches of a text that hold no white space, given the stretch read so far. -/
def wordsFrom (current : List Char) : List Char → List (List Char)
  | [] => if current.isEmpty then [] else [current]
  | c :: rest =>
    if isBlank c then
      if current.isEmpty then wordsFrom [] rest else current :: wordsFrom [] rest
    else wordsFrom (current ++ [c]) rest

/-- The maximal stretches of a text that hold no white space. -/
def words (s : List Char) : List (List Char) := wordsFrom [] s

/-- The pieces joined by single spaces. -/
def spaced : List (List Char) → List Char
  | [] => []
  | [w] => w
  | w :: rest => w ++ ' ' :: spaced rest

/-- The pieces of a text between the occurrences of a separator. -/
def splitAt (sep : Char) : List Char → List (List Char)
  | [] => [[]]
  | c :: rest =>
    if c = sep then [] :: splitAt sep rest
    else match splitAt sep rest with
      | [] => [[c]]
      | piece :: pieces => (c :: piece) :: pieces

/-- What follows a given beginning of a text, if it begins so. -/
def afterStart? : List Char → List Char → Option (List Char)
  | [], s => some s
  | _ :: _, [] => none
  | p :: ps, c :: s => if p = c then afterStart? ps s else none

theorem afterStart?_eq_some_iff {p s rest : List Char} :
    afterStart? p s = some rest ↔ s = p ++ rest := by
  induction p generalizing s with
  | nil => simp [afterStart?]
  | cons c p ih =>
    cases s with
    | nil => simp [afterStart?]
    | cons d s => by_cases h : c = d <;> simp [afterStart?, h, ih, eq_comm]

/-- Whether one text occurs in another. -/
def occursIn (needle : List Char) : List Char → Bool
  | [] => needle.isEmpty
  | c :: rest => (afterStart? needle (c :: rest)).isSome || occursIn needle rest

/-- A capital letter of ASCII in its small form; every other character as it is. -/
def lowerAscii (s : String) : String := String.ofList (s.toList.map Char.toLower)

end Armory.Text
