import Armory.Net.IpAddress
import Armory.Net.Percent
import Armory.Sum

/-! Absolute URLs, brought into their normal form while they are read: the scheme and the host in small
letters, default ports left out, dot segments resolved, and unsafe characters percent-encoded. Schemes of
the web are read leniently (any number and kind of slashes), other schemes by the letter. -/
namespace Armory.Net

/-- A URL in normal form. -/
structure Url where
  scheme : String
  /-- Name and password, each percent-encoded. -/
  user : Option (List Char × Option (List Char))
  /-- Absent for schemes without a host, such as `mailto`. -/
  host : Option (List Char)
  port : Option Nat
  path : List Char
  query : Option (List Char)
  fragment : Option (List Char)

namespace Url

/-! ## Percent-encoding -/

/-- A hexadecimal digit in capital letters. -/
def upperHex (n : Nat) : Char := if n < 10 then Char.ofNat (48 + n) else Char.ofNat (55 + n)

/-- One byte, percent-encoded. -/
def encodeByte (b : UInt8) : List Char := ['%', upperHex (b.toNat / 16), upperHex (b.toNat % 16)]

/-- A character, percent-encoded byte by byte if it is a control character, outside ASCII, or unsafe. -/
def encodeChar (unsafeChars : List Char) (c : Char) : List Char :=
  if c.toNat < 32 || 126 < c.toNat || unsafeChars.contains c then
    (String.singleton c).toUTF8.toList.flatMap encodeByte
  else [c]

/-- A text with its unsafe characters percent-encoded. -/
def encode (unsafeChars : List Char) (s : List Char) : List Char := s.flatMap (encodeChar unsafeChars)

/-- What is unsafe in a path. -/
def unsafeInPath : List Char := [' ', '"', '#', '<', '>', '?', '\x60', '\x7b', '\x7d']

/-- What is unsafe in a query. -/
def unsafeInQuery : List Char := [' ', '"', '#', '<', '>']

/-- What is unsafe in a query of a scheme of the web. -/
def unsafeInWebQuery : List Char := '\'' :: unsafeInQuery

/-- What is unsafe in a fragment. -/
def unsafeInFragment : List Char := [' ', '"', '<', '>', '\x60']

/-- What is unsafe in a name or password. -/
def unsafeInUser : List Char :=
  unsafeInPath ++ ['/', ':', ';', '=', '@', '[', '\\', ']', '^', '|']

/-! ## Schemes -/

/-- The schemes of the web and their default ports; files have none. -/
def webPort? (scheme : String) : Option (Option Nat) :=
  if scheme = "http" ∨ scheme = "ws" then some (some 80)
  else if scheme = "https" ∨ scheme = "wss" then some (some 443)
  else if scheme = "ftp" then some (some 21)
  else if scheme = "file" then some none
  else none

/-- Whether a scheme is one of the web. -/
def isWeb (scheme : String) : Bool := (webPort? scheme).isSome

/-- The scheme that a text begins with, and what follows its colon. -/
def readScheme (s : List Char) : Option (String × List Char) :=
  let isSchemeChar (c : Char) : Bool := c.isAlphanum || c == '+' || c == '-' || c == '.'
  match s with
  | c :: _ =>
    if c.isAlpha then
      match s.dropWhile isSchemeChar with
      | ':' :: rest => some (String.ofList ((s.takeWhile isSchemeChar).map Char.toLower), rest)
      | _ => none
    else none
  | [] => none

/-! ## Hosts -/

/-- What may not stand in the host of any scheme. -/
def forbiddenInHost : List Char :=
  ['\x00', '\t', '\n', '\r', ' ', '#', '/', ':', '<', '>', '?', '@', '[', '\\', ']', '^', '|']

/-- The number that one part of an address of version 4 spells: decimal, octal after `0`, hexadecimal
after `0x`. -/
def addressPart? (s : List Char) : Option Nat :=
  let (base, ds) := match s with
    | '0' :: x :: rest => if x = 'x' ∨ x = 'X' then (16, rest) else (8, x :: rest)
    | _ => (10, s)
  if s.isEmpty then none
  else (ds.mapM (Text.digitValue? base)).map (IpAddress.valueOf base)

/-- The parts of a host between its points, without an empty last one. -/
def hostParts (s : List Char) : List (List Char) :=
  let parts := s.splitOn '.'
  if 1 < parts.length && parts.getLast? == some [] then parts.dropLast else parts

/-- Whether the last part of a host is a number, so that all of it has to be an address. -/
def endsInNumber (s : List Char) : Bool :=
  match (hostParts s).getLast? with
  | some last => (!last.isEmpty && last.all Char.isDigit) ||
      (match last with
        | '0' :: x :: rest => (x == 'x' || x == 'X') && rest.all fun c => (Text.hexValue? c).isSome
        | _ => false)
  | none => false

/-- The address of version 4 that a host names; its last part fills the octets that are left. -/
def hostAddress? (s : List Char) : Option Nat := do
  let numbers ← (hostParts s).mapM addressPart?
  let last ← numbers.getLast?
  let front := numbers.dropLast
  if 3 < front.length || front.any (255 < ·) || Nat.pow 256 (4 - front.length) ≤ last then none
  else pure (sumOf (fun (n, k) => n * Nat.pow 256 (3 - k)) front.zipIdx + last)

/-- A decimal number. -/
def decimal (n : Nat) : List Char := Nat.toDigits 10 n

/-- An address of version 4. -/
def writeV4 (n : Nat) : List Char :=
  decimal (n / 16777216) ++ '.' :: decimal (n / 65536 % 256) ++ '.' :: decimal (n / 256 % 256)
    ++ '.' :: decimal (n % 256)

/-- How many zeros a list begins with. -/
def zeroRun (gs : List Nat) : Nat := (gs.takeWhile (· == 0)).length

/-- The place and length of the first longest run of at least two zero groups. -/
def longestZeros (gs : List Nat) : Option (Nat × Nat) :=
  (List.range gs.length).foldl (fun best k =>
    let n := zeroRun (gs.drop k)
    if 1 < n && best.all (fun b => b.2 < n) then some (k, n) else best) none

/-- Groups in hexadecimal with colons between them. -/
def writeGroups (gs : List Nat) : List Char :=
  [':'].intercalate (gs.map fun g => Nat.toDigits 16 g)

/-- An address of version 6 with its longest run of zeros left out. -/
def writeV6 (gs : List Nat) : List Char :=
  match longestZeros gs with
  | some (k, n) => writeGroups (gs.take k) ++ ':' :: ':' :: writeGroups (gs.drop (k + n))
  | none => writeGroups gs

/-- The host in normal form. -/
def readHost (web : Bool) (s : List Char) : Option (List Char) :=
  match s with
  | '[' :: rest =>
    if rest.getLast? == some ']' then
      match IpAddress.readV6 rest.dropLast with
      | some (gs, []) => some ('[' :: writeV6 gs ++ [']'])
      | _ => none
    else none
  | _ =>
    if web then do
      let decoded ← Percent.decode? s
      let name := decoded.toList.map Char.toLower
      if name.isEmpty || name.any fun c =>
          forbiddenInHost.contains c || c == '%' || c.toNat < 32 || c.toNat == 127 then none
      else if endsInNumber name then (hostAddress? name).map writeV4
      else some name
    else if s.any forbiddenInHost.contains then none
    else some (encode [] s)

/-- The port after a host: empty, or digits of a number below 65536. -/
def readPort (default : Option Nat) (s : List Char) : Option (Option Nat) :=
  if s.isEmpty then some none
  else if s.all Char.isDigit then
    let n := IpAddress.valueOf 10 (s.map fun c => c.toNat - 48)
    if n < 65536 then some (if default == some n then none else some n) else none
  else none

/-! ## Paths -/

/-- Whether a segment stands for the current directory. -/
def isDot (s : List Char) : Bool :=
  let s := s.map Char.toLower
  s == ['.'] || s == ['%', '2', 'e']

/-- Whether a segment stands for the directory above. -/
def isDotDot (s : List Char) : Bool :=
  let s := s.map Char.toLower
  s == ['.', '.'] || s == ['.', '%', '2', 'e'] || s == ['%', '2', 'e', '.']
    || s == ['%', '2', 'e', '%', '2', 'e']

/-- Segments with dot segments resolved, given those kept so far, the last one first. -/
def resolveDots (kept : List (List Char)) : List (List Char) → List (List Char)
  | [] => kept.reverse
  | [last] =>
    if isDotDot last then ([] :: kept.drop 1).reverse
    else if isDot last then ([] :: kept).reverse
    else (last :: kept).reverse
  | s :: rest =>
    if isDotDot s then resolveDots (kept.drop 1) rest
    else if isDot s then resolveDots kept rest
    else resolveDots (s :: kept) rest

/-- A path that begins at the root, in normal form. -/
def readPath (web : Bool) (s : List Char) : List Char :=
  let s := if web then s.map fun c => if c = '\\' then '/' else c else s
  let segments := match s with
    | '/' :: rest => rest.splitOn '/'
    | _ => s.splitOn '/'
  (resolveDots [] segments).flatMap fun segment => '/' :: encode unsafeInPath segment

/-! ## Whole URLs -/

/-- A text cut at the first of the given characters; the second part begins with it. -/
def cutAt (marks : List Char) (s : List Char) : List Char × List Char :=
  (s.takeWhile fun c => !marks.contains c, s.dropWhile fun c => !marks.contains c)

/-- A text cut at the last `@`, if there is one. -/
def cutUser (s : List Char) : Option (List Char) × List Char :=
  if s.contains '@' then
    let back := s.reverse
    (some (back.dropWhile (· != '@')).tail.reverse, (back.takeWhile (· != '@')).reverse)
  else (none, s)

/-- Host and port cut at the colon between them; a colon inside brackets does not count. -/
def cutPort (s : List Char) : List Char × List Char :=
  match s with
  | '[' :: _ =>
    let (inside, after) := cutAt [']'] s
    (inside ++ after.take 1, (after.drop 1))
  | _ => cutAt [':'] s

/-- Name and password before the `@`. -/
def readUser (s : List Char) : Option (List Char × Option (List Char)) :=
  let (name, rest) := cutAt [':'] s
  let password := if rest.drop 1 == [] then none else some (encode unsafeInUser (rest.drop 1))
  if name.isEmpty && password.isNone then none else some (encode unsafeInUser name, password)

/-- The text from `#` on, without it. -/
def readFragment (s : List Char) : Option (List Char) :=
  match s with
  | '#' :: rest => some (encode unsafeInFragment rest)
  | _ => none

/-- Query and fragment. -/
def readTail (web : Bool) (s : List Char) : Option (List Char) × Option (List Char) :=
  match s with
  | '?' :: rest =>
    let (query, after) := cutAt ['#'] rest
    (some (encode (if web then unsafeInWebQuery else unsafeInQuery) query), readFragment after)
  | _ => (none, readFragment s)

/-- A URL with a host, from what follows the slashes. -/
def readHosted (scheme : String) (s : List Char) : Option Url := do
  let web := isWeb scheme
  let ends := if web then ['/', '\\', '?', '#'] else ['/', '?', '#']
  let (authority, rest) := cutAt ends s
  let (user, place) := cutUser authority
  let (host, afterHost) := cutPort place
  let default := (webPort? scheme).getD none
  let port ← match afterHost with
    | [] => some none
    | ':' :: digits => readPort default digits
    | _ => none
  let (path, tail) := cutAt ['?', '#'] rest
  let (query, fragment) := readTail web tail
  let host ← if host.isEmpty then (if web || user.isSome || port.isSome then none else some [])
    else readHost web host
  pure { scheme, user := user.bind readUser, host := some host, port,
         path := if path.isEmpty && !web then [] else readPath web path, query, fragment }

/-- A URL of a file: the host may be empty, and `localhost` is as good as empty. -/
def readFile (s : List Char) : Url :=
  let s := s.map fun c => if c = '\\' then '/' else c
  let (body, tail) := cutAt ['?', '#'] s
  let (query, fragment) := readTail true tail
  let (host, path) := match body with
    | '/' :: '/' :: rest => cutAt ['/'] rest
    | _ => ([], body)
  let host := (readHost true host).filter (· != "localhost".toList)
  { scheme := "file", user := none, host, port := none, path := readPath true path, query, fragment }

/-- Characters that are cut off at both ends of a URL. -/
def isTrimmed (c : Char) : Bool := c.toNat ≤ 32

/-- The URL that a text spells. -/
def parse? (text : String) : Option Url := do
  let s := (text.toList.dropWhile isTrimmed).reverse.dropWhile isTrimmed |>.reverse
  let s := s.filter fun c => c != '\t' && c != '\n' && c != '\r'
  let (scheme, rest) ← readScheme s
  if scheme = "file" then pure (readFile rest)
  else if isWeb scheme then readHosted scheme (rest.dropWhile fun c => c == '/' || c == '\\')
  else match rest with
    | '/' :: '/' :: rest => readHosted scheme rest
    | _ =>
      let (path, tail) := cutAt ['?', '#'] rest
      let (query, fragment) := readTail false tail
      let path := match path with
        | '/' :: _ => readPath false path
        | _ => encode [] path
      pure { scheme, user := none, host := none, port := none, path, query, fragment }

/-- The text of a URL. -/
def render (u : Url) : String :=
  let user := match u.user with
    | none => []
    | some (name, none) => name ++ ['@']
    | some (name, some password) => name ++ ':' :: password ++ ['@']
  let port := match u.port with
    | none => []
    | some n => ':' :: decimal n
  let authority := match u.host with
    | none => if u.scheme = "file" then ['/', '/'] else []
    | some host => '/' :: '/' :: user ++ host ++ port
  let tail (mark : Char) (part : Option (List Char)) : List Char := match part with
    | none => []
    | some s => mark :: s
  String.ofList (u.scheme.toList ++ ':' :: authority ++ u.path ++ tail '?' u.query
    ++ tail '#' u.fragment)

end Url
end Armory.Net
