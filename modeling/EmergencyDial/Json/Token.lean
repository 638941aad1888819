import EmergencyDial.Json.Numeral
import EmergencyDial.Text.Hex

/-! Tokens of JSON, and the tokens of a text up to the first place where there is none. -/
namespace EmergencyDial.Json

/-- A `garbled` text has escapes that do not pair into characters: it has the form of a text and
says nothing. `bad` stands where the text goes wrong, and ends it. -/
inductive Token
  | null
  | bool (b : Bool)
  | number (n : Numeral)
  | text (s : String)
  | garbled
  | openList
  | closeList
  | openObject
  | closeObject
  | comma
  | colon
  | bad
deriving DecidableEq, Repr

/-- Blanks between tokens. -/
def isBlank (c : Char) : Bool := c == ' ' || c == '\t' || c == '\n' || c == '\r'

/-- What stands in a text: a character, or a unit of 16 bits given by its number. -/
inductive Piece
  | char (c : Char)
  | unit (n : Nat)
deriving DecidableEq, Repr

def escape? (c : Char) : Option Char :=
  match c with
  | '"' => some '"'
  | '\\' => some '\\'
  | '/' => some '/'
  | 'b' => some '\x08'
  | 'f' => some '\x0c'
  | 'n' => some '\n'
  | 'r' => some '\r'
  | 't' => some '\t'
  | _ => none

/-- The pieces up to the closing quote, and what follows it. -/
def scanText : List Char → Option (List Piece × List Char)
  | [] => none
  | '"' :: cs => some ([], cs)
  | '\\' :: 'u' :: a :: b :: c :: d :: cs =>
    match Text.Hex.value? [a, b, c, d], scanText cs with
    | some n, some (ps, r) => some (.unit n :: ps, r)
    | _, _ => none
  | '\\' :: c :: cs =>
    match escape? c, scanText cs with
    | some c, some (ps, r) => some (.char c :: ps, r)
    | _, _ => none
  | c :: cs =>
    if c.toNat < 0x20 ∨ c = '\\' then none
    else (scanText cs).map fun (ps, r) => (.char c :: ps, r)

def isHighHalf (n : Nat) : Bool := 0xd800 ≤ n && n ≤ 0xdbff

def isLowHalf (n : Nat) : Bool := 0xdc00 ≤ n && n ≤ 0xdfff

/-- Joins each high half with the low half that follows; a half that stands alone spoils the text. -/
def joinPieces : List Piece → Option (List Char)
  | [] => some []
  | .char c :: ps => (joinPieces ps).map (c :: ·)
  | .unit h :: .unit l :: ps =>
    if isHighHalf h then
      if isLowHalf l then
        (joinPieces ps).map (Char.ofNat (0x10000 + (h - 0xd800) * 0x400 + (l - 0xdc00)) :: ·)
      else none
    else if isLowHalf h then none
    else (joinPieces (.unit l :: ps)).map (Char.ofNat h :: ·)
  | .unit n :: ps =>
    if isHighHalf n || isLowHalf n then none else (joinPieces ps).map (Char.ofNat n :: ·)

def textToken (ps : List Piece) : Token :=
  match joinPieces ps with
  | some cs => .text (String.ofList cs)
  | none => .garbled

/-- One digit or more. -/
def scanDigits (cs : List Char) : Option (List Char × List Char) :=
  match cs.takeWhile Char.isDigit with
  | [] => none
  | ds => some (ds, cs.dropWhile Char.isDigit)

/-- A zero in front of another digit spoils the number. -/
def scanWhole (cs : List Char) : Option (List Char × List Char) :=
  match scanDigits cs with
  | some ('0' :: _ :: _, _) => none
  | r => r

def scanFraction : List Char → Option (Option (List Char) × List Char)
  | '.' :: cs => (scanDigits cs).map fun (ds, r) => (some ds, r)
  | cs => some (none, cs)

def scanSign : List Char → Bool × List Char
  | '-' :: cs => (true, cs)
  | '+' :: cs => (false, cs)
  | cs => (false, cs)

def scanExponent : List Char → Option (Option Exponent × List Char)
  | [] => some (none, [])
  | c :: cs =>
    if c = 'e' ∨ c = 'E' then
      (scanDigits (scanSign cs).2).map fun (ds, r) => (some ⟨(scanSign cs).1, ds⟩, r)
    else some (none, c :: cs)

/-- A numeral without its sign. -/
def scanNumeral (negative : Bool) (cs : List Char) : Option (Numeral × List Char) := do
  let (whole, cs) ← scanWhole cs
  let (fraction, cs) ← scanFraction cs
  let (exponent, cs) ← scanExponent cs
  return (⟨negative, whole, fraction, exponent⟩, cs)

def scanWord (word : List Char) (t : Token) (cs : List Char) : Option (Token × List Char) :=
  if word.isPrefixOf cs then some (t, cs.drop word.length) else none

/-- The token at the front of a text that does not start with a blank. -/
def scanToken : List Char → Option (Token × List Char)
  | [] => none
  | c :: cs =>
    match c with
    | '[' => some (.openList, cs)
    | ']' => some (.closeList, cs)
    | '\x7b' => some (.openObject, cs)
    | '\x7d' => some (.closeObject, cs)
    | ',' => some (.comma, cs)
    | ':' => some (.colon, cs)
    | '"' => (scanText cs).map fun (ps, r) => (textToken ps, r)
    | 'n' => scanWord ['u', 'l', 'l'] .null cs
    | 't' => scanWord ['r', 'u', 'e'] (.bool true) cs
    | 'f' => scanWord ['a', 'l', 's', 'e'] (.bool false) cs
    | '-' => (scanNumeral true cs).map fun (n, r) => (.number n, r)
    | c => (scanNumeral false (c :: cs)).map fun (n, r) => (.number n, r)

end EmergencyDial.Json
