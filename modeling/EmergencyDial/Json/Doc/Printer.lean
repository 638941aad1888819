import EmergencyDial.Json.Doc
import EmergencyDial.Json.Token

/-! The compact text of a document. -/
namespace EmergencyDial.Json

/-- Quotes, backslashes and control characters are escaped, and nothing else. -/
def escaped (c : Char) : List Char :=
  match c with
  | '"' => ['\\', '"']
  | '\\' => ['\\', '\\']
  | '\x08' => ['\\', 'b']
  | '\t' => ['\\', 't']
  | '\n' => ['\\', 'n']
  | '\x0c' => ['\\', 'f']
  | '\r' => ['\\', 'r']
  | c => if c.toNat < 0x20 then '\\' :: 'u' :: '0' :: '0' :: Text.Hex.twoDigits c.toNat else [c]

/-- A garbled text is spelled by half a pair, and a break by nothing. -/
def Token.spelling : Token → List Char
  | .null => ['n', 'u', 'l', 'l']
  | .bool true => ['t', 'r', 'u', 'e']
  | .bool false => ['f', 'a', 'l', 's', 'e']
  | .number n => n.text
  | .text s => '"' :: s.toList.flatMap escaped ++ ['"']
  | .garbled => ['"', '\\', 'u', 'd', '8', '0', '0', '"']
  | .openList => ['[']
  | .closeList => [']']
  | .openObject => ['\x7b']
  | .closeObject => ['\x7d']
  | .comma => [',']
  | .colon => [':']
  | .bad => []

namespace Doc

mutual
def tokens : Doc → List Token
  | .null => [.null]
  | .bool b => [.bool b]
  | .number n => [.number n]
  | .text s => [.text s]
  | .garbled => [.garbled]
  | .list [] => [.openList, .closeList]
  | .list (d :: ds) => .openList :: d.tokens ++ furtherItems ds
  | .object [] => [.openObject, .closeObject]
  | .object ((k, d) :: es) => .openObject :: k.tokens ++ .colon :: d.tokens ++ furtherEntries es
  | .broken => [.bad]

def furtherItems : List Doc → List Token
  | [] => [.closeList]
  | d :: ds => .comma :: d.tokens ++ furtherItems ds

def furtherEntries : List (Doc × Doc) → List Token
  | [] => [.closeObject]
  | (k, d) :: es => .comma :: k.tokens ++ .colon :: d.tokens ++ furtherEntries es
end

def spelling (d : Doc) : List Char := d.tokens.flatMap Token.spelling

def render (d : Doc) : String := String.ofList d.spelling

end Doc
end EmergencyDial.Json
