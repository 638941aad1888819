import EmergencyDial.Json.Doc
import EmergencyDial.Json.Lexer

/-! Documents from tokens, in one pass with a stack of what is still open. -/
namespace EmergencyDial.Json

/-- A list or an object that is open, with what was read of it, last first; `key` is open for a key
and `value` for the value of a key. -/
inductive Frame
  | list (items : List Doc)
  | key (entries : List (Doc × Doc))
  | value (entries : List (Doc × Doc)) (key : Doc)

/-- What may come next: a value, a list's first item or its end, an object's first key or its end,
another key, or what follows a document. -/
inductive Place
  | value
  | firstItem
  | firstKey
  | key
  | after (d : Doc)

/-- The document that a token is, or of which it is the beginning. -/
def Token.doc : Token → Doc
  | .null => .null
  | .bool b => .bool b
  | .number n => .number n
  | .text s => .text s
  | .garbled => .garbled
  | .openList => .list [.broken]
  | .openObject => .object [(.broken, .broken)]
  | _ => .broken

/-- The whole document, of which `d` is the last thing read. -/
def Doc.enclose (d : Doc) : List Frame → Doc
  | [] => d
  | .list ds :: st => enclose (.list (d :: ds).reverse) st
  | .key es :: st => enclose (.object ((d, .broken) :: es).reverse) st
  | .value es k :: st => enclose (.object ((k, d) :: es).reverse) st

namespace Place

def value? (st : List Frame) : Token → Option (Place × List Frame)
  | .null => some (.after .null, st)
  | .bool b => some (.after (.bool b), st)
  | .number n => some (.after (.number n), st)
  | .text s => some (.after (.text s), st)
  | .garbled => some (.after .garbled, st)
  | .openList => some (.firstItem, .list [] :: st)
  | .openObject => some (.firstKey, .key [] :: st)
  | _ => none

def key? (st : List Frame) : Token → Option (Place × List Frame)
  | .text s => some (.after (.text s), st)
  | .garbled => some (.after .garbled, st)
  | _ => none

/-- The place that a token leads to, if it fits. -/
def next? : Place → List Frame → Token → Option (Place × List Frame)
  | .firstItem, .list _ :: st, .closeList => some (.after (.list []), st)
  | .firstKey, .key _ :: st, .closeObject => some (.after (.object []), st)
  | .after d, .list ds :: st, .comma => some (.value, .list (d :: ds) :: st)
  | .after d, .list ds :: st, .closeList => some (.after (.list (d :: ds).reverse), st)
  | .after k, .key es :: st, .colon => some (.value, .value es k :: st)
  | .after d, .value es k :: st, .comma => some (.key, .key ((k, d) :: es) :: st)
  | .after d, .value es k :: st, .closeObject =>
    some (.after (.object ((k, d) :: es).reverse), st)
  | .value, st, t | .firstItem, st, t => value? st t
  | .firstKey, st, t | .key, st, t => key? st t
  | .after _, _, _ => none

/-- What was read, when `d` is found at a place where it does not fit. -/
def stop (d : Doc) : Place → List Frame → Doc
  | .after i, .list ds :: st => Doc.broken.enclose (.list (i :: ds) :: st)
  | .after v, .value es k :: st => Doc.broken.enclose (.key ((k, v) :: es) :: st)
  | .after k, st => k.enclose st
  | _, st => d.enclose st

end Place

/-- The document read from a place on, and the tokens that follow it. -/
def readFrom : Place → List Frame → List Token → Doc × List Token
  | .after d, [], ts => (d, ts)
  | p, st, [] => (p.stop .broken st, [])
  | p, st, t :: ts =>
    match p.next? st t with
    | some (p, st) => readFrom p st ts
    | none => (p.stop t.doc st, ts)

/-- The document at the front of a text, and the tokens that follow it. -/
def readDoc (cs : List Char) : Doc × List Token := readFrom .value [] (tokens cs)

end EmergencyDial.Json
