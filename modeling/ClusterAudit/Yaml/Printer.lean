import ClusterAudit.Json.Printer
import ClusterAudit.Yaml.Scalar
import ClusterAudit.Yaml.Token.Cursor

/-!
# Writing YAML text

A document is written in block form: every entry of a mapping and every item of a list on lines
of its own, a list in a mapping as deep as its key, anything else two columns deeper, and empty
lists and mappings between brackets. Lines are never folded.

The style of a scalar is a wish. `TextTraits` records what stands against each style, and
`Style.granted` falls back to one that carries the text: plain text must not look like
structure, single quotes cannot carry characters that are not printable, and double quotes
carry everything.
-/

namespace ClusterAudit.Yaml

/-! ### What stands in a text -/

/-- Whether a character is written as it is between double quotes and outside quotes. -/
def isPrintable (c : Char) : Bool :=
  let n := c.toNat
  n = 0x0A || (decide (0x20 ≤ n) && decide (n ≤ 0x7E))
    || (decide (0xA0 ≤ n) && decide (n ≤ 0xFFFD) && decide (n ≠ 0xFEFF))

/-- Whether a character starts structure at the start of plain text, with `clear` saying whether a
blank, an end of line or nothing follows it. -/
def opensStructure (c : Char) (clear : Bool) : Bool :=
  "#,[]\x7b\x7d&*!|>\x27\x22%@\x60".toList.contains c || (clear && (c = '?' || c = ':' || c = '-'))

/-- Whether plain text that goes on with the given characters runs into structure; `afterBlank` says
whether a blank, or an end of line, stands in front of them. -/
def runsIntoStructure : Bool → List Char → Bool
  | _, [] => false
  | afterBlank, c :: cs =>
    let clear := cs.head?.all fun d => isBlank d || isBreak d
    (c = ':' && clear) || (c = '#' && afterBlank) || runsIntoStructure (isBlank c || isBreak c) cs

/-- Whether two characters that satisfy `p` and `q` stand side by side. -/
def hasPair (p q : Char → Bool) : List Char → Bool
  | a :: b :: rest => (p a && q b) || hasPair p q (b :: rest)
  | _ => false

/-- What matters about a text for the way it is written. -/
structure TextTraits where
  /-- Whether it may stand without quotes in a block collection. -/
  plain : Bool
  /-- Whether it may stand between single quotes. -/
  single : Bool
  /-- Whether it may be written as lines after a bar. -/
  block : Bool
  /-- Whether a line ends in it. -/
  multiline : Bool
deriving DecidableEq, Inhabited

/-- The traits of a text. -/
def TextTraits.of (cs : List Char) : TextTraits :=
  match cs with
  | [] => { plain := true, single := true, block := false, multiline := false }
  | c :: rest =>
    let space : Char → Bool := (· = ' ')
    let edge : Char → Bool := fun d => space d || isBreak d
    let multiline := cs.any isBreak
    let edges := edge c || (cs.getLast?.any edge)
    let special := cs.any (fun d => !isPrintable d) || hasPair space isBreak cs
    let breakSpace := hasPair isBreak space cs
    let clear := rest.head?.all fun d => isBlank d || isBreak d
    let structure? := opensStructure c clear || runsIntoStructure (isBlank c || isBreak c) rest
      || cs.take 3 == ['-', '-', '-'] || cs.take 3 == ['.', '.', '.']
    { plain := !(edges || breakSpace || special || multiline || structure?)
      single := !(breakSpace || special)
      block := !(cs.getLast?.any space || special)
      multiline }

/-- The style that a text of the given traits is written in when `wish` is asked for; as a key, text
must stay on one line. -/
def Style.granted (wish : Style) (t : TextTraits) (key empty : Bool) : Style :=
  let style := if key && t.multiline then .doubleQuoted else wish
  let style := if style = .plain && (!t.plain || (key && empty)) then .singleQuoted else style
  match style with
  | .singleQuoted => if t.single then .singleQuoted else .doubleQuoted
  | .literal | .folded => if !t.block || key then .doubleQuoted else .literal
  | s => s

/-! ### Scalars -/

/-- The one-letter escape of a character, if it has one. -/
def shortEscape (c : Char) : Option Char :=
  match c with
  | '\x00' => some '0'
  | '\x07' => some 'a'
  | '\x08' => some 'b'
  | '\t' => some 't'
  | '\n' => some 'n'
  | '\x0b' => some 'v'
  | '\x0c' => some 'f'
  | '\r' => some 'r'
  | '\x1b' => some 'e'
  | '\x22' => some '\x22'
  | '\\' => some '\\'
  | '\u0085' => some 'N'
  | '\u00a0' => some '_'
  | '\u2028' => some 'L'
  | '\u2029' => some 'P'
  | _ => none

/-- A character between double quotes. -/
def doubleQuotedChar (c : Char) : List Char :=
  if isPrintable c && !isBreak c && c ≠ '\x22' && c ≠ '\\' then [c]
  else match shortEscape c with
    | some e => ['\\', e]
    | none =>
      let n := c.toNat
      if n ≤ 0xFF then '\\' :: 'x' :: Text.hexPaddedUpper 2 n
      else if n ≤ 0xFFFF then '\\' :: 'u' :: Text.hexPaddedUpper 4 n
      else '\\' :: 'U' :: Text.hexPaddedUpper 8 n

/-- The characters of a text between single quotes, with lines after the first indented; `fresh`
says whether a line has just ended. -/
def singleQuotedChars (indent : Nat) : Bool → List Char → List Char
  | fresh, [] => if fresh then List.replicate indent ' ' else []
  | fresh, c :: cs =>
    if isBreak c then
      (if !fresh && c = '\n' then ['\n'] else []) ++ c :: singleQuotedChars indent true cs
    else (if fresh && c ≠ ' ' then List.replicate indent ' ' else [])
      ++ (if c = '\x27' then ['\x27'] else [])
      ++ c :: singleQuotedChars indent (fresh && c = ' ') cs

/-- The characters of a text after a bar, every line indented. -/
def literalChars (indent : Nat) : Bool → List Char → List Char
  | _, [] => []
  | fresh, c :: cs =>
    if isBreak c then c :: literalChars indent true cs
    else (if fresh then List.replicate indent ' ' else []) ++ c :: literalChars indent false cs

/-- The marks behind a bar: the depth of the indentation, when the text starts with a blank or an
end of line, and what becomes of the ends of line behind it. -/
def literalHeader (cs : List Char) : List Char :=
  (if cs.head?.any (fun c => c = ' ' || isBreak c) then ['2'] else []) ++
  (match cs.reverse with
    | [] => ['-']
    | c :: rest =>
      if !isBreak c then ['-']
      else match rest with
        | [] => ['+']
        | d :: _ => if isBreak d then ['+'] else [])

/-- A text in the style it is granted, with further lines `indent` columns deep. -/
def scalarChars (indent : Nat) (key : Bool) (wish : Style) (text : String) : List Char :=
  let cs := text.toList
  match wish.granted (TextTraits.of cs) key cs.isEmpty with
  | .plain => cs
  | .singleQuoted => '\x27' :: singleQuotedChars indent false cs ++ ['\x27']
  | .doubleQuoted => '\x22' :: cs.flatMap doubleQuotedChar ++ ['\x22']
  | .literal | .folded => '|' :: literalHeader cs ++ '\n' :: literalChars indent true cs

/-! ### Nodes -/

/-- The characters with an end of line behind them, unless there is one already. -/
def terminated (cs : List Char) : List Char :=
  if cs.getLast?.any isBreak then cs else cs ++ ['\n']

namespace Node

mutual

/-- What stands behind the colon of a key that is `indent` columns deep. -/
def afterKey (indent : Nat) : Node → List Char
  | .scalar _ style text => terminated (' ' :: scalarChars (indent + 2) false style text)
  | .sequence _ [] => [' ', '[', ']', '\n']
  | .sequence _ (n :: ns) => '\n' :: blockItems indent (n :: ns)
  | .mapping _ [] => [' ', '{', '}', '\n']
  | .mapping _ (e :: es) => '\n' :: blockEntries (indent + 2) (e :: es)

/-- What stands behind the dash of an item that is `indent` columns deep. -/
def afterDash (indent : Nat) : Node → List Char
  | .scalar _ style text => terminated (' ' :: scalarChars (indent + 2) false style text)
  | .sequence _ [] => [' ', '[', ']', '\n']
  | .sequence _ (n :: ns) => ' ' :: '-' :: afterDash (indent + 2) n ++ blockItems (indent + 2) ns
  | .mapping _ [] => [' ', '{', '}', '\n']
  | .mapping _ (e :: es) => ' ' :: entryText (indent + 2) e ++ blockEntries (indent + 2) es

/-- A key with its value. -/
def entryText (indent : Nat) : Node × Node → List Char
  | (k, v) => keyText k ++ ':' :: afterKey indent v

/-- A key, which is a scalar. -/
def keyText : Node → List Char
  | .scalar _ style text => scalarChars 0 true style text
  | _ => []

/-- The items of a list, each on its lines. -/
def blockItems (indent : Nat) : List Node → List Char
  | [] => []
  | n :: ns => List.replicate indent ' ' ++ '-' :: afterDash indent n ++ blockItems indent ns

/-- The entries of a mapping, each on its lines. -/
def blockEntries (indent : Nat) : List (Node × Node) → List Char
  | [] => []
  | e :: es => List.replicate indent ' ' ++ entryText indent e ++ blockEntries indent es

end

/-- **A document as text.** -/
def render : Node → String
  | .scalar _ style text => String.ofList (terminated (scalarChars 0 false style text))
  | .sequence _ [] => "[]\n"
  | .sequence _ (n :: ns) => String.ofList (blockItems 0 (n :: ns))
  | .mapping _ [] => "\x7b\x7d\n"
  | .mapping _ (e :: es) => String.ofList (blockEntries 0 (e :: es))

/-! ### Documents of other formats -/

mutual

/-- The node of a JSON document. Text is written so that it reads back as text. -/
def ofJson : Json → Node
  | .array items => .sequence none (ofJsonItems items)
  | .object fields => .mapping none (ofJsonFields fields)
  | .string s => .scalar none (Style.forText s) s
  | .null => .scalar none .plain "null"
  | .bool b => .scalar none .plain (if b then "true" else "false")
  | .int n => .scalar none .plain (toString n)
  | .real x => .scalar none .plain (Json.realText x)

/-- The nodes of the items of a list. -/
def ofJsonItems : List Json → List Node
  | [] => []
  | x :: xs => ofJson x :: ofJsonItems xs

/-- The entries of the fields of an object. -/
def ofJsonFields : List (String × Json) → List (Node × Node)
  | [] => []
  | (k, x) :: fs => (.scalar none (Style.forText k) k, ofJson x) :: ofJsonFields fs

end

end Node

end ClusterAudit.Yaml
