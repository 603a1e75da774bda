import ClusterAudit.Yaml.Token.Property
import ClusterAudit.Yaml.Token.Scalar

/-!
# Cutting a YAML stream into tokens

The scanner keeps the columns of the open block collections and, for every open flow
collection, the place where a key may have started. A key is recognised only when its colon is
reached: the token that opens it is then put in front of the tokens read since, and, if the
column is new, the token that opens a block mapping in front of that.

`Token.scan` gives the tokens up to the first fault, and the fault. A token counts only once nothing
can be put in front of it any more, so a fault hides the tokens behind an open place for a key.
-/

namespace ClusterAudit.Yaml

/-- A place where a key may have started. -/
structure KeyPlace where
  /-- Whether it must be a key, because a block mapping cannot go on otherwise. -/
  required : Bool
  /-- How many tokens stand in front of it. -/
  position : Nat
  /-- How many bytes of the stream stand in front of it. -/
  index : Nat
  /-- Its line. -/
  line : Nat
  /-- Its column. -/
  column : Nat
deriving Inhabited

/-- What the scanner knows between two tokens. -/
structure Scanner where
  /-- Where it stands. -/
  cursor : Cursor
  /-- The tokens so far, in reverse. -/
  tokens : List Token := []
  /-- How many they are. -/
  size : Nat := 0
  /-- Whether a key may start here. -/
  keyAllowed : Bool := true
  /-- Where keys may have started: one place for every open flow collection and one for the block
  around them, innermost first. -/
  keys : List (Option KeyPlace) := [none]
  /-- The column of the innermost block collection. -/
  indent : Int := -1
  /-- The columns of the block collections around it. -/
  outer : List Int := []
deriving Inhabited

namespace Scanner

/-- Whether a flow collection is open. -/
def inFlow (s : Scanner) : Bool :=
  1 < s.keys.length

/-- Put a token behind those so far. -/
def push (t : Token) (s : Scanner) : Scanner :=
  { s with tokens := t :: s.tokens, size := s.size + 1 }

/-- Put a token behind the first `position` ones. -/
def insert (position : Nat) (t : Token) (s : Scanner) : Scanner :=
  { s with tokens := s.tokens.insertIdx (s.size - position) t, size := s.size + 1 }

/-- Stand somewhere else. -/
def goto (c : Cursor) (s : Scanner) : Scanner :=
  { s with cursor := c }

/-- Say whether a key may start here. -/
def allowKey (allowed : Bool) (s : Scanner) : Scanner :=
  { s with keyAllowed := allowed }

/-! ### Indentation -/

/-- Close the first of the open block collections that are deeper than `column`, and so on. -/
def closeBlocks (column : Int) : List Int → Scanner → Scanner
  | [], s => s
  | i :: outer, s =>
    if column < s.indent then closeBlocks column outer { s.push .blockEnd with indent := i, outer }
    else s

/-- Close the block collections that are deeper than `column`. -/
def unroll (column : Int) (s : Scanner) : Scanner :=
  if s.inFlow then s else closeBlocks column s.outer s

/-- Open a block collection at `column` unless one is open there; its token goes behind the first
`position` ones. -/
def roll (column position : Nat) (t : Token) (s : Scanner) : Scanner :=
  if s.inFlow then s
  else if s.indent < column then
    { s.insert position t with indent := column, outer := s.indent :: s.outer }
  else s

/-! ### Keys -/

/-- Forget a place where a key may have started; if it had to be one, that is a fault. -/
def dropKey (s : Scanner) : Except Fault Scanner :=
  match s.keys with
  | some k :: rest =>
    if k.required then .error .unfinishedKey else .ok { s with keys := none :: rest }
  | _ => .ok s

/-- Remember this place as one where a key may start. -/
def markKey (s : Scanner) : Except Fault Scanner :=
  if s.keyAllowed then do
    let c := s.cursor
    let s ← s.dropKey
    let required := !s.inFlow && s.indent == c.column
    return { s with keys := some ⟨required, s.size, c.index, c.line, c.column⟩ :: s.keys.drop 1 }
  else return s

/-- Whether a place is on an earlier line or more than 1024 bytes back, which is too far for a key
that is still to be recognised. -/
def isStale (s : Scanner) (k : KeyPlace) : Bool :=
  k.line < s.cursor.line || k.index + 1024 < s.cursor.index

/-- Forget the places where no key can have started any more. -/
def dropStaleKeys (s : Scanner) : Except Fault Scanner := do
  let keys ← s.keys.mapM fun k? =>
    match k? with
    | some k =>
      if s.isStale k then
        if k.required then throw Fault.unfinishedKey else pure none
      else pure (some k)
    | none => pure none
  return { s with keys }

/-- The tokens in front of which nothing can be put any more: those before the first place where a
key may still have started. -/
def settled (s : Scanner) : List Token :=
  let waiting := s.keys.filterMap fun k? =>
    (k?.filter fun k => k.required || !s.isStale k).map (·.position)
  s.tokens.reverse.take (waiting.foldl min s.size)

/-! ### Single tokens -/

/-- A token of `width` characters. -/
def take (width : Nat) (t : Token) (s : Scanner) : Scanner :=
  (s.push t).goto (s.cursor.advance width)

/-- The end of the stream. -/
def finish (s : Scanner) : Except Fault Scanner := do
  let s ← (s.unroll (-1)).dropKey
  return s.push .streamEnd

/-- A directive. -/
def fetchDirective (s : Scanner) : Except Fault Scanner := do
  let s ← (s.unroll (-1)).dropKey
  let (t, c) ← directive s.cursor
  return ((s.allowKey false).push t).goto c

/-- A mark in front of a document or behind one. -/
def fetchDocumentMark (t : Token) (s : Scanner) : Except Fault Scanner := do
  let s ← (s.unroll (-1)).dropKey
  return (s.allowKey false).take 3 t

/-- A bracket or brace that opens a flow collection. -/
def openFlow (t : Token) (s : Scanner) : Except Fault Scanner := do
  let s ← s.markKey
  return ({ s with keys := none :: s.keys, keyAllowed := true } : Scanner).take 1 t

/-- A bracket or brace that closes a flow collection. -/
def closeFlow (t : Token) (s : Scanner) : Except Fault Scanner := do
  let s ← s.dropKey
  let keys := if s.inFlow then s.keys.drop 1 else s.keys
  return ({ s with keys, keyAllowed := false } : Scanner).take 1 t

/-- A comma. -/
def fetchFlowEntry (s : Scanner) : Except Fault Scanner := do
  let s ← s.dropKey
  return (s.allowKey true).take 1 .flowEntry

/-- A dash in front of an item. -/
def fetchBlockEntry (s : Scanner) : Except Fault Scanner := do
  if !s.inFlow && !s.keyAllowed then throw .misplacedEntry
  let s ← (s.roll s.cursor.column s.size .blockSequenceStart).dropKey
  return (s.allowKey true).take 1 .blockEntry

/-- A question mark in front of a key. -/
def fetchKey (s : Scanner) : Except Fault Scanner := do
  if !s.inFlow && !s.keyAllowed then throw .misplacedKey
  let s ← (s.roll s.cursor.column s.size .blockMappingStart).dropKey
  return (s.allowKey (!s.inFlow)).take 1 .key

/-- A colon in front of a value. -/
def fetchValue (s : Scanner) : Except Fault Scanner :=
  match s.keys with
  | some k :: rest =>
    let s := (s.insert k.position .key).roll k.column k.position .blockMappingStart
    .ok (({ s with keys := none :: rest, keyAllowed := false } : Scanner).take 1 .value)
  | _ =>
    if !s.inFlow && !s.keyAllowed then .error .misplacedValue
    else
      let s := s.roll s.cursor.column s.size .blockMappingStart
      .ok ((s.allowKey (!s.inFlow)).take 1 .value)

/-- An anchor, or an alias. -/
def fetchAnchor (make : String → Token) (s : Scanner) : Except Fault Scanner := do
  let s ← s.markKey
  let (name, c) ← anchorName s.cursor
  return ((s.allowKey false).push (make name)).goto c

/-- A tag. -/
def fetchTag (s : Scanner) : Except Fault Scanner := do
  let s ← s.markKey
  let (t, c) ← tagToken s.inFlow s.cursor
  return ((s.allowKey false).push t).goto c

/-- A block scalar. -/
def fetchBlockScalar (literal : Bool) (s : Scanner) : Except Fault Scanner := do
  let s ← s.dropKey
  let (text, c) ← blockScalar literal s.indent s.cursor
  return ((s.allowKey true).push (.scalar text (if literal then .literal else .folded))).goto c

/-- A quoted scalar. -/
def fetchQuoted (single : Bool) (s : Scanner) : Except Fault Scanner := do
  let s ← s.markKey
  let (text, c) ← quotedScalar single s.cursor
  return ((s.allowKey false).push
    (.scalar text (if single then .singleQuoted else .doubleQuoted))).goto c

/-- A plain scalar. A key may start behind it only if it was left at the start of a line. -/
def fetchPlain (s : Scanner) : Except Fault Scanner := do
  let s ← s.markKey
  let (text, broken, c) ← plainScalar s.inFlow s.indent s.cursor
  return ((s.allowKey broken).push (.scalar text .plain)).goto c

/-! ### The next token -/

/-- The start of the next token: behind blanks, comments and ends of line. Outside flow collections
a key may start on a new line, and a tab counts as blank only where no key may. -/
def skipSpace : Nat → Scanner → Scanner
  | 0, s => s
  | fuel + 1, s =>
    let c := if s.cursor.column == 0 && s.cursor.at? '\ufeff' then s.cursor.next else s.cursor
    let tabs := s.inFlow || !s.keyAllowed
    let c := (c.skipWhile fun ch => ch == ' ' || (tabs && ch == '\t')).skipComment
    if c.atBreak then
      skipSpace fuel { s with cursor := c.skipBreak, keyAllowed := !s.inFlow || s.keyAllowed }
    else { s with cursor := c }

/-- Whether a plain scalar starts here. -/
def atPlain (s : Scanner) : Bool :=
  let c := s.cursor
  match c.head? with
  | none => false
  | some ch =>
    let special := "-?:,[]\x7b\x7d#&*!|>\x27\x22%@\x60".toList
    !(isBlank ch || isBreak ch || special.contains ch)
      || (ch == '-' && !(c.peek? 1).any isBlank)
      || (!s.inFlow && (ch == '?' || ch == ':') && !c.clearAt 1)

/-- The token that starts here. -/
def fetch (s : Scanner) : Except Fault Scanner :=
  let c := s.cursor
  let clear := c.clearAt 1
  if c.column == 0 && c.at? '%' then s.fetchDirective
  else if c.atDocumentMark then
    s.fetchDocumentMark (if c.at? '-' then .documentStart else .documentEnd)
  else match c.head? with
    | some '[' => s.openFlow .flowSequenceStart
    | some '{' => s.openFlow .flowMappingStart
    | some ']' => s.closeFlow .flowSequenceEnd
    | some '}' => s.closeFlow .flowMappingEnd
    | some ',' => s.fetchFlowEntry
    | some '*' => s.fetchAnchor .alias
    | some '&' => s.fetchAnchor .anchor
    | some '!' => s.fetchTag
    | some '\x27' => s.fetchQuoted true
    | some '\x22' => s.fetchQuoted false
    | some ch =>
      if ch == '-' && clear then s.fetchBlockEntry
      else if ch == '?' && (s.inFlow || clear) then s.fetchKey
      else if ch == ':' && (s.inFlow || clear) then s.fetchValue
      else if ch == '|' && !s.inFlow then s.fetchBlockScalar true
      else if ch == '>' && !s.inFlow then s.fetchBlockScalar false
      else if s.atPlain then s.fetchPlain
      else .error .unexpectedCharacter
    | none => .error .unexpectedCharacter

/-- Read the next token; the answer says first whether it ends the stream. -/
def step (s : Scanner) : Except Fault (Bool × Scanner) := do
  let s ← (s.skipSpace (s.cursor.left + 1)).dropStaleKeys
  let s := s.unroll s.cursor.column
  if s.cursor.atEnd then return (true, ← s.finish) else return (false, ← s.fetch)

/-- All tokens from here on, and the fault they end with, if any. Behind a fault only settled tokens
count. -/
def run : Nat → Scanner → List Token × Option Fault
  | 0, s => (s.tokens.reverse, none)
  | fuel + 1, s =>
    match s.step with
    | .error e => (s.settled, some e)
    | .ok (true, s) => (s.tokens.reverse, none)
    | .ok (false, s) => run fuel s

end Scanner

/-- **The tokens of a stream**, up to the first fault, and the fault if there is one. -/
def Token.scan (text : String) : List Token × Option Fault :=
  let cs := text.toList
  if cs.all isAllowed then Scanner.run (cs.length + 2) { cursor := { rest := cs } }
  else ([], some .controlCharacter)

end ClusterAudit.Yaml
