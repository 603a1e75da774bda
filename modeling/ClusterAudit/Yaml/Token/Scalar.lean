import ClusterAudit.Text.Basic
import ClusterAudit.Yaml.Token.Cursor

/-!
# Cutting scalars out of a YAML stream

A scalar that goes over several lines is folded: the blanks around an end of line are dropped,
a single end of line becomes a space, and of several ends of line all but the first stay. `Gap`
is what stands between two runs of characters of a plain or quoted scalar. In a literal scalar
every end of line stays, and in a folded one those between two lines that start with text
fold.
-/

namespace ClusterAudit.Yaml

open Text

/-! ### Gaps -/

/-- The blanks and ends of line between two runs of characters. -/
structure Gap where
  /-- The blanks before the first end of line, in reverse. -/
  blanks : List Char := []
  /-- Whether a line ends in the gap. -/
  broken : Bool := false
  /-- What the first end of line stands for. -/
  first : List Char := []
  /-- What the other ends of line stand for, in reverse. -/
  more : List Char := []
deriving Inhabited

namespace Gap

/-- What a gap becomes inside the scalar. -/
def fold (g : Gap) : List Char :=
  if g.broken then
    if g.first.head? == some '\n' then (if g.more.isEmpty then [' '] else g.more.reverse)
    else g.first ++ g.more.reverse
  else g.blanks.reverse

/-- Read on through blanks and ends of line. Where `indent` is given, a tab in front of that column
on a line of its own is refused. -/
def read (indent : Option Int) : Nat → Gap → Cursor → Except Fault (Gap × Cursor)
  | 0, g, c => .ok (g, c)
  | fuel + 1, g, c =>
    match c.head? with
    | none => .ok (g, c)
    | some ch =>
      if isBlank ch then
        if g.broken && ch == '\t' && indent.any fun i => decide ((c.column : Int) < i) then
          .error .tabIndentation
        else read indent fuel (if g.broken then g else { g with blanks := ch :: g.blanks }) c.next
      else if isBreak ch then
        let (text, c) := c.readBreak
        if g.broken then read indent fuel { g with more := text.reverse ++ g.more } c
        else read indent fuel { g with blanks := [], broken := true, first := text } c
      else .ok (g, c)

end Gap

/-! ### Plain scalars -/

/-- Whether a character has a meaning of its own inside a flow collection. -/
def isFlowIndicator (c : Char) : Bool :=
  c = ',' || c = '[' || c = ']' || c = '{' || c = '}'

/-- The characters of a plain scalar up to a blank, an end of line or an indicator that ends it. A
colon inside a flow collection must not have an indicator right behind it. -/
def plainRun (flow : Bool) : List Char → Except Fault (List Char)
  | [] => .ok []
  | c :: cs =>
    if isBlank c || isBreak c then .ok []
    else if flow && c == ':' && cs.head?.any (fun d => isFlowIndicator d || d == '?') then
      .error .unexpectedColon
    else if c == ':' && cs.head?.all (fun d => isBlank d || isBreak d) then .ok []
    else if flow && isFlowIndicator c then .ok []
    else (plainRun flow cs).map (c :: ·)

/-- Read on through a plain scalar whose characters so far are `done`, in reverse, with `gap` behind
them. The answer says also whether the reading stopped at the start of a line. -/
def plainFrom (flow : Bool) (indent : Int) :
    Nat → List Char → Gap → Cursor → Except Fault (List Char × Bool × Cursor)
  | 0, done, gap, c => .ok (done, gap.broken, c)
  | fuel + 1, done, gap, c => do
    if c.atDocumentMark || c.at? '#' then return (done, gap.broken, c)
    let run ← plainRun flow c.rest
    let c := c.advance run.length
    let (done, broken) :=
      if run.isEmpty then (done, gap.broken)
      else (run.reverse ++ gap.fold.reverse ++ done, false)
    if !(c.atBlank || c.atBreak) then return (done, broken, c)
    let (gap, c) ← Gap.read (some indent) (c.left + 1) {} c
    if !flow && decide ((c.column : Int) < indent) then return (done, gap.broken, c)
    plainFrom flow indent fuel done gap c

/-- **The plain scalar that starts here**, in a block indented by `indent` columns or inside a flow
collection, and whether the place behind it is the start of a line. -/
def plainScalar (flow : Bool) (indent : Int) (c : Cursor) :
    Except Fault (String × Bool × Cursor) := do
  let (done, broken, c) ← plainFrom flow (indent + 1) (c.left + 1) [] {} c
  return (String.ofList done.reverse, broken, c)

/-! ### Quoted scalars -/

/-- The character that a one-letter escape stands for. -/
def escaped : Char → Option Char
  | '0' => some '\x00'
  | 'a' => some '\x07'
  | 'b' => some '\x08'
  | 't' => some '\t'
  | '\t' => some '\t'
  | 'n' => some '\n'
  | 'v' => some '\x0b'
  | 'f' => some '\x0c'
  | 'r' => some '\r'
  | 'e' => some '\x1b'
  | ' ' => some ' '
  | '\x22' => some '\x22'
  | '/' => some '/'
  | '\\' => some '\\'
  | 'N' => some '\u0085'
  | '_' => some '\u00a0'
  | 'L' => some '\u2028'
  | 'P' => some '\u2029'
  | _ => none

/-- How many hexadecimal digits follow an escape of this letter. -/
def escapeWidth : Char → Option Nat
  | 'x' => some 2
  | 'u' => some 4
  | 'U' => some 8
  | _ => none

/-- Whether a number is a character. -/
def isCharacter (n : Nat) : Bool :=
  n < 0xD800 || (decide (0xE000 ≤ n) && decide (n < 0x110000))

/-- The character whose number is the first `width` of these hexadecimal digits. -/
def numbered (digits : List Char) (width : Nat) : Except Fault Char :=
  match natIn 16 (digits.take width) with
  | some n =>
    if decide (width ≤ digits.length) && isCharacter n then .ok (Char.ofNat n)
    else .error .unknownEscape
  | none => .error .unknownEscape

/-- Read on through the characters of a quoted scalar up to a blank, an end of line or the closing
quote. The characters so far are `done`, in reverse; the answer says also whether the run ended at
a backslash in front of an end of line. -/
def quotedRun (single : Bool) : Nat → List Char → Cursor → Except Fault (List Char × Bool × Cursor)
  | 0, done, c => .ok (done, false, c)
  | fuel + 1, done, c =>
    match c.rest with
    | [] => .ok (done, false, c)
    | ch :: rest =>
      if isBlank ch || isBreak ch then .ok (done, false, c)
      else if single && ch == '\x27' then
        if rest.head? == some '\x27' then quotedRun single fuel ('\x27' :: done) (c.advance 2)
        else .ok (done, false, c)
      else if !single && ch == '\x22' then .ok (done, false, c)
      else if !single && ch == '\\' then
        match rest with
        | [] => .error .unknownEscape
        | e :: digits =>
          if isBreak e then .ok (done, true, c.next.skipBreak)
          else match escaped e, escapeWidth e with
            | some x, _ => quotedRun single fuel (x :: done) (c.advance 2)
            | none, some width =>
              (numbered digits width).bind fun x =>
                quotedRun single fuel (x :: done) (c.advance (2 + width))
            | none, none => .error .unknownEscape
      else quotedRun single fuel (ch :: done) c.next

/-- Read on through a quoted scalar whose opening quote has been read. -/
def quotedFrom (single : Bool) : Nat → List Char → Cursor → Except Fault (List Char × Cursor)
  | 0, _, _ => .error .unclosedQuote
  | fuel + 1, done, c => do
    if c.atDocumentMark || c.atEnd then throw .unclosedQuote
    let (done, broken, c) ← quotedRun single (c.left + 1) done c
    if c.at? (if single then '\x27' else '\x22') then return (done, c.next)
    let (gap, c) ← Gap.read none (c.left + 1) { broken } c
    quotedFrom single fuel (gap.fold.reverse ++ done) c

/-- **The quoted scalar that starts here** with its opening quote. -/
def quotedScalar (single : Bool) (c : Cursor) : Except Fault (String × Cursor) := do
  let (done, c) ← quotedFrom single (c.left + 1) [] c.next
  return (String.ofList done.reverse, c)

/-! ### Block scalars -/

/-- What happens to the ends of line behind the last line of text. -/
inductive Chomp where
  /-- All are dropped. -/
  | strip
  /-- One is kept. -/
  | clip
  /-- All are kept. -/
  | keep
deriving DecidableEq, Inhabited

/-- The header of a block scalar behind its first character: what to chomp and by how much the text
is indented. -/
def blockHeader (c : Cursor) : Except Fault (Chomp × Option Nat × Cursor) := do
  let chomp? (c : Cursor) : Option Chomp :=
    if c.at? '+' then some .keep else if c.at? '-' then some .strip else none
  let indent? (c : Cursor) : Except Fault (Option Nat) :=
    match c.head? with
    | some d =>
      if d == '0' then throw .malformedBlockHeader
      else if d.isDigit then return some (d.toNat - '0'.toNat)
      else return none
    | none => return none
  match chomp? c with
  | some chomp =>
    let c := c.next
    match ← indent? c with
    | some n => return (chomp, some n, c.next)
    | none => return (chomp, none, c)
  | none =>
    match ← indent? c with
    | some n =>
      let c := c.next
      match chomp? c with
      | some chomp => return (chomp, some n, c.next)
      | none => return (.clip, some n, c)
    | none => return (.clip, none, c)

/-- Read on through the blank lines of a block scalar and the indentation of the line behind them.
While the indentation is not known, `indent` is none and all spaces count. The answer is the ends
of line, in reverse, and the deepest column seen. -/
def blankLines (indent : Option Nat) :
    Nat → Nat → List Char → Cursor → Except Fault (Nat × List Char × Cursor)
  | 0, deepest, breaks, c => .ok (deepest, breaks, c)
  | fuel + 1, deepest, breaks, c =>
    let spaces := c.rest.takeWhile (· == ' ')
    let n := match indent with
      | none => spaces.length
      | some i => min spaces.length (i - c.column)
    let c := c.advance n
    let deepest := max deepest c.column
    if indent.all (fun i => decide (c.column < i)) && c.at? '\t' then .error .tabIndentation
    else if c.atBreak then
      let (text, c) := c.readBreak
      blankLines indent fuel deepest (text.reverse ++ breaks) c
    else .ok (deepest, breaks, c)

/-- Read on through the lines of a block scalar that is indented by `indent` columns. `done` are its
characters so far, in reverse, `first` the end of line behind them and `breaks` those that follow,
in reverse; `indented` says whether the last line started with a blank. -/
def blockLines (literal : Bool) (indent : Nat) :
    Nat → List Char → List Char → List Char → Bool → Cursor →
      Except Fault (List Char × List Char × List Char × Cursor)
  | 0, done, first, breaks, _, c => .ok (done, first, breaks, c)
  | fuel + 1, done, first, breaks, indented, c => do
    if c.column ≠ indent || c.atEnd then return (done, first, breaks, c)
    let blank := c.atBlank
    let joint : List Char :=
      if !literal && first.head? == some '\n' && !indented && !blank then
        if breaks.isEmpty then [' '] else []
      else first
    let (text, c) := c.run fun ch => !isBreak ch
    let done := text.reverse ++ breaks ++ joint.reverse ++ done
    let (first, c) := c.readBreak
    let (_, breaks, c) ← blankLines (some indent) (c.left + 1) 0 [] c
    blockLines literal indent fuel done first breaks blank c

/-- **The block scalar that starts here** with its first character, in a block indented by `outer`
columns. -/
def blockScalar (literal : Bool) (outer : Int) (c : Cursor) : Except Fault (String × Cursor) := do
  let (chomp, increment, c) ← blockHeader c.next
  let c := (c.skipWhile isBlank).skipComment
  if !(c.atEnd || c.atBreak) then throw .malformedBlockHeader
  let c := c.skipBreak
  let known : Option Nat := increment.map fun n => (if 0 ≤ outer then outer + n else n).toNat
  let (deepest, breaks, c) ← blankLines known (c.left + 1) 0 [] c
  let indent := known.getD (max deepest (max (outer + 1).toNat 1))
  let (done, first, breaks, c) ← blockLines literal indent (c.left + 1) [] [] breaks false c
  let done := if chomp == .strip then done else first.reverse ++ done
  let done := if chomp == .keep then breaks ++ done else done
  return (String.ofList done.reverse, c)

end ClusterAudit.Yaml
