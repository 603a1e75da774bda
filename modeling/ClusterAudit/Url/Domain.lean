import ClusterAudit.Text.Composed
import ClusterAudit.Text.Direction
import ClusterAudit.Text.Joining
import ClusterAudit.Url.Domain.Folding
import ClusterAudit.Url.Percent
import ClusterAudit.Url.Punycode

/-!
# Names of hosts

The name of a host consists of labels with full stops between them. Its characters become what
`fold` makes of them, and the text is composed. A label outside ASCII is sent in a coded form behind
`xn--`, and a label that comes in its coded form has to stand for one that would be sent so.

What looks like another name is refused: a label begins with no mark, characters that only say how
letters join stand where they make a difference (`joinersFit`), and in a name with a script that
runs from right to left every label has one direction (`directionFits`).
-/

namespace ClusterAudit.Url.Domain

open Text

/-- Whether a character is one of ASCII. -/
def isAscii (c : Char) : Bool :=
  c.toNat < 0x80

/-- Whether a character of ASCII must not stand in a name. -/
def isForbidden (c : Char) : Bool :=
  isControl c || " #/:<>?@[\\]^|%".toList.contains c

/-! ### Joiners -/

/-- Whether the first character of a text that marks leave in sight joins its neighbours as
asked. -/
def joins (asked : Joining → Bool) : List Char → Bool
  | [] => false
  | c :: cs =>
    asked (Joining.ofChar c) || (Joining.ofChar c == .transparent && joins asked cs)

/-- Whether a joiner or non-joiner may stand behind the text `before`, which is in reverse, and in
front of the text `behind`: both make a difference behind a virama, and a non-joiner also between
letters that would join. -/
def joinerFits (c : Char) (before behind : List Char) : Bool :=
  before.head?.any isVirama || (c = '\u200c'
    && joins (fun j => j == .both || j == .following) before
    && joins (fun j => j == .both || j == .preceding) behind)

/-- Whether all joiners and non-joiners of a text fit behind the text `before`, which is in
reverse. -/
def joinersFit (before : List Char) : List Char → Bool
  | [] => true
  | c :: cs =>
    ((c ≠ '\u200c' && c ≠ '\u200d') || joinerFits c before cs) && joinersFit (c :: before) cs

/-! ### Directions -/

/-- Whether a character makes a name one with a direction. -/
def runsLeftward (c : Char) : Bool :=
  match Direction.ofChar c with
  | .right | .arabicDigit => true
  | _ => false

/-- Whether a label has one direction. Its first character says which, nothing in it runs the other
way, it does not end in a sign, and digits of two kinds do not meet from right to left. -/
def directionFits (cs : List Char) : Bool :=
  match cs.map Direction.ofChar with
  | [] => true
  | first :: rest =>
    let rest := dropTail (· == .mark) rest
    let has (d : Direction) : Bool := rest.contains d
    let endsIn (ds : List Direction) : Bool := rest.getLast?.all ds.contains
    match first with
    | .left => endsIn [.left, .europeanDigit] && !has .right && !has .arabicDigit
    | .right =>
      endsIn [.right, .europeanDigit, .arabicDigit] && !has .left
        && !(has .europeanDigit && has .arabicDigit)
    | _ => false

/-! ### Labels -/

/-- A label of a name. -/
structure Label where
  /-- The characters that the label stands for. -/
  chars : List Char
  /-- The label in ASCII. -/
  ascii : List Char
deriving DecidableEq, Repr, Inhabited

namespace Label

/-- What stands in front of the coded form of a label. -/
def codeMark : List Char := "xn--".toList

/-- How many characters of a coded form are read. -/
def longestCode : Nat := 2000

/-- How many characters are coded. -/
def longestCoded : Nat := 1000

/-- Whether a text outside ASCII may be a label. -/
def isSound (cs : List Char) : Bool :=
  !cs.head?.any isMark && joinersFit [] cs

/-- The label that a coded form stands for. It is composed, its characters stay what they are in
names, and it needs the code. -/
def decoded? (code : List Char) : Option (List Char) :=
  if code.all isAscii && code.length ≤ longestCode && code.getLast? ≠ some '-' then
    (Punycode.decode? code).filter fun cs =>
      !cs.all isAscii && cs.all (fun c => fold c == some [c] && c ≠ '.' && !isForbidden c)
        && composed cs == cs && isSound cs
  else none

/-- The characters that a label stands for. -/
def meaning? (cs : List Char) : Option (List Char) :=
  if cs.any isForbidden then none
  else if codeMark.isPrefixOf cs then decoded? (cs.drop codeMark.length)
  else if cs.all isAscii || isSound cs then some cs
  else none

/-- The form in ASCII of a label that stands for these characters. -/
def coded? (cs : List Char) : Option (List Char) :=
  if cs.all isAscii then some cs
  else if cs.length ≤ longestCoded then some (codeMark ++ Punycode.encode cs)
  else none

/-- The label of a text in ASCII, which keeps its form. -/
def ofAscii? (cs : List Char) : Option Label := do
  return { chars := ← meaning? cs, ascii := cs }

/-- The label of a composed text. -/
def ofComposed? (cs : List Char) : Option Label := do
  let chars ← meaning? cs
  return { chars, ascii := ← coded? chars }

/-- The labels of what stands between full stops: one, unless a character becomes a full stop. -/
def ofPiece? (cs : List Char) : Option (List Label) := do
  let folded := (← cs.mapM fold).flatten
  if cs.all isAscii then return [← ofAscii? folded]
  else (pieces '.' (composed folded)).mapM ofComposed?

end Label

/-! ### Names -/

/-- **The name in ASCII of a name.** -/
def ascii? (cs : List Char) : Option (List Char) := do
  let labels := (← (pieces '.' cs).mapM Label.ofPiece?).flatten
  if (labels.any fun l => l.chars.any runsLeftward)
      && !labels.all (fun l => directionFits l.chars) then none
  else return ((labels.map Label.ascii).intersperse ['.']).flatten

end ClusterAudit.Url.Domain
