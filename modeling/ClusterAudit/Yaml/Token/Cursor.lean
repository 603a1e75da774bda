import ClusterAudit.Yaml.Token.Basic

/-!
# A place in a YAML stream

A cursor is the text still to be read together with its length and with the line and column it
starts at. The length bounds every loop over the text, and that it is right is part of the type.
Five characters end a line, and a carriage return with a line feed after it is one end. When an end
of line becomes part of a scalar it is a line feed, except that the two separators of lines and
paragraphs stay what they are.
-/

namespace ClusterAudit.Yaml

/-- Whether a character ends a line. -/
def isBreak (c : Char) : Bool :=
  c = '\n' || c = '\r' || c = '\u0085' || c = '\u2028' || c = '\u2029'

/-- Whether a character is a space or a tab. -/
def isBlank (c : Char) : Bool :=
  c = ' ' || c = '\t'

/-- Whether a character may stand in the name of an anchor or of a tag handle. -/
def isWord (c : Char) : Bool :=
  c.isAlphanum || c = '-' || c = '_'

/-- Whether a character may stand in a stream at all. -/
def isAllowed (c : Char) : Bool :=
  let n := c.toNat
  n = 0x09 || n = 0x0A || n = 0x0D || (decide (0x20 ≤ n) && decide (n ≤ 0x7E)) || n = 0x85
    || (decide (0xA0 ≤ n) && decide (n ≤ 0xFFFD)) || decide (0x10000 ≤ n)

/-- How many bytes the first `n` characters of a text take. -/
def widthOf : Nat → List Char → Nat
  | n + 1, c :: cs => c.utf8Size + widthOf n cs
  | _, _ => 0

/-- A place in a stream. -/
structure Cursor where
  /-- The text from here on. -/
  rest : List Char
  /-- How many characters the text from here on has. It is kept, so that a bound on what is still to
  be read costs nothing. -/
  left : Nat := rest.length
  /-- How many bytes stand before this place. -/
  index : Nat := 0
  /-- How many lines end before this place. -/
  line : Nat := 0
  /-- How many characters of the line stand before this place. -/
  column : Nat := 0
  /-- The count is right. -/
  left_eq : left = rest.length := by rfl

namespace Cursor

instance : Inhabited Cursor := ⟨{ rest := [] }⟩

/-- The character here. -/
def head? (c : Cursor) : Option Char := c.rest.head?

/-- The character `n` places further on. -/
def peek? (c : Cursor) (n : Nat) : Option Char := (c.rest.drop n).head?

/-- Whether `ch` stands here. -/
def at? (c : Cursor) (ch : Char) : Bool := c.head? == some ch

/-- Whether the text ends here. -/
def atEnd (c : Cursor) : Bool := c.rest.isEmpty

/-- Whether a space or a tab stands here. -/
def atBlank (c : Cursor) : Bool := c.head?.any isBlank

/-- Whether a line ends here with a character. -/
def atBreak (c : Cursor) : Bool := c.head?.any isBreak

/-- Whether the place `n` characters on holds a blank, or ends a line or the text. -/
def clearAt (c : Cursor) (n : Nat) : Bool := (c.peek? n).all fun ch => isBlank ch || isBreak ch

/-- The place after `n` characters of the same line. -/
def advance (c : Cursor) (n : Nat) : Cursor where
  rest := c.rest.drop n
  left := c.left - n
  index := c.index + widthOf n c.rest
  line := c.line
  column := c.column + n
  left_eq := by rw [c.left_eq, List.length_drop]

/-- The start of the line that begins `n` characters further on. -/
def nextLine (c : Cursor) (n : Nat) : Cursor :=
  { c.advance n with line := c.line + 1, column := 0 }

/-- The place after one character of the same line. -/
def next (c : Cursor) : Cursor := c.advance 1

/-- The place after the run of characters that satisfy `p`, none of which ends a line, and the
run. -/
def run (c : Cursor) (p : Char → Bool) : List Char × Cursor :=
  let taken := c.rest.takeWhile p
  (taken, c.advance taken.length)

/-- The place after the run of characters that satisfy `p`. -/
def skipWhile (c : Cursor) (p : Char → Bool) : Cursor := (c.run p).2

/-- The start of the next line, when a line ends here, and what the end of line stands for inside a
scalar. -/
def readBreak (c : Cursor) : List Char × Cursor :=
  match c.rest with
  | '\r' :: '\n' :: _ => (['\n'], c.nextLine 2)
  | '\r' :: _ => (['\n'], c.nextLine 1)
  | '\n' :: _ => (['\n'], c.nextLine 1)
  | '\u0085' :: _ => (['\n'], c.nextLine 1)
  | '\u2028' :: _ => (['\u2028'], c.nextLine 1)
  | '\u2029' :: _ => (['\u2029'], c.nextLine 1)
  | _ => ([], c)

/-- The start of the next line, when a line ends here. -/
def skipBreak (c : Cursor) : Cursor := c.readBreak.2

/-- The place after a comment, when one starts here. -/
def skipComment (c : Cursor) : Cursor :=
  if c.at? '#' then c.skipWhile fun ch => !isBreak ch else c

/-- Whether a line of three dashes or of three dots starts here. -/
def atDocumentMark (c : Cursor) : Bool :=
  c.column == 0 && c.clearAt 3
    && (c.rest.take 3 == ['-', '-', '-'] || c.rest.take 3 == ['.', '.', '.'])

end Cursor

end ClusterAudit.Yaml
