import ClusterAudit.Text.Basic
import ClusterAudit.Text.Utf8
import ClusterAudit.Yaml.Token.Cursor

/-!
# Anchors, tags and directives in a YAML stream

An anchor names a node and an alias stands for a named node. A tag is a handle between
exclamation marks and a suffix, or a whole address between angle brackets. The two directives
name the version of the language and introduce further tag handles; any other one is refused.
-/

namespace ClusterAudit.Yaml

open Text

/-! ### Anchors and aliases -/

/-- Whether a character may stand right behind the name of an anchor. -/
def endsName (c : Char) : Bool :=
  isBlank c || isBreak c || "?:,]\x7d%@\x60".toList.contains c

/-- The name behind the first character of an anchor or an alias. -/
def anchorName (c : Cursor) : Except Fault (String × Cursor) :=
  let (name, c) := c.next.run isWord
  if name.isEmpty || !c.head?.all endsName then .error .malformedAnchor
  else .ok (String.ofList name, c)

/-! ### Tags -/

/-- Whether a character may stand in a tag. Brackets and commas may only where the tag cannot run
into a flow collection. -/
def isTagChar (whole : Bool) (c : Char) : Bool :=
  isWord c || ";/?:@&=+$.%!~*\x27()".toList.contains c || (whole && [',', '[', ']'].contains c)

/-- The bytes written as percent signs with two digits each, at the start of a text, and what
follows them; at most `n`. -/
def octets : Nat → List Char → Option (List UInt8 × List Char)
  | 0, cs => some ([], cs)
  | n + 1, '%' :: a :: b :: rest => do
    let x ← natIn 16 [a, b]
    let (bs, rest) ← octets n rest
    return (UInt8.ofNat x :: bs, rest)
  | _ + 1, _ => none

/-- How many bytes a spelled character has whose first one is `b`. Only the high bits count, so what
is spelled need not be a character. -/
def spelledWidth (b : UInt8) : Option Nat :=
  if b < 0x80 then some 1
  else if 0xC0 ≤ b && b < 0xE0 then some 2
  else if 0xE0 ≤ b && b < 0xF0 then some 3
  else if 0xF0 ≤ b && b < 0xF8 then some 4
  else none

/-- The bytes of a character written as percent signs with two digits each. -/
def spelledChar (cs : List Char) : Except Fault (List UInt8) := do
  let some ([b], _) := octets 1 cs | throw .malformedTag
  let some width := spelledWidth b | throw .malformedTag
  let some (bytes, _) := octets width cs | throw .malformedTag
  if (bytes.drop 1).all fun x => x &&& 0xC0 == 0x80 then return bytes
  else throw .malformedTag

/-- Read on through the characters of a tag, whose bytes so far are `done`, in reverse. -/
def tagChars (whole : Bool) : Nat → List UInt8 → Cursor → Except Fault (List UInt8 × Cursor)
  | 0, done, c => .ok (done.reverse, c)
  | fuel + 1, done, c =>
    match c.head? with
    | none => .ok (done.reverse, c)
    | some ch =>
      if ch == '%' then do
        let bytes ← spelledChar c.rest
        tagChars whole fuel (bytes.reverse ++ done) (c.advance (3 * bytes.length))
      else if isTagChar whole ch then tagChars whole fuel (Utf8.encodeChar ch ++ done) c.next
      else .ok (done.reverse, c)

/-- The tag characters from here on, behind those in `start`; there must be at least one in all. -/
def tagText (whole : Bool) (start : List Char) (c : Cursor) : Except Fault (Tag × Cursor) := do
  let (text, c) ← tagChars whole (c.left + 1) [] c
  if start.isEmpty && text.isEmpty then throw .malformedTag
  return (.ofBytes (Utf8.encode (start.drop 1) ++ text), c)

/-- The handle that starts here with an exclamation mark. -/
def tagHandle (directive : Bool) (c : Cursor) : Except Fault (List Char × Cursor) := do
  if !c.at? '!' then throw .malformedTag
  let (name, c) := c.next.run isWord
  if c.at? '!' then return ('!' :: name ++ ['!'], c.next)
  if directive && !name.isEmpty then throw .malformedTag
  return ('!' :: name, c)

/-- The tag that starts here. -/
def tagToken (flow : Bool) (c : Cursor) : Except Fault (Token × Cursor) := do
  let (handle, suffix, c) ←
    if c.peek? 1 == some '<' then do
      let (text, c) ← tagText true [] (c.advance 2)
      if !c.at? '>' then throw .malformedTag
      pure (([] : List Char), text, c.next)
    else do
      let (handle, c) ← tagHandle false c
      if 1 < handle.length && handle.getLast? == some '!' then
        let (suffix, c) ← tagText false [] c
        pure (handle, suffix, c)
      else
        let (suffix, c) ← tagText false handle c
        if suffix.bytes.isEmpty then pure ([], .ofString "!", c) else pure (['!'], suffix, c)
  if (flow && c.at? ',') || c.clearAt 0 then
    return (.tag (String.ofList handle) suffix, c)
  else throw .malformedTag

/-! ### Directives -/

/-- A number of at most nine digits. -/
def versionNumber (c : Cursor) : Except Fault (Nat × Cursor) :=
  let (ds, c) := c.run Char.isDigit
  match natIn 10 ds with
  | some n => if ds.length ≤ 9 then .ok (n, c) else .error .malformedDirective
  | none => .error .malformedDirective

/-- The directive that starts here with a percent sign, up to the end of its line. -/
def directive (c : Cursor) : Except Fault (Token × Cursor) := do
  let (name, c) := c.next.run isWord
  if !c.clearAt 0 then throw .malformedDirective
  let (token, c) ← match String.ofList name with
    | "YAML" => do
      let (major, c) ← versionNumber (c.skipWhile isBlank)
      if !c.at? '.' then throw .malformedDirective
      let (minor, c) ← versionNumber c.next
      pure (Token.versionDirective major minor, c)
    | "TAG" => do
      let (handle, c) ← tagHandle true (c.skipWhile isBlank)
      if !c.atBlank then throw .malformedDirective
      let (expansion, c) ← tagText true [] (c.skipWhile isBlank)
      if !c.clearAt 0 then throw .malformedDirective
      pure (Token.tagDirective (String.ofList handle) expansion, c)
    | _ => throw .malformedDirective
  let c := (c.skipWhile isBlank).skipComment
  if !(c.atEnd || c.atBreak) then throw .malformedDirective
  return (token, c.skipBreak)

end ClusterAudit.Yaml
