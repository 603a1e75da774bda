import ClusterAudit.Yaml.Draft
import ClusterAudit.Yaml.Token.Scan

/-!
# The documents of a YAML stream

A stream is a sequence of documents. The first one may start at once; every other one starts
with three dashes, and directives stand only in front of such a mark. An empty stream is a
single document in which nothing is written.

`Yaml.documents` reads the documents of a text one after the other, up to the first fault. The
reader works on tokens by recursive descent; each function says what may follow, and where
nothing is written the node is an empty plain scalar.
-/

namespace ClusterAudit.Yaml

/-- What the reader of documents knows between two tokens. -/
structure Reader where
  /-- The tokens to come. -/
  tokens : List Token
  /-- The fault behind the last token, if any. -/
  fault : Option Fault := none
  /-- The tag handles of the document and what they stand for. -/
  handles : List (String × Tag) := []
  /-- The names of anchors and their numbers. -/
  names : List (String × Nat) := []
  /-- The anchored nodes. -/
  anchors : List Draft.Anchored := []
  /-- How many events of the document have been read. -/
  position : Nat := 0
deriving Inhabited

/-- A step of the reader. -/
abbrev Read := StateT Reader (Except Fault)

namespace Read

/-- The next token. -/
def peek : Read Token := do
  let r ← get
  match r.tokens with
  | t :: _ => return t
  | [] => throw (r.fault.getD .missingContent)

/-- Leave the next token behind. -/
def skip : Read Unit :=
  modify fun r => { r with tokens := r.tokens.drop 1 }

/-- Count an event of the document. -/
def event : Read Unit :=
  modify fun r => { r with position := r.position + 1 }

/-- The empty scalar that stands where nothing is written. -/
def nothing : Read Draft := do
  event
  return .scalar none .plain ""

/-! ### Properties of nodes -/

/-- The anchor and the tag in front of a node, in either order, each at most once. -/
def properties : Read (Option String × Option (String × Tag)) := do
  match ← peek with
  | .anchor a => do
    skip
    match ← peek with
    | .tag h s => skip; return (some a, some (h, s))
    | _ => return (some a, none)
  | .tag h s => do
    skip
    match ← peek with
    | .anchor a => skip; return (some a, some (h, s))
    | _ => return (none, some (h, s))
  | _ => return (none, none)

/-- The tag that a handle and a suffix make. -/
def tagOf (handle : String) (suffix : Tag) : Read Tag := do
  if handle.isEmpty then return suffix
  let known := (← get).handles ++ [("!", Tag.ofString "!"), ("!!", Tag.common)]
  match known.find? (·.1 == handle) with
  | some (_, expansion) => return expansion.append suffix
  | none => throw .unknownTagHandle

/-- Give the node that starts here a number, if it has an anchor. The number is how many names there
are already. -/
def number (anchor : Option String) : Read (Option (Nat × Nat)) := do
  match anchor with
  | none => return none
  | some name =>
    let r ← get
    let n := r.names.length
    set { r with names := (name, n) :: r.names.filter (·.1 != name) }
    return some (n, r.position)

/-- Remember the node of a number. -/
def remember (mark : Option (Nat × Nat)) (d : Draft) : Read Draft := do
  match mark with
  | none => return d
  | some (number, position) =>
    modify fun r => { r with anchors := ⟨number, position, d⟩ :: r.anchors }
    return d

/-- The node of an alias. -/
def aliased (name : String) : Read Draft := do
  match (← get).names.find? (·.1 == name) with
  | some (_, n) => event; return .alias n
  | none => throw .unknownAlias

/-! ### Nodes -/

mutual

/-- The node that starts here. Block collections count only where `block` says so, and a list whose
dashes are not indented only where `flat` does. -/
def node : Nat → Bool → Bool → Read Draft
  | 0, _, _ => throw .tooDeep
  | fuel + 1, block, flat => do
    if let .alias name ← peek then
      skip
      return ← aliased name
    let (anchor, shorthand) ← properties
    let tag ← match shorthand with
      | some (h, s) => do pure (some (← tagOf h s))
      | none => pure none
    match ← peek, block, flat with
    | .blockEntry, _, true => do
      let mark ← number anchor
      event
      let items ← flatItems fuel
      event
      remember mark (.sequence tag items)
    | .scalar text style, _, _ => do
      let mark ← number anchor
      skip
      event
      remember mark (.scalar tag style text)
    | .flowSequenceStart, _, _ => do
      let mark ← number anchor
      skip
      event
      let items ← flowItems fuel true
      event
      remember mark (.sequence tag items)
    | .flowMappingStart, _, _ => do
      let mark ← number anchor
      skip
      event
      let entries ← flowEntries fuel true
      event
      remember mark (.mapping tag entries)
    | .blockSequenceStart, true, _ => do
      let mark ← number anchor
      skip
      event
      let items ← blockItems fuel
      event
      remember mark (.sequence tag items)
    | .blockMappingStart, true, _ => do
      let mark ← number anchor
      skip
      event
      let entries ← blockEntries fuel
      event
      remember mark (.mapping tag entries)
    | _, _, _ =>
      if anchor.isSome || tag.isSome then
        let mark ← number anchor
        event
        remember mark (.scalar tag .plain "")
      else throw .missingContent

/-- The items of a block list up to its end. -/
def blockItems : Nat → Read (List Draft)
  | 0 => throw .tooDeep
  | fuel + 1 => do
    match ← peek with
    | .blockEntry => do
      skip
      let item ← match ← peek with
        | .blockEntry | .blockEnd => nothing
        | _ => node fuel true false
      return item :: (← blockItems fuel)
    | .blockEnd => skip; return []
    | _ => throw .unclosedCollection

/-- The items of a list whose dashes are not indented. -/
def flatItems : Nat → Read (List Draft)
  | 0 => throw .tooDeep
  | fuel + 1 => do
    match ← peek with
    | .blockEntry => do
      skip
      let item ← match ← peek with
        | .blockEntry | .key | .value | .blockEnd => nothing
        | _ => node fuel true false
      return item :: (← flatItems fuel)
    | _ => return []

/-- The entries of a block mapping up to its end. -/
def blockEntries : Nat → Read (List (Draft × Draft))
  | 0 => throw .tooDeep
  | fuel + 1 => do
    match ← peek with
    | .key => do
      skip
      let k ← match ← peek with
        | .key | .value | .blockEnd => nothing
        | _ => node fuel true true
      let v ← match ← peek with
        | .value => do
          skip
          match ← peek with
          | .key | .value | .blockEnd => nothing
          | _ => node fuel true true
        | _ => nothing
      return (k, v) :: (← blockEntries fuel)
    | .blockEnd => skip; return []
    | _ => throw .unclosedCollection

/-- The items of a flow list up to its closing bracket; in front of all but the first stands a
comma. A key makes an item a mapping of one entry. -/
def flowItems : Nat → Bool → Read (List Draft)
  | 0, _ => throw .tooDeep
  | fuel + 1, first => do
    if (← peek) == .flowSequenceEnd then
      skip
      return []
    if !first then
      if (← peek) == .flowEntry then skip else throw .unclosedCollection
    match ← peek with
    | .flowSequenceEnd => skip; return []
    | .key => do
      skip
      event
      let k ← match ← peek with
        | .value | .flowEntry | .flowSequenceEnd => skip; nothing
        | _ => node fuel false false
      let v ← match ← peek with
        | .value => do
          skip
          match ← peek with
          | .flowEntry | .flowSequenceEnd => nothing
          | _ => node fuel false false
        | _ => nothing
      event
      return .mapping none [(k, v)] :: (← flowItems fuel false)
    | _ => do
      let item ← node fuel false false
      return item :: (← flowItems fuel false)

/-- The entries of a flow mapping up to its closing brace; in front of all but the first stands a
comma. -/
def flowEntries : Nat → Bool → Read (List (Draft × Draft))
  | 0, _ => throw .tooDeep
  | fuel + 1, first => do
    if (← peek) == .flowMappingEnd then
      skip
      return []
    if !first then
      if (← peek) == .flowEntry then skip else throw .unclosedCollection
    match ← peek with
    | .flowMappingEnd => skip; return []
    | .key => do
      skip
      let k ← match ← peek with
        | .value | .flowEntry | .flowMappingEnd => nothing
        | _ => node fuel false false
      let v ← match ← peek with
        | .value => do
          skip
          match ← peek with
          | .flowEntry | .flowMappingEnd => nothing
          | _ => node fuel false false
        | _ => nothing
      return (k, v) :: (← flowEntries fuel false)
    | _ => do
      let k ← node fuel false false
      return (k, ← nothing) :: (← flowEntries fuel false)

end

/-! ### Documents -/

/-- The directives in front of a document: whether a version was named, and the tag handles. -/
def directives : Nat → Bool → List (String × Tag) → Read (Bool × List (String × Tag))
  | 0, versioned, handles => return (versioned, handles)
  | fuel + 1, versioned, handles => do
    match ← peek with
    | .versionDirective major minor => do
      if versioned then throw .repeatedDirective
      if major ≠ 1 || (minor ≠ 1 && minor ≠ 2) then throw .unknownVersion
      skip
      directives fuel true handles
    | .tagDirective h e => do
      if handles.any (·.1 == h) then throw .repeatedDirective
      skip
      directives fuel versioned (handles ++ [(h, e)])
    | _ => return (versioned, handles)

/-- Leave behind the marks of document ends. -/
def skipEnds : Nat → Read Unit
  | 0 => return
  | fuel + 1 => do
    if (← peek) == .documentEnd then
      skip
      skipEnds fuel

/-- The content of a document and the mark behind it. -/
def content (fuel : Nat) (explicit : Bool) : Read Node := do
  let d ←
    if explicit then
      match ← peek with
      | .versionDirective _ _ | .tagDirective _ _ | .documentStart | .documentEnd | .streamEnd =>
        nothing
      | _ => node fuel true false
    else node fuel true false
  if (← peek) == .documentEnd then skip
  Draft.resolve (← get).anchors d

/-- The next document, unless the stream ends. Only the `first` one may start without a mark. -/
def document (fuel : Nat) (first : Bool) : Read (Option Node) := do
  modify fun r => { r with handles := [], names := [], anchors := [], position := 0 }
  if !first then skipEnds fuel
  let t ← peek
  let marked := match t with
    | .versionDirective _ _ | .tagDirective _ _ | .documentStart => true
    | _ => false
  if t == .streamEnd then return none
  else if first && !marked then return some (← content fuel false)
  else
    let (_, handles) ← directives fuel false []
    if (← peek) != .documentStart then throw .missingDocumentStart
    skip
    modify fun r => { r with handles }
    return some (← content fuel true)

end Read

/-- Documents in order, and the fault behind the last one, if any. -/
structure Stream where
  /-- The documents. -/
  documents : List Node
  /-- What is wrong behind them. -/
  fault : Option Fault := none
deriving Inhabited

/-- The documents from here on. -/
def Stream.collect (fuel : Nat) : Nat → Bool → Reader → List Node → Stream
  | 0, _, _, done => { documents := done.reverse }
  | n + 1, first, r, done =>
    match (Read.document fuel first).run r with
    | .error e => { documents := done.reverse, fault := some e }
    | .ok (none, _) => { documents := if first then [Node.void] else done.reverse }
    | .ok (some d, r) => collect fuel n false r (d :: done)

/-- **The documents of a text**, up to the first fault. -/
def documents (text : String) : Stream :=
  let (tokens, fault) := Token.scan text
  let fuel := 4 * tokens.length + 16
  Stream.collect fuel fuel true { tokens, fault } []

/-- The only document of a text. -/
def document (text : String) : Except Fault Node :=
  match documents text with
  | ⟨_, some e⟩ => .error e
  | ⟨[d], none⟩ => .ok d
  | ⟨_, none⟩ => .error .severalDocuments

end ClusterAudit.Yaml
