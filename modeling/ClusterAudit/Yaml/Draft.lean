import ClusterAudit.Yaml.Node

/-!
# Nodes with aliases, and how aliases are resolved

A draft is a node in which aliases still stand. Anchors are numbered in the order in which they
are met, but a name that is given again takes a fresh number only in the sense that it is
renumbered to the count of names so far, which the next new name then shares. Of the nodes with
one number the last one counts, for every alias of the document.

`Draft.resolve` puts the named nodes in the place of their aliases. Collections may be nested 128
deep after that, and an alias may be followed a hundred times for every event of the document;
this is what stops documents that unfold without end.
-/

namespace ClusterAudit.Yaml

/-- A node in which aliases stand. -/
inductive Draft where
  /-- A scalar. -/
  | scalar (tag : Option Tag) (style : Style) (text : String)
  /-- A list. -/
  | sequence (tag : Option Tag) (items : List Draft)
  /-- A mapping. -/
  | mapping (tag : Option Tag) (entries : List (Draft × Draft))
  /-- The node with this number. -/
  | alias (number : Nat)
deriving Inhabited

namespace Draft

mutual

/-- How many events a draft is: one for a scalar or an alias, and two more than its parts for a
collection. -/
def events : Draft → Nat
  | .scalar _ _ _ => 1
  | .alias _ => 1
  | .sequence _ items => 2 + eventsOfItems items
  | .mapping _ entries => 2 + eventsOfEntries entries

/-- The events of the items of a list. -/
def eventsOfItems : List Draft → Nat
  | [] => 0
  | d :: ds => events d + eventsOfItems ds

/-- The events of the entries of a mapping. -/
def eventsOfEntries : List (Draft × Draft) → Nat
  | [] => 0
  | (k, v) :: es => events k + events v + eventsOfEntries es

end

/-- An anchored node: its number, the place where it starts, and itself. -/
structure Anchored where
  /-- The number. -/
  number : Nat
  /-- How many events stand in front of it. -/
  position : Nat
  /-- The node. -/
  node : Draft
deriving Inhabited

/-- The last node with the number `n`. -/
def lookup (anchors : List Anchored) (n : Nat) : Option Draft :=
  (anchors.foldl (fun best a =>
    if a.number = n then
      match best with
      | some (p, d) => if p < a.position then some (a.position, a.node) else some (p, d)
      | none => some (a.position, a.node)
    else best) (none : Option (Nat × Draft))).map (·.2)

/-- The node of a draft in which `depth` more collections may be opened, counting down how many
aliases may still be followed. -/
def resolveAt (anchors : List Anchored) : Nat → Draft → StateT Nat (Except Fault) Node
  | 0, _ => throw .tooDeep
  | depth + 1, d => do
    let target ← match d with
      | .alias n => do
        match ← get with
        | 0 => throw Fault.tooManyAliases
        | left + 1 => set left
        match lookup anchors n with
        | some t => pure t
        | none => throw Fault.unknownAlias
      | d => pure d
    match target with
    | .scalar t style text => return .scalar t style text
    | .sequence t items =>
      if depth = 0 then throw Fault.tooDeep
      return .sequence t (← items.mapM (resolveAt anchors depth))
    | .mapping t entries =>
      if depth = 0 then throw Fault.tooDeep
      return .mapping t (← entries.mapM fun e => do
        return (← resolveAt anchors depth e.1, ← resolveAt anchors depth e.2))
    | .alias _ => throw Fault.unknownAlias

/-- **The node of a draft**, with every alias replaced by the node it names. -/
def resolve (anchors : List Anchored) (d : Draft) : Except Fault Node :=
  ((resolveAt anchors 129 d).run (100 * d.events)).map (·.1)

end Draft

end ClusterAudit.Yaml
