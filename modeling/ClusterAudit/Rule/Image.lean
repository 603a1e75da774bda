import ClusterAudit.Text.Basic

/-!
# References to images

An image is named by a path with an optional registry in front, and optionally a tag behind a
colon and a digest behind an at sign. A reference is pinned when it will keep meaning the same
image: when it has a digest, or a tag that does not move.
-/

namespace ClusterAudit.ImageReference

open Text

/-- The tag that moves with every release. -/
def movingTag : List Char := ['l', 'a', 't', 'e', 's', 't']

/-- The tag of a reference without a digest: what stands behind the first colon of the last part of
its path. A colon further in front belongs to a port. -/
def tag? (reference : List Char) : Option (List Char) :=
  (cut ':' (lastPiece '/' reference)).map (·.2)

/-- **Whether a reference is pinned.** -/
def isPinned (reference : String) : Bool :=
  let cs := reference.toList
  if cs.contains '@' then true
  else match tag? cs with
    | some tag => !tag.isEmpty && tag != movingTag
    | none => false

end ClusterAudit.ImageReference
