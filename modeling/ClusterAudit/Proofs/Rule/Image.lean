import ClusterAudit.Proofs.Text.Pieces
import ClusterAudit.Rule.Catalogue

/-!
# Which images are pinned

A reference to an image is put together from a registry, the components of a path, a tag and a
digest (`ClusterAudit.ImageReference.Parts`), and what holds of its text is read off by looking for
three signs: an at sign anywhere, the last slash, and the first colon behind it. A colon has two
meanings, since it also stands in front of the port of a registry, and a digest has colons of its
own.

The slash is what tells them apart. Behind a registry there always is one, so its port is never in
the last part (`ClusterAudit.Text.lastPiece_join`); and behind the last slash there is no colon
before the one of the tag. So the answer is one about the tag and the digest alone, however long the
path is and wherever it begins (`ClusterAudit.ImageReference.isPinned_text`).
-/

namespace ClusterAudit

/-! ### The last piece -/

namespace Text

section LastPiece

variable {α : Type} [BEq α] [LawfulBEq α] {sep : α} {m : List α}

theorem lastPiece_of_notMem (h : sep ∉ m) : lastPiece sep m = m := by
  cases m with
  | nil => rfl
  | cons a m =>
    obtain ⟨hne, hrest⟩ := not_or.1 (mt List.mem_cons.2 h)
    rw [lastPiece, if_neg (by simpa using hrest), if_neg (by simpa using Ne.symm hne)]

/-- What stands in front of a separator does not count for the last piece. -/
theorem lastPiece_append_cons (l m : List α) : lastPiece sep (l ++ sep :: m) = lastPiece sep m := by
  induction l with
  | cons a l ih => rw [List.cons_append, lastPiece, if_pos (by simp), ih]
  | nil =>
    rw [List.nil_append, lastPiece]
    split
    · rfl
    · rename_i hm
      rw [if_pos BEq.rfl, lastPiece_of_notMem (by simpa using hm)]

end LastPiece

theorem join_cons_concat (sep s t : String) (l : List String) :
    join sep (s :: (l ++ [t])) = s ++ sep ++ join sep (l ++ [t]) := by
  cases l <;> rfl

/-- **Texts that are put together with slashes end with the last one**, and with what is written
behind it, if there is no slash in that. -/
theorem lastPiece_join {s t : String} (h : '/' ∉ s.toList ++ t.toList) (l : List String) :
    lastPiece '/' (join "/" (l ++ [s]) ++ t).toList = s.toList ++ t.toList := by
  induction l with
  | nil =>
    rw [List.nil_append, join, String.toList_append]
    exact lastPiece_of_notMem h
  | cons u l ih =>
    have hfirst : (join "/" (u :: l ++ [s]) ++ t).toList =
        u.toList ++ '/' :: (join "/" (l ++ [s]) ++ t).toList := by
      rw [List.cons_append, join_cons_concat]
      simp [String.toList_append]
    rw [hfirst, lastPiece_append_cons, ih]

theorem cut_of_notMem {α : Type} [BEq α] [LawfulBEq α] {sep : α} {l : List α} (h : sep ∉ l) :
    cut sep l = none := by
  induction l with
  | nil => rfl
  | cons a l ih =>
    obtain ⟨hne, hrest⟩ := not_or.1 (mt List.mem_cons.2 h)
    rw [cut, if_neg (by simpa using Ne.symm hne), ih hrest]
    rfl

end Text

/-! ### References and their parts -/

namespace ImageReference

open Text

/-- A text in which none of some signs occurs. -/
def IsFreeOf (signs : List Char) (s : String) : Prop :=
  ∀ c ∈ signs, c ∉ s.toList

instance (signs : List Char) (s : String) : Decidable (IsFreeOf signs s) :=
  decidable_of_iff (signs.all fun c => !s.toList.contains c) (by simp [IsFreeOf])

/-- What an image may be had from: a host, and a port on it if it is not the usual one. -/
structure Registry where
  /-- The host. -/
  host : String
  /-- The port. -/
  port : Option String := none
  /-- The host is a single part without a port. -/
  host_isFreeOf : IsFreeOf ['/', '@', ':'] host := by decide
  /-- The port is a part, whatever colons are in it. -/
  port_isFreeOf : ∀ p ∈ port, IsFreeOf ['/', '@'] p := by decide

/-- **The parts of a reference.** None of them holds a slash or an at sign, and none but the port
and the digest holds a colon. -/
structure Parts where
  /-- The registry, if one is named. -/
  registry : Option Registry := none
  /-- The components of the path in front of the last one. -/
  components : List String := []
  /-- The last component. -/
  last : String
  /-- The tag. -/
  tag : Option String := none
  /-- The digest. -/
  digest : Option String := none
  /-- The components are parts. -/
  components_isFreeOf : ∀ s ∈ components, IsFreeOf ['/', '@', ':'] s := by decide
  /-- The last component is one. -/
  last_isFreeOf : IsFreeOf ['/', '@', ':'] last := by decide
  /-- So is the tag. -/
  tag_isFreeOf : ∀ t ∈ tag, IsFreeOf ['/', '@', ':'] t := by decide
  /-- The digest is a part with colons. -/
  digest_isFreeOf : ∀ d ∈ digest, IsFreeOf ['/', '@'] d := by decide

/-- A part behind its mark, and nothing where there is no part. -/
def marked (mark : Char) : Option String → String
  | none => ""
  | some s => String.ofList (mark :: s.toList)

/-- The text of a registry. -/
def Registry.text (r : Registry) : String :=
  r.host ++ marked ':' r.port

namespace Parts

/-- The text in front of the digest. -/
def front (r : Parts) : String :=
  join "/" (r.registry.toList.map Registry.text ++ r.components ++ [r.last]) ++ marked ':' r.tag

/-- **The text of a reference.** -/
def text (r : Parts) : String :=
  r.front ++ marked '@' r.digest

end Parts

/-! ### What is found in a reference -/

theorem notMem_marked {c mark : Char} {o : Option String} (hmark : c ≠ mark)
    (h : ∀ s ∈ o, c ∉ s.toList) : c ∉ (marked mark o).toList := by
  cases o with
  | none => exact List.not_mem_nil
  | some s =>
    rw [marked, String.toList_ofList, List.mem_cons, not_or]
    exact ⟨hmark, h s rfl⟩

theorem Registry.at_notMem_text (r : Registry) : '@' ∉ r.text.toList := by
  rw [text, String.toList_append, List.mem_append, not_or]
  exact ⟨r.host_isFreeOf '@' (by decide),
    notMem_marked (by decide) fun p hp => r.port_isFreeOf p hp '@' (by decide)⟩

namespace Parts

variable (r : Parts)

/-- **There is no at sign but that of the digest.** -/
theorem at_notMem_front : '@' ∉ r.front.toList := by
  rw [front, String.toList_append, List.mem_append, not_or]
  refine ⟨fun hjoin => ?_,
    notMem_marked (by decide) fun t ht => r.tag_isFreeOf t ht '@' (by decide)⟩
  rcases mem_join hjoin with hsep | ⟨s, hs, hat⟩
  · exact absurd hsep (by decide)
  simp only [List.mem_append, List.mem_map, Option.mem_toList, List.mem_singleton] at hs
  rcases hs with (⟨registry, -, rfl⟩ | hcomponent) | rfl
  · exact registry.at_notMem_text hat
  · exact r.components_isFreeOf s hcomponent '@' (by decide) hat
  · exact r.last_isFreeOf '@' (by decide) hat

/-- **The tag is found**, wherever there are other colons. -/
theorem tag?_front : tag? r.front.toList = r.tag.map String.toList := by
  have hslash : '/' ∉ r.last.toList ++ (marked ':' r.tag).toList := by
    rw [List.mem_append, not_or]
    exact ⟨r.last_isFreeOf '/' (by decide),
      notMem_marked (by decide) fun t ht => r.tag_isFreeOf t ht '/' (by decide)⟩
  have hcolon : ':' ∉ r.last.toList := r.last_isFreeOf ':' (by decide)
  rw [tag?, front, lastPiece_join hslash]
  cases r.tag with
  | none =>
    have hlast : r.last.toList ++ (marked ':' none).toList = r.last.toList := List.append_nil _
    rw [hlast, cut_of_notMem hcolon]
    rfl
  | some t =>
    rw [marked, String.toList_ofList, cut_append_cons hcolon]
    rfl

/-- **Whether a reference is pinned**, by its parts. -/
theorem isPinned_text_iff :
    isPinned r.text = true ↔ r.digest ≠ none ∨ ∃ t, r.tag = some t ∧ t ≠ "" ∧ t ≠ "latest" := by
  have hat : '@' ∈ r.text.toList ↔ r.digest ≠ none := by
    rw [text, String.toList_append, List.mem_append, or_iff_right r.at_notMem_front]
    cases r.digest <;> simp [marked]
  have hmoving : ∀ t : String, t.toList = movingTag ↔ t = "latest" := fun t =>
    show t.toList = "latest".toList ↔ t = "latest" from String.toList_inj
  rw [isPinned]
  by_cases hdigest : r.digest = none
  · have hfront : r.text = r.front := by
      rw [text, hdigest, marked, String.append_empty]
    have hnone : ¬ r.text.toList.contains '@' = true := by simp [hat, hdigest]
    rw [if_neg hnone, hfront, tag?_front]
    cases r.tag with
    | none => simp [hdigest]
    | some t => simp [hdigest, hmoving]
  · have hsome : r.text.toList.contains '@' = true := by simp [hat, hdigest]
    rw [if_pos hsome]
    simp [hdigest]

end Parts

/-- **A reference is pinned exactly when it has a digest, or a tag that is neither empty nor the one
that moves.** Two references with the same tag and the same digest are pinned alike, whatever
registry they name and however many components their paths have. This is what the rule about tags
answers about a container with such an image. -/
theorem isPinned_text (r : Parts) :
    (isPinned r.text = true ↔ r.digest ≠ none ∨ ∃ t, r.tag = some t ∧ t ≠ "" ∧ t ≠ "latest") ∧
    (∀ r' : Parts, r'.tag = r.tag → r'.digest = r.digest → isPinned r'.text = isPinned r.text) ∧
    ∀ s : ContainerSite, s.container.image = some r.text →
      (Rule.named? "tagNotSpecified").bind (·.answer? (.container s)) =
        some (isPinned r.text) := by
  refine ⟨r.isPinned_text_iff, fun r' htag hdigest => ?_, fun s hs => ?_⟩
  · rw [Bool.eq_iff_iff, r.isPinned_text_iff, r'.isPinned_text_iff, htag, hdigest]
  · have hrule : (Rule.named? "tagNotSpecified").bind (·.answer? (.container s)) =
        some (isPinned (s.container.image.getD "")) := rfl
    rw [hrule, hs]
    rfl

/-- The colon in front of a port is not the one in front of a tag, and a digest pins what its tag
does not. -/
theorem isPinned_text_port :
    let registry : Registry := { host := "registry", port := some "5000" }
    let r : Parts := { registry, components := ["team"], last := "app", tag := some "v2" }
    let untagged : Parts := { registry, components := ["team"], last := "app" }
    let moving : Parts := { last := "app", tag := some "latest", digest := some "sha256:abcdef" }
    let s : ContainerSite := { (default : ContainerSite) with
      container := { name := "app", image := some "registry:5000/team/app:v2" } }
    r.text = "registry:5000/team/app:v2" ∧ untagged.text = "registry:5000/team/app" ∧
      moving.text = "app:latest@sha256:abcdef" ∧
    isPinned r.text = true ∧ isPinned untagged.text = false ∧ isPinned moving.text = true ∧
      isPinned { last := "app", tag := some "v2" : Parts }.text = isPinned r.text ∧
      (Rule.named? "tagNotSpecified").bind (·.answer? (.container s)) = some true := by
  intro registry r untagged moving s
  obtain ⟨hiff, halike, hrule⟩ := isPinned_text r
  have htext : r.text = "registry:5000/team/app:v2" := by decide
  have hpinned : isPinned r.text = true := hiff.2 (.inr ⟨"v2", rfl, by decide, by decide⟩)
  have huntagged : isPinned untagged.text = false := by
    rw [← Bool.not_eq_true, (isPinned_text untagged).1]
    rintro (hdigest | ⟨t, htag, -⟩)
    · exact hdigest rfl
    · cases htag
  have hmoving : isPinned moving.text = true := (isPinned_text moving).1.2 (.inl (by decide))
  refine ⟨htext, by decide, by decide, hpinned, huntagged, hmoving, halike _ rfl rfl, ?_⟩
  rw [hrule s (congrArg some htext.symm), hpinned]

end ImageReference

end ClusterAudit
