import ClusterAudit.Proofs.FileTree.Listing
import ClusterAudit.Proofs.Report.Joining
import ClusterAudit.Proofs.Report.Namespaces
import ClusterAudit.Proofs.Snapshot.Listing
import Mathlib.Data.List.Sort

/-!
# Snapshots of directories

A directory holds manifests: those of its entries that are files and whose names end in `.yaml`,
`.yml` or `.json` (`ClusterAudit.Snapshot.isManifest_iff`). Its directories are not entered, and a
name that is nothing but its ending is not one (`ClusterAudit.Snapshot.isManifestName_iff`).

The manifests are sorted before they are read. Sorting forgets in which order the directory lists
them, and reading a file does not depend on it either, so the snapshot does not
(`ClusterAudit.Snapshot.ofPath_of_relisted`). From there on a directory is a list of files. They are
read one after another up to the first one that has a fault
(`ClusterAudit.Snapshot.foldlM_addFile`), and when none has, the snapshot joins those of the single
files in the sense of `ClusterAudit.Snapshot.Joins`, which says how its report comes from theirs.

All of this is put together in `ClusterAudit.Snapshot.ofPath_directory`.
-/

namespace ClusterAudit

/-! ### Names of manifests -/

namespace Snapshot

theorem extension?_of_notMem {name : String} (h : '.' ∉ name.toList) : extension? name = none := by
  rw [extension?, Text.pieces_of_notMem h]

theorem extension?_of_toList {name : String} {stem l : List Char}
    (h : name.toList = stem ++ '.' :: l) (hl : '.' ∉ l) :
    extension? name = if stem = [] then none else some (String.ofList l) := by
  rw [extension?, h, Text.pieces_append_cons, Text.pieces_of_notMem hl]
  cases stem with
  | nil => rfl
  | cons a stem =>
    rw [if_neg (List.cons_ne_nil a stem)]
    -- something stands in front of the last point, so the first of two pieces is not empty
    have hpieces : Text.pieces '.' (a :: stem) ≠ [[]] := by
      rw [Text.pieces]
      obtain ⟨p, ps, hp⟩ := Text.exists_pieces_eq_cons '.' stem
      split <;> simp [hp]
    obtain ⟨p, ps, hp⟩ := Text.exists_pieces_eq_cons '.' (a :: stem)
    rw [hp] at hpieces ⊢
    split
    case h_1 hnone => cases hnone
    case h_2 hone => simp at hone
    case h_3 htwo =>
      obtain ⟨hfirst, hlast⟩ := List.cons.inj htwo
      rcases List.append_eq_singleton_iff.1 hlast with ⟨hps, -⟩ | ⟨-, hnil⟩
      · exact absurd (by rw [hfirst, hps]) hpieces
      · cases hnil
    case h_4 => rw [List.getLast?_concat, Option.map_some]

/-- **The extension of a name** is what stands behind its last point, if something stands in front
of it. -/
theorem extension?_eq_some {name e : String} :
    extension? name = some e ↔
      ∃ stem, stem ≠ "" ∧ '.' ∉ e.toList ∧ name = stem ++ "." ++ e := by
  constructor
  · intro h
    by_cases hpoint : '.' ∈ name.toList
    · obtain ⟨as, bs, hreverse, has⟩ := List.eq_append_cons_of_mem (List.mem_reverse.2 hpoint)
      have htoList : name.toList = bs.reverse ++ '.' :: as.reverse := by
        rw [← List.reverse_inj, hreverse]
        simp
      rw [extension?_of_toList htoList (by simpa using has)] at h
      split at h
      next => cases h
      next hstem =>
        obtain rfl := Option.some.inj h
        refine ⟨String.ofList bs.reverse, ?_, by simpa using has, ?_⟩
        · simpa [← String.toList_inj] using hstem
        · rw [← String.toList_inj, htoList]
          simp
    · rw [extension?_of_notMem hpoint] at h
      cases h
  · rintro ⟨stem, hstem, he, rfl⟩
    have htoList : (stem ++ "." ++ e).toList = stem.toList ++ '.' :: e.toList := by simp
    rw [extension?_of_toList htoList he, if_neg (by simpa using hstem), String.ofList_toList]

/-- **The name of a manifest** ends in a point and one of three words, and does not begin with this
point. -/
theorem isManifestName_iff {name : String} :
    isManifestName name = true ↔
      ∃ stem e, stem ≠ "" ∧ e ∈ ["yaml", "yml", "json"] ∧ name = stem ++ "." ++ e := by
  have hwords : isManifestName name = true ↔
      ∃ e ∈ ["yaml", "yml", "json"], extension? name = some e := by
    rw [isManifestName]
    cases extension? name with
    | none => simp
    | some e => simp [or_assoc]
  rw [hwords]
  simp only [extension?_eq_some]
  constructor
  · rintro ⟨e, he, stem, hstem, -, hname⟩
    exact ⟨stem, e, hstem, he, hname⟩
  · rintro ⟨stem, e, hstem, he, hname⟩
    have hpoint : '.' ∉ e.toList := by
      have hall : ∀ e ∈ ["yaml", "yml", "json"], '.' ∉ e.toList := by decide
      exact hall e he
    exact ⟨e, he, stem, hstem, hpoint, hname⟩

variable {t t' : FileTree} {path : String} {entries entries' : List (String × FileTree)}

theorem isManifest_of_relisted (h : t.Relisted t') (directory : String) :
    isManifest t directory = isManifest t' directory := by
  funext name
  rw [isManifest, isManifest, h.isFileAt]

theorem pairwise_mergeSort_le (l : List String) :
    (l.mergeSort fun a b => a ≤ b).Pairwise (· ≤ ·) := by
  have hsorted : (l.mergeSort fun a b => a ≤ b).Pairwise fun a b => decide (a ≤ b) = true := by
    refine List.pairwise_mergeSort (fun a b c hab hbc => ?_) (fun a b => ?_) l
    · exact decide_eq_true (String.le_trans (of_decide_eq_true hab) (of_decide_eq_true hbc))
    · simpa using String.le_total a b
  simpa using hsorted

/-- A list of texts in order is what any of its rearrangements is sorted to. -/
theorem mergeSort_eq_of_pairwise {l l' : List String} (h : l.Perm l') (hl : l'.Pairwise (· ≤ ·)) :
    (l.mergeSort fun a b => a ≤ b) = l' := by
  refine List.Perm.eq_of_pairwise (fun a b _ _ hab hba => String.le_antisymm hab hba)
    (pairwise_mergeSort_le l) hl ?_
  exact (List.mergeSort_perm l _).trans h

/-- **Sorting forgets the order.** -/
theorem mergeSort_eq_of_perm {l l' : List String} (h : l.Perm l') :
    l.mergeSort (fun a b => a ≤ b) = l'.mergeSort fun a b => a ≤ b :=
  mergeSort_eq_of_pairwise (h.trans (List.mergeSort_perm l' _).symm) (pairwise_mergeSort_le l')

theorem manifestPaths_of_relisted (h : t.Relisted t') (path : String) :
    manifestPaths t path = manifestPaths t' path := by
  rw [manifestPaths, manifestPaths]
  rcases h.at? path with ⟨e, hx, hy⟩ | ⟨u, u', hx, hy, hu⟩
  · rw [hx, hy]
  · rw [hx, hy]
    cases hu with
    | file bytes => rfl
    | directory names below =>
      simp only [isManifest_of_relisted h]
      exact mergeSort_eq_of_perm ((names.filter _).map _)

/-- **The order of entries does not matter** to the snapshot of a path, or to its fault. -/
theorem ofPath_of_relisted (h : t.Relisted t') (path : String) :
    ofPath t path = ofPath t' path := by
  have hadd : addFile t = addFile t' := by
    funext s file
    rw [addFile, addFile, h.readText]
  rw [ofPath, ofPath, manifestPaths_of_relisted h, hadd]

/-! ### File after file -/

/-- What is wrong with a file, if something is. -/
def fileFault? (t : FileTree) (file : String) : Option SnapshotFault :=
  match t.readText file with
  | .error e => some (.unreadable file e)
  | .ok text => if (Manifest.objectsOf text).2 then none else some (.malformed file)

/-- The objects of a file. -/
def fileObjects (t : FileTree) (file : String) : List ClusterObject :=
  match t.readText file with
  | .error _ => []
  | .ok text => (Manifest.objectsOf text).1

theorem fileFault?_eq_some {file : String} {e : SnapshotFault} :
    fileFault? t file = some e ↔
      (∃ cause, t.readText file = .error cause ∧ e = .unreadable file cause) ∨
        ∃ text, t.readText file = .ok text ∧ (Manifest.objectsOf text).2 = false ∧
          e = .malformed file := by
  rw [fileFault?]
  cases t.readText file with
  | error cause =>
    constructor
    · intro h
      exact .inl ⟨cause, rfl, (Option.some.inj h).symm⟩
    · rintro (⟨cause', hcause, rfl⟩ | ⟨text, htext, -⟩)
      · cases hcause
        rfl
      · cases htext
  | ok text =>
    cases hfine : (Manifest.objectsOf text).2 with
    | true =>
      refine ⟨fun h => by simp [hfine] at h, ?_⟩
      rintro (⟨cause, hcause, -⟩ | ⟨text', htext, hfault, -⟩)
      · cases hcause
      · cases htext
        rw [hfine] at hfault
        cases hfault
    | false =>
      constructor
      · intro h
        exact .inr ⟨text, rfl, hfine, by simpa [hfine, eq_comm] using h⟩
      · rintro (⟨cause, hcause, -⟩ | ⟨text', htext, -, rfl⟩)
        · cases hcause
        · simp [hfine]

theorem addFile_eq (t : FileTree) (s : Snapshot) (file : String) :
    addFile t s file = match fileFault? t file with
      | some e => .error e
      | none => .ok (s.addAll (fileObjects t file)) := by
  rw [addFile, fileFault?, fileObjects]
  cases t.readText file with
  | error cause => rfl
  | ok text => cases hfine : (Manifest.objectsOf text).2 <;> simp [addManifest, hfine]

/-- **Files are added up to the first one that has a fault**, which is the fault of them all. -/
theorem foldlM_addFile (t : FileTree) (s : Snapshot) (files : List String) :
    files.foldlM (addFile t) s = match files.findSome? (fileFault? t) with
      | some e => .error e
      | none => .ok (s.addAll (files.flatMap (fileObjects t))) := by
  induction files generalizing s with
  | nil => rfl
  | cons file files ih =>
    rw [List.foldlM_cons, addFile_eq, List.findSome?_cons]
    cases hfault : fileFault? t file with
    | some e => rfl
    | none =>
      have hobjects : s.addAll ((file :: files).flatMap (fileObjects t)) =
          (s.addAll (fileObjects t file)).addAll (files.flatMap (fileObjects t)) := by
        rw [List.flatMap_cons, addAll, List.foldl_append]
        rfl
      rw [hobjects]
      exact ih (s.addAll (fileObjects t file))

/-! ### The snapshot of a directory -/

/-- The snapshot of a path in which nothing was found. -/
def atPath (path : String) : Snapshot :=
  { sourceName := path, sourceType := .path }

theorem listOf_atPath (path : String) (kind : ObjectKind) : (atPath path).listOf kind = [] := by
  cases kind with
  | workload k => cases k <;> rfl
  | _ => rfl

/-- **The snapshot of a path holds the objects of its files**, one file after another, unless one of
them has a fault. -/
theorem ofPath_eq (t : FileTree) (path : String) :
    ofPath t path = match (manifestPaths t path).findSome? (fileFault? t) with
      | some e => .error e
      | none => .ok ((atPath path).addAll ((manifestPaths t path).flatMap (fileObjects t))) :=
  foldlM_addFile t (atPath path) (manifestPaths t path)

/-- A file of any name is read on its own. -/
theorem ofPath_file {file : String} (h : t.isFileAt file = true) :
    ofPath t file = match fileFault? t file with
      | some e => .error e
      | none => .ok ((atPath file).addAll (fileObjects t file)) := by
  have hpaths : manifestPaths t file = [file] := by
    rw [FileTree.isFileAt] at h
    rw [manifestPaths]
    split at h
    next bytes hat => rw [hat]
    next => cases h
  rw [ofPath_eq, hpaths, List.findSome?_singleton, List.flatMap_singleton]

theorem ofPath_file_eq_error {file : String} (h : t.isFileAt file = true) {e : SnapshotFault} :
    ofPath t file = .error e ↔ fileFault? t file = some e := by
  rw [ofPath_file h]
  cases fileFault? t file <;> simp

theorem ofPath_file_eq_ok {file : String} (h : t.isFileAt file = true) {s : Snapshot} :
    ofPath t file = .ok s ↔
      fileFault? t file = none ∧ (atPath file).addAll (fileObjects t file) = s := by
  rw [ofPath_file h]
  cases fileFault? t file <;> simp

theorem isFileAt_iff {file : String} :
    t.isFileAt file = true ↔ ∃ bytes, t.at? file = .ok (.file bytes) := by
  rw [FileTree.isFileAt]
  split
  next bytes hat => simp [hat]
  next hno => simpa using fun bytes hat => hno bytes hat

/-- An entry is a manifest when a file stands at its path and its name ends as it should. -/
theorem isManifest_iff {name : String} :
    isManifest t path name = true ↔
      (∃ bytes, t.at? (entryPath path name) = .ok (.file bytes)) ∧
        ∃ stem e, stem ≠ "" ∧ e ∈ ["yaml", "yml", "json"] ∧ name = stem ++ "." ++ e := by
  rw [isManifest, Bool.and_eq_true, isFileAt_iff, isManifestName_iff]

theorem manifestPaths_directory (h : t.at? path = .ok (.directory entries)) :
    manifestPaths t path =
      (((entries.map Prod.fst).filter (isManifest t path)).map (entryPath path)).mergeSort
        fun a b => a ≤ b := by
  rw [manifestPaths, h]

/-- The files of a directory are files. -/
theorem isFileAt_of_mem (h : t.at? path = .ok (.directory entries)) {file : String}
    (hfile : file ∈ manifestPaths t path) : t.isFileAt file = true := by
  rw [manifestPaths_directory h, List.mem_mergeSort] at hfile
  obtain ⟨name, hname, rfl⟩ := List.mem_map.1 hfile
  exact isFileAt_iff.2 (isManifest_iff.1 (List.mem_filter.1 hname).2).1

/-- **The fault of a directory is that of its first file that has one.** -/
theorem ofPath_directory_eq_error (h : t.at? path = .ok (.directory entries)) {e : SnapshotFault} :
    ofPath t path = .error e ↔ ∃ before file after,
      manifestPaths t path = before ++ file :: after ∧
      (∀ earlier ∈ before, ∃ s, ofPath t earlier = .ok s) ∧ ofPath t file = .error e := by
  have hfirst : ofPath t path = .error e ↔
      (manifestPaths t path).findSome? (fileFault? t) = some e := by
    rw [ofPath_eq]
    cases (manifestPaths t path).findSome? (fileFault? t) <;> simp
  rw [hfirst, List.findSome?_eq_some_iff]
  constructor
  · rintro ⟨before, file, after, hfiles, hfault, hbefore⟩
    refine ⟨before, file, after, hfiles, fun earlier hearlier => ?_, ?_⟩
    · have hfile : t.isFileAt earlier = true :=
        isFileAt_of_mem h (by rw [hfiles]; exact List.mem_append_left _ hearlier)
      exact ⟨_, (ofPath_file_eq_ok hfile).2 ⟨hbefore earlier hearlier, rfl⟩⟩
    · have hfile : t.isFileAt file = true := isFileAt_of_mem h (by rw [hfiles]; simp)
      exact (ofPath_file_eq_error hfile).2 hfault
  · rintro ⟨before, file, after, hfiles, hbefore, hfault⟩
    have hfile : t.isFileAt file = true := isFileAt_of_mem h (by rw [hfiles]; simp)
    refine ⟨before, file, after, hfiles, (ofPath_file_eq_error hfile).1 hfault,
      fun earlier hearlier => ?_⟩
    have hfile' : t.isFileAt earlier = true :=
      isFileAt_of_mem h (by rw [hfiles]; exact List.mem_append_left _ hearlier)
    obtain ⟨s, hs⟩ := hbefore earlier hearlier
    exact ((ofPath_file_eq_ok hfile').1 hs).1

/-- **Files that can all be read make a snapshot.** -/
theorem ofPath_eq_ok_of_forall
    (hall : ∀ file ∈ manifestPaths t path, fileFault? t file = none) :
    ofPath t path =
      .ok ((atPath path).addAll ((manifestPaths t path).flatMap (fileObjects t))) := by
  rw [ofPath_eq, List.findSome?_eq_none_iff.2 hall]

/-- **Files that can all be read give their objects**, one file after another. -/
theorem ofPath_eq_ok_of_objects {objects : String → List ClusterObject}
    (h : ∀ file ∈ manifestPaths t path, ∃ text, t.readText file = .ok text ∧
      Manifest.objectsOf text = (objects file, true)) :
    ofPath t path = .ok ((atPath path).addAll ((manifestPaths t path).flatMap objects)) := by
  have hread : ∀ file ∈ manifestPaths t path,
      fileFault? t file = none ∧ fileObjects t file = objects file := by
    intro file hmem
    obtain ⟨text, htext, hread⟩ := h file hmem
    rw [fileFault?, fileObjects, htext]
    simp [hread]
  have hflat : (manifestPaths t path).flatMap (fileObjects t) =
      (manifestPaths t path).flatMap objects :=
    List.flatMap_congr fun file hmem => (hread file hmem).2
  rw [ofPath_eq_ok_of_forall fun file hmem => (hread file hmem).1, hflat]

/-- The objects of several files are those of the snapshots of each of them. -/
theorem joins_addAll {files : List String} {objects : String → List ClusterObject}
    {part : String → Snapshot}
    (hpart : ∀ file ∈ files, (atPath file).addAll (objects file) = part file) :
    ((atPath path).addAll (files.flatMap objects)).Joins (files.map part) := by
  intro kind
  rw [listOf_addAll, listOf_atPath, List.nil_append, List.filter_flatMap, List.flatMap_map]
  refine List.flatMap_congr fun file hfile => ?_
  rw [← hpart file hfile, listOf_addAll, listOf_atPath, List.nil_append]

/-- **The snapshot of a directory joins those of its files.** -/
theorem exists_joins_of_parts (hdir : t.at? path = .ok (.directory entries))
    {part : String → Snapshot}
    (h : ∀ file ∈ manifestPaths t path, ofPath t file = .ok (part file)) :
    ∃ s, ofPath t path = .ok s ∧ s.Joins ((manifestPaths t path).map part) := by
  have hread : ∀ file ∈ manifestPaths t path, fileFault? t file = none ∧
      (atPath file).addAll (fileObjects t file) = part file := fun file hmem =>
    (ofPath_file_eq_ok (isFileAt_of_mem hdir hmem)).1 (h file hmem)
  refine ⟨_, ofPath_eq_ok_of_forall fun file hmem => (hread file hmem).1, ?_⟩
  exact joins_addAll fun file hmem => (hread file hmem).2

/-- **The snapshot of a directory is made of its manifests, in the order of their paths**, in
whatever order the directory lists them. The manifests are the entries that are files and whose
names end in one of three extensions. When all of them can be read, the snapshot holds their
objects, one file after another; each of its lists joins those of the snapshots of the single files,
and their reports add up to its report, also when all of them are restricted to some namespaces.
When some cannot be read, the fault is that of the first of them, and there is no snapshot. -/
theorem ofPath_directory (hdir : t.at? path = .ok (.directory entries)) :
    let files := manifestPaths t path
    (files.Pairwise (· ≤ ·) ∧
      files.Perm (((entries.map Prod.fst).filter (isManifest t path)).map (entryPath path)) ∧
      ∀ name, isManifest t path name = true ↔
        (∃ bytes, t.at? (entryPath path name) = .ok (.file bytes)) ∧
          ∃ stem e, stem ≠ "" ∧ e ∈ ["yaml", "yml", "json"] ∧ name = stem ++ "." ++ e) ∧
    (∀ t' : FileTree, t.Relisted t' → ofPath t' path = ofPath t path) ∧
    (∀ objects : String → List ClusterObject,
      (∀ file ∈ files, ∃ text, t.readText file = .ok text ∧
        Manifest.objectsOf text = (objects file, true)) →
      ofPath t path = .ok (({ sourceName := path, sourceType := .path } : Snapshot).addAll
        (files.flatMap objects))) ∧
    (∀ part : String → Snapshot, (∀ file ∈ files, ofPath t file = .ok (part file)) →
      ∃ s, ofPath t path = .ok s ∧ s.Joins (files.map part) ∧
        ∀ (c : Configuration) (names : List String) (scans : Option (Table ScanSummary)),
          Report.AddUpTo (files.map fun file => Audit.report c ((part file).restrictTo names) scans)
            (Audit.report c (s.restrictTo names) scans)) ∧
    (∀ e, ofPath t path = .error e ↔ ∃ before file after, files = before ++ file :: after ∧
      (∀ earlier ∈ before, ∃ s, ofPath t earlier = .ok s) ∧ ofPath t file = .error e) ∧
    ∀ file ∈ files, ∀ e, ofPath t file = .error e ↔
      (∃ cause, t.readText file = .error cause ∧ e = .unreadable file cause) ∨
        ∃ text, t.readText file = .ok text ∧ (Manifest.objectsOf text).2 = false ∧
          e = .malformed file := by
  intro files
  have hsorted : files = _ := manifestPaths_directory hdir
  refine ⟨⟨?_, ?_, fun name => isManifest_iff⟩, fun t' ht => (ofPath_of_relisted ht path).symm,
    fun objects => ofPath_eq_ok_of_objects, fun part hpart => ?_,
    fun e => ofPath_directory_eq_error hdir, fun file hmem e => ?_⟩
  · rw [hsorted]
    exact pairwise_mergeSort_le _
  · rw [hsorted]
    exact List.mergeSort_perm _ _
  · obtain ⟨s, hs, hjoins⟩ := exists_joins_of_parts hdir hpart
    refine ⟨s, hs, hjoins, fun c names scans => ?_⟩
    have hreports := (hjoins.restrictTo names).addUpTo_report c scans
    rw [List.map_map, List.map_map] at hreports
    exact hreports
  · rw [ofPath_file_eq_error (isFileAt_of_mem hdir hmem), fileFault?_eq_some]

/-- A directory with two manifests, listed against their order, between a text and a directory whose
name ends as that of a manifest. -/
def twoManifests : List (String × FileTree) :=
  [("old.yaml", .directory []),
    ("b.yaml", .file (Utf8.encode "kind: Pod\nmetadata:\n  name: b\n".toList)),
    ("notes.txt", .file []),
    ("a.json", .file (Utf8.encode "\x7b\"kind\": \"Pod\"\x7d".toList))]

theorem relisted_twoManifests :
    (FileTree.directory [("m", .directory twoManifests)]).Relisted
      (.directory [("m", .directory twoManifests.reverse)]) := by
  refine .directory (List.Perm.refl _) fun name t t' ht ht' => ?_
  obtain ⟨rfl, rfl⟩ := Prod.mk.inj (List.mem_singleton.1 ht)
  obtain ⟨-, rfl⟩ := Prod.mk.inj (List.mem_singleton.1 ht')
  refine .of_perm (List.reverse_perm _).symm (by decide) fun e he => ?_
  simp only [twoManifests, List.mem_cons, List.not_mem_nil, or_false] at he
  obtain rfl | rfl | rfl | rfl := he
  · exact .directory (List.Perm.refl _) (by simp)
  · exact .file _
  · exact .file _
  · exact .file _

set_option maxRecDepth 4000 in
theorem ofPath_directory_two :
    (FileTree.directory [("m", .directory twoManifests)]).at? "m" =
      .ok (.directory twoManifests) ∧
    ofPath (.directory [("m", .directory twoManifests.reverse)]) "m" =
      .ok { sourceName := "m", sourceType := .path,
            pods := [{}, { metadata := { name := some "b" } }] } := by
  have hat : (FileTree.directory [("m", .directory twoManifests)]).at? "m" =
      .ok (.directory twoManifests) := rfl
  have hpaths : manifestPaths (.directory [("m", .directory twoManifests)]) "m" =
      ["m/a.json", "m/b.yaml"] := by
    rw [manifestPaths_directory hat]
    exact mergeSort_eq_of_pairwise (by decide +kernel) (by decide)
  obtain ⟨-, hlisting, hload, -, -, -⟩ := ofPath_directory hat
  rw [hpaths] at hload
  refine ⟨hat, ?_⟩
  rw [hlisting _ relisted_twoManifests]
  refine hload (fun file => [.pod (if file = "m/a.json" then {} else
    { metadata := { name := some "b" } })]) fun file hfile => ?_
  rcases List.mem_cons.1 hfile with rfl | hfile
  · exact ⟨"\x7b\"kind\": \"Pod\"\x7d", rfl, by decide +kernel⟩
  · obtain rfl := List.mem_singleton.1 hfile
    exact ⟨"kind: Pod\nmetadata:\n  name: b\n", rfl, by decide +kernel⟩

end Snapshot

end ClusterAudit
