import ClusterAudit.FileTree

/-!
# Writing files

What is written to a path is what stands at it afterwards (`ClusterAudit.FileTree.at?_of_write`).
This is less plain than it seems, since a path is read in two ways. Reading follows it part by part
and leads through every directory that it names, also through those that two dots lead out of
again; writing drops such parts first and puts the file where the names that are left lead to.

Both ways end at the same `ClusterAudit.FileTree.Stands`, a place below the root with the names that
lead to it. That the path still leads there when the file has been put needs one more thing: all
directories are still directories (`ClusterAudit.FileTree.descend?_put_of_directory`), because the
file did not take the place of one.
-/

namespace ClusterAudit

namespace FileTree

variable {t t' root root' new : FileTree} {names : List String}

/-- A part of a path that names an entry: one that does not say to stay or to go back, and not too
long. -/
structure IsName (part : String) : Prop where
  /-- It does not say to stay. -/
  stays : part ≠ "" ∧ part ≠ "."
  /-- It does not say to go back. -/
  back : part ≠ ".."
  /-- It is not too long. -/
  short : (Utf8.encode part.toList).length ≤ 255

/-! ### Descending along names -/

/-- What stands behind entries with these names, the outermost first. -/
def descend? : FileTree → List String → Option FileTree
  | t, [] => some t
  | .file _, _ :: _ => none
  | .directory entries, name :: names => (child? name entries).bind fun t => t.descend? names

theorem descend?_concat {entries : List (String × FileTree)} {name : String}
    (h : t.descend? names = some (.directory entries)) :
    t.descend? (names ++ [name]) = child? name entries := by
  induction names generalizing t with
  | nil =>
    obtain rfl : t = .directory entries := Option.some.inj h
    rw [List.nil_append, descend?]
    cases child? name entries <;> rfl
  | cons n names ih =>
    cases t with
    | file bytes => cases h
    | directory entries' =>
      obtain ⟨u, hchild, hu⟩ := Option.bind_eq_some_iff.1 h
      rw [List.cons_append, descend?, hchild, Option.bind_some, ih hu]

/-! ### Putting things -/

theorem child?_putEntry (name other : String) (t : FileTree) (entries : List (String × FileTree)) :
    child? other (putEntry name t entries) =
      if other = name then some t else child? other entries := by
  induction entries with
  | nil =>
    by_cases h : name = other
    · simp [putEntry, child?, h]
    · simp [putEntry, child?, h, Ne.symm h]
  | cons e entries ih =>
    obtain ⟨n, u⟩ := e
    rw [child?] at ih
    rw [putEntry]
    by_cases hname : n = name
    · by_cases hother : other = name
      · simp [child?, hname, hother]
      · simp [child?, hname, hother, Ne.symm hother]
    · by_cases hother : n = other
      · have hne : other ≠ name := fun h => hname (hother.trans h)
        simp [child?, hother, hne]
      · simp [child?, hname, hother, ih]

theorem put_directory {name : String} (hname : name ≠ "" ∧ name ≠ ".")
    (entries : List (String × FileTree)) :
    put (.directory entries) (name :: names) new =
      .directory (putEntry name (((child? name entries).getD (.directory [])).put names new)
        entries) := by
  simp [put, hname.1, hname.2]

/-- **What is put somewhere stands there.** -/
theorem descend?_put (hnames : ∀ n ∈ names, n ≠ "" ∧ n ≠ ".") (t new : FileTree) :
    (t.put names new).descend? names = some new := by
  induction names generalizing t with
  | nil => cases t <;> simp [put, descend?]
  | cons n names ih =>
    have hput : ∀ u : FileTree, (u.put names new).descend? names = some new :=
      ih fun m hm => hnames m (List.mem_cons_of_mem _ hm)
    obtain ⟨hempty, hdot⟩ := hnames n List.mem_cons_self
    cases t with
    | file bytes => simp [put, hempty, hdot, descend?, child?, hput]
    | directory entries => simp [put, hempty, hdot, descend?, child?_putEntry, hput]

/-- **A directory stays one** when something is put that does not take the place of a directory. -/
theorem descend?_put_of_directory (hnames : ∀ n ∈ names, n ≠ "" ∧ n ≠ ".")
    (hplace : ∀ entries, t.descend? names ≠ some (.directory entries)) {others : List String}
    {entries : List (String × FileTree)} (h : t.descend? others = some (.directory entries)) :
    ∃ entries', (t.put names new).descend? others = some (.directory entries') := by
  induction names generalizing t others with
  | nil =>
    cases t with
    | directory entries' => exact absurd rfl (hplace entries')
    | file bytes => cases others <;> cases h
  | cons n names ih =>
    cases t with
    | file bytes => cases others <;> cases h
    | directory entries' =>
      rw [put_directory (hnames n List.mem_cons_self)]
      cases others with
      | nil => exact ⟨_, rfl⟩
      | cons m others =>
        obtain ⟨u, hchild, hu⟩ := Option.bind_eq_some_iff.1 h
        rw [descend?, child?_putEntry]
        by_cases hm : m = n
        · subst hm
          rw [if_pos rfl, Option.bind_some, hchild, Option.getD_some]
          refine ih (fun n hn => hnames n (List.mem_cons_of_mem _ hn)) (fun es hes => ?_) hu
          exact hplace es (by rw [descend?, hchild, Option.bind_some, hes])
        · rw [if_neg hm, hchild]
          exact ⟨entries, hu⟩

/-! ### The parts of a path

A part says to stay, to go back or to go on to an entry. It says the same to one who follows the path
and to one who keeps the names. -/

section Parts

variable {part : String} {rest : List String} {above : List FileTree}
  {entries : List (String × FileTree)}

theorem follow_stays (h : part = "" ∨ part = ".") :
    follow (part :: rest) above (.directory entries) = follow rest above (.directory entries) := by
  simp [follow, h]

theorem normalise_stays (h : part = "" ∨ part = ".") :
    normalise (part :: rest) names = normalise rest names := by
  simp [normalise, h]

theorem follow_back :
    follow (".." :: rest) (t :: above) (.directory entries) = follow rest above t := by
  simp [follow]

theorem normalise_back : normalise (".." :: rest) names = normalise rest (names.drop 1) := by
  simp [normalise]

theorem IsName.follow (h : IsName part) (hchild : child? part entries = some t) :
    follow (part :: rest) above (.directory entries) =
      FileTree.follow rest (.directory entries :: above) t := by
  simp [FileTree.follow, h.stays.1, h.stays.2, h.back, Nat.not_lt.2 h.short, hchild]

theorem IsName.normalise (h : IsName part) :
    normalise (part :: rest) names = FileTree.normalise rest (part :: names) := by
  simp [FileTree.normalise, h.stays.1, h.stays.2, h.back]

/-- A part that leads somewhere and says neither to stay nor to go back is the name of an entry. -/
theorem isName_of_follow (hstays : ¬(part = "" ∨ part = ".")) (hback : part ≠ "..")
    (hfollow : follow (part :: rest) above (.directory entries) = .ok t) :
    IsName part ∧ ∃ u, child? part entries = some u := by
  obtain ⟨hempty, hdot⟩ := not_or.1 hstays
  by_cases hlong : 255 < (Utf8.encode part.toList).length
  · simp [follow, hempty, hdot, hback, hlong] at hfollow
  · refine ⟨⟨⟨hempty, hdot⟩, hback, Nat.not_lt.1 hlong⟩, ?_⟩
    cases hchild : child? part entries with
    | some u => exact ⟨u, rfl⟩
    | none => simp [follow, hempty, hdot, hback, hlong, hchild] at hfollow

theorem normalise_concat {init : List String} {name : String} (hname : IsName name) :
    normalise (init ++ [name]) names = normalise init names ++ [name] := by
  induction init generalizing names with
  | nil => simp [hname.normalise, normalise]
  | cons part rest ih =>
    simp only [List.cons_append, normalise]
    split
    · exact ih
    · split <;> exact ih

end Parts

/-! ### Following paths -/

/-- **Where one stands** below a root: the names that lead there, the directories above, both with
the innermost first, and what is there. -/
inductive Stands (root : FileTree) : List String → List FileTree → FileTree → Prop
  /-- At the root. -/
  | root : Stands root [] [] root
  /-- At an entry of a directory. -/
  | child {names : List String} {above : List FileTree} {entries : List (String × FileTree)}
      {name : String} {t : FileTree} (h : Stands root names above (.directory entries))
      (hname : IsName name) (hchild : child? name entries = some t) :
      Stands root (name :: names) (.directory entries :: above) t

theorem Stands.isName {above : List FileTree} (h : Stands root names above t) :
    ∀ n ∈ names, IsName n := by
  induction h with
  | root => simp
  | child h hname hchild ih => simpa using ⟨hname, ih⟩

theorem Stands.descend? {above : List FileTree} (h : Stands root names above t) :
    root.descend? names.reverse = some t := by
  induction h with
  | root => cases root <;> rfl
  | child h hname hchild ih => rw [List.reverse_cons, descend?_concat ih, hchild]

/-- **A path leads to the same place** in a second tree in which all directories of the first one
are directories. -/
theorem Stands.follow {above above' : List FileTree} (h : Stands root names above t)
    (h' : Stands root' names above' t')
    (keeps : ∀ (ns : List String) (es : List (String × FileTree)),
      root.descend? ns = some (.directory es) →
        ∃ es', root'.descend? ns = some (.directory es'))
    {path : List String} {entries : List (String × FileTree)}
    (hfollow : follow path above t = .ok (.directory entries)) :
    ∃ ns above₂ entries₂, normalise path names = ns.reverse ∧
      Stands root' ns above₂ (.directory entries₂) ∧
      root.descend? ns.reverse = some (.directory entries) ∧
      ∀ more, FileTree.follow (path ++ more) above' t' =
        FileTree.follow more above₂ (.directory entries₂) := by
  induction path generalizing names above above' t t' with
  | nil =>
    obtain rfl : t = .directory entries := Except.ok.inj hfollow
    obtain ⟨es', hes'⟩ := keeps _ _ h.descend?
    obtain rfl : t' = .directory es' := Option.some.inj (h'.descend?.symm.trans hes')
    exact ⟨names, above', es', rfl, h', h.descend?, fun more => rfl⟩
  | cons part rest ih =>
    cases t with
    | file bytes => cases hfollow
    | directory es =>
      obtain ⟨es', hes'⟩ := keeps _ _ h.descend?
      obtain rfl : t' = .directory es' := Option.some.inj (h'.descend?.symm.trans hes')
      simp only [List.cons_append]
      by_cases hstays : part = "" ∨ part = "."
      · simp only [follow_stays hstays, normalise_stays hstays] at hfollow ⊢
        exact ih h h' hfollow
      by_cases hback : part = ".."
      · subst hback
        cases h with
        | root => simp [FileTree.follow] at hfollow
        | child h hname hchild =>
          cases h' with
          | child h' hname' hchild' =>
            simp only [follow_back, normalise_back, List.drop_one, List.tail_cons] at hfollow ⊢
            exact ih h h' hfollow
      · obtain ⟨hname, u, hchild⟩ := isName_of_follow hstays hback hfollow
        have hu : Stands root (part :: names) (.directory es :: above) u := h.child hname hchild
        rw [hname.follow hchild] at hfollow
        cases u with
        | file bytes => cases rest <;> cases hfollow
        | directory us =>
          obtain ⟨us', hus'⟩ := keeps _ _ hu.descend?
          rw [List.reverse_cons, descend?_concat h'.descend?] at hus'
          simp only [hname.follow hus', hname.normalise]
          exact ih hu (h'.child hname hus') hfollow

/-! ### Writing -/

/-- **What a written file needs**: the directory that it is in, and a name that no directory there
has. -/
theorem exists_of_write {path : String} {bytes : List UInt8} (h : t.write path bytes = .ok t') :
    ∃ init name entries, parts path = init ++ [name] ∧
      follow init [] t = .ok (.directory entries) ∧ IsName name ∧
      (∀ es, child? name entries ≠ some (.directory es)) ∧
      t' = t.put (normalise (parts path) []) (.file bytes) ∧
      ∀ u : FileTree, u.at? path = follow (parts path) [] u := by
  rw [write] at h
  by_cases hnul : path.toList.contains '\x00'
  · rw [if_pos hnul] at h
    cases h
  by_cases hlong : longestPath < path.utf8ByteSize
  · rw [if_neg hnul, if_pos hlong] at h
    cases h
  rw [if_neg hnul, if_neg hlong] at h
  rcases hlast : (parts path).getLast? with _ | name
  · rw [hlast] at h
    cases h
  obtain ⟨init, hparts⟩ := List.getLast?_eq_some_iff.1 hlast
  rw [hlast, hparts, List.dropLast_concat] at h
  rcases hfollow : follow init [] t with e | (_ | entries)
  · simp [hfollow] at h
  · simp [hfollow] at h
  simp only [hfollow] at h
  by_cases hempty : path.isEmpty
  · rw [if_pos hempty] at h
    cases h
  by_cases hspecial : name == "" || name == "." || name == ".."
  · rw [if_neg hempty, if_pos hspecial] at h
    cases h
  rw [if_neg hempty, if_neg hspecial] at h
  split at h
  next => cases h
  next hfree =>
    by_cases hlarge : 255 < (Utf8.encode name.toList).length
    · rw [if_pos hlarge] at h
      cases h
    rw [if_neg hlarge] at h
    simp only [Bool.or_eq_true, beq_iff_eq, not_or] at hspecial
    have hname : IsName name := ⟨hspecial.1, hspecial.2, Nat.not_lt.1 hlarge⟩
    refine ⟨init, name, entries, hparts, hfollow, hname, hfree, ?_, fun u => ?_⟩
    · rw [hparts]
      exact (Except.ok.inj h).symm
    · rw [at?, if_neg hnul, if_neg hlong, if_neg hempty]

/-- **What was written to a path stands there.** -/
theorem at?_of_write {path : String} {bytes : List UInt8} (h : t.write path bytes = .ok t') :
    t'.at? path = .ok (.file bytes) := by
  obtain ⟨init, name, entries, hparts, hfollow, hname, hfree, rfl, hat⟩ := exists_of_write h
  -- the names that are left lead to the directory and then to the file
  obtain ⟨ns, _, _, hnormalise, hstands, hdescend, -⟩ :=
    Stands.root.follow .root (fun _ es hes => ⟨es, hes⟩) hfollow
  have hplace : normalise (parts path) [] = ns.reverse ++ [name] := by
    rw [hparts, normalise_concat hname, hnormalise]
  have hnames : ∀ n ∈ ns.reverse ++ [name], n ≠ "" ∧ n ≠ "." := by
    intro n hn
    rcases List.mem_append.1 hn with hn | hn
    · exact (hstands.isName n (List.mem_reverse.1 hn)).stays
    · obtain rfl := List.mem_singleton.1 hn
      exact hname.stays
  have hfree : ∀ es, t.descend? (ns.reverse ++ [name]) ≠ some (.directory es) := by
    rw [descend?_concat hdescend]
    exact hfree
  rw [hat, hplace, hparts]
  -- the path still leads to the directory
  obtain ⟨ns', above, es, hnormalise', hstands', -, hmore⟩ :=
    Stands.root.follow .root (fun _ _ hes => descend?_put_of_directory hnames hfree hes) hfollow
  obtain rfl : ns = ns' := by
    rw [← List.reverse_inj, ← hnormalise, hnormalise']
  have hfile : child? name es = some (.file bytes) := by
    rw [← descend?_concat hstands'.descend?, descend?_put hnames]
  rw [hmore, hname.follow hfile]
  rfl

end FileTree

end ClusterAudit
