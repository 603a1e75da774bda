import ClusterAudit.Url.Reader

/-!
# Addresses without segments

What is read as an address may have no path of segments. Nothing can be put below such an address,
although there is nothing wrong with it. Which texts these are shows at one place, right behind the
scheme: there is no slash, and the scheme is not one of those whose addresses always have a path
(`ClusterAudit.Url.IsOpaque`). All texts of this form are addresses, whatever else stands in them,
and no others are addresses without segments (`ClusterAudit.Url.parse_eq_ok_opaque`).

The name and port of a host are such a text. The name is then the scheme, and the port is the rest.
-/

namespace ClusterAudit.Url

open Text

/-- **A text is an opaque address**: no slash follows its scheme, which is not a special one. -/
def IsOpaque (text : String) : Prop :=
  ∃ p ∈ scheme? (clean text), isSpecial p.1 = false ∧ p.2.head? ≠ some '/'

instance (text : String) : Decidable (IsOpaque text) :=
  inferInstanceAs (Decidable (∃ p ∈ scheme? (clean text), _))

/-! ### What stands behind the scheme -/

theorem head?_fst_of_cut {sep c : Char} (hc : c ≠ sep) {cs front back : List Char}
    (h : cut sep cs = some (front, back)) : front.head? = some c ↔ cs.head? = some c := by
  cases cs with
  | nil => cases h
  | cons d cs =>
    rw [cut] at h
    split at h
    · -- the separator itself comes first
      rename_i hsep
      cases h
      rw [beq_iff_eq] at hsep
      simp [hsep, Ne.symm hc]
    · obtain ⟨⟨front', back'⟩, -, heq⟩ := Option.map_eq_some_iff.1 h
      cases heq
      rfl

/-- The text in front of a separator, all of it if there is none. -/
def before (sep : Char) (cs : List Char) : List Char :=
  ((cut sep cs).map Prod.fst).getD cs

theorem head?_before {sep c : Char} (hc : c ≠ sep) (cs : List Char) :
    (before sep cs).head? = some c ↔ cs.head? = some c := by
  rw [before]
  cases hcut : cut sep cs with
  | none => rfl
  | some p => exact head?_fst_of_cut hc hcut

theorem fst_splitTail (cs : List Char) : (splitTail cs).1 = before '?' (before '#' cs) := by
  rw [splitTail, before, before]
  cases cut '#' cs with
  | none => cases hquery : cut '?' cs <;> simp [hquery]
  | some p => cases hquery : cut '?' p.1 <;> simp [hquery]

/-- What stands in front of a query and a fragment begins with a slash if the whole does. -/
theorem head?_splitTail (cs : List Char) :
    (splitTail cs).1.head? = some '/' ↔ cs.head? = some '/' := by
  rw [fst_splitTail, head?_before (by decide), head?_before (by decide)]

/-! ### Addresses by the sort of their scheme -/

variable {scheme : String} {front : List Char} {u : Url}

theorem hasSegments_of_filePath (h : ∃ l, u.path = filePath l) : u.hasSegments = true := by
  obtain ⟨l, hl⟩ := h
  rw [hasSegments, hl, filePath]
  cases l.dropWhile (· == "") <;> rfl

theorem hasSegments_ofFile (h : ofFile front = .ok u) : u.hasSegments = true := by
  simp only [ofFile, bind, Except.bind, pure, Except.pure] at h
  repeat' split at h
  all_goals cases h <;> exact hasSegments_of_filePath ⟨_, rfl⟩

theorem hasSegments_ofSpecial (h : ofSpecial scheme front = .ok u) : u.hasSegments = true := by
  simp only [ofSpecial, bind, Except.bind] at h
  split at h
  · cases h
  · cases h
    rfl

theorem hasSegments_ofOther {last : Bool} (hslash : front.head? = some '/')
    (h : ofOther scheme last front = .ok u) : u.hasSegments = true := by
  obtain ⟨rest, rfl⟩ := List.head?_eq_some_iff.1 hslash
  rw [ofOther.eq_def] at h
  split at h
  · simp only [bind, Except.bind] at h
    split at h
    · cases h
    · cases h
      rfl
  · cases h
    rfl
  next _ hno => exact absurd rfl (hno rest)

theorem ofOther_of_head? (last : Bool) (hslash : front.head? ≠ some '/') :
    ofOther scheme last front =
      .ok { scheme, path := .opaqueText (String.ofList (encode isControl front)) } := by
  rw [ofOther.eq_def]
  split
  · exact absurd rfl hslash
  · exact absurd rfl hslash
  · rfl

/-! ### Reading an opaque address -/

/-- The address behind the colon of a scheme, without its query and fragment. -/
def ofScheme (scheme : String) (last : Bool) (front : List Char) : Except Fault Url :=
  if scheme == "file" then ofFile front
  else if isSpecial scheme then ofSpecial scheme front
  else ofOther scheme last front

/-- An address without segments is one of another scheme that does not begin with a slash. -/
theorem ofScheme_eq_ok_opaque (scheme : String) (last : Bool) (front : List Char) :
    (∃ u, ofScheme scheme last front = .ok u ∧ u.hasSegments = false) ↔
      isSpecial scheme = false ∧ front.head? ≠ some '/' := by
  constructor
  · rintro ⟨u, hu, hnone⟩
    have hno : u.hasSegments ≠ true := Bool.eq_false_iff.1 hnone
    rw [ofScheme] at hu
    split at hu
    · exact absurd (hasSegments_ofFile hu) hno
    · split at hu
      · exact absurd (hasSegments_ofSpecial hu) hno
      next hspecial =>
        exact ⟨Bool.eq_false_iff.2 hspecial, fun hslash => hno (hasSegments_ofOther hslash hu)⟩
  · rintro ⟨hspecial, hslash⟩
    have hfile : (scheme == "file") = false := (Bool.or_eq_false_iff.1 hspecial).1
    have hopaque : ofScheme scheme last front =
        .ok { scheme, path := .opaqueText (String.ofList (encode isControl front)) } := by
      rw [ofScheme, hfile, hspecial]
      exact ofOther_of_head? last hslash
    exact ⟨_, hopaque, rfl⟩

/-- The query and the fragment are added to an address when the rest of it has been read. -/
theorem parse_of_scheme? {text : String} {rest : List Char}
    (h : scheme? (clean text) = some (scheme, rest)) :
    ∃ (last : Bool) (query fragment : Option String),
      parse text = (ofScheme scheme last (splitTail rest).1).map fun u =>
        { u with query, fragment } := by
  rcases hsplit : splitTail rest with ⟨front, query, fragment⟩
  refine ⟨query.isNone && fragment.isNone,
    query.map fun q => String.ofList (encode (inQuery (isSpecial scheme)) q),
    fragment.map fun f => String.ofList (encode inFragment f), ?_⟩
  rw [parse, h, ofScheme]
  simp only [hsplit, bind, Except.bind, pure, Except.pure]
  split
  · cases ofFile front <;> rfl
  · split
    · cases ofSpecial scheme front <;> rfl
    · cases ofOther scheme (query.isNone && fragment.isNone) front <;> rfl

/-- **A text is read as an address without segments exactly when it is an opaque address.** -/
theorem parse_eq_ok_opaque {text : String} :
    (∃ u, parse text = .ok u ∧ u.hasSegments = false) ↔ IsOpaque text := by
  rw [IsOpaque]
  cases hscheme : scheme? (clean text) with
  | none =>
    have hnone : parse text = .error .noScheme := by
      rw [parse, hscheme]
      rfl
    simp [hnone]
  | some p =>
    obtain ⟨scheme, rest⟩ := p
    obtain ⟨last, query, fragment, hparse⟩ := parse_of_scheme? hscheme
    have hread : (∃ u, parse text = .ok u ∧ u.hasSegments = false) ↔
        ∃ u, ofScheme scheme last (splitTail rest).1 = .ok u ∧ u.hasSegments = false := by
      rw [hparse]
      cases ofScheme scheme last (splitTail rest).1 with
      | error e => simp [Except.map]
      | ok u => simp [Except.map, hasSegments]
    rw [hread, ofScheme_eq_ok_opaque, Ne, head?_splitTail]
    simp

end ClusterAudit.Url
