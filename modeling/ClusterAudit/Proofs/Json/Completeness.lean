import ClusterAudit.Proofs.Json.Soundness

/-!
# Texts that the reader of JSON understands

The reader takes apart every text of the grammar, and with what it accepts this makes an
equivalence (`ClusterAudit.Json.Written.ofText?_eq_some_iff`): a law about written documents is one
about texts.

The pieces that the steps take are never empty, so that the length of a text is enough for their
number, and a run is as good as its outcome (`ClusterAudit.Json.Reader.outcome_eq`). The reader
comes out behind a value as it went in, whatever is open around it
(`ClusterAudit.Json.Reader.Completes`). What stands behind a number must not go on with it, and what
stands behind a value in a text of the grammar never does (`ClusterAudit.Json.Reader.Breaks`).
-/

namespace ClusterAudit.Json

open Reader Text

/-! ### Steps and runs -/

namespace Reader

variable {cs rest ds : List Char}

/-- The length of a text bounds the number of steps. -/
theorem length_lt_of_step {p p' : Place} {a a' : List Enclosure}
    (h : step p a cs = some (p', a', rest)) : rest.length < cs.length := by
  obtain ⟨text, htakes, rfl⟩ := takes_of_step h
  have hpos := List.length_pos_iff.2 htakes.ne_nil
  rw [List.length_append]
  omega

section

variable {fuel : Nat} {p : Place} {a : List Enclosure}

theorem run_step (hp : ∀ x, p = .behind x → a ≠ []) :
    run (fuel + 1) p a cs = (step p a cs).bind fun s => run fuel s.1 s.2.1 s.2.2 := by
  rw [run]
  · cases step p a cs with
    | none => rfl
    | some s => rfl
  · exact hp

/-- Steps beyond the length of the text are not taken. -/
theorem run_succ (h : cs.length ≤ fuel) : run (fuel + 1) p a cs = run fuel p a cs := by
  induction fuel generalizing p a cs with
  | zero =>
    by_cases hp : ∀ x, p = .behind x → a ≠ []
    · have hnone : step p a cs = none := Option.eq_none_iff_forall_not_mem.2 fun s hstep =>
        Nat.not_lt_zero _ (Nat.lt_of_lt_of_le (length_lt_of_step hstep) h)
      rw [run_step hp, hnone, run]
      · rfl
      · exact hp
    · simp only [not_forall, not_not, exists_prop] at hp
      obtain ⟨x, rfl, rfl⟩ := hp
      rw [run, run]
  | succ fuel ih =>
    by_cases hp : ∀ x, p = .behind x → a ≠ []
    · rw [run_step hp, run_step hp]
      exact Option.bind_congr fun s hstep =>
        ih (Nat.le_of_lt_succ (Nat.lt_of_lt_of_le (length_lt_of_step hstep) h))
    · simp only [not_forall, not_not, exists_prop] at hp
      obtain ⟨x, rfl, rfl⟩ := hp
      rw [run, run]

/-- What is read at the end of all steps. -/
def outcome (p : Place) (a : List Enclosure) (cs : List Char) : Option Written :=
  run cs.length p a cs

theorem run_eq_outcome (h : cs.length ≤ fuel) : run fuel p a cs = outcome p a cs := by
  induction fuel, h using Nat.le_induction with
  | base => rfl
  | succ fuel h ih => rw [run_succ h, ih]

/-- **The law of the run**: one step, and then the others. -/
theorem outcome_eq (hp : ∀ x, p = .behind x → a ≠ []) :
    outcome p a cs = (step p a cs).bind fun s => outcome s.1 s.2.1 s.2.2 := by
  rw [outcome, ← run_succ (Nat.le_refl _), run_step hp]
  cases hstep : step p a cs with
  | none => rfl
  | some s => exact run_eq_outcome (Nat.le_of_lt (length_lt_of_step hstep))

theorem outcome_value :
    outcome .value a cs = (step .value a cs).bind fun s => outcome s.1 s.2.1 s.2.2 :=
  outcome_eq fun _ h => by cases h

end

/-! ### Tokens -/

theorem skipBlank_append {blank : List Char} (h : IsBlank blank) :
    skipBlank (blank ++ cs) = skipBlank cs :=
  List.dropWhile_append_of_pos h

theorem skipBlank_of_not {c : Char} (h : isBlank c = false) : skipBlank (c :: cs) = c :: cs :=
  List.dropWhile_cons_of_neg (by simp [h])

/-- **Letters are read back** up to the closing quote. -/
theorem letters_append {done s : List Letter} {text : List Char} (h : Letter.Spells s text) :
    letters done (text ++ '\x22' :: rest) = some (done.reverse ++ s, rest) := by
  induction h generalizing done with
  | nil => rw [List.nil_append, letters, List.append_nil]
  | plain hquote hslash hlow _ ih =>
    rw [List.cons_append, letters, if_neg (by simp [hslash, hlow]), ih]
    · simp
    · exact hquote
    · exact fun _ _ _ _ _ h _ => hslash h
    · exact fun _ _ h _ => hslash h
  | short he _ ih =>
    rw [List.cons_append, List.cons_append, letters, he]
    · dsimp only
      rw [ih]
      simp
    · rintro _ _ _ _ _ rfl
      cases he
  | unit hn _ ih =>
    simp only [List.cons_append, letters, hn]
    rw [ih]
    simp

/-- A text that does not go on with a number in front of it. -/
def Breaks (rest : List Char) : Prop :=
  ∀ c ∈ rest.head?, c.isDigit = false ∧ c ≠ '.' ∧ c ≠ 'e' ∧ c ≠ 'E'

theorem breaks_nil : Breaks [] := by
  rintro _ ⟨⟩

theorem breaks_comma : Breaks (',' :: rest) := by
  rintro _ ⟨⟩
  decide

theorem breaks_bracket : Breaks (']' :: rest) := by
  rintro _ ⟨⟩
  decide

theorem breaks_brace : Breaks ('}' :: rest) := by
  rintro _ ⟨⟩
  decide

theorem breaks_blank {c : Char} (h : isBlank c = true) : Breaks (c :: rest) := by
  rintro _ ⟨⟩
  simp only [isBlank, Bool.or_eq_true, decide_eq_true_eq] at h
  obtain ((rfl | rfl) | rfl) | rfl := h
  all_goals decide

theorem digits_append (h : ∀ c ∈ ds, c.isDigit = true)
    (hrest : ∀ c ∈ rest.head?, c.isDigit = false) : digits (ds ++ rest) = (ds, rest) := by
  have hend : rest.takeWhile Char.isDigit = [] ∧ rest.dropWhile Char.isDigit = rest := by
    cases rest with
    | nil => exact ⟨rfl, rfl⟩
    | cons c rest => simp [hrest c rfl]
  rw [digits, List.takeWhile_append_of_pos h, List.dropWhile_append_of_pos h, hend.1, hend.2,
    List.append_nil]

theorem sign_append {negative : Bool} {text : List Char} (h : Numeral.Sign negative text)
    (hds : Numeral.IsDigits ds) : sign (text ++ (ds ++ rest)) = (negative, ds ++ rest) := by
  cases h with
  | none =>
    obtain ⟨d, ds, rfl⟩ := List.exists_cons_of_ne_nil hds.ne_nil
    have hd := hds.each d (List.mem_cons_self ..)
    rw [List.nil_append, List.cons_append, sign]
    · rintro _ ⟨⟩
      cases hd
    · rintro _ ⟨⟩
      cases hd
  | plus => rfl
  | minus => rfl

theorem exponent_append {ex : Option Int} {text : List Char} (h : Numeral.Exponent ex text)
    (hrest : Breaks rest) : exponent (text ++ rest) = some (ex, rest) := by
  cases h with
  | none =>
    cases rest with
    | nil => rfl
    | cons c rest =>
      obtain ⟨-, -, he, hE⟩ := hrest c rfl
      rw [List.nil_append, exponent, if_neg (by simp [he, hE])]
  | some hmark hsign hds hn =>
    have hdigits := digits_append hds.each fun c hc => (hrest c hc).1
    rw [List.cons_append, List.append_assoc, exponent, if_pos (by simpa using hmark),
      sign_append hsign hds]
    simp only [hdigits, hn]

theorem fraction_append {fr : Option (List Char)} {text : List Char}
    (h : Numeral.Fraction fr text) (hrest : ∀ c ∈ rest.head?, c.isDigit = false ∧ c ≠ '.') :
    fraction (text ++ rest) = some (fr, rest) := by
  cases h with
  | none =>
    rw [List.nil_append, fraction]
    rintro _ rfl
    exact (hrest '.' rfl).2 rfl
  | some hds =>
    rw [List.cons_append, fraction, digits_append hds.each fun c hc => (hrest c hc).1]
    simp [hds.ne_nil]

theorem head_exponent {ex : Option Int} {text : List Char} (h : Numeral.Exponent ex text)
    (hrest : Breaks rest) : ∀ c ∈ (text ++ rest).head?, c.isDigit = false ∧ c ≠ '.' := by
  cases h with
  | none => exact fun c hc => ⟨(hrest c hc).1, (hrest c hc).2.1⟩
  | some hmark =>
    rintro _ ⟨⟩
    obtain rfl | rfl := hmark
    all_goals decide

theorem head_fraction {fr : Option (List Char)} {text : List Char} (h : Numeral.Fraction fr text)
    (hrest : ∀ c ∈ rest.head?, c.isDigit = false ∧ c ≠ '.') :
    ∀ c ∈ (text ++ rest).head?, c.isDigit = false := by
  cases h with
  | none => exact fun c hc => (hrest c hc).1
  | some =>
    rintro _ ⟨⟩
    rfl

/-- **A number is read back** in front of a text that does not go on with it. -/
theorem numeral_append {n : Numeral} {f e : List Char} (h : n.Unsigned f e) (hrest : Breaks rest) :
    numeral n.negative (n.whole ++ (f ++ e) ++ rest) = some (n, rest) := by
  have hexponent := head_exponent h.exponent hrest
  have hfraction := head_fraction h.fraction hexponent
  have hzero : ((n.whole.isEmpty || (decide (1 < n.whole.length) &&
      n.whole.head? == some '0')) = true) = False := by
    have hne := h.whole.ne_nil
    have hlong := h.zero
    simp only [Bool.or_eq_true, List.isEmpty_iff, Bool.and_eq_true, decide_eq_true_eq, beq_iff_eq,
      eq_iff_iff, iff_false, not_or, not_and]
    exact ⟨hne, fun hlt hhead => by have := hlong hhead; omega⟩
  rw [List.append_assoc, List.append_assoc, numeral, digits_append h.whole.each hfraction]
  simp only [hzero, if_false, fraction_append h.fraction hexponent,
    exponent_append h.exponent hrest, Option.bind_eq_bind, Option.bind_some]

/-! ### Values -/

/-- A value is read, whatever is open around it and stands behind it. -/
def Completes (x : Written) (text : List Char) : Prop :=
  ∀ a rest, Breaks rest → outcome .value a (text ++ rest) = outcome (.behind x) a rest

theorem step_atom {c : Char} (a : List Enclosure) (hblank : isBlank c = false) (hlist : c ≠ '[')
    (hobject : c ≠ '\x7b') :
    step .value a (c :: cs) = (atom (c :: cs)).map fun s => (.behind s.1, a, s.2) := by
  rw [step, skipBlank_of_not hblank]
  split
  next h => exact absurd (List.cons.inj h).1 hlist
  next h => exact absurd (List.cons.inj h).1 hobject
  next => rfl

theorem completes_of_atom {x : Written} {c : Char} {text : List Char} (hblank : isBlank c = false)
    (hlist : c ≠ '[') (hobject : c ≠ '\x7b')
    (h : ∀ rest, Breaks rest → atom (c :: text ++ rest) = some (x, rest)) :
    Completes x (c :: text) := by
  intro a rest hrest
  rw [outcome_value, List.cons_append, step_atom a hblank hlist hobject, ← List.cons_append,
    h rest hrest]
  rfl

/-- A digit is no character of another kind. -/
theorem ne_of_isDigit {c d : Char} (hd : d.isDigit = true) (hc : c.isDigit = false) : d ≠ c := by
  rintro rfl
  rw [hd] at hc
  cases hc

theorem isBlank_of_isDigit {d : Char} (hd : d.isDigit = true) : isBlank d = false := by
  have hne (c : Char) (hc : c.isDigit = false) : d ≠ c := ne_of_isDigit hd hc
  simp [isBlank, hne ' ' rfl, hne '\n' rfl, hne '\r' rfl, hne '\t' rfl]

theorem completes_number {n : Numeral} {text : List Char} (h : n.Spells text) :
    Completes (.number n) text := by
  cases h with
  | @positive f e hsign h =>
    obtain ⟨d, ds, hwhole⟩ := List.exists_cons_of_ne_nil h.whole.ne_nil
    have hd : d.isDigit = true := h.whole.each d (hwhole ▸ List.mem_cons_self ..)
    rw [hwhole, List.cons_append]
    refine completes_of_atom (isBlank_of_isDigit hd) (ne_of_isDigit hd rfl) (ne_of_isDigit hd rfl)
      fun rest hrest => ?_
    have hread := numeral_append h hrest
    rw [hwhole, hsign, List.cons_append] at hread
    rw [atom, hread]
    · rfl
    all_goals rintro _ ⟨⟩
    all_goals cases hd
  | negative hsign h =>
    refine completes_of_atom rfl (by decide) (by decide) fun rest hrest => ?_
    have hread := numeral_append h hrest
    rw [hsign] at hread
    rw [List.cons_append, atom, hread]
    rfl

theorem completes_string {s : List Letter} {text : List Char} (h : Letter.Spells s text) :
    Completes (.string s) ('\x22' :: (text ++ ['\x22'])) := by
  refine completes_of_atom rfl (by decide) (by decide) fun rest _ => ?_
  rw [List.cons_append, List.append_assoc, List.singleton_append, atom, letters_append h]
  rfl

/-- Behind the blank space in front of it, no value begins with the bracket that closes a list. -/
theorem skipBlank_ne_bracket {x : Written} {text cs' : List Char} (h : x.Spells text) :
    skipBlank (text ++ rest) ≠ ']' :: cs' := by
  have hne {c : Char} {cs : List Char} (hblank : isBlank c = false) (hc : c ≠ ']') :
      skipBlank (c :: cs) ≠ ']' :: cs' := by
    rw [skipBlank_of_not hblank]
    exact fun h => hc (List.cons.inj h).1
  induction h generalizing rest with
  | number h =>
    cases h with
    | @positive f e hsign h =>
      obtain ⟨d, ds, hwhole⟩ := List.exists_cons_of_ne_nil h.whole.ne_nil
      have hd : d.isDigit = true := h.whole.each d (hwhole ▸ List.mem_cons_self ..)
      rw [hwhole]
      refine hne (isBlank_of_isDigit hd) (ne_of_isDigit hd rfl)
    | negative => exact hne rfl (by decide)
  | before hc _ ih =>
    rw [List.cons_append, skipBlank, List.dropWhile_cons_of_pos hc]
    exact ih
  | behind _ _ ih =>
    rw [List.append_assoc]
    exact ih
  | _ => exact hne rfl (by decide)

theorem step_openList {a : List Enclosure} (h : ∀ cs', skipBlank cs ≠ ']' :: cs') :
    step .value a ('[' :: cs) = some (.value, .list [] :: a, cs) := by
  rw [step, skipBlank_of_not rfl]
  split
  next hopen =>
    cases hopen
    split
    next hclose => exact absurd hclose (h _)
    next => rfl
  next hopen => cases hopen
  next hother _ => exact absurd rfl (hother cs)

theorem step_emptyList {a : List Enclosure} (h : skipBlank cs = ']' :: rest) :
    step .value a ('[' :: cs) = some (.behind (.array []), a, rest) := by
  rw [step, skipBlank_of_not rfl]
  split
  next hopen =>
    cases hopen
    rw [h]
    rfl
  next hopen => cases hopen
  next hother _ => exact absurd rfl (hother cs)

theorem step_openObject {a : List Enclosure} (h : ∀ cs', skipBlank cs ≠ '\x7d' :: cs') :
    step .value a ('\x7b' :: cs) = some (.name [], a, cs) := by
  rw [step, skipBlank_of_not rfl]
  split
  next hopen => cases hopen
  next hopen =>
    cases hopen
    split
    next hclose => exact absurd hclose (h _)
    next => rfl
  next hother => exact absurd rfl (hother cs)

theorem step_emptyObject {a : List Enclosure} (h : skipBlank cs = '\x7d' :: rest) :
    step .value a ('\x7b' :: cs) = some (.behind (.object []), a, rest) := by
  rw [step, skipBlank_of_not rfl]
  split
  next hopen => cases hopen
  next hopen =>
    cases hopen
    rw [h]
    rfl
  next hother => exact absurd rfl (hother cs)

/-- **The items of a list are read** behind those that came before. -/
theorem outcome_items {items : List (Written × List Char)} (hne : items ≠ [])
    (each : ∀ i ∈ items, Completes i.1 i.2) (done : List Written) (a : List Enclosure) :
    outcome .value (.list done :: a)
        (List.intercalate [','] (items.map (·.2)) ++ ']' :: rest) =
      outcome (.behind (.array (done.reverse ++ items.map (·.1)))) a rest := by
  induction items generalizing done with
  | nil => exact absurd rfl hne
  | cons i items ih =>
    obtain ⟨hi, hitems⟩ := List.forall_mem_cons.1 each
    cases items with
    | nil =>
      have htext : List.intercalate [','] ([i].map (·.2)) = i.2 := by simp [List.intercalate]
      rw [htext, hi _ _ breaks_bracket, outcome_eq (by simp)]
      change outcome (.behind (.array (i.1 :: done).reverse)) a rest = _
      simp
    | cons j items =>
      rw [List.map_cons, List.map_cons, intercalate_cons_cons, List.append_assoc, List.cons_append,
        hi _ _ breaks_comma, outcome_eq (by simp)]
      change outcome .value (.list (i.1 :: done) :: a) _ = _
      rw [← List.map_cons, ih (List.cons_ne_nil _ _) hitems]
      simp

theorem outcome_name {fields : List (List Letter × Written)} {s : List Letter} {text : List Char}
    (h : Written.Named s text) (a : List Enclosure) :
    outcome (.name fields) a (text ++ ':' :: rest) =
      outcome .value (.field fields s :: a) rest := by
  obtain ⟨before, letters, behind, hbefore, hletters, hbehind, rfl⟩ := h
  have hquote : skipBlank (before ++ '\x22' :: (letters ++ '\x22' :: behind) ++ ':' :: rest) =
      '\x22' :: (letters ++ '\x22' :: (behind ++ ':' :: rest)) := by
    rw [List.append_assoc, skipBlank_append hbefore, List.cons_append, List.append_assoc,
      List.cons_append, skipBlank_of_not rfl]
  have hcolon : skipBlank (behind ++ ':' :: rest) = ':' :: rest := by
    rw [skipBlank_append hbehind, skipBlank_of_not rfl]
  rw [outcome_eq (by simp)]
  simp only [step, hquote, letters_append hletters, hcolon, List.reverse_nil, List.nil_append,
    Option.bind_some]

/-- **The fields of an object are read** behind those that came before. -/
theorem outcome_fields {fields : List Written.Field} (hne : fields ≠ [])
    (names : ∀ f ∈ fields, Written.Named f.name f.nameText)
    (each : ∀ f ∈ fields, Completes f.value f.valueText) (done : List (List Letter × Written))
    (a : List Enclosure) :
    outcome (.name done) a
        (List.intercalate [','] (fields.map Written.Field.text) ++ '\x7d' :: rest) =
      outcome (.behind (.object (done.reverse ++ fields.map Written.Field.written))) a rest := by
  induction fields generalizing done with
  | nil => exact absurd rfl hne
  | cons f fields ih =>
    obtain ⟨hname, hnames⟩ := List.forall_mem_cons.1 names
    obtain ⟨hf, hfields⟩ := List.forall_mem_cons.1 each
    cases fields with
    | nil =>
      have htext : List.intercalate [','] ([f].map Written.Field.text) =
          f.nameText ++ ':' :: f.valueText := by
        simp [List.intercalate, Written.Field.text]
      rw [htext, List.append_assoc, List.cons_append, outcome_name hname, hf _ _ breaks_brace,
        outcome_eq (by simp)]
      change outcome (.behind (.object (f.written :: done).reverse)) a rest = _
      simp
    | cons g fields =>
      rw [List.map_cons, List.map_cons, intercalate_cons_cons, Written.Field.text,
        List.append_assoc, List.append_assoc, List.cons_append, List.cons_append,
        outcome_name hname, hf _ _ breaks_comma, outcome_eq (by simp)]
      change outcome (.name (f.written :: done)) a _ = _
      rw [← List.map_cons, ih (List.cons_ne_nil _ _) hnames hfields]
      simp

theorem completes_array {items : List (Written × List Char)} (hne : items ≠ [])
    (spelled : ∀ i ∈ items, i.1.Spells i.2) (each : ∀ i ∈ items, Completes i.1 i.2) :
    Completes (.array (items.map (·.1)))
      ('[' :: (List.intercalate [','] (items.map (·.2)) ++ [']'])) := by
  intro a rest _
  have hopen (cs' : List Char) :
      skipBlank (List.intercalate [','] (items.map (·.2)) ++ ']' :: rest) ≠ ']' :: cs' := by
    obtain ⟨i, items, rfl⟩ := List.exists_cons_of_ne_nil hne
    obtain ⟨tail, htail⟩ := exists_intercalate_cons i.2 (items.map (·.2))
    rw [List.map_cons, htail, List.append_assoc]
    exact skipBlank_ne_bracket (spelled i (List.mem_cons_self ..))
  rw [List.cons_append, List.append_assoc, List.singleton_append, outcome_value,
    step_openList hopen]
  exact outcome_items hne each [] a

theorem completes_object {fields : List Written.Field} (hne : fields ≠ [])
    (names : ∀ f ∈ fields, Written.Named f.name f.nameText)
    (each : ∀ f ∈ fields, Completes f.value f.valueText) :
    Completes (.object (fields.map Written.Field.written))
      ('\x7b' :: (List.intercalate [','] (fields.map Written.Field.text) ++ ['\x7d'])) := by
  intro a rest _
  have hopen (cs' : List Char) :
      skipBlank (List.intercalate [','] (fields.map Written.Field.text) ++ '\x7d' :: rest) ≠
        '\x7d' :: cs' := by
    obtain ⟨f, fields, rfl⟩ := List.exists_cons_of_ne_nil hne
    obtain ⟨tail, htail⟩ := exists_intercalate_cons f.text (fields.map Written.Field.text)
    obtain ⟨before, text, behind, hbefore, -, -, hname⟩ := names f (List.mem_cons_self ..)
    rw [List.map_cons, htail, Written.Field.text, hname, List.append_assoc, List.append_assoc,
      List.append_assoc, skipBlank_append hbefore, List.cons_append, skipBlank_of_not rfl]
    exact fun h => absurd (List.cons.inj h).1 (by decide)
  rw [List.cons_append, List.append_assoc, List.singleton_append, outcome_value,
    step_openObject hopen]
  exact outcome_fields hne names each [] a

theorem step_blank {c : Char} {a : List Enclosure} (hc : isBlank c = true) :
    step .value a (c :: cs) = step .value a cs := by
  rw [step, step, skipBlank, List.dropWhile_cons_of_pos hc, ← skipBlank]

theorem outcome_behind_blank {x : Written} {c : Char} {a : List Enclosure}
    (hc : isBlank c = true) : outcome (.behind x) a (c :: cs) = outcome (.behind x) a cs := by
  have hskip : skipBlank (c :: cs) = skipBlank cs := List.dropWhile_cons_of_pos hc
  cases a with
  | nil => rw [outcome, outcome, run, run, hskip]
  | cons e a =>
    rw [outcome_eq (by simp), outcome_eq (by simp)]
    cases e with
    | list items => rw [step, step, hskip]
    | field fields s => rw [step, step, hskip]

/-- **What is spelled is read.** -/
theorem completes_of_spells {x : Written} {text : List Char} (h : x.Spells text) :
    Completes x text := by
  induction h with
  | null => exact completes_of_atom rfl (by decide) (by decide) fun _ _ => rfl
  | isTrue => exact completes_of_atom rfl (by decide) (by decide) fun _ _ => rfl
  | isFalse => exact completes_of_atom rfl (by decide) (by decide) fun _ _ => rfl
  | number h => exact completes_number h
  | string h => exact completes_string h
  | @emptyArray text h =>
    intro a rest _
    have hclose : skipBlank (text ++ ']' :: rest) = ']' :: rest := by
      rw [skipBlank_append h, skipBlank_of_not rfl]
    rw [List.cons_append, List.append_assoc, List.singleton_append, outcome_value,
      step_emptyList hclose]
    rfl
  | array hne spelled each => exact completes_array hne spelled each
  | @emptyObject text h =>
    intro a rest _
    have hclose : skipBlank (text ++ '\x7d' :: rest) = '\x7d' :: rest := by
      rw [skipBlank_append h, skipBlank_of_not rfl]
    rw [List.cons_append, List.append_assoc, List.singleton_append, outcome_value,
      step_emptyObject hclose]
    rfl
  | object hne names _ each => exact completes_object hne names each
  | before hc _ ih =>
    intro a rest hrest
    rw [List.cons_append, outcome_value, step_blank hc, ← outcome_value]
    exact ih a rest hrest
  | behind _ hc ih =>
    intro a rest _
    rw [List.append_assoc, List.singleton_append, ih a _ (breaks_blank hc),
      outcome_behind_blank hc]

end Reader

namespace Written

variable {s : String} {x : Written}

/-- **The reader takes apart the texts of the grammar**, and no others. -/
theorem ofText?_eq_some_iff : ofText? s = some x ↔ x.Spells s.toList := by
  constructor
  · intro h
    have hspells := Reader.spells_of_run h (.value .nothing)
    rwa [List.nil_append] at hspells
  · intro h
    have hread := Reader.completes_of_spells h [] [] Reader.breaks_nil
    rw [List.append_nil] at hread
    exact hread

end Written

end ClusterAudit.Json
