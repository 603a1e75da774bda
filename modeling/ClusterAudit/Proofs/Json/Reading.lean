import ClusterAudit.Json.Printer
import ClusterAudit.Json.Selection
import ClusterAudit.Proofs.Json.Completeness
import Mathlib.Tactic.IntervalCases

/-!
# Texts that are read back as the documents they were written from

`Json.compact` and `Json.pretty` write a document, and `Json.select?` reads the wanted parts of one.
A document is read back from either text (`ClusterAudit.Json.select?_compact`,
`ClusterAudit.Json.select?_pretty`) as long as it has no fractions, its integers fit into 64 bits,
its lists and objects are nested less deep than the reader goes, and all its parts are wanted.

No text is followed here. Both texts of a document spell the same written document, in the grammar,
and from this one the document is read (`ClusterAudit.Json.IsForm`).
-/

namespace ClusterAudit.Json

open Reader Text

/-! ### Documents that are read back -/

/-- Documents of which all parts are wanted, without fractions, whose lists and objects are nested
at most `n` deep and whose integers are those of 64 bits, with or without a sign. -/
inductive IsReadable : Selection → Nat → Json → Prop
  /-- The null value. -/
  | null {wanted : Selection} {n : Nat} : IsReadable wanted n .null
  /-- A truth value. -/
  | bool {wanted : Selection} {n : Nat} (b : Bool) : IsReadable wanted n (.bool b)
  /-- An integer in range. -/
  | int {wanted : Selection} {n : Nat} {i : Int} (low : -2 ^ 63 ≤ i) (high : i < 2 ^ 64) :
      IsReadable wanted n (.int i)
  /-- Text. -/
  | string {wanted : Selection} {n : Nat} (s : String) : IsReadable wanted n (.string s)
  /-- A list, of whose items the same parts are wanted, with items that leave a level for it. -/
  | array {wanted item : Selection} {n : Nat} {items : List Json}
      (hnext : wanted.next = (item, wanted)) (each : ∀ j ∈ items, IsReadable item n j) :
      IsReadable wanted (n + 1) (.array items)
  /-- An object, of whose fields none is left out, with values that leave a level for it. -/
  | object {wanted : Selection} {n : Nat} {fields : List (String × Json)}
      (known : ∀ f ∈ fields, (wanted.field? f.1).isSome)
      (each : ∀ f ∈ fields, ∀ part ∈ wanted.field? f.1, IsReadable part n f.2) :
      IsReadable wanted (n + 1) (.object fields)

/-- Whether a document has at most so many levels of lists and objects, and no numbers but integers
of 64 bits. -/
def staysWithin : Nat → Json → Bool
  | _, .null | _, .bool _ | _, .string _ => true
  | _, .int i => decide (-2 ^ 63 ≤ i ∧ i < 2 ^ 64)
  | _, .real _ | 0, .array _ | 0, .object _ => false
  | n + 1, .array items => items.all fun x => staysWithin n x
  | n + 1, .object fields => fields.all fun f => staysWithin n f.2

theorem IsReadable.staysWithin {n : Nat} {j : Json} (h : IsReadable .everything n j) :
    j.staysWithin n = true := by
  generalize hwanted : Selection.everything = wanted at h
  induction h with
  | null | bool | string =>
    unfold Json.staysWithin
    rfl
  | int low high =>
    unfold Json.staysWithin
    exact decide_eq_true ⟨low, high⟩
  | array hnext _ ih =>
    subst hwanted
    obtain ⟨rfl, -⟩ := Prod.mk.inj hnext
    exact List.all_eq_true.2 fun j hj => ih j hj rfl
  | object _ _ ih =>
    subst hwanted
    exact List.all_eq_true.2 fun f hf => ih f hf _ rfl rfl

theorem isReadable_of_staysWithin {n : Nat} {j : Json} (h : j.staysWithin n = true) :
    IsReadable .everything n j := by
  induction n, j using Json.staysWithin.induct with
  | case1 => exact .null
  | case2 => exact .bool _
  | case3 => exact .string _
  | case4 =>
    unfold Json.staysWithin at h
    exact .int (of_decide_eq_true h).1 (of_decide_eq_true h).2
  | case5 | case6 | case7 =>
    unfold Json.staysWithin at h
    cases h
  | case8 n items ih => exact .array rfl fun j hj => ih j (List.all_eq_true.1 h j hj)
  | case9 n fields ih =>
    refine .object (fun _ _ => rfl) fun f hf part hpart => ?_
    cases hpart
    exact ih f (List.all_eq_true.1 h f hf)

/-- **All of a document is readable** exactly when it stays within the levels. -/
theorem isReadable_everything_iff {n : Nat} {j : Json} :
    IsReadable .everything n j ↔ j.staysWithin n = true :=
  ⟨IsReadable.staysWithin, isReadable_of_staysWithin⟩

instance (n : Nat) : DecidablePred (IsReadable .everything n) :=
  fun j => decidable_of_iff (j.staysWithin n = true) isReadable_everything_iff.symm

/-- A written document from which a document is read, and which both texts of the document spell. -/
structure IsForm (wanted : Selection) (n : Nat) (j : Json) (x : Written) : Prop where
  /-- It is read as the document. -/
  select : ∀ depth, n < depth → x.select wanted depth = some j
  /-- It is spelled on one line. -/
  compact : x.Spells j.compact.toList
  /-- It is spelled over several lines. -/
  pretty : ∀ depth, x.Spells (j.prettyAt depth).toList

/-! ### Strings -/

/-- The four digits of a control character stand for it. -/
theorem natIn_hexPadded {n : Nat} (h : n < 0x20) : natIn 16 (hexPadded 4 n) = some n := by
  have hvalue : ∀ n < 0x20, natIn 16 (hexPadded 4 n) = some n := by decide
  exact hvalue n h

theorem textAfter_unit {done : List Char} {u : UInt16} {s : List Letter}
    (hhigh : Letter.isHigh u = false) (hlow : Letter.isLow u = false) :
    Letter.textAfter done (.unit u :: s) =
      Letter.textAfter (Char.ofNat u.toNat :: done) s := by
  match s with
  | [] => simp [Letter.textAfter, hhigh, hlow]
  | .char c :: s => simp [Letter.textAfter, hhigh, hlow]
  | .unit v :: s => simp [Letter.textAfter, hhigh, hlow]

/-- **What is written for a character** is a letter that stands for it. -/
theorem exists_letter (c : Char) : ∃ l : Letter,
    (∀ s text, Letter.Spells s text → Letter.Spells (l :: s) (escape c ++ text)) ∧
      ∀ done s, Letter.textAfter done (l :: s) = Letter.textAfter (c :: done) s := by
  rw [escape]
  iterate 7
    split
    next h =>
      subst h
      exact ⟨.char _, fun _ _ h => .short rfl h, fun _ _ => rfl⟩
  split
  next hcontrol =>
    have hvalue : (UInt16.ofNat c.toNat).toNat = c.toNat := by
      rw [UInt16.toNat_ofNat']
      omega
    have hunit : Letter.isHigh (UInt16.ofNat c.toNat) = false ∧
        Letter.isLow (UInt16.ofNat c.toNat) = false := by
      simp only [Letter.isHigh, Letter.isLow, Bool.and_eq_false_iff, decide_eq_false_iff_not,
        UInt16.le_iff_toNat_le, hvalue]
      exact ⟨.inl (by simp; omega), .inl (by simp; omega)⟩
    refine ⟨.unit (UInt16.ofNat c.toNat), fun _ _ h => .unit (natIn_hexPadded hcontrol) h,
      fun done s => ?_⟩
    rw [textAfter_unit hunit.1 hunit.2, hvalue, Char.ofNat_toNat]
  next hquote hslash _ _ _ _ _ hcontrol =>
    exact ⟨.char c, fun _ _ h => .plain hquote hslash (Nat.le_of_not_lt hcontrol) h,
      fun _ _ => rfl⟩

/-- **What is written between the quotes of a string** are letters that stand for it. -/
theorem exists_letters (s : String) : ∃ l : List Letter,
    Letter.Spells l (s.toList.flatMap escape) ∧ Letter.text? l = some s := by
  suffices h : ∀ cs : List Char, ∃ l : List Letter, Letter.Spells l (cs.flatMap escape) ∧
      ∀ done, Letter.textAfter done l = some (String.ofList (done.reverse ++ cs)) by
    obtain ⟨l, hspells, htext⟩ := h s.toList
    exact ⟨l, hspells, (htext []).trans (by simp)⟩
  intro cs
  induction cs with
  | nil => exact ⟨[], .nil, fun done => by rw [Letter.textAfter, List.append_nil]⟩
  | cons c cs ih =>
    obtain ⟨l, hl, hread⟩ := exists_letter c
    obtain ⟨s, hs, htext⟩ := ih
    refine ⟨l :: s, hl _ _ hs, fun done => ?_⟩
    rw [hread, htext]
    simp

/-! ### Numbers -/

/-- Induction along the decimal digits of a number, the last one first. -/
theorem toDigits_induction {P : Nat → Prop} (digit : ∀ n < 10, P n)
    (more : ∀ n d, 0 < n → d < 10 → P n → P (10 * n + d)) (n : Nat) : P n := by
  induction n using Nat.strongRecOn with
  | ind n ih =>
    by_cases h : n < 10
    · exact digit n h
    · rw [← Nat.div_add_mod n 10]
      exact more _ _ (by omega) (Nat.mod_lt _ (by decide)) (ih _ (by omega))

/-- No number but zero begins with the digit zero. -/
theorem head?_toDigits {n : Nat} : 0 < n → (Nat.toDigits 10 n).head? ≠ some '0' := by
  induction n using toDigits_induction with
  | digit n hn =>
    intro hpos
    rw [Nat.toDigits_of_lt_base hn]
    interval_cases n <;> decide
  | more n d hn hd ih =>
    intro _
    obtain ⟨c, cs, hcons⟩ := List.exists_cons_of_ne_nil (Nat.toDigits_ne_nil (b := 10) (n := n))
    rw [← Nat.toDigits_append_toDigits (by decide) hn hd, hcons]
    rw [hcons] at ih
    exact ih hn

/-- Digits in range are collected into the number, without a power of ten left over. -/
theorem ofWhole_toDigits {n : Nat} : n < UInt64.size →
    Significand.ofWhole (Nat.toDigits 10 n) = { value := n } := by
  have hpush (m d : Nat) (hd : d < 10) (h : 10 * m + d < UInt64.size) :
      Significand.pushWhole { value := m } d.digitChar = { value := 10 * m + d } := by
    have hdigit : d.digitChar.toNat - '0'.toNat = d := by interval_cases d <;> rfl
    have hnext : Significand.next? { value := m } d.digitChar = some (10 * m + d) := by
      rw [Significand.next?, hdigit, Nat.mul_comm m 10]
      simpa using h
    rw [Significand.pushWhole, hnext]
  induction n using toDigits_induction with
  | digit n hn =>
    intro h
    rw [Nat.toDigits_of_lt_base hn]
    have hfirst := hpush 0 n hn (by omega)
    rwa [Nat.mul_zero, Nat.zero_add] at hfirst
  | more n d hn hd ih =>
    intro h
    rw [← Nat.toDigits_append_toDigits (by decide) hn hd, Significand.ofWhole, List.foldl_append,
      ← Significand.ofWhole, ih (by omega), Nat.toDigits_of_lt_base hd]
    exact hpush n d hd h

theorem unsigned_toDigits (negative : Bool) (n : Nat) :
    (Numeral.mk negative (Nat.toDigits 10 n) none none).Unsigned [] [] where
  whole := ⟨Nat.toDigits_ne_nil, fun _ => Nat.isDigit_of_mem_toDigits (by decide) (by decide)⟩
  zero := by
    intro hzero
    rcases Nat.eq_zero_or_pos n with rfl | hn
    · exact Nat.le_refl 1
    · exact absurd hzero (head?_toDigits hn)
  fraction := .none
  exponent := .none

/-! ### Values -/

variable {wanted item : Selection} {n : Nat}

/-- A value without parts is written in one way. -/
theorem IsForm.of_atom {j : Json} {x : Written}
    (hselect : ∀ depth, n < depth → x.select wanted depth = some j)
    (hcompact : x.Spells j.compact.toList) (hpretty : ∀ depth, j.prettyAt depth = j.compact) :
    IsForm wanted n j x where
  select := hselect
  compact := hcompact
  pretty depth := hpretty depth ▸ hcompact

theorem isForm_null : IsForm wanted n .null .null :=
  .of_atom (fun _ _ => rfl) .null fun _ => rfl

theorem isForm_bool (b : Bool) : IsForm wanted n (.bool b) (.bool b) := by
  cases b with
  | false => exact .of_atom (fun _ _ => rfl) .isFalse fun _ => rfl
  | true => exact .of_atom (fun _ _ => rfl) .isTrue fun _ => rfl

theorem exists_form_int {i : Int} (low : -2 ^ 63 ≤ i) (high : i < 2 ^ 64) :
    ∃ x, IsForm wanted n (.int i) x := by
  cases i with
  | ofNat m =>
    have hm : m < UInt64.size := Int.ofNat_lt.1 high
    have htext : (compact (.int (.ofNat m))).toList = Nat.toDigits 10 m := Nat.toList_repr
    refine ⟨.number ⟨false, Nat.toDigits 10 m, none, none⟩,
      .of_atom (fun _ _ => ?_) ?_ fun _ => rfl⟩
    · simp only [Written.select, Numeral.value?, number?, ofWhole_toDigits hm, whole?,
        Bool.false_eq_true, if_false]
      rfl
    · rw [htext]
      simpa using Written.Spells.number (.positive rfl (unsigned_toDigits false m))
  | negSucc m =>
    have hm : m + 1 ≤ 2 ^ 63 := by
      rw [Int.negSucc_eq] at low
      omega
    have hsize : m + 1 < UInt64.size := Nat.lt_of_le_of_lt hm (by decide)
    have hrange : 0 < m + 1 ∧ m + 1 ≤ 9223372036854775808 := ⟨Nat.succ_pos m, hm⟩
    have htext : (compact (.int (.negSucc m))).toList = '-' :: Nat.toDigits 10 (m + 1) := by
      change ("-" ++ Nat.repr (m + 1)).toList = _
      rw [String.toList_append, Nat.toList_repr]
      rfl
    refine ⟨.number ⟨true, Nat.toDigits 10 (m + 1), none, none⟩,
      .of_atom (fun _ _ => ?_) ?_ fun _ => rfl⟩
    · simp only [Written.select, Numeral.value?, number?, ofWhole_toDigits hsize, whole?,
        Bool.false_eq_true, if_false, if_true, if_pos hrange]
      rfl
    · rw [htext]
      simpa using Written.Spells.number (.negative rfl (unsigned_toDigits true (m + 1)))

theorem exists_form_string (s : String) : ∃ x, IsForm wanted n (.string s) x := by
  obtain ⟨l, hspells, htext⟩ := exists_letters s
  have hquoted : (compact (.string s)).toList =
      '\x22' :: (s.toList.flatMap escape ++ ['\x22']) := by
    rw [compact, quoted, String.toList_ofList]
    rfl
  refine ⟨.string l, .of_atom (fun _ _ => ?_) (hquoted ▸ .string hspells) fun _ => rfl⟩
  rw [Written.select, htext, Option.map_some]

/-! ### Lists and objects -/

theorem toList_join_cons (sep s : String) (l : List String) (hl : l ≠ []) :
    (join sep (s :: l)).toList = s.toList ++ sep.toList ++ (join sep l).toList := by
  obtain ⟨t, l, rfl⟩ := List.exists_cons_of_ne_nil hl
  rw [join, String.toList_append, String.toList_append]

/-- Texts behind commas and blank space, with blank space in front of the first one too. -/
theorem toList_join {sep : String} {lead : List Char} (hsep : sep.toList = ',' :: lead)
    {l : List String} (hl : l ≠ []) :
    lead ++ (join sep l).toList = List.intercalate [','] (l.map fun t => lead ++ t.toList) := by
  induction l with
  | nil => exact absurd rfl hl
  | cons s l ih =>
    cases l with
    | nil => simp [join, List.intercalate]
    | cons t l =>
      have hmore := ih (List.cons_ne_nil _ _)
      rw [List.map_cons] at hmore
      rw [toList_join_cons _ _ _ (List.cons_ne_nil _ _), List.map_cons, List.map_cons,
        intercalate_cons_cons, ← hmore, hsep]
      simp

/-- Blank space may stand behind the last item. -/
theorem Written.Spells.array_blank {items : List (Written × List Char)} {tail : List Char}
    (hne : items ≠ []) (each : ∀ i ∈ items, i.1.Spells i.2) (htail : IsBlank tail) :
    (Written.array (items.map (·.1))).Spells
      ('[' :: (List.intercalate [','] (items.map (·.2)) ++ (tail ++ [']']))) := by
  obtain ⟨items, last, rfl⟩ := (List.eq_nil_or_concat items).resolve_left hne
  rw [List.concat_eq_append] at each ⊢
  obtain ⟨hitems, hlast⟩ := List.forall_mem_append.1 each
  have h := @Written.Spells.array (items ++ [(last.1, last.2 ++ tail)]) (by simp)
    (List.forall_mem_append.2
      ⟨hitems, by simpa using (hlast last (List.mem_singleton_self _)).append_blank htail⟩)
  rw [List.map_append, List.map_append, List.map_singleton, List.map_singleton,
    intercalate_concat] at h ⊢
  simpa using h

theorem Written.Spells.object_blank {fields : List Written.Field} {tail : List Char}
    (hne : fields ≠ []) (names : ∀ f ∈ fields, Written.Named f.name f.nameText)
    (each : ∀ f ∈ fields, f.value.Spells f.valueText) (htail : IsBlank tail) :
    (Written.object (fields.map Written.Field.written)).Spells
      ('\x7b' :: (List.intercalate [','] (fields.map Written.Field.text) ++
        (tail ++ ['\x7d']))) := by
  obtain ⟨fields, last, rfl⟩ := (List.eq_nil_or_concat fields).resolve_left hne
  rw [List.concat_eq_append] at each names ⊢
  obtain ⟨hnames, hname⟩ := List.forall_mem_append.1 names
  obtain ⟨hfields, hlast⟩ := List.forall_mem_append.1 each
  have h := @Written.Spells.object
    (fields ++ [⟨last.name, last.nameText, last.value, last.valueText ++ tail⟩]) (by simp)
    (List.forall_mem_append.2 ⟨hnames, by simpa using hname⟩)
    (List.forall_mem_append.2
      ⟨hfields, by simpa using (hlast last (List.mem_singleton_self _)).append_blank htail⟩)
  rw [List.map_append, List.map_append, List.map_singleton, List.map_singleton,
    intercalate_concat] at h ⊢
  simpa [Written.Field.written, Written.Field.text] using h

/-- Partners of all members of a list make a list. -/
theorem exists_pairs {α β : Type} {P : α → β → Prop} {l : List α} (h : ∀ a ∈ l, ∃ b, P a b) :
    ∃ pairs : List (α × β), pairs.map (·.1) = l ∧ ∀ p ∈ pairs, P p.1 p.2 := by
  induction l with
  | nil => exact ⟨[], rfl, by simp⟩
  | cons a l ih =>
    obtain ⟨⟨b, hb⟩, hl⟩ := List.forall_mem_cons.1 h
    obtain ⟨pairs, rfl, hpairs⟩ := ih hl
    exact ⟨(a, b) :: pairs, rfl, List.forall_mem_cons.2 ⟨hb, hpairs⟩⟩

theorem isBlank_nil : IsBlank [] := by
  rintro _ ⟨⟩

theorem isBlank_newLine (depth : Nat) : IsBlank (newLine depth).toList := by
  intro c hc
  rw [newLine, String.toList_ofList, List.mem_cons, List.mem_replicate] at hc
  obtain rfl | ⟨-, rfl⟩ := hc
  · rfl
  · rfl

/-- The lines between two brackets. -/
theorem toList_bracketed {depth : Nat} {opening closing : String} {l : List String} (hl : l ≠ []) :
    (bracketed depth opening closing l).toList =
      opening.toList ++ (List.intercalate [',']
        (l.map fun t => (newLine (depth + 1)).toList ++ t.toList) ++
          ((newLine depth).toList ++ closing.toList)) := by
  have hsep : ("," ++ newLine (depth + 1)).toList = ',' :: (newLine (depth + 1)).toList := by
    rw [String.toList_append]
    rfl
  rw [← toList_join hsep hl]
  obtain ⟨t, l, rfl⟩ := List.exists_cons_of_ne_nil hl
  simp only [bracketed, String.toList_append, List.append_assoc]

theorem compactItems_eq (l : List Json) : compactItems l = l.map compact := by
  induction l with
  | nil => rfl
  | cons x l ih => rw [compactItems, ih, List.map_cons]

theorem prettyItems_eq (depth : Nat) (l : List Json) :
    prettyItems depth l = l.map (prettyAt depth) := by
  induction l with
  | nil => rfl
  | cons x l ih => rw [prettyItems, ih, List.map_cons]

/-- Items of a list with the written documents they are read from. -/
theorem selectItems_of_pairs {depth : Nat} {pairs : List (Json × Written)}
    (hnext : wanted.next = (item, wanted))
    (each : ∀ p ∈ pairs, p.2.select item depth = some p.1) :
    Written.selectItems wanted depth (pairs.map (·.2)) = some (pairs.map (·.1)) := by
  induction pairs with
  | nil => rfl
  | cons p pairs ih =>
    obtain ⟨hp, hpairs⟩ := List.forall_mem_cons.1 each
    rw [List.map_cons, Written.selectItems, hnext]
    simp only [hp, ih hpairs, Option.bind_eq_bind, Option.bind_some, List.map_cons]

/-- Fields of an object with the names and the written documents they are read from. -/
theorem selectFields_of_pairs {depth : Nat}
    {pairs : List ((String × Json) × (List Letter × Written))}
    (names : ∀ p ∈ pairs, Letter.text? p.2.1 = some p.1.1)
    (known : ∀ p ∈ pairs, (wanted.field? p.1.1).isSome)
    (each : ∀ p ∈ pairs, ∀ part ∈ wanted.field? p.1.1, p.2.2.select part depth = some p.1.2) :
    Written.selectFields wanted depth (pairs.map (·.2)) = some (pairs.map (·.1)) := by
  induction pairs with
  | nil => rfl
  | cons p pairs ih =>
    obtain ⟨hname, hnames⟩ := List.forall_mem_cons.1 names
    obtain ⟨hknown, hothers⟩ := List.forall_mem_cons.1 known
    obtain ⟨hp, hpairs⟩ := List.forall_mem_cons.1 each
    obtain ⟨part, hpart⟩ := Option.isSome_iff_exists.1 hknown
    have hfield : Written.selectField wanted depth p.2 = some [p.1] := by
      rw [Written.selectField, hname]
      simp only [Option.bind_eq_bind, Option.bind_some, hpart, hp part hpart, Option.map_some]
    rw [List.map_cons, Written.selectFields, hfield, ih hnames hothers hpairs]
    rfl

/-- The items of a list, with blank space in front of each and behind the last. -/
theorem spells_array (text : Json → String) {pairs : List (Json × Written)} {lead tail : List Char}
    (hlead : IsBlank lead) (htail : IsBlank tail) (hne : pairs ≠ [])
    (each : ∀ p ∈ pairs, p.2.Spells (text p.1).toList) :
    (Written.array (pairs.map (·.2))).Spells
      ('[' :: (List.intercalate [','] (pairs.map fun p => lead ++ (text p.1).toList) ++
        (tail ++ [']']))) := by
  have h := @Written.Spells.array_blank (pairs.map fun p => (p.2, lead ++ (text p.1).toList)) tail
    (by simpa using hne) (List.forall_mem_map.2 fun p hp => (each p hp).blank_append hlead) htail
  simpa [List.map_map, Function.comp_def] using h

/-- The fields of an object, with blank space in front of each, behind the last, and behind the
colons. -/
theorem spells_object (text : Json → String) (gap : List Char)
    {pairs : List ((String × Json) × (List Letter × Written))} {lead tail : List Char}
    (hlead : IsBlank lead) (htail : IsBlank tail) (hgap : IsBlank gap) (hne : pairs ≠ [])
    (names : ∀ p ∈ pairs, Letter.Spells p.2.1 (p.1.1.toList.flatMap escape))
    (each : ∀ p ∈ pairs, p.2.2.Spells (text p.1.2).toList) :
    (Written.object (pairs.map (·.2))).Spells
      ('\x7b' :: (List.intercalate [','] (pairs.map fun p =>
          lead ++ ((quoted p.1.1).toList ++ ':' :: (gap ++ (text p.1.2).toList))) ++
        (tail ++ ['\x7d']))) := by
  have h := @Written.Spells.object_blank
    (pairs.map fun p => ⟨p.2.1, lead ++ (quoted p.1.1).toList, p.2.2,
      gap ++ (text p.1.2).toList⟩) tail (by simpa using hne)
    (List.forall_mem_map.2 fun p hp =>
      ⟨lead, _, [], hlead, names p hp, isBlank_nil, by simp [quoted]⟩)
    (List.forall_mem_map.2 fun p hp => (each p hp).blank_append hgap) htail
  simpa [List.map_map, Function.comp_def, Written.Field.written, Written.Field.text] using h

theorem isForm_emptyArray : IsForm wanted (n + 1) (.array []) (.array []) := by
  refine .of_atom (fun depth hdepth => ?_) (.emptyArray isBlank_nil) fun _ => rfl
  rw [Written.select, if_neg (by omega)]
  rfl

theorem exists_form_array {items : List Json} (hnext : wanted.next = (item, wanted))
    (each : ∀ j ∈ items, ∃ x, IsForm item n j x) :
    ∃ x, IsForm wanted (n + 1) (.array items) x := by
  obtain ⟨pairs, rfl, hpairs⟩ := exists_pairs each
  rcases eq_or_ne pairs [] with rfl | hne
  · exact ⟨_, isForm_emptyArray⟩
  refine ⟨.array (pairs.map (·.2)), fun depth hdepth => ?_, ?_, fun depth => ?_⟩
  · rw [Written.select, if_neg (by omega), selectItems_of_pairs hnext fun p hp =>
      (hpairs p hp).select _ (by omega), Option.map_some]
  · have hspells := spells_array compact isBlank_nil isBlank_nil hne fun p hp =>
      (hpairs p hp).compact
    have hjoin := @toList_join "," [] rfl (pairs.map fun p => compact p.1) (by simpa using hne)
    simp only [List.nil_append, List.map_map, Function.comp_def] at hspells hjoin
    rw [← hjoin] at hspells
    rw [compact, compactItems_eq, List.map_map, String.toList_append, String.toList_append,
      List.append_assoc]
    exact hspells
  · have hspells := spells_array (prettyAt (depth + 1)) (isBlank_newLine (depth + 1))
      (isBlank_newLine depth) hne fun p hp => (hpairs p hp).pretty (depth + 1)
    rw [prettyAt, prettyItems_eq, toList_bracketed (by simpa using hne)]
    simpa [List.map_map, Function.comp_def] using hspells

theorem compactFields_eq (l : List (String × Json)) :
    compactFields l = l.map fun f => quoted f.1 ++ ":" ++ compact f.2 := by
  induction l with
  | nil => rfl
  | cons f l ih => rw [compactFields, ih, List.map_cons]

theorem prettyFields_eq (depth : Nat) (l : List (String × Json)) :
    prettyFields depth l = l.map fun f => quoted f.1 ++ ": " ++ prettyAt depth f.2 := by
  induction l with
  | nil => rfl
  | cons f l ih => rw [prettyFields, ih, List.map_cons]

theorem isForm_emptyObject : IsForm wanted (n + 1) (.object []) (.object []) := by
  refine .of_atom (fun depth hdepth => ?_) (.emptyObject isBlank_nil) fun _ => rfl
  rw [Written.select, if_neg (by omega)]
  rfl

theorem exists_form_object {fields : List (String × Json)}
    (known : ∀ f ∈ fields, (wanted.field? f.1).isSome)
    (each : ∀ f ∈ fields, ∀ part ∈ wanted.field? f.1, ∃ x, IsForm part n f.2 x) :
    ∃ x, IsForm wanted (n + 1) (.object fields) x := by
  have hpartner : ∀ f ∈ fields, ∃ w : List Letter × Written,
      (Letter.Spells w.1 (f.1.toList.flatMap escape) ∧ Letter.text? w.1 = some f.1) ∧
        ∀ part ∈ wanted.field? f.1, IsForm part n f.2 w.2 := by
    intro f hf
    obtain ⟨s, hs⟩ := exists_letters f.1
    obtain ⟨part, hpart⟩ := Option.isSome_iff_exists.1 (known f hf)
    obtain ⟨x, hx⟩ := each f hf part hpart
    exact ⟨(s, x), hs, fun part' hpart' => Option.some.inj (hpart.symm.trans hpart') ▸ hx⟩
  obtain ⟨pairs, rfl, hpairs⟩ := exists_pairs hpartner
  rcases eq_or_ne pairs [] with rfl | hne
  · exact ⟨_, isForm_emptyObject⟩
  have hform (p) (hp : p ∈ pairs) : ∃ part, IsForm part n p.1.2 p.2.2 := by
    obtain ⟨part, hpart⟩ := Option.isSome_iff_exists.1 (known p.1 (List.mem_map_of_mem hp))
    exact ⟨part, (hpairs p hp).2 part hpart⟩
  refine ⟨.object (pairs.map (·.2)), fun depth hdepth => ?_, ?_, fun depth => ?_⟩
  · rw [Written.select, if_neg (by omega), selectFields_of_pairs (fun p hp => (hpairs p hp).1.2)
      (fun p hp => known p.1 (List.mem_map_of_mem hp)) fun p hp part hpart =>
        ((hpairs p hp).2 part hpart).select _ (by omega), Option.map_some]
  · have hspells := spells_object compact [] isBlank_nil isBlank_nil isBlank_nil hne
      (fun p hp => (hpairs p hp).1.1) fun p hp => (hform p hp).choose_spec.compact
    have hjoin := @toList_join "," [] rfl
      (pairs.map fun p => quoted p.1.1 ++ ":" ++ compact p.1.2) (by simpa using hne)
    simp only [List.nil_append, List.map_map, Function.comp_def, String.toList_append,
      List.append_assoc] at hspells hjoin
    change (join "," (pairs.map fun p => quoted p.1.1 ++ ":" ++ compact p.1.2)).toList =
      List.intercalate [','] (pairs.map fun p =>
        (quoted p.1.1).toList ++ ':' :: (compact p.1.2).toList) at hjoin
    rw [← hjoin] at hspells
    rw [compact, compactFields_eq, List.map_map, String.toList_append, String.toList_append,
      List.append_assoc]
    exact hspells
  · have hspells := spells_object (prettyAt (depth + 1)) [' '] (isBlank_newLine (depth + 1))
      (isBlank_newLine depth) (by simp [IsBlank, isBlank]) hne (fun p hp => (hpairs p hp).1.1)
      fun p hp => (hform p hp).choose_spec.pretty (depth + 1)
    rw [prettyAt, prettyFields_eq, toList_bracketed (by simpa using hne)]
    simpa [List.map_map, Function.comp_def] using hspells

/-- **Every readable document has a form** that its texts spell and from which it is read. -/
theorem IsReadable.exists_form {j : Json} (h : IsReadable wanted n j) :
    ∃ x, IsForm wanted n j x := by
  induction h with
  | null => exact ⟨_, isForm_null⟩
  | bool b => exact ⟨_, isForm_bool b⟩
  | int low high => exact exists_form_int low high
  | string s => exact exists_form_string s
  | array hnext _ ih => exact exists_form_array hnext ih
  | object known _ ih => exact exists_form_object known ih

/-! ### Texts -/

/-- **A text is read as the document that it spells.** -/
theorem select?_of_spells {x : Written} {text : String} (h : x.Spells text.toList) :
    select? wanted text = x.select wanted depthBound := by
  rw [select?, Written.ofText?_eq_some_iff.2 h, Option.bind_some]

/-- **The text of a document is read back** as the document. -/
theorem select?_compact {j : Json} (h : IsReadable wanted n j) (hn : n < depthBound) :
    select? wanted j.compact = some j := by
  obtain ⟨x, hx⟩ := h.exists_form
  rw [select?_of_spells hx.compact]
  exact hx.select depthBound hn

/-- **The text over several lines is read back** as the document, whatever blank space is behind
it. -/
theorem select?_pretty {j : Json} {tail : String} (h : IsReadable wanted n j)
    (hn : n < depthBound) (htail : IsBlank tail.toList) :
    select? wanted (j.pretty ++ tail) = some j := by
  obtain ⟨x, hx⟩ := h.exists_form
  have hspells : x.Spells (j.pretty ++ tail).toList := by
    rw [String.toList_append]
    exact (hx.pretty 0).append_blank htail
  rw [select?_of_spells hspells]
  exact hx.select depthBound hn

end ClusterAudit.Json
