import ClusterAudit.Proofs.Json.Grammar
import Mathlib.Data.List.TakeWhile

/-!
# What the reader of JSON texts accepts

The reader takes apart no text but those of the grammar (`ClusterAudit.Json.Reader.spells_of_run`).

One step takes a piece off the front of the text, and `ClusterAudit.Json.Reader.Takes` lists the
pieces: this is the only place where `step` is opened. What stands in front of a place is a text
that opens all that is open there (`ClusterAudit.Json.Reader.Reaches`), and every piece keeps it
that way. At the end nothing is open, and the whole text spells the value in front.
-/

namespace ClusterAudit.Json

open Reader Text

/-! ### What is read has been spelled -/

namespace Reader

variable {cs rest ds : List Char}

/-- What stands behind the blank space at the start of a text. -/
theorem exists_blank_of_skipBlank (h : skipBlank cs = rest) :
    ∃ blank, IsBlank blank ∧ cs = blank ++ rest :=
  ⟨cs.takeWhile isBlank, fun _ => List.mem_takeWhile_imp,
    by rw [← h, skipBlank, List.takeWhile_append_dropWhile]⟩

theorem letters_spells {done s : List Letter} (h : letters done cs = some (s, rest)) :
    ∃ s' text, s = done.reverse ++ s' ∧ Letter.Spells s' text ∧ cs = text ++ '\x22' :: rest := by
  fun_induction letters done cs with
  | case1 => cases h
  | case2 done rest' =>
    cases h
    exact ⟨[], [], by simp, .nil, rfl⟩
  | case3 done a b c d rest' n hn ih =>
    obtain ⟨s', text, rfl, hspells, rfl⟩ := ih h
    exact ⟨_, _, by simp, .unit hn hspells, rfl⟩
  | case4 => cases h
  | case5 done e rest' _ c he ih =>
    obtain ⟨s', text, rfl, hspells, rfl⟩ := ih h
    exact ⟨_, _, by simp, .short he hspells, rfl⟩
  | case6 => cases h
  | case7 => cases h
  | case8 done c rest' hquote _ _ hplain ih =>
    obtain ⟨s', text, rfl, hspells, rfl⟩ := ih h
    simp only [Bool.or_eq_true, decide_eq_true_eq, not_or, Nat.not_lt] at hplain
    exact ⟨_, _, by simp, .plain hquote hplain.2 hplain.1 hspells, rfl⟩

theorem digits_eq (h : digits cs = (ds, rest)) :
    (∀ c ∈ ds, c.isDigit = true) ∧ cs = ds ++ rest := by
  cases h
  exact ⟨fun _ => List.mem_takeWhile_imp, List.takeWhile_append_dropWhile.symm⟩

theorem fraction_spells {fr : Option (List Char)} (h : fraction cs = some (fr, rest)) :
    ∃ f, Numeral.Fraction fr f ∧ cs = f ++ rest := by
  revert h
  fun_cases fraction cs with
  | case1 => rintro ⟨⟩
  | case2 cs ds rest' hdigits hne =>
    rintro ⟨⟩
    obtain ⟨heach, rfl⟩ := digits_eq hdigits
    exact ⟨_, .some ⟨by simpa using hne, heach⟩, rfl⟩
  | case3 =>
    rintro ⟨⟩
    exact ⟨_, .none, rfl⟩

theorem sign_spells {negative : Bool} (h : sign cs = (negative, rest)) :
    ∃ s, Numeral.Sign negative s ∧ cs = s ++ rest := by
  revert h
  fun_cases sign cs with
  | case1 => rintro ⟨⟩; exact ⟨_, .minus, rfl⟩
  | case2 => rintro ⟨⟩; exact ⟨_, .plus, rfl⟩
  | case3 => rintro ⟨⟩; exact ⟨_, .none, rfl⟩

theorem exponent_spells {ex : Option Int} (h : exponent cs = some (ex, rest)) :
    ∃ e, Numeral.Exponent ex e ∧ cs = e ++ rest := by
  revert h
  fun_cases exponent cs with
  | case1 => rintro ⟨⟩; exact ⟨_, .none, rfl⟩
  | case2 => rintro ⟨⟩
  | case3 mark cs hmark negative cs' hsign ds rest' hdigits n hn =>
    rintro ⟨⟩
    obtain ⟨s, hs, rfl⟩ := sign_spells hsign
    obtain ⟨heach, rfl⟩ := digits_eq hdigits
    have hne : ds ≠ [] := by
      rintro rfl
      cases hn
    exact ⟨_, .some (by simpa using hmark) hs ⟨hne, heach⟩ hn, by simp⟩
  | case4 => rintro ⟨⟩; exact ⟨_, .none, rfl⟩

theorem numeral_spells {negative : Bool} {n : Numeral} (h : numeral negative cs = some (n, rest)) :
    n.negative = negative ∧ ∃ f e, n.Unsigned f e ∧ cs = n.whole ++ (f ++ e) ++ rest := by
  obtain ⟨whole, cs', hdigits⟩ : ∃ ds rest, digits cs = (ds, rest) := ⟨_, _, rfl⟩
  obtain ⟨heach, rfl⟩ := digits_eq hdigits
  rw [numeral, hdigits] at h
  simp only [Option.ite_none_left_eq_some, Bool.or_eq_true, Bool.and_eq_true, not_or, not_and,
    decide_eq_true_eq, Option.bind_eq_bind, Option.bind_eq_some_iff, Option.some.injEq,
    Prod.mk.injEq, Prod.exists, List.isEmpty_iff, beq_iff_eq] at h
  obtain ⟨⟨hne, hzero⟩, fr, rest', hfraction, ex, rest'', hexponent, rfl, rfl⟩ := h
  obtain ⟨f, hf, rfl⟩ := fraction_spells hfraction
  obtain ⟨e, he, rfl⟩ := exponent_spells hexponent
  refine ⟨rfl, f, e, ⟨⟨hne, heach⟩, fun hhead => ?_, hf, he⟩, by simp⟩
  exact Nat.le_of_not_lt fun hlong => hzero hlong hhead

/-- A value that is a word is read as it is spelled. -/
theorem word_spells {c : Char} {word : List Char} {x y : Written} (hx : x.Spells (c :: word))
    (h : (after word cs).map (x, ·) = some (y, rest)) :
    ∃ text, y.Spells text ∧ c :: cs = text ++ rest := by
  obtain ⟨cs', hafter, ⟨⟩⟩ := Option.map_eq_some_iff.1 h
  rw [after, Option.ite_none_right_eq_some, List.isPrefixOf_iff_prefix] at hafter
  obtain ⟨⟨cs'', rfl⟩, hdrop⟩ := hafter
  exact ⟨_, hx, by simpa using hdrop⟩

theorem atom_spells {x : Written} (h : atom cs = some (x, rest)) :
    ∃ text, Written.Spells x text ∧ cs = text ++ rest := by
  revert h
  fun_cases atom cs with
  | case1 cs =>
    intro h
    obtain ⟨⟨s, cs'⟩, hletters, ⟨⟩⟩ := Option.map_eq_some_iff.1 h
    obtain ⟨s', text, rfl, hspells, rfl⟩ := letters_spells hletters
    exact ⟨_, .string hspells, by simp⟩
  | case2 => exact word_spells .null
  | case3 => exact word_spells .isTrue
  | case4 => exact word_spells .isFalse
  | case5 cs =>
    intro h
    obtain ⟨⟨n, cs'⟩, hnumeral, ⟨⟩⟩ := Option.map_eq_some_iff.1 h
    obtain ⟨hsign, f, e, hn, rfl⟩ := numeral_spells hnumeral
    exact ⟨_, .number (.negative hsign hn), rfl⟩
  | case6 =>
    intro h
    obtain ⟨⟨n, cs'⟩, hnumeral, ⟨⟩⟩ := Option.map_eq_some_iff.1 h
    obtain ⟨hsign, f, e, hn, rfl⟩ := numeral_spells hnumeral
    exact ⟨_, .number (.positive hsign hn), rfl⟩

/-- **The pieces of a text that one step takes**: from a place inside these enclosures, to a place
inside those. -/
inductive Takes : Place → List Enclosure → List Char → Place → List Enclosure → Prop
  /-- A value that has no parts. -/
  | value {around : List Enclosure} {x : Written} {text : List Char} (h : x.Spells text) :
      Takes .value around text (.behind x) around
  /-- The bracket in front of the items of a list. -/
  | openList {around : List Enclosure} {blank : List Char} (h : IsBlank blank) :
      Takes .value around (blank ++ ['[']) .value (.list [] :: around)
  /-- The brace in front of the fields of an object. -/
  | openObject {around : List Enclosure} {blank : List Char} (h : IsBlank blank) :
      Takes .value around (blank ++ ['\x7b']) (.name []) around
  /-- A name and the colon behind it. -/
  | name {around : List Enclosure} {fields : List (List Letter × Written)} {s : List Letter}
      {text : List Char} (h : Written.Named s text) :
      Takes (.name fields) around (text ++ [':']) .value (.field fields s :: around)
  /-- The comma behind an item. -/
  | nextItem {around : List Enclosure} {items : List Written} {x : Written} {blank : List Char}
      (h : IsBlank blank) :
      Takes (.behind x) (.list items :: around) (blank ++ [',']) .value
        (.list (x :: items) :: around)
  /-- The bracket behind the last item. -/
  | closeList {around : List Enclosure} {items : List Written} {x : Written} {blank : List Char}
      (h : IsBlank blank) :
      Takes (.behind x) (.list items :: around) (blank ++ [']'])
        (.behind (.array (x :: items).reverse)) around
  /-- The comma behind a field. -/
  | nextField {around : List Enclosure} {fields : List (List Letter × Written)} {s : List Letter}
      {x : Written} {blank : List Char} (h : IsBlank blank) :
      Takes (.behind x) (.field fields s :: around) (blank ++ [','])
        (.name ((s, x) :: fields)) around
  /-- The brace behind the last field. -/
  | closeObject {around : List Enclosure} {fields : List (List Letter × Written)} {s : List Letter}
      {x : Written} {blank : List Char} (h : IsBlank blank) :
      Takes (.behind x) (.field fields s :: around) (blank ++ ['\x7d'])
        (.behind (.object ((s, x) :: fields).reverse)) around

/-- Blank space and the character behind it. -/
theorem exists_piece {c : Char} (h : skipBlank cs = c :: rest) :
    ∃ blank, IsBlank blank ∧ cs = blank ++ [c] ++ rest := by
  obtain ⟨blank, hblank, rfl⟩ := exists_blank_of_skipBlank h
  exact ⟨blank, hblank, by simp⟩

/-- **A step takes a piece off the front of the text.** -/
theorem takes_of_step {p p' : Place} {a a' : List Enclosure}
    (h : step p a cs = some (p', a', rest)) : ∃ text, Takes p a text p' a' ∧ cs = text ++ rest := by
  revert h
  fun_cases step p a cs with
  | case1 _ _ _ hopen _ hclose =>
    rintro ⟨⟩
    obtain ⟨blank, hblank, rfl⟩ := exists_piece hopen
    obtain ⟨blank', hblank', rfl⟩ := exists_piece hclose
    refine ⟨_, .value (Written.Spells.blank_append hblank (.emptyArray hblank')), by simp⟩
  | case2 _ _ _ hopen =>
    rintro ⟨⟩
    obtain ⟨blank, hblank, rfl⟩ := exists_piece hopen
    exact ⟨_, .openList hblank, rfl⟩
  | case3 _ _ _ hopen _ hclose =>
    rintro ⟨⟩
    obtain ⟨blank, hblank, rfl⟩ := exists_piece hopen
    obtain ⟨blank', hblank', rfl⟩ := exists_piece hclose
    refine ⟨_, .value (Written.Spells.blank_append hblank (.emptyObject hblank')), by simp⟩
  | case4 _ _ _ hopen =>
    rintro ⟨⟩
    obtain ⟨blank, hblank, rfl⟩ := exists_piece hopen
    exact ⟨_, .openObject hblank, rfl⟩
  | case5 =>
    intro h
    obtain ⟨⟨x, cs'⟩, hatom, ⟨⟩⟩ := Option.map_eq_some_iff.1 h
    obtain ⟨text, hspells, htext⟩ := atom_spells hatom
    obtain ⟨blank, hblank, rfl⟩ := exists_blank_of_skipBlank htext
    exact ⟨_, .value (Written.Spells.blank_append hblank hspells), by simp⟩
  | case6 _ _ _ _ hquote _ _ hletters _ hcolon =>
    rintro ⟨⟩
    obtain ⟨before, hbefore, rfl⟩ := exists_piece hquote
    obtain ⟨s', text, rfl, hspells, rfl⟩ := letters_spells hletters
    obtain ⟨behind, hbehind, rfl⟩ := exists_piece hcolon
    exact ⟨_, .name ⟨before, text, behind, hbefore, hspells, hbehind, rfl⟩, by simp⟩
  | case7 => rintro ⟨⟩
  | case8 => rintro ⟨⟩
  | case9 => rintro ⟨⟩
  | case10 => rintro ⟨⟩
  | case11 _ _ _ _ _ hcomma =>
    rintro ⟨⟩
    obtain ⟨blank, hblank, rfl⟩ := exists_piece hcomma
    exact ⟨_, .nextItem hblank, rfl⟩
  | case12 _ _ _ _ _ hclose =>
    rintro ⟨⟩
    obtain ⟨blank, hblank, rfl⟩ := exists_piece hclose
    exact ⟨_, .closeList hblank, rfl⟩
  | case13 => rintro ⟨⟩
  | case14 _ _ _ _ _ _ hcomma =>
    rintro ⟨⟩
    obtain ⟨blank, hblank, rfl⟩ := exists_piece hcomma
    exact ⟨_, .nextField hblank, rfl⟩
  | case15 _ _ _ _ _ _ hclose =>
    rintro ⟨⟩
    obtain ⟨blank, hblank, rfl⟩ := exists_piece hclose
    exact ⟨_, .closeObject hblank, rfl⟩
  | case16 => rintro ⟨⟩

theorem Takes.ne_nil {p p' : Place} {a a' : List Enclosure} {text : List Char}
    (h : Takes p a text p' a') : text ≠ [] := by
  cases h with
  | value h => exact h.ne_nil
  | _ => simp

/-! ### Places that are reached -/

/-- The texts that open these enclosures. -/
inductive Opens : List Enclosure → List Char → Prop
  /-- Nothing is open. -/
  | nothing : Opens [] []
  /-- A list and its first items, with a comma behind each. -/
  | list {around : List Enclosure} {front blank : List Char} (h : Opens around front)
      (hblank : IsBlank blank) {items : List (Written × List Char)}
      (each : ∀ i ∈ items, i.1.Spells i.2) :
      Opens (.list (items.map (·.1)).reverse :: around)
        (front ++ (blank ++ '[' :: items.flatMap fun i => i.2 ++ [',']))
  /-- An object, its first fields with a comma behind each, and a name. -/
  | field {around : List Enclosure} {front blank : List Char} (h : Opens around front)
      (hblank : IsBlank blank) {fields : List Written.Field}
      (names : ∀ f ∈ fields, Written.Named f.name f.nameText)
      (each : ∀ f ∈ fields, f.value.Spells f.valueText) {s : List Letter} {name : List Char}
      (hs : Written.Named s name) :
      Opens (.field (fields.map Written.Field.written).reverse s :: around)
        (front ++
          (blank ++ '\x7b' :: ((fields.flatMap fun f => f.text ++ [',']) ++ (name ++ [':']))))

/-- The texts that lead to a place inside these enclosures. -/
inductive Reaches : Place → List Enclosure → List Char → Prop
  /-- In front of a value. -/
  | value {around : List Enclosure} {front : List Char} (h : Opens around front) :
      Reaches .value around front
  /-- In front of a name: an object and its first fields with a comma behind each. -/
  | name {around : List Enclosure} {front blank : List Char} (h : Opens around front)
      (hblank : IsBlank blank) {fields : List Written.Field}
      (names : ∀ f ∈ fields, Written.Named f.name f.nameText)
      (each : ∀ f ∈ fields, f.value.Spells f.valueText) :
      Reaches (.name (fields.map Written.Field.written).reverse) around
        (front ++ (blank ++ '\x7b' :: fields.flatMap fun f => f.text ++ [',']))
  /-- Behind a value. -/
  | behind {around : List Enclosure} {front text : List Char} (h : Opens around front)
      {x : Written} (hx : x.Spells text) : Reaches (.behind x) around (front ++ text)

section

variable {around : List Enclosure} {items : List Written} {fields : List (List Letter × Written)}
  {s : List Letter} {x : Written} {front text : List Char}

theorem Opens.nextItem (h : Opens (.list items :: around) front) (hx : x.Spells text) :
    Opens (.list (x :: items) :: around) (front ++ (text ++ [','])) := by
  obtain _ | @⟨_, front, blank, h, hblank, items, each⟩ := h
  have hnext := @Opens.list _ _ _ h hblank (items ++ [(x, text)])
    (List.forall_mem_append.2 ⟨each, by simpa using hx⟩)
  simpa using hnext

theorem Opens.closeList (h : Opens (.list items :: around) front) (hx : x.Spells text) :
    Reaches (.behind (.array (x :: items).reverse)) around (front ++ (text ++ [']'])) := by
  obtain _ | @⟨_, front, blank, h, hblank, items, each⟩ := h
  have harray := @Written.Spells.array (items ++ [(x, text)]) (by simp)
    (List.forall_mem_append.2 ⟨each, by simpa using hx⟩)
  rw [List.map_append, List.map_append, List.map_singleton, List.map_singleton,
    intercalate_concat, List.flatMap_map] at harray
  simpa using Reaches.behind h (harray.blank_append hblank)

theorem Opens.nextField (h : Opens (.field fields s :: around) front) (hx : x.Spells text) :
    Reaches (.name ((s, x) :: fields)) around (front ++ (text ++ [','])) := by
  obtain _ | _ | @⟨_, front, blank, h, hblank, fields, names, each, _, name, hs⟩ := h
  have hnext := @Reaches.name _ _ _ h hblank (fields ++ [⟨s, name, x, text⟩])
    (List.forall_mem_append.2 ⟨names, by simpa using hs⟩)
    (List.forall_mem_append.2 ⟨each, by simpa using hx⟩)
  simpa [Written.Field.written, Written.Field.text] using hnext

theorem Opens.closeObject (h : Opens (.field fields s :: around) front) (hx : x.Spells text) :
    Reaches (.behind (.object ((s, x) :: fields).reverse)) around
      (front ++ (text ++ ['\x7d'])) := by
  obtain _ | _ | @⟨_, front, blank, h, hblank, fields, names, each, _, name, hs⟩ := h
  have hobject := @Written.Spells.object (fields ++ [⟨s, name, x, text⟩]) (by simp)
    (List.forall_mem_append.2 ⟨names, by simpa using hs⟩)
    (List.forall_mem_append.2 ⟨each, by simpa using hx⟩)
  rw [List.map_append, List.map_append, List.map_singleton, List.map_singleton,
    intercalate_concat, List.flatMap_map] at hobject
  simpa [Written.Field.written, Written.Field.text] using
    Reaches.behind h (hobject.blank_append hblank)

end

/-- **Every piece keeps a place reached.** -/
theorem Reaches.takes {p p' : Place} {a a' : List Enclosure} {front text : List Char}
    (h : Reaches p a front) (ht : Takes p a text p' a') : Reaches p' a' (front ++ text) := by
  cases ht with
  | value hx =>
    obtain ⟨h⟩ := h
    exact .behind h hx
  | openList hblank =>
    obtain ⟨h⟩ := h
    exact .value (@Opens.list _ _ _ h hblank [] (by simp))
  | openObject hblank =>
    obtain ⟨h⟩ := h
    exact @Reaches.name _ _ _ h hblank [] (by simp) (by simp)
  | name hs =>
    obtain _ | ⟨h, hblank, names, each⟩ := h
    rw [List.append_assoc, List.append_assoc, List.cons_append]
    exact .value (.field h hblank names each hs)
  | nextItem hblank =>
    obtain _ | _ | ⟨h, hx⟩ := h
    simpa using Reaches.value (h.nextItem (hx.append_blank hblank))
  | closeList hblank =>
    obtain _ | _ | ⟨h, hx⟩ := h
    simpa using h.closeList (hx.append_blank hblank)
  | nextField hblank =>
    obtain _ | _ | ⟨h, hx⟩ := h
    simpa using h.nextField (hx.append_blank hblank)
  | closeObject hblank =>
    obtain _ | _ | ⟨h, hx⟩ := h
    simpa using h.closeObject (hx.append_blank hblank)

/-- **What a run reads has been spelled**, from any place that is reached. -/
theorem spells_of_run {fuel : Nat} {p : Place} {a : List Enclosure} {front : List Char}
    {x : Written} (h : run fuel p a cs = some x) (hp : Reaches p a front) :
    x.Spells (front ++ cs) := by
  fun_induction run fuel p a cs generalizing front with
  | case1 _ _ _ hend =>
    cases h
    obtain _ | _ | ⟨⟨⟩, hx⟩ := hp
    obtain ⟨blank, hblank, rfl⟩ := exists_blank_of_skipBlank (List.isEmpty_iff.1 hend)
    simpa using hx.append_blank hblank
  | case2 => cases h
  | case3 => cases h
  | case4 _ _ _ _ _ _ _ _ hstep ih =>
    obtain ⟨text, htakes, rfl⟩ := takes_of_step hstep
    rw [← List.append_assoc]
    exact ih h (hp.takes htakes)
  | case5 => cases h

end Reader

end ClusterAudit.Json
