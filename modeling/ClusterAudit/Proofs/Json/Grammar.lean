import ClusterAudit.Json.Reader

/-!
# The grammar of JSON texts

`Json.Written.Spells` is the grammar of documents: a relation between written documents and texts
that mentions no reader. Blank space may stand in front of a value and behind it, and around a name.
Of the lists of items and of fields those without any are apart, so that a comma always has a
neighbour on either side.

Nothing is said here about what a document means: half of a surrogate pair may stand alone in a
string, a number may be too large for any double, and an object may have two fields of one name.
-/

namespace ClusterAudit.Json

open Reader Text

/-! ### The grammar -/

/-- Blank space. -/
def IsBlank (cs : List Char) : Prop :=
  ∀ c ∈ cs, isBlank c = true

instance : DecidablePred IsBlank :=
  fun cs => List.decidableBAll _ cs

/-- The texts of the letters of a string. -/
inductive Letter.Spells : List Letter → List Char → Prop
  /-- No letters. -/
  | nil : Spells [] []
  /-- A character as it is. -/
  | plain {c : Char} {s : List Letter} {cs : List Char} (hquote : c ≠ '\x22') (hslash : c ≠ '\\')
      (hlow : 0x20 ≤ c.toNat) (h : Spells s cs) : Spells (.char c :: s) (c :: cs)
  /-- A character by the escape of one letter. -/
  | short {e c : Char} {s : List Letter} {cs : List Char} (he : simpleEscape e = some c)
      (h : Spells s cs) : Spells (.char c :: s) ('\\' :: e :: cs)
  /-- A unit by the escape of four digits. -/
  | unit {a b c d : Char} {n : Nat} {s : List Letter} {cs : List Char}
      (hn : natIn 16 [a, b, c, d] = some n) (h : Spells s cs) :
      Spells (.unit (UInt16.ofNat n) :: s) ('\\' :: 'u' :: a :: b :: c :: d :: cs)

namespace Numeral

/-- Decimal digits, one at least. -/
structure IsDigits (ds : List Char) : Prop where
  /-- There is one. -/
  ne_nil : ds ≠ []
  /-- All are digits. -/
  each : ∀ c ∈ ds, c.isDigit = true

/-- The texts of the digits behind a point. -/
inductive Fraction : Option (List Char) → List Char → Prop
  /-- There is no point. -/
  | none : Fraction none []
  /-- A point and digits. -/
  | some {ds : List Char} (h : IsDigits ds) : Fraction (some ds) ('.' :: ds)

/-- The texts of the sign of an exponent. -/
inductive Sign : Bool → List Char → Prop
  /-- There is none. -/
  | none : Sign false []
  /-- A plus. -/
  | plus : Sign false ['+']
  /-- A minus. -/
  | minus : Sign true ['-']

/-- The texts of an exponent. -/
inductive Exponent : Option Int → List Char → Prop
  /-- There is none. -/
  | none : Exponent none []
  /-- A mark, a sign and digits. -/
  | some {mark : Char} (hmark : mark = 'e' ∨ mark = 'E') {negative : Bool} {sign : List Char}
      (hsign : Sign negative sign) {ds : List Char} (h : IsDigits ds) {n : Nat}
      (hn : natIn 10 ds = some n) :
      Exponent (some (if negative then -(n : Int) else n)) (mark :: (sign ++ ds))

/-- The texts of a number behind its sign. A zero in front is the only digit there. -/
structure Unsigned (n : Numeral) (fraction exponent : List Char) : Prop where
  /-- Digits in front of the point. -/
  whole : IsDigits n.whole
  /-- None of them leads as a zero. -/
  zero : n.whole.head? = some '0' → n.whole.length ≤ 1
  /-- The point and the digits behind it. -/
  fraction : Fraction n.fraction fraction
  /-- The exponent. -/
  exponent : Exponent n.exponent exponent

/-- The texts of a number. -/
inductive Spells : Numeral → List Char → Prop
  /-- A number without a sign. -/
  | positive {n : Numeral} {f e : List Char} (hsign : n.negative = false) (h : n.Unsigned f e) :
      Spells n (n.whole ++ (f ++ e))
  /-- A number behind a minus. -/
  | negative {n : Numeral} {f e : List Char} (hsign : n.negative = true) (h : n.Unsigned f e) :
      Spells n ('-' :: (n.whole ++ (f ++ e)))

end Numeral

namespace Written

/-- The texts of a name between quotes, with blank space around it. -/
def Named (s : List Letter) (cs : List Char) : Prop :=
  ∃ before text behind, IsBlank before ∧ Letter.Spells s text ∧ IsBlank behind ∧
    cs = before ++ '\x22' :: (text ++ '\x22' :: behind)

/-- A field of an object with the texts of its name and of its value. -/
structure Field where
  /-- The name. -/
  name : List Letter
  /-- The text of the name. -/
  nameText : List Char
  /-- The value. -/
  value : Written
  /-- The text of the value. -/
  valueText : List Char

namespace Field

/-- The field without its texts. -/
def written (f : Field) : List Letter × Written := (f.name, f.value)

/-- The text of a field. -/
def text (f : Field) : List Char := f.nameText ++ ':' :: f.valueText

end Field

/-- **The texts of a document.** -/
inductive Spells : Written → List Char → Prop
  /-- The null value. -/
  | null : Spells .null ['n', 'u', 'l', 'l']
  /-- The truth value of what is so. -/
  | isTrue : Spells (.bool true) ['t', 'r', 'u', 'e']
  /-- The truth value of what is not so. -/
  | isFalse : Spells (.bool false) ['f', 'a', 'l', 's', 'e']
  /-- A number. -/
  | number {n : Numeral} {cs : List Char} (h : n.Spells cs) : Spells (.number n) cs
  /-- A string between quotes. -/
  | string {s : List Letter} {cs : List Char} (h : Letter.Spells s cs) :
      Spells (.string s) ('\x22' :: (cs ++ ['\x22']))
  /-- A list without items. -/
  | emptyArray {cs : List Char} (h : IsBlank cs) : Spells (.array []) ('[' :: (cs ++ [']']))
  /-- A list with items, and commas between them. -/
  | array {items : List (Written × List Char)} (hne : items ≠ [])
      (each : ∀ i ∈ items, Spells i.1 i.2) :
      Spells (.array (items.map (·.1)))
        ('[' :: (List.intercalate [','] (items.map (·.2)) ++ [']']))
  /-- An object without fields. -/
  | emptyObject {cs : List Char} (h : IsBlank cs) :
      Spells (.object []) ('\x7b' :: (cs ++ ['\x7d']))
  /-- An object with fields, and commas between them. -/
  | object {fields : List Field} (hne : fields ≠ []) (names : ∀ f ∈ fields, Named f.name f.nameText)
      (each : ∀ f ∈ fields, Spells f.value f.valueText) :
      Spells (.object (fields.map Field.written))
        ('\x7b' :: (List.intercalate [','] (fields.map Field.text) ++ ['\x7d']))
  /-- Blank space in front. -/
  | before {x : Written} {c : Char} {cs : List Char} (hc : isBlank c = true)
      (h : Spells x cs) : Spells x (c :: cs)
  /-- Blank space behind. -/
  | behind {x : Written} {c : Char} {cs : List Char} (h : Spells x cs)
      (hc : isBlank c = true) : Spells x (cs ++ [c])

end Written

namespace Written.Spells

variable {x : Written} {cs blank : List Char}

theorem blank_append (hblank : IsBlank blank) (h : Spells x cs) : Spells x (blank ++ cs) := by
  induction blank with
  | nil => exact h
  | cons c blank ih =>
    obtain ⟨hc, hblank⟩ := List.forall_mem_cons.1 hblank
    exact .before hc (ih hblank)

theorem append_blank (h : Spells x cs) (hblank : IsBlank blank) : Spells x (cs ++ blank) := by
  induction blank generalizing cs with
  | nil => rwa [List.append_nil]
  | cons c blank ih =>
    obtain ⟨hc, hblank⟩ := List.forall_mem_cons.1 hblank
    rw [List.append_cons]
    exact ih (.behind h hc) hblank

theorem ne_nil (h : Spells x cs) : cs ≠ [] := by
  induction h with
  | number h =>
    cases h with
    | positive _ h => simp [h.whole.ne_nil]
    | negative => exact List.cons_ne_nil _ _
  | behind => simp
  | _ => exact List.cons_ne_nil _ _

end Written.Spells

/-! ### Commas -/

theorem intercalate_cons_cons (x y : List Char) (l : List (List Char)) :
    List.intercalate [','] (x :: y :: l) = x ++ ',' :: List.intercalate [','] (y :: l) := by
  simp [List.intercalate]

theorem intercalate_concat (l : List (List Char)) (x : List Char) :
    List.intercalate [','] (l ++ [x]) = l.flatMap (· ++ [',']) ++ x := by
  induction l with
  | nil => simp [List.intercalate]
  | cons y l ih =>
    obtain ⟨z, l', hl⟩ := List.exists_cons_of_ne_nil (List.append_ne_nil_of_right_ne_nil l
      (List.cons_ne_nil x []))
    rw [List.cons_append, hl, intercalate_cons_cons, ← hl, ih, List.flatMap_cons]
    simp

theorem exists_intercalate_cons (x : List Char) (l : List (List Char)) :
    ∃ tail, List.intercalate [','] (x :: l) = x ++ tail := by
  cases l with
  | nil => exact ⟨[], by simp [List.intercalate]⟩
  | cons y l => exact ⟨_, intercalate_cons_cons x y l⟩

end ClusterAudit.Json
