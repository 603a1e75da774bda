/-!
# Cutting and comparing text

Image references, resource paths, name filters and request targets are all cut and
compared character by character. The functions here do that on the list of characters
of a string, so that a law about text is a law about a list.

Case is folded in ASCII only: severity labels and URL schemes are the only text whose
case is ever folded, and both are compared in ASCII.
-/

namespace ClusterAudit.Text

/-! ### Cutting -/

/-- The pieces of `cs` between the occurrences of `sep`. There is always at least one piece:
text without a separator is a single piece, also when it is empty. -/
def pieces {α : Type} [BEq α] (sep : α) : List α → List (List α)
  | [] => [[]]
  | c :: cs =>
    if c == sep then [] :: pieces sep cs
    else match pieces sep cs with
      | [] => [[c]]
      | p :: ps => (c :: p) :: ps

/-- The pieces of `s` between the occurrences of `sep`. -/
def split (sep : Char) (s : String) : List String :=
  (pieces sep s.toList).map String.ofList

/-- The text before the first `sep` and the text after it, if `sep` occurs at all. -/
def cut {α : Type} [BEq α] (sep : α) : List α → Option (List α × List α)
  | [] => none
  | c :: cs =>
    if c == sep then some ([], cs)
    else (cut sep cs).map fun (before, after) => (c :: before, after)

/-- The list without the elements at its end that satisfy `drop`. -/
def dropTail {α : Type} (drop : α → Bool) : List α → List α
  | [] => []
  | c :: cs =>
    match dropTail drop cs with
    | [] => if drop c then [] else [c]
    | kept => c :: kept

/-- The list without the elements at either end that satisfy `drop`. -/
def trim {α : Type} (drop : α → Bool) (cs : List α) : List α :=
  dropTail drop (cs.dropWhile drop)

/-- The last piece of text between occurrences of `sep`. -/
def lastPiece {α : Type} [BEq α] (sep : α) : List α → List α
  | [] => []
  | c :: cs => if cs.contains sep then lastPiece sep cs else if c == sep then cs else c :: cs

/-! ### Comparing -/

/-- Whether the text `s` begins with the text `start`. -/
def beginsWith (s start : String) : Bool :=
  start.toList.isPrefixOf s.toList

/-- The text with its ASCII letters in upper case. -/
def upper (s : String) : String :=
  String.ofList (s.toList.map Char.toUpper)

/-- The text with its ASCII letters in lower case. -/
def lower (s : String) : String :=
  String.ofList (s.toList.map Char.toLower)

/-- Texts one after the other, with `sep` between neighbours. -/
def join (sep : String) : List String → String
  | [] => ""
  | [s] => s
  | s :: t :: rest => s ++ sep ++ join sep (t :: rest)

/-! ### Digits -/

/-- The value of a character as a digit in base 16. -/
def hexValue (c : Char) : Option Nat :=
  if '0' ≤ c ∧ c ≤ '9' then some (c.toNat - '0'.toNat)
  else if 'a' ≤ c ∧ c ≤ 'f' then some (c.toNat - 'a'.toNat + 10)
  else if 'A' ≤ c ∧ c ≤ 'F' then some (c.toNat - 'A'.toNat + 10)
  else none

/-- The value of a character as a digit in the given base, which is at most 16. -/
def digitIn (base : Nat) (c : Char) : Option Nat :=
  (hexValue c).filter (· < base)

/-- The number that a nonempty run of digits in the given base stands for; `none` when there is
no digit or something else among them. -/
def natIn (base : Nat) : List Char → Option Nat
  | [] => none
  | c :: cs => (c :: cs).foldlM (fun n d => (digitIn base d).map (n * base + ·)) 0

/-- The digit of value `n` in base 16, in lower case. -/
def hexDigit (n : Nat) : Char :=
  if n < 10 then Char.ofNat ('0'.toNat + n) else Char.ofNat ('a'.toNat + (n - 10))

/-- The digit of value `n` in base 16, in upper case. -/
def hexDigitUpper (n : Nat) : Char :=
  (hexDigit n).toUpper

/-- The last `width` digits of `n` in base 16, in lower case. -/
def hexPadded (width n : Nat) : List Char :=
  match width with
  | 0 => []
  | w + 1 => hexPadded w (n / 16) ++ [hexDigit (n % 16)]

/-- The last `width` digits of `n` in base 16, in upper case. -/
def hexPaddedUpper (width n : Nat) : List Char :=
  (hexPadded width n).map Char.toUpper

/-- The digits of `n` in base 10. -/
def decimal (n : Nat) : String :=
  Nat.repr n

end ClusterAudit.Text
