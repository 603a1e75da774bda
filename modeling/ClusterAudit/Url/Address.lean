import ClusterAudit.Text.Basic

/-!
# Numeric addresses of hosts

The two kinds of numeric addresses. The older one is four numbers in bases 10, 8 or 16, of which
the last may stand for several bytes; the newer one is eight groups of four digits between
colons, in which one run of zero groups may be left out.
-/

namespace ClusterAudit.Url

open Text

/-! ### Four bytes -/

/-- The number of a part of an address; the inner option is empty when it does not fit 32 bits. -/
def ipv4Number (cs : List Char) : Option (Option Nat) :=
  let digits : Option (Nat × List Char) :=
    match cs with
    | [] => none
    | '0' :: 'x' :: rest => some (16, rest)
    | '0' :: 'X' :: rest => some (16, rest)
    | '0' :: d :: rest => some (8, d :: rest)
    | cs => some (10, cs)
  match digits with
  | none => none
  | some (_, []) => some (some 0)
  | some (base, cs) => (natIn base cs).map fun n => if n < UInt32.size then some n else none

/-- The parts of a name between its dots, without an empty one at the end. -/
def ipv4Parts (cs : List Char) : List (List Char) :=
  let parts := pieces '.' cs
  if parts.getLast? == some [] then parts.dropLast else parts

/-- Whether a name must be a numeric address because its last part is a number. -/
def endsInNumber (cs : List Char) : Bool :=
  match (ipv4Parts cs).getLast? with
  | some last => (!last.isEmpty && last.all Char.isDigit) || (ipv4Number last).isSome
  | none => false

/-- The number made of bytes and a last part that fills the remaining ones. -/
def ipv4Value (front : List Nat) (last : Nat) : Option Nat :=
  if front.all (· < 256) && decide (last < 1 <<< (8 * (4 - front.length))) then
    some (front.foldl (fun n b => n * 256 + b) 0 <<< (8 * (4 - front.length)) + last)
  else none

/-- The number of an address of four bytes. -/
def ipv4? (cs : List Char) : Option Nat :=
  let parts := ipv4Parts cs
  if 4 < parts.length then none
  else do
    let numbers ← parts.mapM fun p => (ipv4Number p).join
    let last ← numbers.getLast?
    ipv4Value numbers.dropLast last

/-- An address of four bytes as text. -/
def ipv4Text (n : Nat) : String :=
  join "." ([n >>> 24, (n >>> 16) % 256, (n >>> 8) % 256, n % 256].map decimal)

/-! ### Eight groups -/

/-- A group of one to four digits and the text behind it. -/
def ipv6Group (cs : List Char) : Option (Nat × List Char) :=
  let ds := (cs.take 4).takeWhile fun c => (hexValue c).isSome
  (natIn 16 ds).map (·, cs.drop ds.length)

/-- The two groups of an address of four bytes at the end: exactly four decimal numbers without
leading zeros. -/
def embeddedIpv4 (cs : List Char) : Option (List Nat) := do
  let bytes ← (pieces '.' cs).mapM fun p =>
    if p.all Char.isDigit && (decide (p.length ≤ 1) || p.head? != some '0') then
      (natIn 10 p).filter (· < 256)
    else none
  match bytes with
  | [a, b, c, d] => some [a * 256 + b, c * 256 + d]
  | _ => none

/-- The groups from here on, at most `n`, and the place among them where groups are left out. -/
def ipv6Groups : Nat → List Nat → Option Nat → List Char → Option (List Nat × Option Nat)
  | _, done, gap, [] => some (done, gap)
  | 0, _, _, _ => none
  | n + 1, done, gap, cs =>
    match cs with
    | ':' :: rest => if gap.isSome then none else ipv6Groups n done (some done.length) rest
    | cs =>
      if 8 ≤ done.length then none
      else if (cs.takeWhile (· != ':')).contains '.' then
        if done.length ≤ 6 then (embeddedIpv4 cs).map fun l => (done ++ l, gap) else none
      else do
        let (g, rest) ← ipv6Group cs
        match rest with
        | [] => some (done ++ [g], gap)
        | ':' :: [] => none
        | ':' :: rest => ipv6Groups n (done ++ [g]) gap rest
        | _ => none

/-- The groups of an address, the ones left out as zeros. -/
def ipv6? (cs : List Char) : Option (List Nat) := do
  let (groups, gap) ← match cs with
    | ':' :: ':' :: rest => ipv6Groups 20 [] (some 0) rest
    | ':' :: _ => none
    | [] => none
    | cs => ipv6Groups 20 [] none cs
  match gap with
  | none => if groups.length = 8 then some groups else none
  | some i =>
    if groups.length < 8 then
      some (groups.take i ++ List.replicate (8 - groups.length) 0 ++ groups.drop i)
    else none

/-- The first longest run of zero groups that is at least two long: where it starts and its
length. -/
def longestZeros : Nat → List Nat → Nat × Nat → Nat × Nat
  | _, [], best => best
  | i, g :: gs, best =>
    let n := ((g :: gs).takeWhile (· == 0)).length
    longestZeros (i + 1) gs (if 1 < n && best.2 < n then (i, n) else best)

/-- A group in its shortest digits. -/
def groupText (g : Nat) : String :=
  String.ofList <| match (hexPadded 4 g).dropWhile (· == '0') with
    | [] => ['0']
    | ds => ds

/-- An address of eight groups as text. -/
def ipv6Text (groups : List Nat) : String :=
  let colons (l : List Nat) : String := join ":" (l.map groupText)
  match longestZeros 0 groups (0, 0) with
  | (_, 0) => colons groups
  | (i, n) => colons (groups.take i) ++ "::" ++ colons (groups.drop (i + n))

end ClusterAudit.Url
