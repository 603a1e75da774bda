import ClusterAudit.Proofs.Url.Percent
import ClusterAudit.Url.Extend

/-!
# What is put below an address

A text is put below an address as a segment of its own, and whoever reads the address afterwards
finds this segment again: what would separate or end it is encoded, it is no directory, and it
decodes to the text. This holds of every text but those which are left out or changed when they are
added (`ClusterAudit.Url.IsPlain`): names of directories, and texts with tabs or ends of line in
them.

The segments come behind those of the address (`ClusterAudit.Url.ground`), and nothing else of the
address changes (`ClusterAudit.Url.extend?_cons`). Fields come behind the fields that the address
has (`ClusterAudit.Url.queryFields_appendFields`). Both can be told from the text of the address
alone, because whatever else stands in it stays.
-/

namespace ClusterAudit.Url

open Text

/-! ### Directories -/

/-- What becomes a given character in lower case. -/
theorem eq_or_of_toLower_eq {c d : Char} (h : c.toLower = d) :
    c = d ∨ 65 ≤ c.toNat ∧ c.toNat ≤ 90 ∧ d.toNat = c.toNat + 32 := by
  by_cases hupper : c.val ≥ 'A'.val ∧ c.val ≤ 'Z'.val
  · right
    have hlower : c.toLower = _ := dif_pos hupper
    have hval : d.val = c.val + ('a'.val - 'A'.val) := by rw [← h, hlower]
    have hnat := congrArg UInt32.toNat hval
    simp only [ge_iff_le, UInt32.le_iff_toNat_le, UInt32.toNat_add, UInt32.toNat_sub,
      Char.reduceVal, UInt32.reduceToNat] at hupper hnat
    have hc : c.toNat = c.val.toNat := rfl
    have hd : d.toNat = d.val.toNat := rfl
    omega
  · left
    have hsame : c.toLower = c := dif_neg hupper
    rw [← h, hsame]

/-- Signs and digits have no case. -/
theorem eq_of_toLower_eq {c d : Char} (hd : d.toNat < 97) (h : c.toLower = d) : c = d := by
  rcases eq_or_of_toLower_eq h with hc | ⟨hlow, hhigh, hsum⟩
  · exact hc
  · omega

/-- A dot, in lower case, as it is and encoded. -/
def dots : List (List Char) :=
  [['.'], ['%', '2', 'e']]

/-- Both decode to a dot. -/
theorem decode_append_of_dot {cs : List Char} (h : cs.map Char.toLower ∈ dots) (rest : List Char) :
    decode (cs ++ rest) = 0x2E :: decode rest := by
  rcases List.mem_pair.1 h with h | h
  · obtain ⟨c, rfl, hc⟩ := List.map_eq_singleton_iff.1 h
    rw [eq_of_toLower_eq (by decide) hc]
    exact decode_cons (by decide) rest
  · obtain ⟨c, l, rfl, hc, hl⟩ := List.map_eq_cons_iff.1 h
    obtain ⟨x, l, rfl, hx, hl⟩ := List.map_eq_cons_iff.1 hl
    obtain ⟨y, rfl, hy⟩ := List.map_eq_singleton_iff.1 hl
    rw [eq_of_toLower_eq (by decide) hc, eq_of_toLower_eq (by decide) hx]
    have hvalue : hexValue y = some 14 := by
      rcases eq_or_of_toLower_eq hy with rfl | ⟨hlow, hhigh, hsum⟩
      · rfl
      · have hcode : y.toNat = 'E'.toNat := by
          have he : 'e'.toNat = 'E'.toNat + 32 := rfl
          omega
        rw [← Char.ofNat_toNat y, hcode]
        rfl
    rw [List.cons_append, List.cons_append, List.singleton_append, decode, hvalue]
    rfl

theorem eq_toList_of_lower_eq {cs : List Char} {s : String} (h : lower (String.ofList cs) = s) :
    cs.map Char.toLower = s.toList := by
  rw [← h, lower, String.toList_ofList, String.toList_ofList]

theorem decode_of_isDot {cs : List Char} (h : isDot cs = true) : decode cs = [0x2E] := by
  have hdot : cs.map Char.toLower ∈ dots := by
    simp only [isDot, Bool.or_eq_true, beq_iff_eq] at h
    rcases h with h | h
    all_goals
      rw [eq_toList_of_lower_eq h]
      decide
  have hdecode := decode_append_of_dot hdot []
  rwa [List.append_nil] at hdecode

theorem decode_of_isDoubleDot {cs : List Char} (h : isDoubleDot cs = true) :
    decode cs = [0x2E, 0x2E] := by
  have hdots : ∃ l ∈ dots, ∃ m ∈ dots, cs.map Char.toLower = l ++ m := by
    simp only [isDoubleDot, Bool.or_eq_true, beq_iff_eq] at h
    rcases h with ((h | h) | h) | h
    all_goals
      rw [eq_toList_of_lower_eq h]
      decide
  obtain ⟨l, hl, m, hm, heq⟩ := hdots
  obtain ⟨front, back, rfl, rfl, rfl⟩ := List.map_eq_append_iff.1 heq
  have hdecode := decode_append_of_dot hm []
  rw [List.append_nil] at hdecode
  rw [decode_append_of_dot hl, hdecode]
  rfl

/-! ### Texts as segments -/

/-- **A text can be a segment**: it is the name of no directory, and nothing that does not count in
an address is in it. -/
structure IsPlain (s : String) : Prop where
  /-- It is not the name of this directory. -/
  notDot : s ≠ "."
  /-- It is not the name of the directory above. -/
  notDoubleDot : s ≠ ".."
  /-- There are no tabs and ends of line in it. -/
  counts : ∀ c ∈ s.toList, c ≠ '\t' ∧ c ≠ '\n' ∧ c ≠ '\r'

instance (s : String) : Decidable (IsPlain s) :=
  -- the list is gone through, and not all characters that there are
  haveI : Decidable (∀ c ∈ s.toList, c ≠ '\t' ∧ c ≠ '\n' ∧ c ≠ '\r') := List.decidableBAll _ _
  decidable_of_iff
    (s ≠ "." ∧ s ≠ ".." ∧ ∀ c ∈ s.toList, c ≠ '\t' ∧ c ≠ '\n' ∧ c ≠ '\r')
    ⟨fun h => ⟨h.1, h.2.1, h.2.2⟩, fun h => ⟨h.notDot, h.notDoubleDot, h.counts⟩⟩

/-- A text as a segment. -/
def written (special : Bool) (s : String) : String :=
  String.ofList (encode (inSegment special) s.toList)

/-- What a segment decodes to. -/
def segmentBytes (s : String) : List UInt8 :=
  decode s.toList

variable {special : Bool} {s t : String}

theorem inSegment_percent (special : Bool) : inSegment special '%' = true := by
  cases special <;> rfl

/-- **A segment decodes to its text.** -/
@[simp] theorem segmentBytes_written (special : Bool) (s : String) :
    segmentBytes (written special s) = Utf8.encode s.toList := by
  rw [segmentBytes, written, String.toList_ofList, decode_encode (inSegment_percent special)]

theorem written_injective (h : written special s = written special t) : s = t := by
  have hbytes := congrArg segmentBytes h
  rw [segmentBytes_written, segmentBytes_written] at hbytes
  exact String.toList_injective (Utf8.encode_injective hbytes)

theorem notMem_written {d : Char} (hset : inSegment special d = true) (hpercent : d ≠ '%')
    (hdigit : hexValue d = none) (s : String) : d ∉ (written special s).toList := by
  rw [written, String.toList_ofList]
  exact notMem_encode hset hpercent hdigit _

/-- Nothing of a segment has to be encoded once more in a path. -/
theorem encode_written (special : Bool) (s : String) :
    encode inPath (written special s).toList = (written special s).toList := by
  rw [written, String.toList_ofList]
  refine encode_eq_self fun c hc => ?_
  have hdigits : ∀ n < 16, (hexDigitUpper n).toNat < 0x80 ∧ inPath (hexDigitUpper n) = false := by
    decide
  rcases mem_encode hc with ⟨b, hb⟩ | ⟨hascii, hfree⟩
  · rcases mem_percentByte hb with rfl | ⟨n, hn, rfl⟩
    · decide
    · exact hdigits n hn
  · refine ⟨hascii, ?_⟩
    rw [inSegment, Bool.or_assoc, Bool.or_assoc, Bool.or_eq_false_iff] at hfree
    exact hfree.1

theorem IsPlain.isDot_written (h : IsPlain s) (special : Bool) :
    isDot (written special s).toList = false := by
  rw [Bool.eq_false_iff]
  intro hdot
  have hbytes := segmentBytes_written special s
  rw [segmentBytes, decode_of_isDot hdot] at hbytes
  exact h.notDot (String.toList_injective (Utf8.encode_injective hbytes.symm))

theorem IsPlain.isDoubleDot_written (h : IsPlain s) (special : Bool) :
    isDoubleDot (written special s).toList = false := by
  rw [Bool.eq_false_iff]
  intro hdots
  have hbytes := segmentBytes_written special s
  rw [segmentBytes, decode_of_isDoubleDot hdots] at hbytes
  exact h.notDoubleDot (String.toList_injective (Utf8.encode_injective hbytes.symm))

/-! ### Following segments -/

theorem followSegments_cons_written {file : Bool} {done : List String} (h : IsPlain s)
    (hdrive : done ≠ [] ∨ isDrive (written special s) = false) (rest : List (List Char)) :
    followSegments file ((written special s).toList :: rest) done =
      followSegments file rest (written special s :: done) := by
  have hplain : writtenSegment file done (written special s).toList = written special s := by
    rw [writtenSegment, String.ofList_toList, encode_written, String.ofList_toList, if_neg]
    intro hcolon
    simp only [Bool.and_eq_true, List.isEmpty_iff] at hcolon
    rcases hdrive with hdone | hdrive
    · exact hdone hcolon.1.2
    · exact absurd hcolon.2 (by rw [hdrive]; decide)
  rw [followSegments, h.isDoubleDot_written, h.isDot_written, hplain]
  rfl

/-- **Who follows segments comes below the directory where he starts**, and to no other place. -/
theorem followSegments_written {file : Bool} {texts : List String} (h : ∀ s ∈ texts, IsPlain s) :
    ∀ {done : List String}, done ≠ [] →
      followSegments file (texts.map fun s => (written special s).toList) done =
        done.reverse ++ texts.map (written special) := by
  induction texts with
  | nil =>
    intro done _
    rw [List.map_nil, List.map_nil, followSegments, List.append_nil]
  | cons s texts ih =>
    intro done hdone
    rw [List.map_cons, followSegments_cons_written (h s List.mem_cons_self) (.inl hdone),
      ih (fun t ht => h t (List.mem_cons_of_mem s ht)) (List.cons_ne_nil _ _), List.reverse_cons,
      List.append_assoc, List.map_cons, List.singleton_append]

/-- The text of segments is cut into these segments. -/
theorem pieces_join_written (s : String) (texts : List String) :
    pieces '/' (join "/" ((s :: texts).map (written special))).toList =
      (s :: texts).map fun s => (written special s).toList := by
  have hslash (t : String) : '/' ∉ (written special t).toList :=
    notMem_written (by cases special <;> rfl) (by decide) (by decide) t
  induction texts generalizing s with
  | nil => exact pieces_of_notMem (hslash s)
  | cons t texts ih =>
    rw [List.map_cons, List.map_cons, join, String.toList_append, String.toList_append,
      List.append_assoc, ← List.map_cons]
    exact (pieces_append_cons '/' _ _).trans (congrArg₂ _ (pieces_of_notMem (hslash s)) (ih t))

/-- **The text of segments leads below a directory**, whichever this is, and no other part of an
address begins in it. -/
structure LeadsBelow (special : Bool) (segments : List String) : Prop where
  /-- Who follows the text comes to these segments. -/
  follows (file : Bool) (done : List String) :
    followSegments file (pieces '/' (join "/" segments).toList) done = done.reverse ++ segments
  /-- The path does not end in it. -/
  undivided : ∀ sign ∈ ['?', '#'], sign ∉ (join "/" segments).toList
  /-- There is no other separator in it. -/
  backslash : special = true → '\\' ∉ (join "/" segments).toList

theorem notMem_join_written {d : Char} (hset : inSegment special d = true) (hpercent : d ≠ '%')
    (hdigit : hexValue d = none) (hslash : d ≠ '/') (texts : List String) :
    d ∉ (join "/" (texts.map (written special))).toList := by
  intro h
  rcases mem_join h with h | ⟨w, hw, h⟩
  · exact hslash (List.mem_singleton.1 h)
  · obtain ⟨t, -, rfl⟩ := List.mem_map.1 hw
    exact notMem_written hset hpercent hdigit t h

theorem leadsBelow_written {texts : List String} (h : ∀ t ∈ s :: texts, IsPlain t)
    (hdrive : isDrive (written special s) = false) :
    LeadsBelow special ((s :: texts).map (written special)) where
  follows file done := by
    rw [pieces_join_written, List.map_cons,
      followSegments_cons_written (h s List.mem_cons_self) (.inr hdrive),
      followSegments_written (fun t ht => h t (List.mem_cons_of_mem s ht)) (List.cons_ne_nil _ _),
      List.reverse_cons, List.append_assoc, List.singleton_append, List.map_cons]
  undivided sign hsign := by
    rcases List.mem_pair.1 hsign with rfl | rfl
    all_goals
      exact notMem_join_written (by cases special <;> rfl) (by decide) (by decide) (by decide) _
  backslash hspecial := by
    subst hspecial
    exact notMem_join_written (by decide) (by decide) (by decide) (by decide) _

/-! ### Segments below an address -/

/-- The segments less one empty one at the end. -/
def lessTrailing (l : List String) : List String :=
  if l.getLast? = some "" then l.dropLast else l

/-- A single empty segment is as good as none. -/
def opened (l : List String) : List String :=
  if l = [""] then [] else l

/-- **The segments that others come behind**: less one empty one at the end, and a single empty one
that is left is as good as none. -/
def ground (l : List String) : List String :=
  opened (lessTrailing l)

theorem opened_popEmpty (l : List String) : opened (popEmpty l) = ground l := by
  by_cases hsingle : l = [""]
  · rw [hsingle]
    rfl
  · have hsame : popEmpty l = lessTrailing l := by
      rw [popEmpty, lessTrailing]
      by_cases hlast : l.getLast? = some ""
      · have hlength : 1 < l.length := by
          match l, hsingle, hlast with
          | [s], hsingle, hlast => exact absurd (congrArg ([·]) (Option.some.inj hlast)) hsingle
          | _ :: _ :: _, _, _ => exact Nat.one_lt_succ_succ _
        rw [if_pos hlast, if_pos (by simpa [hlast] using hlength)]
      · rw [if_neg hlast, if_neg (by simp [hlast])]
    rw [hsame, ground]

/-- The text less the tabs and ends of line, which do not count in an address. -/
def counted (s : String) : String :=
  String.ofList (s.toList.filter fun c => c ≠ '\t' && c ≠ '\n' && c ≠ '\r')

theorem counted_eq_self_iff :
    counted s = s ↔ ∀ c ∈ s.toList, c ≠ '\t' ∧ c ≠ '\n' ∧ c ≠ '\r' := by
  have hsame : counted s = s ↔
      (s.toList.filter fun c => c ≠ '\t' && c ≠ '\n' && c ≠ '\r') = s.toList := by
    rw [← String.toList_inj, counted, String.toList_ofList]
  rw [hsame, List.filter_eq_self]
  simp [and_assoc]

theorem pushSegment_of_ne (hdot : s ≠ ".") (hdots : s ≠ "..") (l : List String) :
    pushSegment special l s =
      if written special (counted s) = ".." then (opened l).dropLast ++ [""]
      else if written special (counted s) = "." then opened l ++ [""]
      else opened l ++ [written special (counted s)] := by
  have hname : (s == "." || s == "..") = false := by simp [hdot, hdots]
  rw [pushSegment, hname]
  simp only [Bool.false_eq_true, ↓reduceIte, beq_iff_eq, opened, written, counted,
    String.toList_ofList]

theorem IsPlain.written_ne (h : IsPlain s) (special : Bool) :
    written special s ≠ "." ∧ written special s ≠ ".." := by
  constructor
  · intro hdot
    exact absurd (h.isDot_written special) (by rw [hdot]; decide)
  · intro hdots
    exact absurd (h.isDoubleDot_written special) (by rw [hdots]; decide)

theorem pushSegment_of_isPlain (h : IsPlain s) (l : List String) :
    pushSegment special l s = opened l ++ [written special s] := by
  obtain ⟨hdot, hdots⟩ := h.written_ne special
  rw [pushSegment_of_ne h.notDot h.notDoubleDot, counted_eq_self_iff.2 h.counts, if_neg hdots,
    if_neg hdot]

/-- **No other text becomes a segment of its own.** -/
theorem isPlain_iff_pushSegment {l : List String} (hl : l ≠ [""]) :
    IsPlain s ↔
      (pushSegment special l s).map segmentBytes =
        l.map segmentBytes ++ [Utf8.encode s.toList] := by
  have hopened : opened l = l := if_neg hl
  constructor
  · intro h
    rw [pushSegment_of_isPlain h, hopened, List.map_append, List.map_singleton,
      segmentBytes_written]
  · intro h
    have hname : s ≠ "." ∧ s ≠ ".." := by
      constructor
      all_goals
        rintro rfl
        exact absurd (congrArg List.length h) (by simp [pushSegment])
    -- the last segment decodes to the text, so the text is what is written as this segment
    have hlast := congrArg List.getLast? h
    rw [List.getLast?_concat, pushSegment_of_ne hname.1 hname.2] at hlast
    have hempty {before : List String}
        (hbytes : ((before ++ [""]).map segmentBytes).getLast? = some (Utf8.encode s.toList)) :
        written special (counted s) = "" := by
      rw [List.map_append, List.map_singleton, List.getLast?_concat] at hbytes
      have hnil : s.toList = [] := Utf8.encode_injective (Option.some.inj hbytes).symm
      rw [counted, hnil]
      rfl
    split at hlast
    · rename_i hdots
      exact absurd (hdots.symm.trans (hempty hlast)) (by decide)
    · split at hlast
      · rename_i hdot
        exact absurd (hdot.symm.trans (hempty hlast)) (by decide)
      · rw [List.map_append, List.map_singleton, List.getLast?_concat,
          segmentBytes_written] at hlast
        have hsame : counted s = s :=
          String.toList_injective (Utf8.encode_injective (Option.some.inj hlast))
        exact ⟨hname.1, hname.2, counted_eq_self_iff.1 hsame⟩

theorem foldl_pushSegment {texts : List String} (h : ∀ s ∈ texts, IsPlain s) :
    ∀ {l : List String}, l ≠ [] → l ≠ [""] →
      texts.foldl (pushSegment special) l = l ++ texts.map (written special) := by
  induction texts with
  | nil =>
    intro l _ _
    rw [List.foldl_nil, List.map_nil, List.append_nil]
  | cons s texts ih =>
    intro l hne hsingle
    have hopened : opened l = l := if_neg hsingle
    have hne' : l ++ [written special s] ≠ [] := by simp
    have hsingle' : l ++ [written special s] ≠ [""] := by simp [List.append_eq_singleton_iff, hne]
    rw [List.foldl_cons, pushSegment_of_isPlain (h s List.mem_cons_self), hopened,
      ih (fun t ht => h t (List.mem_cons_of_mem s ht)) hne' hsingle', List.append_assoc,
      List.singleton_append, List.map_cons]

theorem written_ne_empty (h : s ≠ "") : written special s ≠ "" := by
  intro hempty
  have hsame : written special s = written special "" := hempty
  exact h (written_injective hsame)

theorem exists_path_eq_segments {u : Url} (h : u.hasSegments = true) :
    ∃ l, u.path = .segments l := by
  cases hpath : u.path with
  | segments l => exact ⟨l, rfl⟩
  | opaqueText text =>
    rw [hasSegments, hpath] at h
    cases h

/-- **Segments below an address** come behind its own, and nothing else changes. -/
theorem extend?_cons {u : Url} (hu : u.hasSegments = true) {texts : List String} (hs : s ≠ "")
    (h : ∀ t ∈ s :: texts, IsPlain t) :
    u.extend? (s :: texts) = some { u with
      path := .segments
        (ground u.pathSegments ++ (s :: texts).map (written (isSpecial u.scheme))) } := by
  have hfirst : written (isSpecial u.scheme) s ≠ "" := written_ne_empty hs
  have hrest : ∀ t ∈ texts, IsPlain t := fun t ht => h t (List.mem_cons_of_mem s ht)
  obtain ⟨l, hpath⟩ := exists_path_eq_segments hu
  have hone : ground l ++ [written (isSpecial u.scheme) s] ≠ [""] := by
    simp [List.append_eq_singleton_iff, hfirst]
  rw [extend?, hpath, pathSegments, hpath]
  dsimp only
  rw [List.foldl_cons, pushSegment_of_isPlain (h s List.mem_cons_self), opened_popEmpty,
    foldl_pushSegment hrest (by simp) hone, List.append_assoc, List.singleton_append,
    List.map_cons]

/-! ### Fields of queries -/

/-- The fields that a query has. -/
def queryFields (u : Url) : List (String × String) :=
  formFields (u.query.getD "").toList

theorem formFields_fieldText (name value : String) :
    formFields (fieldText name value).toList = [(name, value)] := by
  rw [fieldText, String.toList_ofList, formFields_field]

/-- **Fields are read back behind those of the address.** -/
theorem queryFields_appendFields (u : Url) (fields : List (String × String)) :
    (u.appendFields fields).queryFields = u.queryFields ++ fields := by
  have hadded : (fields.map fun f => fieldText f.1 f.2).flatMap (fun s => formFields s.toList) =
      fields := by
    rw [List.flatMap_map]
    simp only [formFields_fieldText, List.flatMap_singleton']
  rw [appendFields, queryFields, queryFields, Option.getD_some, formFields_join,
    List.flatMap_append, hadded]
  congr 1
  cases u.query with
  | none => rfl
  | some q =>
    split
    next h => cases h
    next h =>
      rw [Option.some.inj h]
      rfl
    next h =>
      rw [← Option.some.inj h]
      exact List.flatMap_singleton _ _

/-! ### Texts of addresses -/

/-- The query can be read off the text of an address. -/
theorem query_inj_of_text {u : Url} {q q' : String}
    (h : ({ u with query := some q } : Url).text = ({ u with query := some q' } : Url).text) :
    q = q' := by
  simp only [text, authorityText, userinfoText, pathText, pathSegments, String.append_left_inj,
    String.append_right_inj] at h
  exact h

/-- What stands in front of a path does not depend on what is in it behind the first segment, as
long as there is something. -/
theorem authorityText_congr (u : Url) (first : String) {l m : List String} (hl : l ≠ [])
    (hm : m ≠ []) :
    ({ u with path := .segments (first :: l) } : Url).authorityText =
      ({ u with path := .segments (first :: m) } : Url).authorityText := by
  obtain ⟨x, l, rfl⟩ := List.exists_cons_of_ne_nil hl
  obtain ⟨y, m, rfl⟩ := List.exists_cons_of_ne_nil hm
  simp only [authorityText, userinfoText, pathSegments]
  cases u.host with
  | some host => rfl
  | none =>
    by_cases hfirst : first = ""
    · subst hfirst
      rfl
    · simp [hfirst]

/-- And so can the last segment. -/
theorem last_inj_of_text {u : Url} {l : List String} (hl : l ≠ []) {a b : String}
    (h : ({ u with path := .segments (l ++ [a]) } : Url).text =
      ({ u with path := .segments (l ++ [b]) } : Url).text) :
    a = b := by
  obtain ⟨first, l, rfl⟩ := List.exists_cons_of_ne_nil hl
  rw [text, text, List.cons_append, List.cons_append,
    authorityText_congr u first (List.concat_ne_nil b l) (List.concat_ne_nil a l)] at h
  simp only [pathText, List.map_cons, List.map_append, List.map_nil, String.join_cons,
    String.join_append, String.join_nil, String.append_left_inj, String.append_right_inj] at h
  exact h

end ClusterAudit.Url
