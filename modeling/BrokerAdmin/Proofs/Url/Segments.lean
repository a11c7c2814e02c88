import BrokerAdmin.Proofs.Url.Percent
import BrokerAdmin.Url.Basic
import Mathlib.Data.List.Forall2

/-!
# Segments joined to a path

Joining writes each segment as a piece of the path. A piece has no separator in it and is decoded to
the segment again, so a path tells the segments that were joined apart, as long as each of them has a
piece of its own.

## The distinction that decides it

Two kinds of segments have none.

* `.` and `..` are passed over.
* Tabs and line ends are removed, and then the segment may be another one, or `.` or `..`, which ends
  the path in an empty piece.

All others are `Url.Plain`.

## Main definitions

* `Url.Plain`: the segments that are written as they are.
* `Url.Denotes`: a piece of a path stands for a segment.
* `Url.joinPoint`: the segments of an address that others are joined to.
* `Url.Keeps`: the text of a path has a piece for each segment.

## Main results

* `Url.Keeps.unique`: a path tells the segments apart that it keeps.
* `Url.joinSegments_of_unremoved`: what is joined, where nothing is removed.
* `Url.extends_joinSegments`: whatever is joined, no tab or line end is written.
* `Url.keeps_joinSegments_iff`: a path keeps what is joined exactly when all of it is plain.
-/

namespace BrokerAdmin.Url

/-- Whether a character separates parts of an address. -/
def isSeparator (c : Char) : Bool := c = '/' || c = '\\' || c = '?' || c = '#'

/-- A text without tabs and line ends. -/
def Unremoved (s : String) : Prop := ∀ c ∈ s.toList, isRemoved c = false

/-- A segment that does not stand for a place in the path. -/
def isName (s : String) : Bool := s != "." && s != ".."

/-- A segment that is written as it is. -/
def Plain (s : String) : Prop := isName s = true ∧ Unremoved s

instance (s : String) : Decidable (Unremoved s) :=
  decidable_of_iff (s.toList.all (!isRemoved ·) = true) (by simp [Unremoved])

instance (s : String) : Decidable (Plain s) :=
  inferInstanceAs (Decidable (isName s = true ∧ Unremoved s))

/-- A piece of a path stands for a segment: it has no separator, and it is decoded to the segment. -/
structure Denotes (p s : String) : Prop where
  /-- The piece is one piece. -/
  whole : ∀ c ∈ p.toList, isSeparator c = false
  /-- The piece says what the segment is. -/
  decode : Percent.decode p.toList = Utf8.encode s

/-- The segments that others are joined to: those of an address without its trailing slash. -/
def joinPoint (path : List String) : List String := openEnd (dropTrailing path)

/-- The piece that is written for a segment. -/
def piece (s : String) : String := String.ofList (encodeSegment true s)

/-! ### Pieces -/

theorem Denotes.unique {p s t : String} (hs : Denotes p s) (ht : Denotes p t) : s = t :=
  Utf8.encode_injective (hs.decode.symm.trans ht.decode)

theorem Denotes.slash_notMem {p s : String} (h : Denotes p s) : '/' ∉ p.toList :=
  fun hslash => absurd (h.whole '/' hslash) (by decide)

theorem isSeparator_of_mem_encodeSegment {s : String} {c : Char} (h : c ∈ encodeSegment true s) :
    isSeparator c = false := by
  have hdigits : "0123456789ABCDEF".toList.all (!isSeparator ·) = true := by decide
  rcases Percent.mem_encode h with ⟨-, hset⟩ | rfl | hdigit
  · rw [Bool.eq_false_iff]
    intro hsep
    simp only [isSeparator, Bool.or_eq_true, decide_eq_true_eq] at hsep
    rcases hsep with ((rfl | rfl) | rfl) | rfl <;> simp [Percent.segmentSet, Percent.pathSet] at hset
  · rfl
  · simpa using List.all_eq_true.1 hdigits c hdigit

/-- What is written for a segment is what it is without tabs and line ends. -/
theorem denotes_piece (s : String) :
    Denotes (piece s) (String.ofList (s.toList.filter (!isRemoved ·))) := by
  rw [piece]
  constructor
  · rw [String.toList_ofList]
    exact fun c hc => isSeparator_of_mem_encodeSegment hc
  · rw [String.toList_ofList, encodeSegment, Percent.decode_encode (by decide), Utf8.encode,
      String.toList_ofList]

theorem Unremoved.denotes {s : String} (h : Unremoved s) : Denotes (piece s) s := by
  have hfilter : s.toList.filter (!isRemoved ·) = s.toList :=
    List.filter_eq_self.2 fun c hc => by simp [h c hc]
  simpa [hfilter] using denotes_piece s

theorem unremoved_filter (s : String) :
    Unremoved (String.ofList (s.toList.filter (!isRemoved ·))) := by
  intro c hc
  rw [String.toList_ofList, List.mem_filter] at hc
  simpa using hc.2

theorem isName_eq_false_iff {s : String} : isName s = false ↔ s = "." ∨ s = ".." := by
  simp only [isName, Bool.and_eq_false_iff, bne_eq_false_iff_eq]

/-- Only a place in the path is written as one. -/
theorem encodeSegment_ne {s : String} (hname : isName s = true) (h : Unremoved s) :
    encodeSegment true s ≠ ['.'] ∧ encodeSegment true s ≠ ['.', '.'] := by
  have hplace : ∀ t : String, isName t = false → Percent.decode t.toList = Utf8.encode t →
      encodeSegment true s ≠ t.toList := by
    intro t ht hdecode heq
    have hs := h.denotes.decode
    rw [piece, String.toList_ofList, heq, hdecode] at hs
    rw [Utf8.encode_injective hs, hname] at ht
    cases ht
  exact ⟨hplace "." (by decide) (by decide), hplace ".." (by decide) (by decide)⟩

/-! ### Pieces of a text -/

theorem takeWhile_append_of_slash {xs rest : List Char} (hxs : '/' ∉ xs)
    (hrest : rest = [] ∨ rest.head? = some '/') : (xs ++ rest).takeWhile (· != '/') = xs := by
  have hall : ∀ c ∈ xs, (c != '/') = true := by
    intro c hc
    rw [bne_iff_ne]
    rintro rfl
    exact hxs hc
  rw [List.takeWhile_append_of_pos hall]
  cases rest with
  | nil => simp
  | cons c rest =>
    obtain rfl : c = '/' := by simpa using hrest
    simp

/-- Pieces without a slash are read off a path. -/
theorem append_inj_of_slash {xs ys front back : List Char} (hxs : '/' ∉ xs) (hys : '/' ∉ ys)
    (hfront : front = [] ∨ front.head? = some '/') (hback : back = [] ∨ back.head? = some '/')
    (h : xs ++ front = ys ++ back) : xs = ys ∧ front = back := by
  have hxy : xs = ys := by
    rw [← takeWhile_append_of_slash hxs hfront, h, takeWhile_append_of_slash hys hback]
  subst hxy
  exact ⟨rfl, List.append_cancel_left h⟩

theorem segmentsText_eq_nil_or (segments : List String) :
    segmentsText segments = [] ∨ (segmentsText segments).head? = some '/' := by
  cases segments with
  | nil => exact .inl rfl
  | cons s segments => exact .inr rfl

theorem segmentsText_append (front back : List String) :
    segmentsText (front ++ back) = segmentsText front ++ segmentsText back :=
  List.flatMap_append

/-- **The text of a path tells its pieces apart.** -/
theorem segmentsText_inj {xs ys : List String} (hxs : ∀ x ∈ xs, '/' ∉ x.toList)
    (hys : ∀ y ∈ ys, '/' ∉ y.toList) (h : segmentsText xs = segmentsText ys) : xs = ys := by
  induction xs generalizing ys with
  | nil =>
    cases ys with
    | nil => rfl
    | cons y ys => cases h
  | cons x xs ih =>
    cases ys with
    | nil => cases h
    | cons y ys =>
      have hrest : x.toList ++ segmentsText xs = y.toList ++ segmentsText ys := List.cons.inj h |>.2
      obtain ⟨hxy, hrest⟩ := append_inj_of_slash (hxs x List.mem_cons_self)
        (hys y List.mem_cons_self) (segmentsText_eq_nil_or xs) (segmentsText_eq_nil_or ys) hrest
      rw [String.toList_inj.1 hxy, ih (fun z hz => hxs z (List.mem_cons_of_mem x hz))
        (fun z hz => hys z (List.mem_cons_of_mem y hz)) hrest]

/-! ### Segments of a path -/

/-- The text of a path has, behind the segments of `root`, one piece for each of the given segments,
in their order, which stands for it. -/
def Keeps (root segments : List String) (text : List Char) : Prop :=
  ∃ pieces, text = segmentsText (root ++ pieces) ∧ List.Forall₂ Denotes pieces segments

theorem slash_notMem_of_denotes {pieces segments : List String}
    (h : List.Forall₂ Denotes pieces segments) : ∀ p ∈ pieces, '/' ∉ p.toList := by
  induction h with
  | nil => simp
  | cons hp _ ih => exact List.forall_mem_cons.2 ⟨hp.slash_notMem, ih⟩

theorem unremoved_of_denotes {pieces segments : List String}
    (h : List.Forall₂ Denotes pieces segments)
    (hpieces : ∀ p ∈ pieces, ∃ s, Unremoved s ∧ Denotes p s) : ∀ s ∈ segments, Unremoved s := by
  induction h with
  | nil => simp
  | cons hp _ ih =>
    rw [List.forall_mem_cons] at hpieces ⊢
    obtain ⟨⟨t, ht, hpt⟩, hrest⟩ := hpieces
    exact ⟨hpt.unique hp ▸ ht, ih hrest⟩

/-- **A path tells the segments apart that it keeps.** -/
theorem Keeps.unique {root xs ys : List String} {text : List Char} (hxs : Keeps root xs text)
    (hys : Keeps root ys text) : xs = ys := by
  obtain ⟨pieces, rfl, hpieces⟩ := hxs
  obtain ⟨pieces', htext, hpieces'⟩ := hys
  rw [segmentsText_append, segmentsText_append] at htext
  obtain rfl := segmentsText_inj (slash_notMem_of_denotes hpieces)
    (slash_notMem_of_denotes hpieces') (List.append_cancel_left htext)
  exact List.right_unique_forall₂' (fun _ _ _ hs ht => hs.unique ht) hpieces hpieces'

/-! ### Joining -/

/-- A path goes on from another one with pieces that stand for texts without tabs and line ends. -/
def Extends (root path : List String) : Prop :=
  ∃ pieces, path = root ++ pieces ∧ ∀ p ∈ pieces, ∃ s, Unremoved s ∧ Denotes p s

theorem Extends.snoc {root path : List String} {p s : String} (h : Extends root path)
    (hs : Unremoved s) (hp : Denotes p s) :
    Extends root (path ++ [p]) ∧ root.length < (path ++ [p]).length := by
  obtain ⟨pieces, rfl, hpieces⟩ := h
  refine ⟨⟨pieces ++ [p], List.append_assoc .., fun q hq => ?_⟩, ?_⟩
  · rcases List.mem_append.1 hq with hq | hq
    · exact hpieces q hq
    · rw [List.mem_singleton.1 hq]
      exact ⟨s, hs, hp⟩
  · simp only [List.length_append, List.length_singleton]
    omega

theorem Extends.dropLast {root path : List String} (h : Extends root path)
    (hlt : root = [] ∨ root.length < path.length) : Extends root path.dropLast := by
  obtain ⟨pieces, rfl, hpieces⟩ := h
  have hpieces' : ∀ p ∈ pieces.dropLast, ∃ s, Unremoved s ∧ Denotes p s :=
    fun p hp => hpieces p (List.dropLast_subset pieces hp)
  refine ⟨pieces.dropLast, ?_, hpieces'⟩
  rcases hlt with rfl | hlt
  · rfl
  · refine List.dropLast_append_of_ne_nil ?_
    rintro rfl
    simp at hlt

theorem Extends.above {root path : List String} (h : Extends root path)
    (hlt : root = [] ∨ root.length < path.length) : Extends root (above path) := by
  rw [Url.above]
  split
  · exact h
  · exact h.dropLast hlt

theorem Extends.openEnd {root path : List String} (h : Extends root path)
    (hlt : root.length < path.length) :
    Extends root (openEnd path) ∧ (root = [] ∨ root.length < (openEnd path).length) := by
  rw [Url.openEnd]
  split
  · next heq =>
    rw [heq, List.length_singleton, Nat.lt_one_iff] at hlt
    obtain rfl := List.length_eq_zero_iff.1 hlt
    exact ⟨⟨[], rfl, by simp⟩, .inl rfl⟩
  · exact ⟨h, .inr hlt⟩

/-- A path that goes on is not one of those that are filled. -/
theorem append_singleton_ne {path : List String} {p : String} (h : path ≠ [] ∨ p ≠ "") :
    path ++ [p] ≠ [] ∧ path ++ [p] ≠ [""] := by
  refine ⟨by simp, fun heq => ?_⟩
  rcases List.append_eq_singleton_iff.1 heq with ⟨hpath, hp⟩ | ⟨-, hnil⟩
  · exact h.elim (absurd hpath) (absurd (List.cons.inj hp).1)
  · cases hnil

/-- A place in the path is passed over. -/
theorem pushSegment_of_place {scheme : String} {path : List String} {s : String}
    (h : isName s = false) : pushSegment scheme path s = path := by
  rw [pushSegment, if_pos (by simpa using isName_eq_false_iff.1 h)]

/-- One more tab changes nothing, once a tab or a line end is there. -/
theorem pushSegment_append_tab {scheme : String} {path : List String} {s : String}
    (h : ¬ Unremoved s) : pushSegment scheme path (s ++ "\t") = pushSegment scheme path s := by
  have hplace : ∀ t : String, ¬ Unremoved t → ¬ (t = "." || t = "..") = true := by
    intro t ht
    rw [Bool.or_eq_true, decide_eq_true_eq, decide_eq_true_eq]
    rintro (rfl | rfl) <;> exact ht (by decide)
  have htab : ¬ Unremoved (s ++ "\t") := fun h => by
    have := h '\t' (by simp)
    cases this
  have hencode : encodeSegment (isSpecial scheme) (s ++ "\t") =
      encodeSegment (isSpecial scheme) s := by
    have hremoved : ['\t'].filter (!isRemoved ·) = [] := by decide
    rw [encodeSegment, String.toList_append, List.filter_append]
    change Percent.encode _ (_ ++ ['\t'].filter (!isRemoved ·)) = _
    rw [hremoved, List.append_nil]
    rfl
  rw [pushSegment, pushSegment, if_neg (hplace _ htab), if_neg (hplace _ h), hencode]

section Joining

variable {scheme : String} (hspecial : isSpecial scheme = true) (hfile : scheme ≠ "file")

include hspecial hfile

theorem pushSegment_of_name {path : List String} {s : String} (hname : isName s = true)
    (h : Unremoved s) : pushSegment scheme path s = openEnd path ++ [piece s] := by
  obtain ⟨hdot, hdots⟩ := encodeSegment_ne hname h
  have hplace : ¬ (s = "." ∨ s = "..") := by
    rw [← isName_eq_false_iff, hname]
    decide
  rw [pushSegment, if_neg (by simpa using hplace), hspecial]
  dsimp only
  rw [if_neg hdots, if_neg hdot, addSegment, if_neg (by simp [hfile]), piece]

/-- **What is joined, where nothing is removed**: a piece for each segment but `.` and `..`. -/
theorem foldl_pushSegment {path segments : List String} (hpath : path ≠ [] ∧ path ≠ [""])
    (h : ∀ s ∈ segments, Unremoved s) :
    segments.foldl (pushSegment scheme) path = path ++ (segments.filter isName).map piece := by
  induction segments generalizing path with
  | nil => simp
  | cons s segments ih =>
    have htail : ∀ t ∈ segments, Unremoved t := fun t ht => h t (List.mem_cons_of_mem s ht)
    rw [List.foldl_cons]
    cases hname : isName s with
    | false =>
      rw [pushSegment_of_place hname, ih hpath htail, List.filter_cons_of_neg (by simp [hname])]
    | true =>
      have hopen : openEnd path = path := if_neg hpath.2
      have hlonger := append_singleton_ne (p := piece s) (.inl hpath.1)
      rw [pushSegment_of_name hspecial hfile hname (h s List.mem_cons_self), hopen, ih hlonger htail,
        List.filter_cons_of_pos hname, List.map_cons, List.append_assoc]
      rfl

theorem joinSegments_of_unremoved {path segments : List String} {first : String}
    (hname : isName first = true) (hne : first ≠ "") (hfirst : Unremoved first)
    (h : ∀ s ∈ segments, Unremoved s) :
    joinSegments scheme path (first :: segments) =
      joinPoint path ++ ((first :: segments).filter isName).map piece := by
  have hpiece : piece first ≠ "" := by
    intro heq
    have hdecode := hfirst.denotes.decode
    rw [heq] at hdecode
    exact hne (Utf8.encode_injective (t := "") hdecode.symm)
  rw [joinSegments, List.foldl_cons, pushSegment_of_name hspecial hfile hname hfirst, ← joinPoint,
    foldl_pushSegment hspecial hfile (append_singleton_ne (.inr hpiece)) h,
    List.filter_cons_of_pos hname, List.map_cons, List.append_assoc]
  rfl

/-- One more segment leaves alone what it is joined to, and writes no tab or line end. -/
theorem extends_pushSegment {root path : List String} (hpath : Extends root path)
    (hlt : root.length < path.length) (s : String) :
    Extends root (pushSegment scheme path s) ∧ root.length < (pushSegment scheme path s).length := by
  have hempty : Denotes "" "" := ⟨by simp, rfl⟩
  obtain ⟨hopen, hroot⟩ := hpath.openEnd hlt
  rw [pushSegment, hspecial]
  split
  · exact ⟨hpath, hlt⟩
  dsimp only
  split
  · exact (hopen.above hroot).snoc (by simp [Unremoved]) hempty
  split
  · exact hopen.snoc (by simp [Unremoved]) hempty
  · rw [addSegment, if_neg (by simp [hfile])]
    exact hopen.snoc (unremoved_filter s) (denotes_piece s)

theorem extends_foldl_pushSegment {root path : List String} (hpath : Extends root path)
    (hlt : root.length < path.length) (segments : List String) :
    Extends root (segments.foldl (pushSegment scheme) path) := by
  induction segments generalizing path with
  | nil => exact hpath
  | cons s segments ih =>
    obtain ⟨hstep, hlonger⟩ := extends_pushSegment hspecial hfile hpath hlt s
    exact ih hstep hlonger

/-- **Whatever is joined, no tab or line end is written**, and nothing in front is changed. -/
theorem extends_joinSegments {path segments : List String} {first : String}
    (hname : isName first = true) (hfirst : Unremoved first) :
    Extends (joinPoint path) (joinSegments scheme path (first :: segments)) := by
  have hnil : Extends (joinPoint path) (joinPoint path) := ⟨[], by simp, by simp⟩
  obtain ⟨hstep, hlonger⟩ := hnil.snoc hfirst hfirst.denotes
  rw [joinSegments, List.foldl_cons, pushSegment_of_name hspecial hfile hname hfirst, ← joinPoint]
  exact extends_foldl_pushSegment hspecial hfile hstep hlonger segments

/-- **A path keeps the segments that are joined to it exactly when all of them are plain.** -/
theorem keeps_joinSegments_iff {path segments : List String} {first : String}
    (hname : isName first = true) (hne : first ≠ "") (hfirst : Unremoved first) :
    Keeps (joinPoint path) (first :: segments)
        (segmentsText (joinSegments scheme path (first :: segments))) ↔
      ∀ s ∈ first :: segments, Plain s := by
  have hjoin : (∀ s ∈ first :: segments, Unremoved s) →
      joinSegments scheme path (first :: segments) =
        joinPoint path ++ ((first :: segments).filter isName).map piece := fun h =>
    joinSegments_of_unremoved hspecial hfile hname hne hfirst fun s hs =>
      h s (List.mem_cons_of_mem first hs)
  constructor
  · rintro ⟨pieces, htext, hpieces⟩
    obtain ⟨pieces', hpath, hwritten⟩ := extends_joinSegments hspecial hfile hname hfirst
    rw [hpath, segmentsText_append, segmentsText_append] at htext
    have hwhole : ∀ p ∈ pieces', '/' ∉ p.toList := by
      intro p hp
      obtain ⟨t, -, hpt⟩ := hwritten p hp
      exact hpt.slash_notMem
    obtain rfl := segmentsText_inj hwhole (slash_notMem_of_denotes hpieces)
      (List.append_cancel_left htext)
    have hunremoved := unremoved_of_denotes hpieces hwritten
    -- As many pieces as segments: none of the segments has been passed over.
    rw [hjoin hunremoved] at hpath
    have hcount := congrArg List.length (List.append_cancel_left hpath)
    rw [hpieces.length_eq, List.length_map, List.length_filter_eq_length_iff] at hcount
    exact fun s hs => ⟨hcount s hs, hunremoved s hs⟩
  · intro h
    have hnames : (first :: segments).filter isName = first :: segments :=
      List.filter_eq_self.2 fun s hs => (h s hs).1
    refine ⟨(first :: segments).map piece, ?_, ?_⟩
    · rw [hjoin fun s hs => (h s hs).2, hnames]
    · rw [List.forall₂_map_left_iff, List.forall₂_same]
      exact fun s hs => (h s hs).2.denotes

end Joining

end BrokerAdmin.Url
