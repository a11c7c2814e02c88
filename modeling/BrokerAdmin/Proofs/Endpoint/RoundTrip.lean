import BrokerAdmin.Proofs.Endpoint
import BrokerAdmin.Proofs.Url.Query

/-!
# Endpoints read back

An endpoint is joined to the address of a server without being looked at again, so whoever receives
the address must find in it what was meant: the segments of the endpoint behind those of the server,
and its names and values behind those of the server.

Two encodings are at work, one for segments and one for names and values, and each is undone where
it was applied. A segment may hold anything, separators and percent signs too, and may be empty; the
address of the server may end in a slash or not.

## Main definitions

* `Endpoint.Built`: the endpoints that requests are made of, with what they ask for.
* `Url.HasSegments`: an address with a path of segments that are not empty.

## Main results

* `Url.splitFields_segmentsText`: a path is cut into its segments.
* `Url.HasSegments.joinPoint_eq`: what segments are joined to.
* `Endpoint.url_roundTrip`: what is read in the address of an endpoint.
-/

namespace BrokerAdmin

namespace Url

/-! ### Paths -/

/-- The path of an address is a slash, or these segments, of which none is empty, with a slash
behind them or not. -/
structure HasSegments (url : Url) (segments : List String) : Prop where
  /-- Each segment is one, and not empty. -/
  whole : ∀ s ∈ segments, s ≠ "" ∧ '/' ∉ s.toList
  /-- The path shows them. -/
  text : url.pathText = segmentsText segments ∨ url.pathText = segmentsText segments ++ ['/']

/-- **A path is cut into its segments**, with nothing in front of the first slash. -/
theorem splitFields_segmentsText {pieces : List String} (h : ∀ p ∈ pieces, '/' ∉ p.toList) :
    splitFields '/' (segmentsText pieces) = [] :: pieces.map String.toList := by
  have hbehind : ∀ front : List Char, '/' ∉ front →
      splitFields '/' (front ++ segmentsText pieces) = front :: pieces.map String.toList := by
    induction pieces with
    | nil =>
      intro front hfront
      rw [segmentsText, List.flatMap_nil, List.append_nil, splitFields_of_notMem hfront]
      rfl
    | cons p pieces ih =>
      intro front hfront
      obtain ⟨hp, hrest⟩ := List.forall_mem_cons.1 h
      have hcut : segmentsText (p :: pieces) = '/' :: (p.toList ++ segmentsText pieces) := rfl
      rw [hcut, splitFields_append, splitFields_of_notMem hfront, ih hrest p.toList hp]
      rfl
  exact hbehind [] (by simp)

/-- **What segments are joined to**: the segments of the path, whether a slash is behind them or
not. -/
theorem HasSegments.joinPoint_eq {url : Url} {segments path : List String}
    (h : url.HasSegments segments) (hpath : url.path = .segments path)
    (hwhole : ∀ s ∈ path, '/' ∉ s.toList) : joinPoint path = segments := by
  have hopen : openEnd segments = segments := by
    refine if_neg ?_
    rintro rfl
    exact (h.whole "" List.mem_cons_self).1 rfl
  have htext : url.pathText = segmentsText path := by rw [pathText, hpath]
  have hsegments : ∀ s ∈ segments, '/' ∉ s.toList := fun s hs => (h.whole s hs).2
  rcases h.text with hclosed | hslash
  · obtain rfl := segmentsText_inj hwhole hsegments (htext.symm.trans hclosed)
    have hlast : path.getLast? ≠ some "" := fun hlast =>
      (h.whole "" (List.mem_of_getLast? hlast)).1 rfl
    rw [joinPoint, dropTrailing, if_neg (by simp [hlast]), hopen]
  · have hend : segmentsText segments ++ ['/'] = segmentsText (segments ++ [""]) := by
      rw [segmentsText_append]
      rfl
    obtain rfl := segmentsText_inj hwhole (List.forall_mem_append.2 ⟨hsegments, by simp⟩)
      (htext.symm.trans (hslash.trans hend))
    cases segments with
    | nil => rfl
    | cons s segments =>
      have hlast : (s :: segments ++ [""]).getLast? = some "" := List.getLast?_concat
      rw [joinPoint, dropTrailing, if_pos (by rw [hlast]; simp), List.dropLast_concat, hopen]

/-- What is written for segments is decoded to them. -/
theorem map_decode_piece {segments : List String} (h : ∀ s ∈ segments, Unremoved s) :
    segments.map (fun s => Percent.decode (piece s).toList) = segments.map Utf8.encode :=
  List.map_congr_left fun s hs => (h s hs).denotes.decode

/-- Names and values only change the query. -/
theorem appendQuery_eq (url : Url) (added : List (String × String)) :
    url.appendQuery added = { url with query := (url.appendQuery added).query } := by
  rw [appendQuery]
  split <;> rfl

end Url

namespace Endpoint

/-- The endpoints that requests are made of: the root of a part of the interface, with more segments
and more names and values behind it. -/
inductive Built : Endpoint → Prop
  /-- The root of a part. -/
  | root (version : ApiVersion) (component : String) : Built (ofVersion version component)
  /-- More segments. -/
  | add {endpoint : Endpoint} (segments : List String) : Built endpoint →
      Built (endpoint.add segments)
  /-- One more name and value. -/
  | ask {endpoint : Endpoint} (name value : String) : Built endpoint →
      Built (endpoint.ask name value)

theorem Built.ofTopic (version : ApiVersion) (topic : TopicName) :
    (Endpoint.ofTopic version topic).Built :=
  (Built.root version "").add _

theorem Built.segments_eq {endpoint : Endpoint} (h : endpoint.Built) :
    ∃ segments, endpoint.segments = "admin" :: segments := by
  induction h with
  | root version component => exact ⟨_, rfl⟩
  | add segments _ ih =>
    obtain ⟨others, hothers⟩ := ih
    exact ⟨others ++ segments, by rw [Endpoint.add, hothers]; rfl⟩
  | ask name value _ ih => exact ih

/-- What an endpoint is joined to: a piece for each of its segments behind those of the server. -/
theorem url_eq_appendQuery {text : String} {base : Url} (hbase : Url.parse text = .ok base)
    (hweb : base.IsWeb) {segments : List String} (hsegments : base.HasSegments segments)
    {endpoint : Endpoint} (hbuilt : endpoint.Built)
    (hplain : ∀ s ∈ endpoint.segments, Url.Plain s) :
    endpoint.url base = .ok (Url.appendQuery
      { base with path := .segments (segments ++ endpoint.segments.map Url.piece) }
      endpoint.query) := by
  obtain ⟨hspecial, hfile⟩ := hweb.special
  obtain ⟨path, hpath, hwhole⟩ := Url.slash_notMem_of_parse hbase hspecial hfile
  obtain ⟨others, hothers⟩ := hbuilt.segments_eq
  have hroot : Url.isName "admin" = true ∧ "admin" ≠ "" ∧ Url.Unremoved "admin" := by decide
  have hnames : endpoint.segments.filter Url.isName = endpoint.segments :=
    List.filter_eq_self.2 fun s hs => (hplain s hs).1
  have hjoined : Url.joinSegments base.scheme path endpoint.segments =
      segments ++ endpoint.segments.map Url.piece := by
    rw [← hsegments.joinPoint_eq hpath hwhole, hothers, Url.joinSegments_of_unremoved hspecial hfile
      hroot.1 hroot.2.1 hroot.2.2 fun s hs => (hplain s (hothers ▸ List.mem_cons_of_mem _ hs)).2,
      ← hothers, hnames]
  rw [url, hpath]
  dsimp only
  rw [hjoined]

/-- **An endpoint reads back.** For every address of a web server whose path has only segments that
are not empty, with a slash behind them or not, and every endpoint whose segments are plain, joining
succeeds. The path of the result, cut at its slashes and decoded, gives what the segments of the
server are decoded to and then exactly the segments of the endpoint. Its query gives the names and
values of the server and then those of the endpoint. Everything else is as in the address of the
server. -/
theorem url_roundTrip {text : String} {base : Url} (hbase : Url.parse text = .ok base)
    (hweb : base.IsWeb) {segments : List String} (hsegments : base.HasSegments segments)
    {endpoint : Endpoint} (hbuilt : endpoint.Built)
    (hplain : ∀ s ∈ endpoint.segments, Url.Plain s) :
    ∃ url pieces, endpoint.url base = .ok url ∧
      splitFields '/' url.pathText = [] :: pieces ∧
      pieces.map Percent.decode =
        segments.map (Percent.decode ·.toList) ++ endpoint.segments.map Utf8.encode ∧
      url.pairs = base.pairs ++ endpoint.query ∧
      url = { base with path := url.path, query := url.query } := by
  refine ⟨_, (segments ++ endpoint.segments.map Url.piece).map String.toList,
    url_eq_appendQuery hbase hweb hsegments hbuilt hplain, ?_, ?_, ?_, ?_⟩
  · rw [Url.appendQuery_eq]
    refine Url.splitFields_segmentsText (List.forall_mem_append.2 ⟨?_, List.forall_mem_map.2 ?_⟩)
    · exact fun s hs => (hsegments.whole s hs).2
    · exact fun s hs => (hplain s hs).2.denotes.slash_notMem
  · simp only [List.map_append, List.map_map, Function.comp_def]
    rw [Url.map_decode_piece fun s hs => (hplain s hs).2]
  · rw [Url.pairs_appendQuery]
    rfl
  · rw [Url.appendQuery_eq]

/-- The address of a server behind a proxy, with a slash at the end of its path and a query. -/
def proxy : Url where
  scheme := "https"
  authority := some ⟨"u", some "p", "[::1]", some 8443⟩
  path := .segments ["a%2Fb", ""]
  query := some "x=1&"
  fragment := some "f"

/-- An endpoint with separators, signs and nothing where they may be mistaken. -/
def tricky : Endpoint :=
  ((ofVersion .v2 "").add ["a/b", "", "50%2F", "é\\?#"]).ask "k&=+ %" "ü" |>.ask "" ""

/-- The encoded slash of the server and the slash of the endpoint both come back as slashes inside
segments, and both queries are read. -/
theorem url_roundTrip_tricky :
    Url.parse "https://u:p@[::1]:8443/a%2Fb/?x=1&#f" = .ok proxy ∧ proxy.IsWeb ∧
      proxy.HasSegments ["a%2Fb"] ∧ tricky.Built ∧ (∀ s ∈ tricky.segments, Url.Plain s) ∧
      ∃ url pieces, tricky.url proxy = .ok url ∧ splitFields '/' url.pathText = [] :: pieces ∧
        pieces.map Percent.decode =
          ["a/b", "admin", "v2", "a/b", "", "50%2F", "é\\?#"].map Utf8.encode ∧
        url.pairs = [("x", "1"), ("k&=+ %", "ü"), ("", "")] ∧
        url = { proxy with path := url.path, query := url.query } := by
  have hparse : Url.parse "https://u:p@[::1]:8443/a%2Fb/?x=1&#f" = .ok proxy := by decide +kernel
  have hsegments : proxy.HasSegments ["a%2Fb"] := ⟨by decide, .inr (by decide)⟩
  have hbuilt : tricky.Built := (((Built.root _ _).add _).ask _ _).ask _ _
  have hplain : ∀ s ∈ tricky.segments, Url.Plain s := by decide
  obtain ⟨url, pieces, hurl, hpieces, hdecode, hpairs, hrest⟩ :=
    url_roundTrip hparse (.inr rfl) hsegments hbuilt hplain
  refine ⟨hparse, .inr rfl, hsegments, hbuilt, hplain, url, pieces, hurl, hpieces, ?_, ?_, hrest⟩
  · rw [hdecode]
    decide +kernel
  · rw [hpairs]
    decide +kernel

end Endpoint

end BrokerAdmin
