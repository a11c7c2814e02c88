import BrokerAdmin.Proofs.Url.Path
import BrokerAdmin.Subscription

/-!
# Endpoints stay apart

An endpoint names a resource by its segments, and some of the segments are names that people choose.
What matters for a request is the address that the endpoint is joined to: two endpoints that mean
different resources must not get the same one.

The address of a server with the scheme `http` or `https` always has a path of segments, so joining
never fails. Everything else is decided by the segments alone: `Url.Plain` says which of them come
out as they went in, and an endpoint with any other shares its address with another endpoint.

## Main definitions

* `Endpoint.Rooted`: the endpoints that requests are made of.
* `Endpoint.KeptBy`: an address that shows every segment of an endpoint.

## Main results

* `Endpoint.url_eq`: what an endpoint is joined to.
* `Endpoint.keptBy_iff`: the address keeps an endpoint exactly when its segments are plain.
* `Endpoint.confined_iff`: two endpoints stay apart.
* `Endpoint.exists_same_url`: an endpoint that is not plain shares its address.
-/

namespace BrokerAdmin

namespace Url

/-! ### Addresses of servers -/

/-- The scheme is one of the web. -/
def IsWeb (url : Url) : Prop := url.scheme = "http" ∨ url.scheme = "https"

theorem IsWeb.special {url : Url} (h : url.IsWeb) :
    isSpecial url.scheme = true ∧ url.scheme ≠ "file" := by
  rcases h with h | h <;> rw [h] <;> decide

/-- What differs between the texts of two addresses that are alike but for their paths. -/
theorem pathText_eq_of_toText_eq {base url url' : Url} (hurl : url = { base with path := url.path })
    (hurl' : url' = { base with path := url'.path }) (h : url.toText = url'.toText) :
    url.pathText = url'.pathText := by
  rw [hurl, hurl'] at h ⊢
  have hchars := congrArg String.toList h
  simp only [toText, String.toList_ofList, toChars, queryText] at hchars
  simpa using hchars

end Url

namespace Endpoint

/-- An endpoint that requests are made of, as long as it asks for nothing: the root of a part of the
interface with segments behind it. -/
def Rooted (endpoint : Endpoint) : Prop :=
  ∃ version component segments, endpoint = (ofVersion version component).add segments

/-- What the root of an endpoint comes to: the part may have any name, so its pieces may as well be
segments behind the first one. -/
theorem rooted_iff {endpoint : Endpoint} :
    endpoint.Rooted ↔ ∃ segments, endpoint = ⟨"admin" :: segments, []⟩ := by
  constructor
  · rintro ⟨version, component, segments, rfl⟩
    exact ⟨_, rfl⟩
  · rintro ⟨segments, rfl⟩
    exact ⟨.v1, "", segments, rfl⟩

theorem Rooted.add {endpoint : Endpoint} (h : endpoint.Rooted) (segments : List String) :
    (endpoint.add segments).Rooted := by
  obtain ⟨version, component, segments', rfl⟩ := h
  refine ⟨version, component, segments' ++ segments, ?_⟩
  simp only [Endpoint.add, List.append_assoc]

theorem rooted_ofTopic (version : ApiVersion) (topic : TopicName) : (ofTopic version topic).Rooted :=
  ⟨version, "", _, rfl⟩

/-- An address differs from the one of the server in its path only, and the path has one piece for
each segment of the endpoint behind the path of the server. -/
def KeptBy (endpoint : Endpoint) (base url : Url) : Prop :=
  ∃ path, base.path = .segments path ∧ url = { base with path := url.path } ∧
    Url.Keeps (Url.joinPoint path) endpoint.segments url.pathText

/-! ### One endpoint -/

theorem url_eq {endpoint : Endpoint} (h : endpoint.Rooted) {base : Url} {path : List String}
    (hpath : base.path = .segments path) :
    endpoint.url base = .ok
      { base with path := .segments (Url.joinSegments base.scheme path endpoint.segments) } := by
  obtain ⟨segments, rfl⟩ := rooted_iff.1 h
  rw [url, hpath]
  rfl

/-- **The address keeps an endpoint exactly when its segments are plain.** -/
theorem keptBy_iff {endpoint : Endpoint} (h : endpoint.Rooted) {base url : Url} (hweb : base.IsWeb)
    (hurl : endpoint.url base = .ok url) :
    endpoint.KeptBy base url ↔ ∀ s ∈ endpoint.segments, Url.Plain s := by
  obtain ⟨hspecial, hfile⟩ := hweb.special
  cases hpath : base.path with
  | rootless text => simp [Endpoint.url, hpath] at hurl
  | segments path =>
    rw [url_eq h hpath] at hurl
    obtain rfl := Except.ok.inj hurl
    obtain ⟨segments, rfl⟩ := rooted_iff.1 h
    have hkeeps : Url.Keeps (Url.joinPoint path) ("admin" :: segments)
        (Url.segmentsText (Url.joinSegments base.scheme path ("admin" :: segments))) ↔
        ∀ s ∈ "admin" :: segments, Url.Plain s :=
      Url.keeps_joinSegments_iff hspecial hfile (by decide) (by decide) (by decide)
    rw [← hkeeps]
    constructor
    · rintro ⟨path', hpath', -, htext⟩
      obtain rfl := UrlPath.segments.inj (hpath.symm.trans hpath')
      exact htext
    · intro htext
      exact ⟨path, hpath, rfl, htext⟩

theorem exists_url {text : String} {base : Url} (hbase : Url.parse text = .ok base)
    (hweb : base.IsWeb) {endpoint : Endpoint} (h : endpoint.Rooted) :
    ∃ url, endpoint.url base = .ok url := by
  obtain ⟨path, hpath, -⟩ := Url.slash_notMem_of_parse hbase hweb.special.1 hweb.special.2
  exact ⟨_, url_eq h hpath⟩

/-! ### Two endpoints -/

/-- Endpoints that their addresses keep are told apart by the texts of the addresses. -/
theorem KeptBy.segments_eq {e₁ e₂ : Endpoint} {base u₁ u₂ : Url} (h₁ : e₁.KeptBy base u₁)
    (h₂ : e₂.KeptBy base u₂) (h : u₁.toText = u₂.toText) : e₁.segments = e₂.segments := by
  obtain ⟨path, hpath, hu₁, hkeeps₁⟩ := h₁
  obtain ⟨path', hpath', hu₂, hkeeps₂⟩ := h₂
  obtain rfl := UrlPath.segments.inj (hpath.symm.trans hpath')
  rw [Url.pathText_eq_of_toText_eq hu₁ hu₂ h] at hkeeps₁
  exact hkeeps₁.unique hkeeps₂

/-- **Two endpoints stay apart exactly when all their segments are plain.** For every server of the
web and any two endpoints that differ in their segments: both have an address, the addresses differ,
and each shows every segment of its endpoint as one piece behind the path of the server, if and only
if no segment is `.` or `..` or has a tab or a line end in it. -/
theorem confined_iff {text : String} {base : Url} (hbase : Url.parse text = .ok base)
    (hweb : base.IsWeb) {e₁ e₂ : Endpoint} (h₁ : e₁.Rooted) (h₂ : e₂.Rooted)
    (hne : e₁.segments ≠ e₂.segments) :
    (∃ u₁ u₂, e₁.url base = .ok u₁ ∧ e₂.url base = .ok u₂ ∧ u₁.toText ≠ u₂.toText ∧
      e₁.KeptBy base u₁ ∧ e₂.KeptBy base u₂) ↔
      ∀ s ∈ e₁.segments ++ e₂.segments, Url.Plain s := by
  obtain ⟨u₁, hu₁⟩ := exists_url hbase hweb h₁
  obtain ⟨u₂, hu₂⟩ := exists_url hbase hweb h₂
  have hkept₁ := keptBy_iff h₁ hweb hu₁
  have hkept₂ := keptBy_iff h₂ hweb hu₂
  rw [List.forall_mem_append, ← hkept₁, ← hkept₂]
  constructor
  · rintro ⟨v₁, v₂, hv₁, hv₂, -, hkeeps⟩
    rw [hu₁] at hv₁
    rw [hu₂] at hv₂
    rwa [← Except.ok.inj hv₁, ← Except.ok.inj hv₂] at hkeeps
  · rintro ⟨hk₁, hk₂⟩
    exact ⟨u₁, u₂, hu₁, hu₂, fun htext => hne (hk₁.segments_eq hk₂ htext), hk₁, hk₂⟩

/-- The address of a server on this machine. -/
def loopback : Url where
  scheme := "http"
  authority := some ⟨"", none, "[::1]", some 8080⟩
  path := .segments [""]
  query := none
  fragment := none

theorem parse_loopback : Url.parse "http://[::1]:8080" = .ok loopback := by decide +kernel

/-- Where a subscription of the topic `t` is. -/
def ofSubscription (name : String) : Endpoint :=
  Subscription.endpoint .v2 ⟨⟨.persistent, "public", "default", "t"⟩, name⟩

theorem rooted_ofSubscription (name : String) : (ofSubscription name).Rooted :=
  (rooted_ofTopic _ _).add _

/-- A slash and the encoding of a slash are different names. -/
theorem confined_slash :
    Url.parse "http://[::1]:8080" = .ok loopback ∧ loopback.IsWeb ∧
      (ofSubscription "a/b").Rooted ∧ (ofSubscription "a%2Fb").Rooted ∧
      (ofSubscription "a/b").segments ≠ (ofSubscription "a%2Fb").segments ∧
      ∃ u₁ u₂, (ofSubscription "a/b").url loopback = .ok u₁ ∧
        (ofSubscription "a%2Fb").url loopback = .ok u₂ ∧ u₁.toText ≠ u₂.toText ∧
        (ofSubscription "a/b").KeptBy loopback u₁ ∧ (ofSubscription "a%2Fb").KeptBy loopback u₂ := by
  have hne : (ofSubscription "a/b").segments ≠ (ofSubscription "a%2Fb").segments := by decide
  refine ⟨parse_loopback, .inl rfl, rooted_ofSubscription _, rooted_ofSubscription _, hne, ?_⟩
  exact (confined_iff parse_loopback (.inl rfl) (rooted_ofSubscription _) (rooted_ofSubscription _)
    hne).2 (by decide)

/-- A subscription with a tab in its name has the address of another one, and so have two that are
named like places in a path. -/
theorem confined_fails :
    Url.parse "http://[::1]:8080" = .ok loopback ∧
      TopicName.parse "t" = .ok ⟨.persistent, "public", "default", "t"⟩ ∧
      (ofSubscription "a\tb").segments ≠ (ofSubscription "ab").segments ∧
      (∃ u, (ofSubscription "a\tb").url loopback = .ok u ∧
        (ofSubscription "ab").url loopback = .ok u) ∧
      (ofSubscription ".").segments ≠ (ofSubscription "..").segments ∧
      ∃ u, (ofSubscription ".").url loopback = .ok u ∧ (ofSubscription "..").url loopback = .ok u :=
  ⟨parse_loopback, by decide +kernel, by decide, ⟨_, rfl, by decide +kernel⟩, by decide, _, rfl,
    by decide +kernel⟩

/-- A segment may be exchanged for others that are pushed alike. -/
theorem url_exchange {front back others : List String} {s : String}
    (hpush : ∀ scheme path, others.foldl (Url.pushSegment scheme) path =
      Url.pushSegment scheme path s) (base : Url) :
    url ⟨"admin" :: (front ++ (others ++ back)), []⟩ base =
      url ⟨"admin" :: (front ++ s :: back), []⟩ base := by
  cases hpath : base.path with
  | rootless text => rw [url, url, hpath]
  | segments path =>
    rw [url_eq (rooted_iff.2 ⟨_, rfl⟩) hpath, url_eq (rooted_iff.2 ⟨_, rfl⟩) hpath]
    simp only [Url.joinSegments, List.foldl_cons, List.foldl_append, hpush]

/-- **An endpoint that is not plain shares its address**: for whatever server, some endpoint with
other segments is joined to the same. -/
theorem exists_same_url {e : Endpoint} (h : e.Rooted) (hplain : ∃ s ∈ e.segments, ¬ Url.Plain s)
    (base : Url) :
    ∃ e' : Endpoint, e'.Rooted ∧ e'.segments ≠ e.segments ∧ e'.url base = e.url base := by
  obtain ⟨segments, rfl⟩ := rooted_iff.1 h
  obtain ⟨s, hs, hs'⟩ := hplain
  have hmem : s ∈ segments := by
    refine (List.mem_cons.1 hs).resolve_left ?_
    rintro rfl
    exact hs' (by decide)
  obtain ⟨front, back, rfl⟩ := List.append_of_mem hmem
  cases hname : Url.isName s with
  | false =>
    -- A place in the path may be named twice.
    refine ⟨_, rooted_iff.2 ⟨front ++ ([s, s] ++ back), rfl⟩, by simp, url_exchange ?_ base⟩
    intro scheme path
    rw [List.foldl_cons, List.foldl_cons, List.foldl_nil, Url.pushSegment_of_place hname,
      Url.pushSegment_of_place hname]
  | true =>
    -- Where something is removed, so is one more tab.
    have hremoved : ¬ Url.Unremoved s := fun hu => hs' ⟨hname, hu⟩
    refine ⟨_, rooted_iff.2 ⟨front ++ ([s ++ "\t"] ++ back), rfl⟩, by simp, url_exchange ?_ base⟩
    exact fun scheme path => Url.pushSegment_append_tab hremoved

end Endpoint

end BrokerAdmin
