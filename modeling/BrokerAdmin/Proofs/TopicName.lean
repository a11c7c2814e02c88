import BrokerAdmin.Proofs.Result
import BrokerAdmin.Proofs.Text
import BrokerAdmin.TopicName
import Mathlib.Data.List.Basic

/-!
# Which texts name a topic

A text names a topic by a domain in front, which may be left out, and by one part or three behind it.
The reader has one more check: a text whose scheme is no domain is refused before it is cut. This
check changes the wording of the error and nothing else, since the two slashes of a scheme have an
empty part between them, and empty parts are refused anyway. So the grammar here does not mention it.

## Main definitions

* `TopicName.IsPart`: a part of a name.
* `TopicName.HasDomain`, `TopicName.HasParts`: the two halves of a text.
* `TopicName.Denotes`: a text names a topic.
* `TopicName.WellFormed`: the names that have a text of their own.

## Main results

* `TopicName.parse_eq_ok_iff`: the reader finds what the grammar says.
* `TopicName.ofText_toText`: the full text of a name reads back.
* `TopicName.grammar_and_canonicalForm`: both together, and when two texts name one topic.
-/

namespace BrokerAdmin.TopicName

open Result

/-! ### The grammar -/

/-- A part of a name: it is not empty and has no slash. -/
def IsPart (s : String) : Prop := s ≠ "" ∧ '/' ∉ s.toList

/-- The domain that a text names, and what is left of it. -/
inductive HasDomain : String → TopicDomain → String → Prop
  /-- The scheme of one domain is in front. -/
  | persistent {rest : String} : HasDomain ("persistent://" ++ rest) .persistent rest
  /-- The scheme of the other domain is in front. -/
  | nonPersistent {rest : String} : HasDomain ("non-persistent://" ++ rest) .nonPersistent rest
  /-- Neither of them is. -/
  | unsaid {s : String} : (∀ rest, s ≠ "persistent://" ++ rest) →
      (∀ rest, s ≠ "non-persistent://" ++ rest) → HasDomain s .persistent s

/-- The tenant, the namespace and the local name that a text without its scheme names. -/
inductive HasParts : String → String → String → String → Prop
  /-- One part is the local name alone. -/
  | short {topic : String} : IsPart topic → HasParts topic "public" "default" topic
  /-- Three parts say it all. -/
  | full {tenant space topic : String} : IsPart tenant → IsPart space → IsPart topic →
      HasParts (tenant ++ "/" ++ space ++ "/" ++ topic) tenant space topic

/-- A text names a topic. -/
def Denotes (s : String) (topic : TopicName) : Prop :=
  ∃ rest, HasDomain s topic.domain rest ∧
    HasParts rest topic.tenant topic.namespace topic.localName

/-- A name whose parts are parts of a text. -/
structure WellFormed (topic : TopicName) : Prop where
  /-- The tenant. -/
  tenant : IsPart topic.tenant
  /-- The namespace. -/
  space : IsPart topic.namespace
  /-- The local name. -/
  localName : IsPart topic.localName

theorem IsPart.toList_ne_nil {s : String} (h : IsPart s) : s.toList ≠ [] := by simpa using h.1

theorem HasParts.isPart {rest tenant space topic : String} (h : HasParts rest tenant space topic) :
    IsPart tenant ∧ IsPart space ∧ IsPart topic := by
  cases h with
  | short htopic => exact ⟨⟨by decide, by decide⟩, ⟨by decide, by decide⟩, htopic⟩
  | full htenant hspace htopic => exact ⟨htenant, hspace, htopic⟩

theorem Denotes.wellFormed {s : String} {topic : TopicName} (h : Denotes s topic) :
    topic.WellFormed := by
  obtain ⟨rest, -, hparts⟩ := h
  obtain ⟨htenant, hspace, htopic⟩ := hparts.isPart
  exact ⟨htenant, hspace, htopic⟩

/-! ### The domain -/

theorem toList_eq_append_iff {front s : String} {rest : List Char} :
    s.toList = front.toList ++ rest ↔ s = front ++ String.ofList rest := by
  rw [← String.toList_inj, String.toList_append, String.toList_ofList]

theorem dropFront_eq_none_iff {front s : String} :
    dropFront front.toList s.toList = none ↔ ∀ rest, s ≠ front ++ rest := by
  simp only [Option.eq_none_iff_forall_ne_some, ne_eq, dropFront_eq_some_iff, toList_eq_append_iff]
  exact ⟨fun h rest hs => h rest.toList (by rwa [String.ofList_toList]), fun h cs => h _⟩

theorem hasDomain_of_splitDomain {s : String} {domain : TopicDomain} {rest : List Char}
    (h : splitDomain s.toList = .ok (domain, rest)) : HasDomain s domain (String.ofList rest) := by
  rw [splitDomain] at h
  split at h
  · next hfront =>
    obtain ⟨rfl, rfl⟩ := Prod.mk.inj (Except.ok.inj h)
    rw [toList_eq_append_iff.1 (dropFront_eq_some_iff.1 hfront)]
    exact .persistent
  · next hnot =>
    split at h
    · next hfront =>
      obtain ⟨rfl, rfl⟩ := Prod.mk.inj (Except.ok.inj h)
      rw [toList_eq_append_iff.1 (dropFront_eq_some_iff.1 hfront)]
      exact .nonPersistent
    · next hnot' =>
      split at h
      · cases h
      · obtain ⟨rfl, rfl⟩ := Prod.mk.inj (Except.ok.inj h)
        rw [String.ofList_toList]
        exact .unsaid (dropFront_eq_none_iff.1 hnot) (dropFront_eq_none_iff.1 hnot')

/-- The domain is found, unless an unknown scheme is in front. -/
theorem splitDomain_of_hasDomain {s rest : String} {domain : TopicDomain}
    (h : HasDomain s domain rest) (hscheme : ¬ "://".toList <:+: rest.toList) :
    splitDomain s.toList = .ok (domain, rest.toList) := by
  cases h with
  | persistent =>
    have hfront : dropFront "persistent://".toList ("persistent://" ++ rest).toList =
        some rest.toList := dropFront_eq_some_iff.2 String.toList_append
    rw [splitDomain, hfront]
  | nonPersistent =>
    have hnot : dropFront "persistent://".toList ("non-persistent://" ++ rest).toList = none := by
      rw [String.toList_append]
      rfl
    have hfront : dropFront "non-persistent://".toList ("non-persistent://" ++ rest).toList =
        some rest.toList := dropFront_eq_some_iff.2 String.toList_append
    rw [splitDomain, hnot, hfront]
  | unsaid hnot hnot' =>
    have hoccurs : occursIn "://".toList s.toList = false :=
      Bool.eq_false_iff.2 (mt occursIn_eq_true_iff.1 hscheme)
    rw [splitDomain, dropFront_eq_none_iff.2 hnot, dropFront_eq_none_iff.2 hnot', hoccurs]
    rfl

/-! ### The parts -/

theorem ofParts_eq_ok_iff {domain : TopicDomain} {tenant space name : List Char}
    {topic : TopicName} : ofParts domain tenant space name = .ok topic ↔
      tenant ≠ [] ∧ space ≠ [] ∧ name ≠ [] ∧
        topic = ⟨domain, String.ofList tenant, String.ofList space, String.ofList name⟩ := by
  have hempty : (tenant.isEmpty || space.isEmpty || name.isEmpty) = true ↔
      ¬ (tenant ≠ [] ∧ space ≠ [] ∧ name ≠ []) := by simp [or_assoc, imp_iff_not_or]
  rw [ofParts]
  split
  · next h =>
    constructor
    · intro h'
      cases h'
    · rintro ⟨htenant, hspace, hname, -⟩
      exact absurd ⟨htenant, hspace, hname⟩ (hempty.1 h)
  · next h =>
    obtain ⟨htenant, hspace, hname⟩ := not_not.1 (mt hempty.2 h)
    constructor
    · intro h'
      exact ⟨htenant, hspace, hname, (Except.ok.inj h').symm⟩
    · rintro ⟨-, -, -, rfl⟩
      rfl

/-- A text is cut into its parts. -/
theorem splitFields_of_hasParts {rest tenant space topic : String}
    (h : HasParts rest tenant space topic) :
    splitFields '/' rest.toList = [topic.toList] ∧ tenant = "public" ∧ space = "default" ∨
      splitFields '/' rest.toList = [tenant.toList, space.toList, topic.toList] := by
  cases h with
  | short htopic => exact .inl ⟨splitFields_of_notMem htopic.2, rfl, rfl⟩
  | full htenant hspace htopic =>
    have hchars : (tenant ++ "/" ++ space ++ "/" ++ topic).toList =
        tenant.toList ++ '/' :: (space.toList ++ '/' :: topic.toList) := by simp
    rw [hchars, splitFields_append, splitFields_append, splitFields_of_notMem htenant.2,
      splitFields_of_notMem hspace.2, splitFields_of_notMem htopic.2]
    exact .inr rfl

/-- What is made of parts has no scheme of its own: between the two slashes of a scheme there is
nothing, and no part is empty. -/
theorem HasParts.no_scheme {rest tenant space topic : String}
    (h : HasParts rest tenant space topic) : ¬ "://".toList <:+: rest.toList := by
  rintro ⟨before, behind, hrest⟩
  have hempty : [] ∈ splitFields '/' rest.toList := by
    have hchars : rest.toList = (before ++ [':']) ++ '/' :: ([] ++ '/' :: behind) := by
      rw [← hrest]
      simp
    rw [hchars, splitFields_append, splitFields_append]
    simp [splitFields]
  obtain ⟨htenant, hspace, htopic⟩ := h.isPart
  rcases splitFields_of_hasParts h with ⟨hfields, -, -⟩ | hfields
  · rw [hfields, List.mem_singleton] at hempty
    exact htopic.toList_ne_nil hempty.symm
  · rw [hfields] at hempty
    simp only [List.mem_cons, List.not_mem_nil, or_false] at hempty
    rcases hempty with hnil | hnil | hnil
    · exact htenant.toList_ne_nil hnil.symm
    · exact hspace.toList_ne_nil hnil.symm
    · exact htopic.toList_ne_nil hnil.symm

/-! ### The reader -/

/-- **The reader finds what the grammar says**, and refuses all other texts. -/
theorem parse_eq_ok_iff {s : String} {topic : TopicName} :
    parse s = .ok topic ↔ Denotes s topic := by
  have hpart : ∀ {cs field : List Char}, field ∈ splitFields '/' cs → field ≠ [] →
      IsPart (String.ofList field) := fun hmem hne =>
    ⟨by simpa using hne, by simpa using notMem_of_mem_splitFields hmem⟩
  rw [parse, bind_eq_ok_iff]
  constructor
  · rintro ⟨⟨domain, rest⟩, hdomain, h⟩
    have hjoin := joinFields_splitFields '/' rest
    refine ⟨String.ofList rest, ?_⟩
    dsimp only at h
    split at h
    · next name hfields =>
      obtain ⟨-, -, hname, rfl⟩ := ofParts_eq_ok_iff.1 h
      have hrest : rest = name := by rw [← hjoin, hfields, joinFields]
      have hname' : IsPart (String.ofList rest) :=
        hpart (by rw [hfields, hrest]; exact List.mem_singleton_self name) (hrest ▸ hname)
      rw [← hrest]
      exact ⟨hasDomain_of_splitDomain hdomain, .short hname'⟩
    · next tenant space name hfields =>
      obtain ⟨htenant, hspace, hname, rfl⟩ := ofParts_eq_ok_iff.1 h
      have hrest : String.ofList rest = String.ofList tenant ++ "/" ++ String.ofList space ++ "/" ++
          String.ofList name := by
        rw [← hjoin, hfields, ← String.toList_inj]
        simp [joinFields]
      have hmem : ∀ {field : List Char}, field ∈ [tenant, space, name] →
          field ∈ splitFields '/' rest := fun hfield => hfields ▸ hfield
      refine ⟨hasDomain_of_splitDomain hdomain, ?_⟩
      rw [hrest]
      exact .full (hpart (hmem (by simp)) htenant) (hpart (hmem (by simp)) hspace)
        (hpart (hmem (by simp)) hname)
    · cases h
  · rintro ⟨rest, hdomain, hparts⟩
    obtain ⟨htenant, hspace, htopic⟩ := hparts.isPart
    refine ⟨_, splitDomain_of_hasDomain hdomain hparts.no_scheme, ?_⟩
    dsimp only
    rcases splitFields_of_hasParts hparts with ⟨hfields, hpublic, hdefault⟩ | hfields
    · rw [hfields]
      refine ofParts_eq_ok_iff.2 ⟨by decide, by decide, htopic.toList_ne_nil, ?_⟩
      rw [String.ofList_toList, String.ofList_toList, String.ofList_toList, ← hpublic, ← hdefault]
    · rw [hfields]
      refine ofParts_eq_ok_iff.2 ⟨htenant.toList_ne_nil, hspace.toList_ne_nil,
        htopic.toList_ne_nil, ?_⟩
      rw [String.ofList_toList, String.ofList_toList, String.ofList_toList]

/-- The error of a text that names no topic is worded later, which changes nothing about the names. -/
theorem ofText_eq_ok_iff {s : String} {topic : TopicName} :
    ofText s = .ok topic ↔ Denotes s topic := by
  rw [← parse_eq_ok_iff, ofText]
  cases parse s <;> simp

/-! ### The full text of a name -/

theorem denotes_toText {topic : TopicName} (h : topic.WellFormed) : Denotes topic.toText topic := by
  obtain ⟨domain, tenant, space, name⟩ := topic
  have hparts : HasParts _ tenant space name := .full h.tenant h.space h.localName
  have htext : ∀ scheme : String, scheme ++ "://" ++ tenant ++ "/" ++ space ++ "/" ++ name =
      scheme ++ "://" ++ (tenant ++ "/" ++ space ++ "/" ++ name) := fun scheme => by
    simp only [String.append_assoc]
  refine ⟨_, ?_, hparts⟩
  rw [toText, htext]
  cases domain with
  | persistent => exact .persistent
  | nonPersistent => exact .nonPersistent

/-- **The full text of a name reads back.** -/
theorem ofText_toText {topic : TopicName} (h : topic.WellFormed) :
    ofText topic.toText = .ok topic :=
  ofText_eq_ok_iff.2 (denotes_toText h)

theorem toText_injective {topic topic' : TopicName} (h : topic.WellFormed) (h' : topic'.WellFormed)
    (htext : topic.toText = topic'.toText) : topic = topic' := by
  have hread := ofText_toText h
  rw [htext, ofText_toText h'] at hread
  exact (Except.ok.inj hread).symm

/-- Names differ in the segments that address them. -/
theorem pathSegments_injective {topic topic' : TopicName}
    (h : topic.pathSegments = topic'.pathSegments) : topic = topic' := by
  obtain ⟨domain, tenant, space, name⟩ := topic
  obtain ⟨domain', tenant', space', name'⟩ := topic'
  simp only [pathSegments, List.cons.injEq, and_true] at h
  obtain ⟨hdomain, rfl, rfl, rfl⟩ := h
  have hsame : domain = domain' := by
    cases domain <;> cases domain' <;> first | rfl | exact absurd hdomain (by decide)
  rw [hsame]

/-- **Which texts name a topic, and its full text.** A text is accepted exactly when it names a topic,
and the result is the topic that it names. The full text of a well-formed name, as every result is,
gives this name again, so two accepted texts name one topic exactly when the full texts are the same,
and exactly when the segments that address the topics are. -/
theorem grammar_and_canonicalForm :
    (∀ (s : String) (topic : TopicName), ofText s = .ok topic ↔ Denotes s topic) ∧
    (∀ (s : String) (topic : TopicName), ofText s = .ok topic → topic.WellFormed) ∧
    (∀ topic : TopicName, topic.WellFormed → ofText topic.toText = .ok topic) ∧
    ∀ (s s' : String) (topic topic' : TopicName), ofText s = .ok topic → ofText s' = .ok topic' →
      (topic = topic' ↔ topic.toText = topic'.toText) ∧
      (topic.toText = topic'.toText ↔ topic.pathSegments = topic'.pathSegments) := by
  have hwellFormed : ∀ (s : String) (topic : TopicName), ofText s = .ok topic → topic.WellFormed :=
    fun s topic h => (ofText_eq_ok_iff.1 h).wellFormed
  refine ⟨fun _ _ => ofText_eq_ok_iff, hwellFormed, fun _ => ofText_toText, ?_⟩
  intro s s' topic topic' h h'
  have hsame : topic.toText = topic'.toText → topic = topic' :=
    toText_injective (hwellFormed s topic h) (hwellFormed s' topic' h')
  exact ⟨⟨congrArg toText, hsame⟩, ⟨fun htext => congrArg pathSegments (hsame htext),
    fun hsegments => congrArg toText (pathSegments_injective hsegments)⟩⟩

/-- A short name that looks like the beginning of a scheme, and its full text. -/
theorem grammar_and_canonicalForm_persistent :
    Denotes "non-persistent://persistent:" ⟨.nonPersistent, "public", "default", "persistent:"⟩ ∧
    ofText "non-persistent://public/default/persistent:" =
      .ok ⟨.nonPersistent, "public", "default", "persistent:"⟩ ∧
    ¬ ∃ topic, Denotes "persistent:///x" topic := by
  obtain ⟨hgrammar, hwellFormed, hcanonical, -⟩ := grammar_and_canonicalForm
  have hread : ofText "non-persistent://persistent:" =
      .ok ⟨.nonPersistent, "public", "default", "persistent:"⟩ := by decide +kernel
  refine ⟨(hgrammar _ _).1 hread, hcanonical _ (hwellFormed _ _ hread), ?_⟩
  rintro ⟨topic, h⟩
  have hnone : (ofText "persistent:///x").toOption = none := by decide +kernel
  rw [(hgrammar _ _).2 h] at hnone
  cases hnone

end BrokerAdmin.TopicName
