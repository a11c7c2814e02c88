import BrokerAdmin.Proofs.IntegerText
import BrokerAdmin.Proofs.TopicName

/-!
# Partitions of a topic

The name of a partition is that of its topic with a mark and a number behind it. The local name of
the topic is any text, so it may have the mark in it, or the beginning of one that the number would
complete. Neither matters, since the mark ends in a dash and a number has none: the last mark is always
the one in front of the number.

## Which names are read as partitions

A partition is found by the number behind the last mark, and the reader of numbers takes more than is
ever written: a plus sign, and zeros in front. It also takes a number with nothing in front of the
mark. Such names have an index and are the names of no partition, and each shares its index and what
stands in front of the mark with other names.

## Main definitions

* `TopicName.ReportsAs`: a name is read as a partition of a topic.
* `TopicName.IsPlainlyNumbered`: a name ends as that of a partition does.

## Main results

* `TopicName.partitionIndex_eq_some_iff`: the index that a name is read to have.
* `TopicName.partition_readBack`: a partition gives its index, its name and its topic back.
* `TopicName.partitionIndex_genuine_iff`: the names with an index that are names of partitions.
-/

namespace BrokerAdmin.TopicName

/-! ### The last mark -/

/-- The mark ends in a dash. -/
theorem partitionMark_eq : partitionMark = "-partition".toList ++ ['-'] := rfl

theorem partitionMark_ne_nil : partitionMark ≠ [] := by decide

/-- **The last mark of a partition** is the one in front of its number. -/
theorem cutsLast_partition (topic : TopicName) (index : Nat) :
    CutsLast partitionMark (topic.partition index).localName.toList topic.localName.toList
      (Nat.toDigits 10 index) := by
  have hdash : '-' ∉ Nat.toDigits 10 index := fun hmem =>
    absurd (isDigit_of_mem_toDigits hmem) (by decide)
  rw [partition, String.toList_ofList, partitionMark_eq]
  exact cutsLast_of_notMem _ hdash

/-- **The index that a name is read to have** is the number behind its last mark. -/
theorem partitionIndex_eq_some_iff {topic : TopicName} {index : Nat} :
    topic.partitionIndex = some index ↔ ∃ stem digits,
      CutsLast partitionMark topic.localName.toList stem digits ∧
        IsUnsignedNumeral index digits ∧ index < UInt32.size := by
  rw [partitionIndex]
  constructor
  · intro h
    split at h
    · next stem digits hcut =>
      split at h
      · next m hm =>
        obtain ⟨n, hnumeral, rfl, hlt⟩ := IntegerRange.readChars_unsigned_eq_ok_iff.1 hm
        obtain rfl := Option.some.inj h
        exact ⟨stem, digits, cutsLast_of_splitLast partitionMark_ne_nil hcut, hnumeral, hlt⟩
      · cases h
    · cases h
  · rintro ⟨stem, digits, hcut, hnumeral, hlt⟩
    have hread : (IntegerRange.unsigned 32).readChars digits = .ok index :=
      IntegerRange.readChars_unsigned_eq_ok_iff.2 ⟨index, hnumeral, rfl, hlt⟩
    rw [(splitLast_eq_some_iff partitionMark_ne_nil).2 hcut]
    dsimp only
    rw [hread]
    rfl

/-! ### Names made for partitions -/

/-- **The index of a partition is found again**, whatever the name of its topic. -/
theorem partitionIndex_partition (topic : TopicName) {index : Nat} (h : index < UInt32.size) :
    (topic.partition index).partitionIndex = some index :=
  partitionIndex_eq_some_iff.2 ⟨_, _, cutsLast_partition topic index,
    ⟨_, isNumeral_toDigits index, .inl rfl⟩, h⟩

/-- Partitions differ from each other when they are of different topics or have different indices. -/
theorem partition_injective {topic topic' : TopicName} {index index' : Nat}
    (h : topic.partition index = topic'.partition index') : topic = topic' ∧ index = index' := by
  have hcut := cutsLast_partition topic index
  rw [h] at hcut
  obtain ⟨hname, hdigits⟩ := hcut.unique (cutsLast_partition topic' index')
  constructor
  · obtain ⟨domain, tenant, space, name⟩ := topic
    obtain ⟨domain', tenant', space', name'⟩ := topic'
    obtain rfl : name = name' := String.toList_inj.1 hname
    simp only [partition, mk.injEq, and_true] at h ⊢
    exact ⟨h.1, h.2.1, h.2.2.1⟩
  · calc index = Nat.ofDigitChars 10 (Nat.toDigits 10 index) 0 := Nat.ofDigitChars_ten_toDigits.symm
      _ = Nat.ofDigitChars 10 (Nat.toDigits 10 index') 0 := by rw [hdigits]
      _ = index' := Nat.ofDigitChars_ten_toDigits

theorem WellFormed.partition {topic : TopicName} (h : topic.WellFormed) (index : Nat) :
    (topic.partition index).WellFormed := by
  refine ⟨h.tenant, h.space, ?_, ?_⟩
  · intro hempty
    have hnil := congrArg String.toList hempty
    rw [(cutsLast_partition topic index).eq_append] at hnil
    simp [partitionMark_ne_nil] at hnil
  · intro hslash
    rw [(cutsLast_partition topic index).eq_append, List.mem_append, List.mem_append] at hslash
    rcases hslash with (hname | hmark) | hdigits
    · exact h.localName.2 hname
    · exact absurd hmark (by decide)
    · exact absurd (isDigit_of_mem_toDigits hdigits) (by decide)

/-- **A partition gives everything back**: its index is found, its full text is read as its name, and
no other topic and no other index make this name. The name of the topic may have the mark in it, or
parts of it. -/
theorem partition_readBack {topic : TopicName} (h : topic.WellFormed) {index : Nat}
    (hindex : index < UInt32.size) :
    (topic.partition index).partitionIndex = some index ∧
    ofText (topic.partition index).toText = .ok (topic.partition index) ∧
    ∀ (topic' : TopicName) (index' : Nat), topic.partition index = topic'.partition index' →
      topic = topic' ∧ index = index' :=
  ⟨partitionIndex_partition topic hindex, ofText_toText (h.partition index),
    fun _ _ => partition_injective⟩

/-- The greatest index, behind a local name that the dash of the mark completes to a mark. -/
theorem partition_readBack_overlapping :
    WellFormed ⟨.nonPersistent, "t", "n", "x-partition-7-partition"⟩ ∧ 4294967295 < UInt32.size ∧
    partitionIndex ⟨.nonPersistent, "t", "n", "x-partition-7-partition-partition-4294967295"⟩ =
      some 4294967295 ∧
    ofText "non-persistent://t/n/x-partition-7-partition-partition-4294967295" =
      .ok ⟨.nonPersistent, "t", "n", "x-partition-7-partition-partition-4294967295"⟩ := by
  have hname : WellFormed ⟨.nonPersistent, "t", "n", "x-partition-7-partition"⟩ :=
    ⟨⟨by decide, by decide⟩, ⟨by decide, by decide⟩, ⟨by decide, by decide⟩⟩
  obtain ⟨hindex, htext, -⟩ := @partition_readBack _ hname 4294967295 (by decide)
  exact ⟨hname, by decide, hindex, htext⟩

/-! ### Names read as partitions -/

/-- A name is read as a partition of a topic: it has the index, and in front of its last mark it is
the name of the topic. -/
structure ReportsAs (topic base : TopicName) (index : Nat) : Prop where
  /-- The domain is that of the topic. -/
  domain : topic.domain = base.domain
  /-- So is the tenant. -/
  tenant : topic.tenant = base.tenant
  /-- So is the namespace. -/
  space : topic.namespace = base.namespace
  /-- So is what stands in front of the last mark of the local name. -/
  stem : ∃ digits, CutsLast partitionMark topic.localName.toList base.localName.toList digits
  /-- The name has the index. -/
  index : topic.partitionIndex = some index

/-- A name ends as that of a partition does: there is something in front of the last mark, and the
number behind it has neither a sign nor zeros in front. -/
def IsPlainlyNumbered (topic : TopicName) : Prop :=
  ∃ stem digits, CutsLast partitionMark topic.localName.toList stem digits ∧ stem ≠ [] ∧
    '+' ∉ digits ∧ (digits.head? = some '0' → digits = ['0'])

theorem exists_reportsAs {topic : TopicName} {index : Nat} (h : topic.partitionIndex = some index) :
    ∃ base, topic.ReportsAs base index := by
  obtain ⟨stem, digits, hcut, -⟩ := partitionIndex_eq_some_iff.1 h
  refine ⟨{ topic with localName := String.ofList stem }, rfl, rfl, rfl, ⟨digits, ?_⟩, h⟩
  rwa [String.toList_ofList]

/-- The name of a partition ends as such names do. -/
theorem isPlainlyNumbered_partition {topic : TopicName} (h : topic.localName ≠ "") (index : Nat) :
    (topic.partition index).IsPlainlyNumbered := by
  refine ⟨_, _, cutsLast_partition topic index, by simpa using h, fun hplus => ?_, ?_⟩
  · exact absurd (isDigit_of_mem_toDigits hplus) (by decide)
  · exact (isNumeral_toDigits index).eq_toDigits_iff.1 rfl

/-- **A name that ends as that of a partition does** is the name of the partition that it is read
as. -/
theorem ReportsAs.eq_partition {topic base : TopicName} {index : Nat}
    (h : topic.ReportsAs base index) (plain : topic.IsPlainlyNumbered) :
    base.partition index = topic := by
  obtain ⟨stem, digits, hcut, ⟨digits', hnumeral, hdigits⟩, -⟩ :=
    partitionIndex_eq_some_iff.1 h.index
  obtain ⟨digitsOf, hbase⟩ := h.stem
  obtain ⟨stemOf, digitsPlain, hplain, -, hplus, hzero⟩ := plain
  -- The three cuts are one.
  obtain ⟨rfl, rfl⟩ := hcut.unique hbase
  obtain ⟨rfl, rfl⟩ := hcut.unique hplain
  have hunsigned : digits = digits' := by
    rcases hdigits with heq | heq
    · exact heq
    · exact absurd (heq ▸ List.mem_cons_self) hplus
  have hwritten : digits = Nat.toDigits 10 index := by
    rw [hunsigned] at hzero ⊢
    exact hnumeral.eq_toDigits_iff.2 hzero
  have hname : topic.localName =
      String.ofList (base.localName.toList ++ partitionMark ++ Nat.toDigits 10 index) := by
    rw [← hwritten, ← hcut.eq_append, String.ofList_toList]
  rw [partition, ← hname, ← h.domain, ← h.tenant, ← h.space]

/-- What a well-formed name is read as a partition of is well-formed, if there is anything in front of
the last mark. -/
theorem ReportsAs.wellFormed {topic base : TopicName} {index : Nat} (h : topic.ReportsAs base index)
    (hname : topic.WellFormed) (plain : topic.IsPlainlyNumbered) : base.WellFormed := by
  obtain ⟨digits, hcut⟩ := h.stem
  obtain ⟨stem, digits', hcut', hstem, -⟩ := plain
  obtain ⟨rfl, -⟩ := hcut.unique hcut'
  refine ⟨h.tenant ▸ hname.tenant, h.space ▸ hname.space, by simpa using hstem, fun hslash => ?_⟩
  apply hname.localName.2
  rw [hcut.eq_append]
  exact List.mem_append_left _ (List.mem_append_left _ hslash)

/-- **The names with an index that are names of partitions.** A name that is read from a text and has
an index is the name of a partition of a topic that is read from a text exactly when it ends as such
names do. And of the names that do, no two are read as one partition of one topic. -/
theorem partitionIndex_genuine_iff {s : String} {topic : TopicName} (h : ofText s = .ok topic)
    {index : Nat} (hindex : topic.partitionIndex = some index) :
    ((∃ (s' : String) (base : TopicName), ofText s' = .ok base ∧ base.partition index = topic) ↔
      topic.IsPlainlyNumbered) ∧
    ∀ base other : TopicName, topic.ReportsAs base index → other.ReportsAs base index →
      topic.IsPlainlyNumbered → other.IsPlainlyNumbered → topic = other := by
  have hname : topic.WellFormed := (ofText_eq_ok_iff.1 h).wellFormed
  constructor
  · constructor
    · rintro ⟨s', base, hbase, rfl⟩
      exact isPlainlyNumbered_partition (ofText_eq_ok_iff.1 hbase).wellFormed.localName.1 index
    · intro plain
      obtain ⟨base, hreports⟩ := exists_reportsAs hindex
      exact ⟨base.toText, base, ofText_toText (hreports.wellFormed hname plain),
        hreports.eq_partition plain⟩
  · intro base other hreports hreports' plain plain'
    rw [← hreports.eq_partition plain, ← hreports'.eq_partition plain']

/-- The first partition of a topic that is itself named like a partition with a sign. -/
theorem partitionIndex_genuine_zero :
    ofText "t/n/x-partition-+3-partition-0" =
      .ok ⟨.persistent, "t", "n", "x-partition-+3-partition-0"⟩ ∧
    partitionIndex ⟨.persistent, "t", "n", "x-partition-+3-partition-0"⟩ = some 0 ∧
    ∃ (s' : String) (base : TopicName), ofText s' = .ok base ∧
      base.partition 0 = ⟨.persistent, "t", "n", "x-partition-+3-partition-0"⟩ := by
  have hread : ofText "t/n/x-partition-+3-partition-0" =
      .ok ⟨.persistent, "t", "n", "x-partition-+3-partition-0"⟩ := by decide +kernel
  have hindex : partitionIndex ⟨.persistent, "t", "n", "x-partition-+3-partition-0"⟩ = some 0 := by
    decide +kernel
  refine ⟨hread, hindex, (partitionIndex_genuine_iff hread hindex).1.2 ?_⟩
  exact ⟨_, _, cutsLast_of_splitLast partitionMark_ne_nil rfl, by decide, by decide, by decide⟩

/-- A zero in front of the number: the name has an index, but is the name of no partition, and another
name is read as the same partition of the same topic. -/
theorem partitionIndex_leadingZero :
    ofText "x-partition-03" = .ok ⟨.persistent, "public", "default", "x-partition-03"⟩ ∧
    ReportsAs ⟨.persistent, "public", "default", "x-partition-03"⟩
      ⟨.persistent, "public", "default", "x"⟩ 3 ∧
    ReportsAs ⟨.persistent, "public", "default", "x-partition-3"⟩
      ⟨.persistent, "public", "default", "x"⟩ 3 ∧
    ¬ ∃ (s' : String) (base : TopicName), ofText s' = .ok base ∧
      base.partition 3 = ⟨.persistent, "public", "default", "x-partition-03"⟩ := by
  have hcut : CutsLast partitionMark "x-partition-03".toList ['x'] ['0', '3'] :=
    cutsLast_of_splitLast partitionMark_ne_nil rfl
  have hcut' : CutsLast partitionMark "x-partition-3".toList ['x'] ['3'] :=
    cutsLast_of_splitLast partitionMark_ne_nil rfl
  refine ⟨by decide +kernel, ⟨rfl, rfl, rfl, ⟨_, hcut⟩, by decide +kernel⟩,
    ⟨rfl, rfl, rfl, ⟨_, hcut'⟩, by decide +kernel⟩, ?_⟩
  rintro ⟨s', base, -, heq⟩
  have hbase := cutsLast_partition base 3
  rw [heq] at hbase
  exact absurd (hcut.unique hbase).2 (by decide)

end BrokerAdmin.TopicName
