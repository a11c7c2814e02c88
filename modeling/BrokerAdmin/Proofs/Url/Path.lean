import BrokerAdmin.Proofs.Result
import BrokerAdmin.Proofs.Text
import BrokerAdmin.Proofs.Url.Segments
import BrokerAdmin.Url.Parse

/-!
# Paths that have been read

The path of an address is kept as its segments. Reading never puts a slash into a segment, so for an
address that has been read the segments and the text of the path say the same, and what is asked of
the text can be asked of the segments.

## Main results

* `Url.exists_parseHierarchy`: where an address of a scheme with rules of its own comes from.
* `Url.slash_notMem_of_parse`: no segment of such an address has a slash.
-/

namespace BrokerAdmin.Url

open Result

/-! ### Segments -/

section Segments

variable {scheme : String} (hfile : scheme ≠ "file")

include hfile

theorem slash_notMem_closeSegment {segments : List String}
    (hsegments : ∀ s ∈ segments, '/' ∉ s.toList) {cs : List Char} (hcs : '/' ∉ cs) (last : Bool) :
    ∀ s ∈ closeSegment scheme segments cs last, '/' ∉ s.toList := by
  have htrace : ∀ s ∈ (if last then [""] else [] : List String), '/' ∉ s.toList := by
    cases last <;> simp
  have habove : ∀ s ∈ above segments, '/' ∉ s.toList := by
    rw [above]
    split
    · exact hsegments
    · exact fun s hs => hsegments s (List.dropLast_subset segments hs)
  have hencoded : '/' ∉ Percent.encode Percent.pathSet cs := by
    intro h
    rcases Percent.mem_encode h with ⟨hmem, -⟩ | hpercent | hdigit
    · exact hcs hmem
    · cases hpercent
    · revert hdigit
      decide
  rw [closeSegment]
  split
  · exact List.forall_mem_append.2 ⟨habove, htrace⟩
  split
  · exact List.forall_mem_append.2 ⟨hsegments, htrace⟩
  · rw [addSegment, if_neg (by simp [hfile])]
    exact List.forall_mem_append.2 ⟨hsegments, by simpa using hencoded⟩

theorem slash_notMem_closeSegments {segments : List String}
    (hsegments : ∀ s ∈ segments, '/' ∉ s.toList) {fields : List (List Char)}
    (hfields : ∀ field ∈ fields, '/' ∉ field) :
    ∀ s ∈ closeSegments scheme segments fields, '/' ∉ s.toList := by
  induction fields generalizing segments with
  | nil => exact hsegments
  | cons field fields ih =>
    obtain ⟨hfield, hrest⟩ := List.forall_mem_cons.1 hfields
    cases fields with
    | nil => exact slash_notMem_closeSegment hfile hsegments hfield true
    | cons field' fields => exact ih (slash_notMem_closeSegment hfile hsegments hfield false) hrest

theorem slash_notMem_parsePath (cs : List Char) : ∀ s ∈ parsePath scheme cs, '/' ∉ s.toList := by
  have hsegments : ∀ cs : List Char, ∀ s ∈ parseSegments scheme cs, '/' ∉ s.toList := fun cs =>
    slash_notMem_closeSegments hfile (by simp) fun field hfield => notMem_of_mem_splitFields hfield
  unfold parsePath
  split
  · split <;> simp
  · split
    · exact hsegments _
    · exact hsegments _

end Segments

/-! ### Addresses -/

theorem eq_of_parseHierarchy {scheme : String} {cs : List Char} {url : Url}
    (h : parseHierarchy scheme cs = .ok url) :
    url.scheme = scheme ∧ ∃ cs', url.path = .segments (parsePath scheme cs') := by
  rw [parseHierarchy, bind_eq_ok_iff] at h
  obtain ⟨⟨authority, rest⟩, -, h⟩ := h
  obtain rfl := Except.ok.inj h
  exact ⟨rfl, _, rfl⟩

theorem scheme_of_parseFile {cs : List Char} {url : Url} (h : parseFile cs = .ok url) :
    url.scheme = "file" := by
  rw [parseFile] at h
  dsimp only at h
  split at h
  all_goals
    obtain ⟨host, -, h⟩ := bind_eq_ok_iff.1 h
    obtain rfl := Except.ok.inj h
    rfl

/-- An address of a scheme with rules of its own, but not of a file, has been read with its host. -/
theorem exists_parseHierarchy {text : String} {url : Url} (h : parse text = .ok url)
    (hspecial : isSpecial url.scheme = true) (hfile : url.scheme ≠ "file") :
    ∃ cs, parseHierarchy url.scheme cs = .ok url := by
  rw [parse] at h
  split at h
  · cases h
  split at h
  · exact absurd (scheme_of_parseFile h) hfile
  split at h
  · exact ⟨_, (eq_of_parseHierarchy h).1 ▸ h⟩
  · next hplain =>
    split at h
    · exact ⟨_, (eq_of_parseHierarchy h).1 ▸ h⟩
    · obtain rfl := Except.ok.inj h
      exact absurd hspecial hplain
    · obtain rfl := Except.ok.inj h
      exact absurd hspecial hplain

/-- **No segment of an address that has been read has a slash.** -/
theorem slash_notMem_of_parse {text : String} {url : Url} (h : parse text = .ok url)
    (hspecial : isSpecial url.scheme = true) (hfile : url.scheme ≠ "file") :
    ∃ path, url.path = .segments path ∧ ∀ s ∈ path, '/' ∉ s.toList := by
  obtain ⟨cs, hcs⟩ := exists_parseHierarchy h hspecial hfile
  obtain ⟨-, cs', hpath⟩ := eq_of_parseHierarchy hcs
  exact ⟨_, hpath, slash_notMem_parsePath hfile cs'⟩

end BrokerAdmin.Url
