import Principals.Mapping.Variant
import Principals.Proofs.Principal.Construction

/-!
# The name that a path gives

The last segment of a path stands after a slash or at the start, and has at most slashes after it. A
path without one consists of slashes. Trimming a path shortens the last segment at most, so that both
segments come out the same once they are trimmed themselves.

* `Path.Split`: a path taken apart around its last segment;
* `lastSegment_eq_empty_iff`, `trim_lastSegment_trim`: the last segment of a path and of a trimmed
  one;
* `NamesGroup`, `exists_readName_groupName_iff`: when a group that was named before can be named by
  its path;
* `exists_readName_groupName_again`: a group that was named by its path once can be so again.
-/

namespace Principals.Variant

open Text

/-! ## Paths taken apart -/

/-- A path taken apart: what stands before the last segment, which is nothing or ends in a slash,
the segment itself, and the slashes after it. -/
structure Path.Split (path front segment slashes : List Char) : Prop where
  whole : path = front ++ (segment ++ slashes)
  frontEnds : front = [] ∨ ∃ start, front = start ++ ['/']
  solid : ∀ c ∈ segment, c ≠ '/'
  nonempty : segment ≠ []
  onlySlashes : ∀ c ∈ slashes, c = '/'

variable {path : String} {cs front segment slashes : List Char}

/-- The characters of the last segment. -/
theorem toList_lastSegment (path : String) : (lastSegment path).toList =
    (dropEndWhile (· == '/') path.toList).rtakeWhile (· != '/') := by
  rw [lastSegment, String.toList_ofList, List.rtakeWhile]

/-- A path without a last segment consists of slashes. -/
theorem lastSegment_eq_empty_iff : lastSegment path = "" ↔ ∀ c ∈ path.toList, c = '/' := by
  have empty : lastSegment path = "" ↔ (lastSegment path).toList = [] := by
    rw [String.toList_eq_nil_iff]
  have slashes : (∀ c ∈ path.toList, c = '/') ↔ dropEndWhile (· == '/') path.toList = [] := by
    have nothing : dropEndWhile (· == '/') path.toList = [] ↔ _ := List.rdropWhile_eq_nil_iff
    rw [nothing]
    simp only [beq_iff_eq]
  rw [empty, toList_lastSegment, slashes]
  constructor
  · intro none_taken
    by_contra some_left
    have atEnd : ¬ ((dropEndWhile (· == '/') path.toList).getLast some_left == '/') = true :=
      List.rdropWhile_last_not _ _ some_left
    have noEnd := List.rtakeWhile_eq_nil_iff.mp none_taken some_left
    simp only [bne_iff_ne, ne_eq, not_not] at noEnd
    simp [noEnd] at atEnd
  · intro none_left
    rw [none_left, List.rtakeWhile_nil]

/-- A path with a last segment can be taken apart around it. -/
theorem exists_split (named : lastSegment path ≠ "") :
    ∃ front slashes, Path.Split path.toList front (lastSegment path).toList slashes := by
  have body : dropEndWhile (· == '/') path.toList =
      (dropEndWhile (· == '/') path.toList).rdropWhile (· != '/') ++ (lastSegment path).toList := by
    rw [toList_lastSegment]
    exact List.rdropWhile_append_rtakeWhile.symm
  have whole : dropEndWhile (· == '/') path.toList ++ path.toList.rtakeWhile (· == '/') =
      path.toList := List.rdropWhile_append_rtakeWhile
  refine ⟨(dropEndWhile (· == '/') path.toList).rdropWhile (· != '/'),
    path.toList.rtakeWhile (· == '/'), ?_, ?_, ?_, ?_, ?_⟩
  · rw [← List.append_assoc, ← body, whole]
  · by_cases start : (dropEndWhile (· == '/') path.toList).rdropWhile (· != '/') = []
    · exact .inl start
    · right
      have slash := List.rdropWhile_last_not _ _ start
      simp only [bne_iff_ne, ne_eq, not_not] at slash
      have ends := List.dropLast_append_getLast start
      rw [slash] at ends
      exact ⟨_, ends.symm⟩
  · intro c among
    rw [toList_lastSegment] at among
    simpa using List.mem_rtakeWhile_imp among
  · intro none
    exact named (String.toList_eq_nil_iff.mp none)
  · intro c among
    simpa using List.mem_rtakeWhile_imp among

/-- The segment of a path that was taken apart is its last one. -/
theorem Path.Split.lastSegment_eq (split : Path.Split path.toList front segment slashes) :
    (lastSegment path).toList = segment := by
  have trailing : dropEndWhile (· == '/') path.toList = front ++ segment := by
    have solid : dropEndWhile (· == '/') segment = segment := by
      refine List.rdropWhile_eq_self_iff.mpr fun some_char => ?_
      have ne := split.solid _ (List.getLast_mem some_char)
      simpa using ne
    have some_left : dropEndWhile (· == '/') (segment ++ slashes) = segment := by
      have slashesGone : slashes.reverse.dropWhile (· == '/') = [] :=
        List.dropWhile_eq_nil_iff.mpr fun c among => by
          simpa using split.onlySlashes c (List.mem_reverse.mp among)
      unfold dropEndWhile at solid ⊢
      rw [List.reverse_append, List.dropWhile_append, slashesGone, List.isEmpty_nil, if_pos rfl,
        solid]
    rw [split.whole, dropEndWhile_append_of_ne_nil (by rw [some_left]; exact split.nonempty),
      some_left]
  have whole : segment.reverse.takeWhile (· != '/') = segment.reverse :=
    List.takeWhile_eq_self_iff.mpr fun c among => by
      simpa using split.solid c (List.mem_reverse.mp among)
  rw [toList_lastSegment, trailing, List.rtakeWhile, List.reverse_append, List.takeWhile_append,
    whole, if_pos rfl]
  rcases split.frontEnds with rfl | ⟨start, rfl⟩ <;> simp

/-! ## Trimmed paths -/

/-- Trimming the start of a path keeps it apart, and the segment as long as that is not blank. -/
theorem Path.Split.dropWhile (split : Path.Split cs front segment slashes)
    (solid : trimWhile isWhiteSpace segment ≠ []) :
    ∃ front' segment', Path.Split (cs.dropWhile isWhiteSpace) front' segment' slashes ∧
      trimWhile isWhiteSpace segment' = trimWhile isWhiteSpace segment := by
  have slashSolid : isWhiteSpace '/' = false := by decide
  rcases split.frontEnds with none | ⟨start, isFront⟩
  · have some_left : segment.dropWhile isWhiteSpace ≠ [] := by
      intro none_left
      apply solid
      rw [trimWhile, none_left]
      rfl
    refine ⟨[], segment.dropWhile isWhiteSpace, ⟨?_, .inl rfl, ?_, some_left, split.onlySlashes⟩,
      trimWhile_dropWhile ..⟩
    · rw [split.whole, none, List.nil_append, dropWhile_append_of_ne_nil some_left, List.nil_append]
    · exact fun c among => split.solid c ((List.dropWhile_sublist _).mem among)
  · obtain ⟨start', kept⟩ :
        ∃ start', front.dropWhile isWhiteSpace = start' ++ ['/'] := by
      rw [isFront, List.dropWhile_append]
      split
      · exact ⟨[], by simp [slashSolid]⟩
      · exact ⟨_, rfl⟩
    refine ⟨front.dropWhile isWhiteSpace, segment,
      ⟨?_, .inr ⟨start', kept⟩, split.solid, split.nonempty, split.onlySlashes⟩, rfl⟩
    rw [split.whole, dropWhile_append_of_ne_nil (by simp [kept])]

/-- Trimming the end of a path keeps it apart, and the segment as long as that is not blank. -/
theorem Path.Split.dropEndWhile (split : Path.Split cs front segment slashes)
    (solid : trimWhile isWhiteSpace segment ≠ []) :
    ∃ segment', Path.Split (dropEndWhile isWhiteSpace cs) front segment' slashes ∧
      trimWhile isWhiteSpace segment' = trimWhile isWhiteSpace segment := by
  have slashSolid : isWhiteSpace '/' = false := by decide
  cases slashes with
  | nil =>
    have some_left : Text.dropEndWhile isWhiteSpace segment ≠ [] := by
      intro none_left
      apply solid
      rw [← trimWhile_dropEndWhile, none_left]
      rfl
    refine ⟨Text.dropEndWhile isWhiteSpace segment,
      ⟨?_, split.frontEnds, ?_, some_left, split.onlySlashes⟩, trimWhile_dropEndWhile ..⟩
    · rw [split.whole, List.append_nil, List.append_nil, dropEndWhile_append_of_ne_nil some_left]
    · exact fun c among => split.solid c ((List.rdropWhile_prefix ..).subset among)
  | cons c more =>
    -- The path ends in a slash, which is not blank.
    have kept : Text.dropEndWhile isWhiteSpace cs = cs := by
      refine List.rdropWhile_eq_self_iff.mpr fun some_char => ?_
      have last : cs.getLast some_char = '/' := by
        apply split.onlySlashes
        have at_end : cs.getLast some_char = (c :: more).getLast (List.cons_ne_nil c more) := by
          simp [split.whole]
        rw [at_end]
        exact List.getLast_mem _
      simp [last, slashSolid]
    exact ⟨segment, kept.symm ▸ split, rfl⟩

/-- The last segment of a trimmed path differs from that of the path by blanks at its ends. -/
theorem trim_lastSegment_trim (solid : trim (lastSegment path) ≠ "") :
    trim (lastSegment (trim path)) = trim (lastSegment path) := by
  have someChars : trimWhile isWhiteSpace (lastSegment path).toList ≠ [] := by
    intro none
    apply solid
    rw [trim, none]
  have named : lastSegment path ≠ "" := by
    intro empty
    rw [empty] at solid
    exact solid rfl
  obtain ⟨front, slashes, split⟩ := exists_split named
  obtain ⟨front', segment', split', same⟩ := split.dropWhile someChars
  obtain ⟨segment'', split'', same'⟩ := split'.dropEndWhile fun none =>
    someChars (same.symm.trans none)
  have trimmed : (trim path).toList = trimWhile isWhiteSpace path.toList := by
    rw [trim, String.toList_ofList]
  rw [← trimWhile, ← trimmed] at split''
  rw [trim.eq_1 (lastSegment (trim path)), split''.lastSegment_eq, same', same, ← trim]

/-! ## Names of groups -/

theorem trim_eq_self_of_slashes (slashes : ∀ c ∈ path.toList, c = '/') : trim path = path := by
  have solid : ∀ c ∈ path.toList, ¬ isWhiteSpace c = true := by
    intro c among
    rw [slashes c among]
    decide
  have front : path.toList.dropWhile isWhiteSpace = path.toList :=
    List.dropWhile_eq_self_iff.mpr fun _ => solid _ (List.getElem_mem _)
  have back : dropEndWhile isWhiteSpace path.toList = path.toList :=
    List.rdropWhile_eq_self_iff.mpr fun _ => solid _ (List.getLast_mem _)
  rw [trim, trimWhile, front, back, String.ofList_toList]

/-- A text can be read as a name exactly if something is left of it after trimming, and not too
much. -/
theorem exists_readName_text_iff {s : String} : (∃ name, Profile.readName (.text s) = .ok name) ↔
    trim s ≠ "" ∧ (trim s).length ≤ Profile.nameLimit := by
  have length : 1 ≤ (trim s).length ↔ trim s ≠ "" := by
    rw [Nat.one_le_iff_ne_zero, ne_eq, String.length_eq_zero_iff]
  constructor
  · intro h
    rcases h with ⟨name, read⟩
    obtain ⟨text, least, most⟩ := Reader.textWithin_eq_ok_iff.mp read
    rw [Reader.text_text] at text
    cases text
    exact ⟨length.mp least, most _ rfl⟩
  · intro h
    rcases h with ⟨nonempty, most⟩
    refine ⟨trim s, Reader.textWithin_eq_ok_iff.mpr ⟨rfl, length.mpr nonempty, ?_⟩⟩
    intro limit given
    cases given
    exact most

/-- Whether a group can be named by a path: the last segment, if there is one, is not blank, and not
too long for a name. -/
def NamesGroup (path : String) : Prop :=
  lastSegment path ≠ "" →
    trim (lastSegment path) ≠ "" ∧ (trim (lastSegment path)).length ≤ Profile.nameLimit

/-- A group with a valid name can be named by its path exactly if the last segment is a valid name or
there is none, in which case the valid name stands in. -/
theorem exists_readName_groupName_iff {name : String} (valid : Profile.ValidName name) :
    (∃ found, Profile.readName (groupName path (.text name)) = .ok found) ↔ NamesGroup path := by
  unfold NamesGroup
  by_cases named : lastSegment path = ""
  · have truthy : Value.isTruthy (.text name) = true := by
      simp [Value.isTruthy, valid.nonempty]
    rw [groupName, if_neg (not_not_intro named), if_pos truthy]
    exact ⟨fun _ given => absurd named given, fun _ => ⟨name, valid⟩⟩
  · rw [groupName, if_pos named, exists_readName_text_iff]
    exact ⟨fun fits _ => fits, fun fits => fits named⟩

/-- A group that was named by its path, under a stored name or none, can be named by the trimmed path
under the name that it has then. -/
theorem exists_readName_groupName_again {stored : Value} {found : String}
    (read : Profile.readName (groupName path stored) = .ok found) :
    ∃ again, Profile.readName (groupName (trim path)
      (if stored.isTruthy = true then stored else .text found)) = .ok again := by
  by_cases named : lastSegment path = ""
  · -- The path consists of slashes, so trimming leaves it and the stored name is asked for again.
    have same := trim_eq_self_of_slashes (lastSegment_eq_empty_iff.mp named)
    have valid := Profile.ValidName.of_read read
    rw [groupName, if_neg (not_not_intro named)] at read
    rw [same, groupName, if_neg (not_not_intro named)]
    by_cases truthy : stored.isTruthy = true
    · rw [if_pos truthy] at read
      rw [if_pos truthy, if_pos truthy]
      exact ⟨found, read⟩
    · have given : Value.isTruthy (.text found) = true := by
        simp [Value.isTruthy, valid.nonempty]
      rw [if_neg truthy, if_pos given]
      exact ⟨found, valid⟩
  · rw [groupName, if_pos named] at read
    obtain ⟨solid, most⟩ := exists_readName_text_iff.mp ⟨found, read⟩
    have again := trim_lastSegment_trim solid
    have namedAgain : lastSegment (trim path) ≠ "" := by
      intro none
      rw [none] at again
      exact solid again.symm
    rw [groupName, if_pos namedAgain, exists_readName_text_iff, again]
    exact ⟨solid, most⟩

/-- A path that names a group is not blank. -/
theorem trim_ne_empty_of_readName {stored : Value} {found : String} (nonempty : path ≠ "")
    (read : Profile.readName (groupName path stored) = .ok found) : trim path ≠ "" := by
  by_cases named : lastSegment path = ""
  · rwa [trim_eq_self_of_slashes (lastSegment_eq_empty_iff.mp named)]
  · rw [groupName, if_pos named] at read
    obtain ⟨solid, -⟩ := exists_readName_text_iff.mp ⟨found, read⟩
    intro blank
    have again := trim_lastSegment_trim solid
    rw [blank] at again
    exact solid again.symm

end Principals.Variant
