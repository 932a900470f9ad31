import UefiBuild.Proofs.Text.Fields
import UefiBuild.SourcePath

namespace UefiBuild.SourcePath

variable {above segments : List String} {segment : String} {file : SourcePath}

theorem eq_of_segments_eq {other : SourcePath} (same : file.segments = other.segments) : file = other := by
  cases file
  cases other
  exact congrArg SourcePath.mk same

def isSlash (c : Char) : Bool := c == '/' || c == '\\'

theorem segments_ofText (s : String) :
    (ofText s).segments = (Text.splitAt isSlash (Text.trim s)).foldl enter [] := by
  have same : isSlash = fun c => c == '/' || c == '\\' := rfl
  rw [ofText, same]

structure IsName (segment : String) : Prop where
  filled : segment ≠ ""
  ne_here : segment ≠ "."
  ne_above : segment ≠ ".."
  unslashed : ∀ c ∈ segment.toList, isSlash c = false

theorem IsName.enter (name : IsName segment) : enter above segment = above ++ [segment] := by
  simp [SourcePath.enter, name.filled, name.ne_here, name.ne_above]

theorem isName_enter (names : ∀ name ∈ above, IsName name)
    (unslashed : ∀ c ∈ segment.toList, isSlash c = false) : ∀ name ∈ enter above segment, IsName name := by
  unfold enter
  split
  · exact names
  · rename_i named
    split
    · exact fun name member => names name (List.mem_of_mem_dropLast member)
    · rename_i plain
      rw [not_or] at named
      intro name member
      rcases List.mem_append.1 member with old | new
      · exact names name old
      · obtain rfl := List.mem_singleton.1 new
        exact ⟨named.1, named.2, plain, unslashed⟩

theorem sublist_enter (above : List String) (segment : String) :
    (enter above segment).Sublist (above ++ [segment]) := by
  unfold enter
  split
  · exact List.sublist_append_left above _
  · split
    · exact (List.dropLast_sublist above).trans (List.sublist_append_left above _)
    · exact List.Sublist.refl _

theorem isName_foldl_enter (names : ∀ name ∈ above, IsName name)
    (unslashed : ∀ segment ∈ segments, ∀ c ∈ segment.toList, isSlash c = false) :
    ∀ name ∈ segments.foldl enter above, IsName name := by
  induction segments generalizing above with
  | nil => exact names
  | cons first rest ih =>
    exact ih (isName_enter names (unslashed first (by simp))) fun segment member =>
      unslashed segment (List.mem_cons_of_mem first member)

theorem sublist_foldl_enter (above segments : List String) :
    (segments.foldl enter above).Sublist (above ++ segments) := by
  induction segments generalizing above with
  | nil => simp
  | cons first rest ih =>
    have step := (sublist_enter above first).append_right rest
    rw [List.append_assoc, List.singleton_append] at step
    exact (ih (enter above first)).trans step

theorem foldl_enter_of_names (names : ∀ segment ∈ segments, IsName segment) :
    segments.foldl enter above = above ++ segments := by
  induction segments generalizing above with
  | nil => simp
  | cons first rest ih =>
    rw [List.foldl_cons, (names first (by simp)).enter, ih fun segment member =>
      names segment (List.mem_cons_of_mem first member), List.append_assoc, List.singleton_append]

theorem isName_ofText (s : String) : ∀ segment ∈ (ofText s).segments, IsName segment := by
  rw [segments_ofText]
  refine isName_foldl_enter nofun fun segment member c within => ?_
  obtain ⟨piece, cut, rfl⟩ := List.mem_map.1 member
  rw [String.toList_ofList] at within
  exact Text.cut_of_mem_pieces cut c within

theorem ofText_empty : ofText "" = ⟨[]⟩ := by decide +kernel

theorem text_of_root (root : file.segments = []) : file.text = "" := by
  rw [text, root]
  rfl

section Names

variable (names : ∀ segment ∈ file.segments, IsName segment)
include names

theorem splitAt_text (filled : file.segments ≠ []) : Text.splitAt isSlash file.text = file.segments :=
  Text.splitAt_join '/' rfl filled fun segment member => (names segment member).unslashed

theorem backslash_not_mem_text : '\\' ∉ file.text.toList := by
  intro member
  have letters : file.text.toList = ['/'].intercalate (file.segments.map String.toList) :=
    Text.toList_join_singleton '/' file.segments
  rw [letters] at member
  rcases Text.mem_intercalate member with mark | ⟨part, listed, within⟩
  · cases mark
  · obtain ⟨segment, here, rfl⟩ := List.mem_map.1 listed
    have plain := (names segment here).unslashed _ within
    cases plain

theorem split_eq_splitAt (s : String) (within : s.toList ⊆ file.text.toList) :
    Text.split '/' s = Text.splitAt isSlash s := by
  refine congrArg (List.map String.ofList) (Text.pieces_congr fun c member => ?_)
  have plain : c ≠ '\\' := fun same => backslash_not_mem_text names (same ▸ within member)
  simp [isSlash, plain]

theorem split_text (filled : file.segments ≠ []) : Text.split '/' file.text = file.segments := by
  rw [split_eq_splitAt names _ fun _ => id, splitAt_text names filled]

theorem text_ne_empty (filled : file.segments ≠ []) : file.text ≠ "" := by
  intro empty
  have read := splitAt_text names filled
  rw [empty] at read
  have member : "" ∈ file.segments := by
    rw [← read]
    decide
  exact (names "" member).filled rfl

theorem ofText_text_of_trimmed (trimmed : Text.trim file.text = file.text) : ofText file.text = file := by
  refine eq_of_segments_eq ?_
  by_cases root : file.segments = []
  · rw [text_of_root root, root, ofText_empty]
  · rw [segments_ofText, trimmed, splitAt_text names root, foldl_enter_of_names names, List.nil_append]

/-- Trimming takes away no slash, so no segment can get lost on the way to the same path. -/
theorem trimmed_of_ofText_text (same : ofText file.text = file) : Text.trim file.text = file.text := by
  by_cases root : file.segments = []
  · rw [text_of_root root]
    rfl
  · have within : (Text.trim file.text).toList ⊆ file.text.toList := by
      rw [Text.toList_trim]
      exact (Text.trimBoth_sublist _).subset
    have kept : file.segments.Sublist (Text.split '/' (Text.trim file.text)) := by
      have sub := sublist_foldl_enter [] (Text.splitAt isSlash (Text.trim file.text))
      rwa [← segments_ofText, same, List.nil_append, ← split_eq_splitAt names _ within] at sub
    have slashes : (Text.trimBoth file.text.toList).countP (· == '/') = file.text.toList.countP (· == '/') :=
      Text.countP_trimBoth (fun c blank => by
        rw [beq_eq_false_iff_ne]
        rintro rfl
        cases blank) _
    have length : file.segments.length = (Text.split '/' (Text.trim file.text)).length := by
      rw [← split_text names root]
      simp only [Text.split, Text.splitAt, List.length_map, Text.length_pieces, Text.toList_trim, slashes]
    exact Text.split_inj ((kept.eq_of_length length).symm.trans (split_text names root).symm)

theorem ofText_text_eq_iff : ofText file.text = file ↔ Text.trim file.text = file.text :=
  ⟨trimmed_of_ofText_text names, ofText_text_of_trimmed names⟩

theorem inDir_dir_fileName : inDir file.dir file.fileName = ofText file.text := by
  rcases List.eq_nil_or_concat file.segments with empty | ⟨folders, name, parts⟩
  · have named : file.fileName = file.text ∧ file.dir = "" := by
      rw [fileName, text, dir, empty]
      exact ⟨rfl, rfl⟩
    rw [inDir, if_pos named.2, named.1]
  · rw [List.concat_eq_append] at parts
    have last : file.fileName = name := by simp [fileName, parts]
    have front : file.dir = Text.join "/" folders := by simp [dir, parts]
    have alone : Text.join "/" [name] = name := String.intercalate_singleton
    by_cases root : folders = []
    · subst root
      have whole : file.text = name := by rw [text, parts, List.nil_append, alone]
      have here : file.dir = "" := front.trans rfl
      rw [inDir, if_pos here, last, whole]
    · have whole : file.text = file.dir ++ "/" ++ file.fileName := by
        rw [text, parts, front, last, Text.join, String.intercalate_append_of_ne_nil root (by simp)]
        exact congrArg (_ ++ ·) alone
      have named : file.dir ≠ "" := by
        rw [front]
        have within : ∀ segment ∈ folders, IsName segment := fun segment member =>
          names segment (by rw [parts]; exact List.mem_append_left _ member)
        exact @text_ne_empty ⟨folders⟩ within root
      rw [inDir, if_neg named, whole]

end Names

/-- What is read has only names on its way. It is read again as the same file, and found again in its own
folder, exactly where its text does not begin or end with a blank. -/
theorem ofText_text_iff_trimmed (s : String) :
    let file := ofText s
    (file.text ≠ "" → ∀ segment ∈ Text.split '/' file.text,
        segment ≠ "" ∧ segment ≠ "." ∧ segment ≠ "..") ∧
      '\\' ∉ file.text.toList ∧
      (ofText file.text = file ↔ Text.trim file.text = file.text) ∧
      (inDir file.dir file.fileName = file ↔ Text.trim file.text = file.text) := by
  intro file
  have names := isName_ofText s
  refine ⟨fun filled segment member => ?_, backslash_not_mem_text names, ofText_text_eq_iff names, ?_⟩
  · have some' : file.segments ≠ [] := fun root => filled (text_of_root root)
    rw [split_text names some'] at member
    have name := names segment member
    exact ⟨name.filled, name.ne_here, name.ne_above⟩
  · rw [inDir_dir_fileName names]
    exact ofText_text_eq_iff names

theorem ofText_text_iff_trimmed_steps :
    let file := ofText " .\\My Pkg/Include/..//Foo.inf/. "
    file.text = "My Pkg/Foo.inf" ∧ "My Pkg" ∈ Text.split '/' file.text ∧
      ("My Pkg" ≠ "" ∧ "My Pkg" ≠ "." ∧ "My Pkg" ≠ "..") ∧ '\\' ∉ file.text.toList ∧
      ofText file.text = file ∧ inDir file.dir file.fileName = file := by
  intro file
  obtain ⟨names, plain, again, found⟩ := ofText_text_iff_trimmed " .\\My Pkg/Include/..//Foo.inf/. "
  have shown : file.text = "My Pkg/Foo.inf" := by decide +kernel
  have member : "My Pkg" ∈ Text.split '/' file.text := by decide +kernel
  have trimmed : Text.trim file.text = file.text := by decide +kernel
  have filled : file.text ≠ "" := by decide +kernel
  exact ⟨shown, member, names filled "My Pkg" member, plain, again.2 trimmed, found.2 trimmed⟩

/-- The blank is not at the end of the text that is trimmed, but of the path that is left. -/
theorem ofText_text_leadingBlank :
    let file := ofText "./ Pkg/Foo.inf"
    file.text = " Pkg/Foo.inf" ∧ ofText file.text ≠ file ∧ file.dir = " Pkg" ∧ file.fileName = "Foo.inf" ∧
      inDir file.dir file.fileName ≠ file := by
  decide +kernel

end UefiBuild.SourcePath
