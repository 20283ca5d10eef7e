import ElixirClient.Layout
import ElixirClient.Proofs.Naming.Identifier

/-!
# Where the file of a name lies

The path of a name is put together from its words, so what tells two files apart is known of the
names alone: `segments`, the directories and the last name of the path, and `isRooted`, whether it
begins with a slash and so leaves the directory that it is put below. `filePath_underscore` says that
the file of a name is at the `place` that these make, and `place_inj` that two names below one
directory share a place only if they share their segments.
-/

namespace ElixirClient

/-! ## Paths of names -/

namespace Naming

theorem dot_notMem_underscoreSegment {segment : List Char} (h : '.' ∉ segment) :
    '.' ∉ underscoreSegment segment := by
  intro hdot
  rcases mem_partWords (Text.mem_of_mem_lower (by decide) (by decide) hdot) with hdot | hdot
  · rcases mem_partAcronyms hdot with hdot | hdot
    · exact h hdot
    · exact absurd hdot (by decide)
  · exact absurd hdot (by decide)

/-- The dots of a name all become slashes. -/
theorem dot_notMem_underscoreChars (cs : List Char) : '.' ∉ underscoreChars cs := by
  intro hdot
  obtain ⟨segment, hsegment, hdot⟩ := (mem_underscoreChars hdot).resolve_left (by decide)
  exact dot_notMem_underscoreSegment (fun h => (Text.mem_of_mem_splitAt hsegment h).2 rfl) hdot

end Naming

namespace Layout

/-- Whether the path of a name begins with a slash. -/
def isRooted (name : String) : Bool := (Naming.underscoreChars name.toList).head? = some '/'

/-- The directories in the path of a name, and its last segment. Empty directories do not count. -/
def segments (name : String) : List (List Char) × List Char :=
  let parts := Text.splitAt '/' (Naming.underscoreChars name.toList)
  (parts.dropLast.filter (· ≠ []), parts.getLast?.getD [])

/-- The path of the file of a name below the directory it belongs to. -/
def fileNames (name : String) : Path :=
  (segments name).1.map String.ofList ++ [String.ofList ((segments name).2 ++ ['.', 'e', 'x'])]

/-- Where the file of a name lies that belongs to a directory. -/
def place (directory : Path) (name : String) : Path :=
  if isRooted name then "" :: fileNames name else directory ++ fileNames name

theorem fileNames_inj {a b : String} : fileNames a = fileNames b ↔ segments a = segments b := by
  constructor
  · intro h
    obtain ⟨hdirectories, hlast⟩ := List.append_inj' h rfl
    have hlast' := String.ofList_injective (List.cons.inj hlast).1
    have hinj : Function.Injective String.ofList := fun _ _ h => String.ofList_injective h
    exact Prod.ext (List.map_injective_iff.mpr hinj hdirectories) (List.append_cancel_right hlast')
  · intro h
    rw [fileNames, fileNames, h]

/-- Below one directory, names that do not leave it share a place exactly if they share segments. -/
theorem place_inj {directory : Path} {a b : String} (ha : isRooted a = false)
    (hb : isRooted b = false) : place directory a = place directory b ↔ segments a = segments b := by
  rw [place, place, ha, hb, if_neg Bool.false_ne_true, if_neg Bool.false_ne_true,
    List.append_cancel_left_eq, fileNames_inj]

/-- Among the directories of a name none is a dot, so only empty ones are left out. -/
theorem filter_isPlace {name : String} {parts : List (List Char)}
    (hparts : ∀ part ∈ parts, part ∈ Text.splitAt '/' (Naming.underscoreChars name.toList)) :
    parts.filter Path.isPlace = parts.filter (· ≠ []) := by
  refine List.filter_congr fun part hpart => ?_
  have hdot : part ≠ ['.'] := by
    rintro rfl
    have hmem := (Text.mem_of_mem_splitAt (hparts _ hpart) List.mem_cons_self).1
    exact Naming.dot_notMem_underscoreChars name.toList hmem
  rw [Path.isPlace, decide_eq_true hdot, Bool.and_true]

theorem ofString_underscore (name : String) :
    Path.ofString (Naming.underscore name ++ ".ex") =
      if isRooted name then "" :: fileNames name else fileNames name := by
  have hhead : ((Naming.underscoreChars name.toList ++ ['.', 'e', 'x']).head? = some '/') ↔
      isRooted name = true := by
    unfold isRooted
    cases Naming.underscoreChars name.toList with
    | nil => decide
    | cons c rest => exact (decide_eq_true_iff (p := some c = some '/')).symm
  -- the ending holds no slash, so it goes to the last part of the path
  obtain ⟨parts, last, hparts, hsplit⟩ := Text.splitAt_append
    (by decide : '/' ∉ ['.', 'e', 'x']) (Naming.underscoreChars name.toList)
  have hnames : fileNames name =
      ((parts ++ [last ++ ['.', 'e', 'x']]).filter Path.isPlace).map String.ofList := by
    have hlast : Path.isPlace (last ++ ['.', 'e', 'x']) = true := by
      unfold Path.isPlace
      cases last <;> simp
    have hdirectories : parts.filter Path.isPlace = parts.filter (· ≠ []) :=
      filter_isPlace fun part hpart => hparts ▸ List.mem_append_left _ hpart
    rw [List.filter_append, hdirectories, List.filter_cons_of_pos hlast, List.filter_nil,
      List.map_append, fileNames, segments]
    simp only [hparts, List.dropLast_concat, List.getLast?_concat, Option.getD_some]
    rfl
  have htext : (Naming.underscore name ++ ".ex").toList =
      Naming.underscoreChars name.toList ++ ['.', 'e', 'x'] := by
    rw [String.toList_append, Naming.underscore, String.toList_ofList]
    rfl
  unfold Path.ofString Path.ofChars
  simp only
  rw [htext, hsplit, ← hnames]
  exact if_congr hhead rfl rfl

theorem isAbsolute_fileNames (name : String) : Path.isAbsolute (fileNames name) = false := by
  have hne {cs : List Char} (h : cs ≠ []) : some (String.ofList cs) ≠ some "" := by
    intro hempty
    exact h (String.ofList_injective (Option.some.inj hempty))
  refine decide_eq_false ?_
  unfold fileNames
  cases hdirectories : (segments name).1 with
  | nil => exact hne (by simp)
  | cons directory rest =>
    have hmem : directory ∈ (segments name).1 := hdirectories ▸ List.mem_cons_self
    exact hne (of_decide_eq_true (List.mem_filter.mp hmem).2)

theorem filePath_underscore (root : Path) (directory name : String) :
    filePath root (.str directory) (.str ".ex") (Naming.underscore name) =
      .ok (place (root.join (Path.ofString directory)) name) := by
  show Except.ok (Path.join _ (Path.ofString (Naming.underscore name ++ ".ex"))) = _
  rw [ofString_underscore, place]
  unfold Path.join
  split
  · rw [if_pos (show Path.isAbsolute ("" :: fileNames name) = true from rfl)]
  · rw [isAbsolute_fileNames, if_neg Bool.false_ne_true]

end Layout

end ElixirClient
