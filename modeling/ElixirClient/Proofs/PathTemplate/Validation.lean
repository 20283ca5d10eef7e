import ElixirClient.Proofs.Node.Reads
import ElixirClient.Proofs.PathTemplate.Division
import ElixirClient.Proofs.PathTemplate.Fit
import ElixirClient.Proofs.PathTemplate.Url

/-!
# Which paths are accepted

A path and the path parameters match if the parameters are called what the path holds in braces, and
their arguments are free and all different (`Operation.Matches`). This speaks of the path as a text
and not of any scan of it. An operation has a url exactly then, and the url is the one division of
the path, with arguments in the place of placeholders (`url_exact`).
-/

namespace ElixirClient

open Naming (variableName)

/-- A part of a path as it stands in the url. -/
def PathPart.piece : PathPart → Piece
  | .text cs => .text (String.ofList cs)
  | .placeholder name => .var (variableName (String.ofList name))

namespace Operation

/-- The raw names of the path parameters. -/
def declaredNames (operation : Operation) : List String :=
  operation.pathParams.map fun param => param.name.plain

/-- The path parameters are what the path holds, and each can be an argument. -/
structure Matches (operation : Operation) (path : String) : Prop where
  names : ∀ raw, raw ∈ operation.declaredNames ↔ PathPart.Holds path.toList raw.toList
  distinct : (operation.declaredNames.map variableName).Nodup
  free : ∀ raw ∈ operation.declaredNames, variableName raw ≠ "body" ∧ variableName raw ≠ "opts"

/-- The pieces are the path, divided at its placeholders. -/
structure IsUrl (operation : Operation) (path : String) (parts : List PathPart)
    (pieces : List Piece) : Prop where
  only : ∀ others, PathPart.Divides others path.toList ↔ others = parts
  /-- To look for nothing but declared names comes to the same. -/
  declared : PathPart.divideAt (operation.declaredNames.map String.toList) [] path.toList = parts
  eq_map : pieces = parts.map PathPart.piece
  vars : pieces.filterMap Piece.var? =
    (parts.filterMap PathPart.placeholder?).map fun name => variableName (String.ofList name)
  texts : ∀ text, .text text ∈ pieces → text ≠ "" ∧ PathPart.Clear text.toList
  separate : Piece.Separate pieces

variable {operation : Operation} {path : String}

/-- Fitting speaks of placeholders that a scan has found, matching of what the path holds; the scan
finds all of it. -/
theorem fits_iff_matches (hpath : operation.path = .str path) :
    operation.Fits ↔ operation.Matches path := by
  have hplain : operation.path.plain = path := by rw [hpath, Json.plain]
  have harguments : operation.declaredNames.map variableName =
      operation.pathParams.map Param.argument := List.map_map
  have hfree (param : Param) : param.argument ∉ reservedArguments ↔
      variableName param.name.plain ≠ "body" ∧ variableName param.name.plain ≠ "opts" := by
    rw [reservedArguments, List.mem_cons, List.mem_singleton, not_or]
    rfl
  constructor
  · intro h
    refine ⟨fun raw => ?_, harguments ▸ h.distinct, ?_⟩
    · rw [← mem_placeholders, ← hplain]
      refine ⟨fun hraw => ?_, h.declared raw⟩
      obtain ⟨param, hparam, rfl⟩ := List.mem_map.mp hraw
      exact h.used param hparam
    · intro raw hraw
      obtain ⟨param, hparam, rfl⟩ := List.mem_map.mp hraw
      exact (hfree param).mp (h.free param hparam)
  · intro h
    -- the names that `Matches` speaks of are the placeholders that the scan finds
    have hnames (raw : String) : raw ∈ operation.declaredNames ↔ raw ∈ placeholders path :=
      (h.names raw).trans mem_placeholders.symm
    refine ⟨?_, ?_, harguments ▸ h.distinct, ?_⟩
    · rw [hplain]
      exact fun name hname => (hnames name).mpr hname
    · intro param hparam
      rw [hplain]
      exact (hnames _).mp (List.mem_map.mpr ⟨param, hparam, rfl⟩)
    · intro param hparam
      exact (hfree param).mpr (h.free _ (List.mem_map.mpr ⟨param, hparam, rfl⟩))

/-! ## What a url consists of -/

section Pieces

variable {parts : List PathPart}

theorem filterMap_var?_piece (parts : List PathPart) :
    (parts.map PathPart.piece).filterMap Piece.var? =
      (parts.filterMap PathPart.placeholder?).map fun name => variableName (String.ofList name) := by
  rw [List.filterMap_map, List.map_filterMap]
  refine congrFun (congrArg _ (funext fun part => ?_)) parts
  cases part <;> rfl

/-- A text of a url is one of the path: not empty and without placeholders. -/
theorem text_of_mem_pieces (h : ∀ part ∈ parts, part.Sound) {text : String}
    (htext : .text text ∈ parts.map PathPart.piece) : text ≠ "" ∧ PathPart.Clear text.toList := by
  obtain ⟨part, hpart, hpiece⟩ := List.mem_map.mp htext
  cases part with
  | placeholder name => cases hpiece
  | text cs =>
    obtain rfl := Piece.text.inj hpiece
    obtain ⟨hne, hclear⟩ : cs ≠ [] ∧ PathPart.Clear cs := h _ hpart
    rw [String.toList_ofList]
    -- the text is a string here, and was a list of characters in the path
    refine ⟨fun hempty => hne ?_, hclear⟩
    have hnil := congrArg String.toList hempty
    rwa [String.toList_ofList] at hnil

/-- The argument of a placeholder is made of its name. -/
theorem map_partPiece {arguments : Arguments}
    (harguments : operation.pathArguments = .ok arguments)
    (hcheck : operation.checkPath path arguments = .ok ()) :
    (PathPart.ofPath path.toList).map (partPiece arguments) =
      (PathPart.ofPath path.toList).map PathPart.piece := by
  refine List.map_congr_left fun part hpart => ?_
  cases part with
  | text cs => rfl
  | placeholder name => rw [partPiece_placeholder harguments hcheck hpart, PathPart.piece]

end Pieces

/-- A url that there is has been made from the one division of the path. -/
theorem isUrl_of_url (hpath : operation.path = .str path) (hmatch : operation.Matches path)
    {pieces : List Piece} (h : operation.url = .ok pieces) :
    operation.IsUrl path (PathPart.ofPath path.toList) pieces := by
  obtain ⟨text, arguments, htext, harguments, hcheck, rfl⟩ := url_eq_ok.mp h
  obtain rfl : path = text := Json.str.inj (hpath.symm.trans htext)
  have hpieces := map_partPiece harguments hcheck
  refine ⟨fun others => PathPart.divides_iff, ?_, hpieces, ?_, ?_, separate_pieces path.toList⟩
  · -- the declared names are all that the path holds, and so they divide it
    refine PathPart.divideAt_eq_ofPath fun name => ?_
    have hname := hmatch.names (String.ofList name)
    rw [String.toList_ofList] at hname
    rw [← hname, List.mem_map]
    constructor
    · rintro ⟨raw, hraw, rfl⟩
      rwa [String.ofList_toList]
    · exact fun hraw => ⟨_, hraw, String.toList_ofList⟩
  · rw [hpieces, filterMap_var?_piece]
  · rw [hpieces]
    exact fun text => text_of_mem_pieces (PathPart.divides_ofPath path.toList).sound

/-- **Paths are accepted exactly.** An operation has a url exactly if its path parameters match its
path. If they do not, this is a complaint about the configuration. If they do, the url is the path,
divided at its placeholders: there is one way to do so, and to look for declared names finds it. -/
theorem url_exact (hpath : operation.path = .str path)
    (hnames : ∀ param ∈ operation.pathParams, param.name.IsText) :
    ((∃ pieces, operation.url = .ok pieces) ↔ operation.Matches path) ∧
      (¬ operation.Matches path → ∃ cause, operation.url = .error (.configuration cause)) ∧
      ∀ pieces, operation.url = .ok pieces → ∃ parts, operation.IsUrl path parts pieces := by
  have hmatch := fits_iff_matches hpath
  have hfits := (fits_iff ⟨path, hpath⟩ hnames).symm.trans hmatch
  refine ⟨hfits, fun hnot => ?_, fun pieces h => ⟨_, isUrl_of_url hpath (hfits.mp ⟨_, h⟩) h⟩⟩
  rcases url_cases ⟨path, hpath⟩ hnames with ⟨hfit, _⟩ | ⟨_, hcause⟩
  · exact absurd (hmatch.mp hfit) hnot
  · exact hcause

/-- A path with stray braces, a name that begins another one and a name that stands in it twice. -/
def nestedBraces : Operation :=
  { functionName := .str "show", moduleName := .str "Users", method := "get"
    path := .str "/\x7b\x7ba\x7d/\x7bab\x7d\x7b\x7d\x7ba+c\x7d/\x7bx\x7ba\x7d\x7d/\x7ba"
    pathParams := [⟨.str "a", .primitive .string⟩, ⟨.str "a+c", .primitive .string⟩,
      ⟨.str "ab", .primitive .string⟩] }

theorem url_nestedBraces : nestedBraces.url =
    .ok [.text "/\x7b", .var "a", .text "/", .var "ab", .text "\x7b\x7d", .var "a_c",
      .text "/\x7bx", .var "a", .text "\x7d/\x7ba"] := by
  decide +kernel

theorem url_exact_nestedBraces :
    (∀ param ∈ nestedBraces.pathParams, param.name.IsText) ∧
      nestedBraces.Matches "/\x7b\x7ba\x7d/\x7bab\x7d\x7b\x7d\x7ba+c\x7d/\x7bx\x7ba\x7d\x7d/\x7ba" ∧
      ∃ parts, nestedBraces.IsUrl
        "/\x7b\x7ba\x7d/\x7bab\x7d\x7b\x7d\x7ba+c\x7d/\x7bx\x7ba\x7d\x7d/\x7ba" parts
        [.text "/\x7b", .var "a", .text "/", .var "ab", .text "\x7b\x7d", .var "a_c",
          .text "/\x7bx", .var "a", .text "\x7d/\x7ba"] := by
  have hnames : ∀ param ∈ nestedBraces.pathParams, param.name.IsText := by
    simp [nestedBraces, Json.IsText]
  obtain ⟨hmatch, _, hurl⟩ := url_exact rfl hnames
  exact ⟨hnames, hmatch.mp ⟨_, url_nestedBraces⟩, hurl _ url_nestedBraces⟩

end Operation

end ElixirClient
