import ElixirClient.Proofs.Naming.Identifier
import ElixirClient.Proofs.PathTemplate.Arguments
import ElixirClient.Proofs.PathTemplate.Parts
import ElixirClient.Proofs.Source.Interpolation

/-!
# The url of an operation

The path of an operation survives all that is done to it: it is taken apart at its placeholders,
these become arguments, and the parts are written as an interpolated text. `url_reads_back` reads
this text again and puts the raw names of the parameters in the place of their arguments: the path
comes back, character by character.
-/

namespace ElixirClient

open Naming (variableName)
open Source (LiteralItem)

namespace Operation

/-- The path parameter that an argument stands for, as a placeholder of the path. -/
def placeholderOf (operation : Operation) (argument : String) : List Char :=
  match operation.pathParams.find? fun param => param.argument = argument with
  | some param => '\x7b' :: param.name.plain.toList ++ ['\x7d']
  | none => []

/-- What a thing read from a url was in the path. -/
def restore (operation : Operation) : LiteralItem → List Char
  | .char c => [c]
  | .code source => operation.placeholderOf (String.ofList source)

variable {operation : Operation} {arguments : Arguments}

/-! ## Arguments of placeholders -/

/-- The argument of a declared name. -/
theorem lookup_pathArguments (h : operation.pathArguments = .ok arguments) {raw : String}
    (hraw : raw ∈ arguments.map Prod.fst) : arguments.lookup raw = some (variableName raw) := by
  obtain ⟨_, _, _, rfl⟩ := pathArguments_eq_ok.mp h
  -- the first entry of the name decides, and the argument depends on nothing but the name
  generalize operation.pathParams = params at hraw
  induction params with
  | nil => cases hraw
  | cons param rest ih =>
    by_cases hparam : raw = param.name.plain
    · rw [hparam]
      exact List.lookup_cons_self
    · have hother : (raw == param.entry.1) = false := beq_eq_false_iff_ne.mpr hparam
      rw [List.map_cons, List.lookup_cons, hother]
      rw [List.map_cons, List.map_cons, List.mem_cons] at hraw
      exact ih (hraw.resolve_left hparam)

theorem exists_param (h : operation.pathArguments = .ok arguments) {raw : String}
    (hraw : raw ∈ arguments.map Prod.fst) :
    ∃ param ∈ operation.pathParams, param.name.plain = raw ∧ param.argument = variableName raw := by
  obtain ⟨_, _, _, rfl⟩ := pathArguments_eq_ok.mp h
  rw [List.map_map] at hraw
  obtain ⟨param, hparam, rfl⟩ := List.mem_map.mp hraw
  exact ⟨param, hparam, rfl, rfl⟩

/-- No two parameters have one argument. -/
theorem countP_argument (h : operation.pathArguments = .ok arguments) {raw : String}
    (hraw : raw ∈ arguments.map Prod.fst) :
    operation.pathParams.countP (fun param => param.argument = variableName raw) = 1 := by
  obtain ⟨_, _, hnodup, _⟩ := pathArguments_eq_ok.mp h
  obtain ⟨param, hparam, _, hargument⟩ := exists_param h hraw
  have hcount := List.count_eq_one_of_mem hnodup (List.mem_map.mpr ⟨param, hparam, hargument⟩)
  rw [List.count, List.countP_map] at hcount
  rw [← hcount]
  exact List.countP_congr fun other _ => by simp

theorem placeholderOf_variableName (h : operation.pathArguments = .ok arguments) {raw : String}
    (hraw : raw ∈ arguments.map Prod.fst) :
    operation.placeholderOf (variableName raw) = '\x7b' :: raw.toList ++ ['\x7d'] := by
  obtain ⟨_, _, hnodup, _⟩ := pathArguments_eq_ok.mp h
  obtain ⟨param, hparam, hname, hargument⟩ := exists_param h hraw
  unfold placeholderOf
  split
  · next other hfound =>
    have hother := List.find?_some hfound
    replace hother : other.argument = variableName raw := of_decide_eq_true hother
    -- arguments are all different, so the parameter that is found is the one of the name
    have hsame := List.inj_on_of_nodup_map hnodup (List.mem_of_find?_eq_some hfound) hparam
      (hother.trans hargument.symm)
    rw [hsame, hname]
  · next hnone => exact absurd (decide_eq_true hargument) (List.find?_eq_none.mp hnone param hparam)

/-! ## Parts of the path -/

section Parts

variable {path : String} (harguments : operation.pathArguments = .ok arguments)
  (hcheck : operation.checkPath path arguments = .ok ())

include hcheck in
theorem declared_of_mem_ofPath {name : List Char}
    (h : .placeholder name ∈ PathPart.ofPath path.toList) :
    String.ofList name ∈ arguments.map Prod.fst :=
  (checkPath_eq_ok.mp hcheck).1 _ (List.mem_filterMap.mpr ⟨_, h, rfl⟩)

include harguments hcheck in
theorem partPiece_placeholder {name : List Char}
    (h : .placeholder name ∈ PathPart.ofPath path.toList) :
    partPiece arguments (.placeholder name) = .var (variableName (String.ofList name)) := by
  rw [partPiece, lookup_pathArguments harguments (declared_of_mem_ofPath hcheck h),
    Option.getD_some]

theorem isVar_partPiece (part : PathPart) :
    (partPiece arguments part).isVar = part.placeholder?.isSome := by
  cases part <;> rfl

/-- Texts stand apart in a url, as they do in the path. -/
theorem separate_pieces (path : List Char) :
    Piece.Separate ((PathPart.ofPath path).map (partPiece arguments)) := by
  refine (List.isChain_map _).mpr ((PathPart.separate_ofPath path).imp fun a b h => ?_)
  rwa [isVar_partPiece, isVar_partPiece]

include harguments hcheck in
/-- No argument holds a brace. -/
theorem closed_pieces :
    Piece.Closed ((PathPart.ofPath path.toList).map (partPiece arguments)) := by
  intro argument hargument hbrace
  obtain ⟨part, hpart, hpiece⟩ := List.mem_map.mp hargument
  cases part with
  | text cs => cases hpiece
  | placeholder name =>
    -- a placeholder is declared, so it became an identifier, and no identifier holds a brace
    rw [partPiece_placeholder harguments hcheck hpart] at hpiece
    obtain rfl := Piece.var.inj hpiece
    exact absurd (Naming.variableName_alphabet _ _ hbrace) (by decide)

include harguments hcheck in
/-- Code that is read from a part is the argument of one parameter. -/
theorem countP_of_mem_items {part : PathPart} (hpart : part ∈ PathPart.ofPath path.toList)
    {source : List Char} (h : .code source ∈ (partPiece arguments part).items) :
    operation.pathParams.countP (fun param => param.argument = String.ofList source) = 1 := by
  cases part with
  | text cs =>
    obtain ⟨c, _, hc⟩ := List.mem_map.mp h
    cases hc
  | placeholder name =>
    rw [partPiece_placeholder harguments hcheck hpart] at h
    rw [Piece.items, List.mem_singleton] at h
    rw [LiteralItem.code.inj h, String.ofList_toList]
    exact countP_argument harguments (declared_of_mem_ofPath hcheck hpart)

include harguments hcheck in
/-- What is read from a part is restored to what stands in the path. -/
theorem flatMap_restore_items {part : PathPart} (hpart : part ∈ PathPart.ofPath path.toList) :
    (partPiece arguments part).items.flatMap operation.restore = part.source := by
  cases part with
  | text cs =>
    show ((String.ofList cs).toList.map LiteralItem.char).flatMap operation.restore = cs
    rw [String.toList_ofList, List.flatMap_map]
    exact List.flatMap_singleton' cs
  | placeholder name =>
    rw [partPiece_placeholder harguments hcheck hpart]
    show operation.placeholderOf (String.ofList (variableName _).toList) ++ [] = _
    rw [String.ofList_toList, List.append_nil, placeholderOf_variableName harguments
      (declared_of_mem_ofPath hcheck hpart), String.toList_ofList]
    rfl

end Parts

/-- **Urls read back.** Whenever an operation has a url, the text of the url is one whole string
literal. All code in it names the argument of exactly one path parameter, and with the raw names of
the parameters in the place of their arguments it is the path of the operation. -/
theorem url_reads_back {pieces : List Piece} (h : operation.url = .ok pieces) :
    ∃ path text items, operation.path = .str path ∧
      Source.exprText (.interpolation pieces) = .ok text ∧
      LiteralItem.readLiteral text.toList = some (items, []) ∧
      (∀ source, .code source ∈ items →
        operation.pathParams.countP (fun param => param.argument = String.ofList source) = 1) ∧
      items.flatMap operation.restore = path.toList := by
  obtain ⟨path, arguments, hpath, harguments, hcheck, rfl⟩ := url_eq_ok.mp h
  refine ⟨path, _, ((PathPart.ofPath path.toList).map (partPiece arguments)).flatMap Piece.items,
    hpath, by rw [Source.exprText], ?_, ?_, ?_⟩
  · have hread := Source.readLiteral_interpolationText (separate_pieces path.toList)
      (closed_pieces harguments hcheck) []
    rwa [List.append_nil] at hread
  · -- code stands in one of the parts, and there it is the argument of a placeholder
    intro source hsource
    rw [List.flatMap_map] at hsource
    obtain ⟨part, hpart, hsource⟩ := List.mem_flatMap.mp hsource
    exact countP_of_mem_items harguments hcheck hpart hsource
  · rw [List.flatMap_map, List.flatMap_assoc]
    calc (PathPart.ofPath path.toList).flatMap
          (fun part => (partPiece arguments part).items.flatMap operation.restore)
        = (PathPart.ofPath path.toList).flatMap PathPart.source :=
          List.flatMap_congr fun part hpart => flatMap_restore_items harguments hcheck hpart
      _ = path.toList := PathPart.flatMap_source_ofPath path.toList

/-- An operation whose path has a `#` in front of a placeholder and a brace that opens nothing. -/
def strayBraces : Operation :=
  { functionName := .str "show", moduleName := .str "Users", method := "get"
    path := .str "/#\x7buser-id\x7d/\x7b"
    pathParams := [⟨.str "user-id", .primitive .string⟩] }

theorem url_strayBraces :
    strayBraces.url = .ok [.text "/#", .var "user_id", .text "/\x7b"] := by
  decide +kernel

theorem strayBraces_reads_back :
    strayBraces.url = .ok [.text "/#", .var "user_id", .text "/\x7b"] ∧
    ∃ path text items, strayBraces.path = .str path ∧
      Source.exprText (.interpolation [.text "/#", .var "user_id", .text "/\x7b"]) = .ok text ∧
      LiteralItem.readLiteral text.toList = some (items, []) ∧
      (∀ source, .code source ∈ items →
        strayBraces.pathParams.countP (fun param => param.argument = String.ofList source) = 1) ∧
      items.flatMap strayBraces.restore = path.toList :=
  ⟨url_strayBraces, url_reads_back url_strayBraces⟩

end Operation

end ElixirClient
