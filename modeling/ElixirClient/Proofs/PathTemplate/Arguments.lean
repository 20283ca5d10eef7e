import Mathlib.Data.List.Nodup
import ElixirClient.Proofs.Fault.Loops
import ElixirClient.Proofs.Json.Sorting
import ElixirClient.Proofs.PathTemplate.Division

/-!
# Arguments of path parameters

When an operation has arguments for its path parameters, and which: `pathArguments_eq_ok` reads the
loop over the parameters as conditions on all of them. `checkPath_eq_ok` does the same for the check
of the path against them. After it the declared names are the names that the path holds, so looking
for them divides the path as scanning it does (`urlParts_eq`), and a url that exists comes with
everything that its parts rest on (`url_eq_ok`).
-/

namespace ElixirClient

open Naming (variableName)

namespace Param

/-- The name of the argument of a path parameter. -/
def argument (param : Param) : String := variableName param.name.plain

/-- The raw name of a path parameter with the name of its argument. -/
def entry (param : Param) : String × String := (param.name.plain, param.argument)

end Param

namespace Operation

variable {operation : Operation}

theorem addArgument_eq_ok {done done' : Arguments} {param : Param} :
    operation.addArgument done param = .ok done' ↔
      param.name.IsText ∧ param.argument ∉ reservedArguments ∧
        param.argument ∉ done.map Prod.snd ∧ done' = done ++ [param.entry] := by
  unfold addArgument
  obtain ⟨name, type⟩ := param
  cases name with
  | str raw =>
    show (if reservedArguments.contains (variableName raw) = true then _ else _) = _ ↔ _ ∧
      variableName raw ∉ _ ∧ variableName raw ∉ _ ∧ done' = done ++ [(raw, variableName raw)]
    have htext : (Json.str raw).IsText := ⟨raw, rfl⟩
    split
    · next hreserved => exact ⟨nofun, fun h => absurd (List.contains_iff_mem.mp hreserved) h.2.1⟩
    · next hreserved =>
      rw [List.contains_iff_mem] at hreserved
      -- the search for an earlier argument of that name finds one exactly if there is one
      split
      · next first other hfound =>
        have hmem := List.mem_of_find?_eq_some hfound
        have hsame := List.find?_some hfound
        replace hsame : other = variableName raw := of_decide_eq_true hsame
        exact ⟨nofun, fun h => absurd (List.mem_map.mpr ⟨_, hmem, hsame⟩) h.2.2.1⟩
      · next hfound =>
        have hnew : variableName raw ∉ done.map Prod.snd := by
          intro h
          obtain ⟨entry, hentry, hsame⟩ := List.mem_map.mp h
          exact List.find?_eq_none.mp hfound entry hentry (decide_eq_true hsame)
        constructor
        · intro h
          exact ⟨htext, hreserved, hnew, (Except.ok.inj h).symm⟩
        · rintro ⟨_, _, _, rfl⟩
          rfl
  | _ =>
    constructor
    · nofun
    · rintro ⟨⟨text, h⟩, _⟩
      cases h

/-- The loop over the parameters, from any arguments on that have different names. -/
theorem foldlM_addArgument {params : List Param} {done arguments : Arguments}
    (hdone : (done.map Prod.snd).Nodup) :
    params.foldlM operation.addArgument done = .ok arguments ↔
      (∀ param ∈ params, param.name.IsText) ∧ (∀ param ∈ params, param.argument ∉ reservedArguments) ∧
        (done.map Prod.snd ++ params.map Param.argument).Nodup ∧
        arguments = done ++ params.map Param.entry := by
  induction params generalizing done with
  | nil =>
    rw [List.foldlM_nil, List.map_nil, List.map_nil, List.append_nil, List.append_nil]
    constructor
    · intro h
      exact ⟨nofun, nofun, hdone, (Except.ok.inj h).symm⟩
    · rintro ⟨_, _, _, rfl⟩
      rfl
  | cons param rest ih =>
    have hmap : (done ++ [param.entry]).map Prod.snd = done.map Prod.snd ++ [param.argument] :=
      List.map_append
    rw [List.foldlM_cons, bind_eq_ok, List.forall_mem_cons, List.forall_mem_cons, List.map_cons,
      List.map_cons]
    constructor
    · rintro ⟨next, hstep, hrest⟩
      obtain ⟨htext, hfree, hnew, rfl⟩ := addArgument_eq_ok.mp hstep
      have hnext : ((done ++ [param.entry]).map Prod.snd).Nodup := by
        rw [hmap, List.nodup_append]
        refine ⟨hdone, List.nodup_singleton _, fun a ha b hb hab => hnew ?_⟩
        rwa [← List.mem_singleton.mp hb, ← hab]
      obtain ⟨htexts, hfrees, hnodup, hargs⟩ := (ih hnext).mp hrest
      rw [hmap, List.append_assoc, List.singleton_append] at hnodup
      rw [List.append_assoc, List.singleton_append] at hargs
      exact ⟨⟨htext, htexts⟩, ⟨hfree, hfrees⟩, hnodup, hargs⟩
    · rintro ⟨⟨htext, htexts⟩, ⟨hfree, hfrees⟩, hnodup, hargs⟩
      have hnodup' := hnodup
      -- the loop goes on from the arguments so far and the first one of the rest
      rw [← List.singleton_append, ← List.append_assoc, ← hmap] at hnodup'
      refine ⟨done ++ [param.entry], addArgument_eq_ok.mpr ⟨htext, hfree, ?_, rfl⟩, ?_⟩
      · exact fun h => (List.nodup_append.mp hnodup).2.2 _ h _ List.mem_cons_self rfl
      · rw [ih (List.nodup_append.mp hnodup').1]
        rw [← List.singleton_append, ← List.append_assoc] at hargs
        exact ⟨htexts, hfrees, hnodup', hargs⟩

/-- The path parameters have arguments exactly if their names are text and the names that are made
of these are all different and none of them reserved. -/
theorem pathArguments_eq_ok {arguments : Arguments} :
    operation.pathArguments = .ok arguments ↔
      (∀ param ∈ operation.pathParams, param.name.IsText) ∧
        (∀ param ∈ operation.pathParams, param.argument ∉ reservedArguments) ∧
        (operation.pathParams.map Param.argument).Nodup ∧
        arguments = operation.pathParams.map Param.entry := by
  unfold pathArguments
  rw [foldlM_addArgument (by rw [List.map_nil]; exact List.nodup_nil), List.map_nil, List.nil_append,
    List.nil_append]

theorem isNone_lookup_iff {arguments : Arguments} {name : String} :
    (arguments.lookup name).isNone = true ↔ name ∉ arguments.map Prod.fst := by
  rw [Option.isNone_iff_eq_none, List.lookup_eq_none_iff]
  constructor
  · intro h hmem
    obtain ⟨entry, hentry, rfl⟩ := List.mem_map.mp hmem
    exact absurd (h entry hentry) (by rw [bne_self_eq_false]; nofun)
  · intro h entry hentry
    exact bne_iff_ne.mpr fun hsame => h (List.mem_map.mpr ⟨entry, hentry, hsame.symm⟩)

theorem checkPath_eq_ok {path : String} {arguments : Arguments} :
    operation.checkPath path arguments = .ok () ↔
      (∀ name ∈ placeholders path, name ∈ arguments.map Prod.fst) ∧
        ∀ entry ∈ arguments, entry.1 ∈ placeholders path := by
  unfold checkPath
  simp only
  split
  · next name hfound =>
    have hmem := List.mem_of_find?_eq_some hfound
    have hnone := List.find?_some hfound
    exact ⟨nofun, fun h => absurd (h.1 name hmem) (isNone_lookup_iff.mp hnone)⟩
  · next hholes =>
    -- the first search has found nothing, so every placeholder is declared
    have hdeclared : ∀ name ∈ placeholders path, name ∈ arguments.map Prod.fst := by
      intro name hname
      by_contra h
      exact List.find?_eq_none.mp hholes name hname (isNone_lookup_iff.mpr h)
    split
    · next raw other hfound =>
      have hmem := List.mem_of_find?_eq_some hfound
      have hunused := List.find?_some hfound
      rw [Bool.not_eq_true', ← Bool.not_eq_true, List.contains_iff_mem] at hunused
      exact ⟨nofun, fun h => absurd (h.2 _ hmem) hunused⟩
    · next hentries =>
      refine ⟨fun _ => ⟨hdeclared, fun entry hentry => ?_⟩, fun _ => rfl⟩
      have hused := List.find?_eq_none.mp hentries entry hentry
      rwa [Bool.not_eq_true, Bool.not_eq_false', List.contains_iff_mem] at hused

/-! ## The second pass over the path -/

theorem mem_placeholders {path raw : String} :
    raw ∈ placeholders path ↔ PathPart.Holds path.toList raw.toList := by
  rw [← PathPart.mem_ofPath_iff, placeholders, List.mem_filterMap]
  constructor
  · rintro ⟨part, hpart, hraw⟩
    cases part with
    | text cs => cases hraw
    | placeholder name =>
      obtain rfl : String.ofList name = raw := Option.some.inj hraw
      rwa [String.toList_ofList]
  · intro h
    exact ⟨_, h, by rw [PathPart.placeholder?, Option.map_some, String.ofList_toList]⟩

/-- A path that passed the check holds the declared names and no others. -/
theorem holds_iff_declared {path : String} {arguments : Arguments}
    (hcheck : operation.checkPath path arguments = .ok ()) (name : List Char) :
    name ∈ arguments.map (fun entry => entry.1.toList) ↔ PathPart.Holds path.toList name := by
  obtain ⟨hdeclared, hused⟩ := checkPath_eq_ok.mp hcheck
  rw [List.mem_map]
  constructor
  · rintro ⟨entry, hentry, rfl⟩
    exact mem_placeholders.mp (hused entry hentry)
  · intro h
    rw [← String.toList_ofList (l := name)] at h
    obtain ⟨entry, hentry, hraw⟩ := List.mem_map.mp (hdeclared _ (mem_placeholders.mpr h))
    exact ⟨entry, hentry, by rw [hraw, String.toList_ofList]⟩

/-- The url is made by a second pass, which looks for declared names and goes over other braces. It
finds what the first pass did. -/
theorem urlParts_eq {path : String} {arguments : Arguments}
    (hcheck : operation.checkPath path arguments = .ok ()) :
    urlParts path arguments = PathPart.ofPath path.toList := by
  rw [← PathPart.divideAt_eq_ofPath (holds_iff_declared hcheck), urlParts]
  split
  · next hnone =>
    -- no placeholder is left to find, and the path is one text
    rw [List.isEmpty_iff.mp hnone, List.map_nil, PathPart.divideAt_nil, List.append_nil,
      PathPart.consText, List.reverse_reverse]
    simp only [List.isEmpty_reverse, List.isEmpty_iff, String.toList_eq_nil_iff]
  · rfl

theorem url_eq_ok {pieces : List Piece} :
    operation.url = .ok pieces ↔ ∃ path arguments, operation.path = .str path ∧
      operation.pathArguments = .ok arguments ∧
      operation.checkPath path arguments = .ok () ∧
      pieces = (PathPart.ofPath path.toList).map (partPiece arguments) := by
  have hpath {path : String} : operation.pathText = .ok path ↔ operation.path = .str path := by
    unfold pathText
    split
    · next text h =>
      rw [h]
      exact ⟨fun h => congrArg _ (Except.ok.inj h), fun h => congrArg _ (Json.str.inj h)⟩
    · next h => exact ⟨nofun, fun h' => absurd h' (h path)⟩
  unfold url
  rw [bind_eq_ok]
  constructor
  · rintro ⟨arguments, harguments, h⟩
    obtain ⟨path, htext, h⟩ := bind_eq_ok.mp h
    -- the check has passed, so the scan for declared names divides the path as its placeholders do
    obtain ⟨_, hcheck, h⟩ := bind_eq_ok.mp h
    have hpieces := (Except.ok.inj h).symm
    rw [urlParts_eq hcheck] at hpieces
    exact ⟨path, arguments, hpath.mp htext, harguments, hcheck, hpieces⟩
  · rintro ⟨path, arguments, htext, harguments, hcheck, rfl⟩
    refine ⟨arguments, harguments, bind_eq_ok.mpr ⟨path, hpath.mpr htext, ?_⟩⟩
    exact bind_eq_ok.mpr ⟨(), hcheck, by rw [urlParts_eq hcheck]; rfl⟩

end Operation

end ElixirClient
