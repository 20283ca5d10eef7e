import Mathlib
import ElixirClient.Layout
import ElixirClient.Proofs.Fault.Loops
import ElixirClient.Proofs.Source.HeredocReader
import ElixirClient.Proofs.Text.Lines

/-!
# Documentation in files

Documentation is written as a heredoc, and in a file this heredoc is moved below the attribute that
it belongs to: two blanks go in front of its lines, but not of empty ones. Reading takes them away
again, so the text that was documented can be read off the file (`documentation_survives`). A text
with another line end than the line feed would not come back: in a file every line end is a line
feed.
-/

namespace ElixirClient.Layout

open Source (LiteralItem readHeredoc withMargin heredocChars marginedHeredoc)
open Text (FeedsOnly)

theorem toList_intercalate_lines (lines : List (List Char)) :
    ("\n".intercalate (lines.map String.ofList)).toList = Text.joinWith '\n' lines := by
  induction lines with
  | nil => rfl
  | cons line lines ih =>
    cases lines with
    | nil => rw [List.map_cons, List.map_nil, String.intercalate_singleton, String.toList_ofList,
        Text.joinWith]
    | cons next lines =>
      rw [List.map_cons] at ih
      rw [List.map_cons, List.map_cons, String.intercalate_cons_cons, String.toList_append,
        String.toList_append, ih, String.toList_ofList, Text.joinWith_cons (List.cons_ne_nil _ _),
        List.append_assoc]
      rfl

/-- The first line of a block is indented in any case, all others if there is anything on them. -/
theorem toList_indentBlock {s : String} (h : FeedsOnly s.toList) {first : List Char}
    {rest : List (List Char)} (hs : Text.splitAt '\n' s.toList = first :: rest) :
    (indentBlock s).toList = Text.joinWith '\n' ((' ' :: ' ' :: first) :: rest.map withMargin) := by
  unfold indentBlock
  simp only [Text.map_content_lines h, hs]
  exact toList_intercalate_lines _

/-- The line that a heredoc of documentation begins on. -/
def opening (tag : String) : List Char := "  @".toList ++ tag.toList ++ [' ']

/-- The inside of documentation stands at the margin, and so do the marks that end it. -/
theorem toList_indentBlock_documentation {tag doc text : String}
    (htag : ∀ c ∈ tag.toList, Text.isLineEnd c = false) (hdoc : FeedsOnly doc.toList)
    (h : Source.documentation tag ⟨.str doc⟩ = .ok text) :
    (indentBlock text).toList =
      opening tag ++ '"' :: '"' :: '"' :: '\n' :: marginedHeredoc doc.toList := by
  have htext : text.toList = ('@' :: tag.toList ++ [' ', '"', '"', '"']) ++
      '\n' :: (heredocChars doc.toList ++ '\n' :: ['"', '"', '"']) := by
    rw [← Except.ok.inj h, Source.heredoc]
    simp [String.toList_append, String.toList_ofList]
  have hfeed : '\n' ∉ '@' :: tag.toList ++ [' ', '"', '"', '"'] := by
    have hin : '\n' ∉ tag.toList := fun hmem => absurd (htag _ hmem) (by decide)
    simpa using hin
  -- no line ends but by a line feed: not in the tag, not in the text, and escaping adds backslashes
  -- only
  have hfeeds : FeedsOnly text.toList := by
    intro c hc hend
    rw [htext] at hc
    simp only [List.mem_append, List.mem_cons, List.not_mem_nil, or_false] at hc
    rcases hc with ((rfl | hc) | rfl | rfl | rfl | rfl) | rfl | hc | rfl | rfl | rfl | rfl
    all_goals first
      | rfl
      | exact absurd hend (by decide)
      | skip
    · exact absurd hend (by simp [htag c hc])
    · rcases Source.mem_of_mem_heredocChars hc with hc | rfl
      · exact hdoc c hc hend
      · exact absurd hend (by decide)
  -- the lines are the opening one, the escaped text's own, and the closing marks
  have hsplit : Text.splitAt '\n' text.toList = ('@' :: tag.toList ++ [' ', '"', '"', '"']) ::
      (Text.splitAt '\n' (heredocChars doc.toList) ++ [['"', '"', '"']]) := by
    rw [htext, Text.splitAt_append_cons hfeed, Text.splitAt_append_separator]
    rfl
  rw [toList_indentBlock hfeeds hsplit, Text.joinWith_cons (by simp), List.map_append]
  simp [opening, marginedHeredoc, withMargin]

/-! ## Files -/

/-- The documentation stands in the file, on lines of its own and below its attribute, and reading
it ends where it ends and gives the text and a line feed. -/
def Documents (file tag doc : String) : Prop :=
  ∃ text before block behind, Source.documentation tag ⟨.str doc⟩ = .ok text ∧
    (indentBlock text).toList = opening tag ++ block ∧
    file.toList = before ++ '\n' :: (opening tag ++ block ++ '\n' :: behind) ∧
    ∀ rest, readHeredoc (block ++ rest) = some ((doc.toList ++ ['\n']).map LiteralItem.char, rest)

/-- A block that stands on lines of its own in a file documents there, whatever is in front of it
and behind it. -/
theorem documents_of_eq {file tag doc text : String} {before behind : List Char}
    (htag : ∀ c ∈ tag.toList, Text.isLineEnd c = false) (hdoc : FeedsOnly doc.toList)
    (h : Source.documentation tag ⟨.str doc⟩ = .ok text)
    (hfile : file.toList = before ++ '\n' :: ((indentBlock text).toList ++ '\n' :: behind)) :
    Documents file tag doc := by
  have hblock := toList_indentBlock_documentation htag hdoc h
  refine ⟨text, before, _, behind, h, hblock, ?_, fun rest => ?_⟩
  · rw [hfile, hblock]
  · exact Source.readHeredoc_heredocChars doc.toList rest

theorem operationText_eq_ok {artifact : OperationArtifact} {text : String}
    (h : operationText artifact = .ok text) : ∃ doc behind, Source.docText artifact.doc = .ok doc ∧
      text.toList = '\n' :: ((indentBlock doc).toList ++ '\n' :: behind) := by
  obtain ⟨doc, hdoc, h⟩ := bind_eq_ok.mp h
  obtain ⟨spec, _, h⟩ := bind_eq_ok.mp h
  obtain ⟨function, _, h⟩ := bind_eq_ok.mp h
  -- behind it come the spec and the function
  refine ⟨doc, (indentBlock spec ++ "\n" ++ indentBlock function ++ "\n").toList, hdoc, ?_⟩
  rw [← Except.ok.inj h]
  simp [String.toList_append]

theorem moduleText_eq_ok {client : Json} {module : OperationModule} {file : String}
    (h : moduleText client module = .ok file) {artifact : OperationArtifact}
    (hmem : artifact ∈ module.operations) : ∃ text before behind,
      operationText artifact = .ok text ∧ file.toList = before ++ (text.toList ++ behind) := by
  obtain ⟨texts, htexts, h⟩ := bind_eq_ok.mp h
  obtain ⟨text, htext, rfl⟩ := mapM_eq_ok.mp htexts
  -- any one of the operations, with those in front of it and those behind
  obtain ⟨front, others, hoperations⟩ := List.append_of_mem hmem
  obtain ⟨head, hfile⟩ : ∃ head, file = head ++ String.join (module.operations.map text) ++ "end\n" :=
    ⟨_, (Except.ok.inj h).symm⟩
  refine ⟨text artifact, head.toList ++ front.flatMap fun artifact => (text artifact).toList,
    (others.flatMap fun artifact => (text artifact).toList) ++ "end\n".toList,
    htext artifact hmem, ?_⟩
  rw [hfile, hoperations]
  simp [String.toList_append, String.toList_join, List.flatMap_map]

theorem schemaText_eq_ok {artifact : SchemaArtifact} {file : String}
    (h : schemaText artifact = .ok file) : ∃ doc before behind,
      Source.moduledocText artifact.doc = .ok doc ∧
      file.toList = before ++ '\n' :: ((indentBlock doc).toList ++ '\n' :: behind) := by
  obtain ⟨doc, hdoc, h⟩ := bind_eq_ok.mp h
  obtain ⟨types, _, h⟩ := bind_eq_ok.mp h
  obtain ⟨decoders, _, h⟩ := bind_eq_ok.mp h
  obtain ⟨behind, hfile⟩ : ∃ behind, file =
      "defmodule " ++ (artifact.module ++ (" do\n" ++ (indentBlock doc ++ ("\n\n" ++ behind)))) := by
    rw [← Except.ok.inj h]
    simp only [String.append_assoc]
    exact ⟨_, rfl⟩
  refine ⟨doc, ("defmodule " ++ artifact.module ++ " do").toList, '\n' :: behind.toList, hdoc, ?_⟩
  rw [hfile]
  simp [String.toList_append]

theorem noLineEnd_doc : ∀ c ∈ "doc".toList, Text.isLineEnd c = false := by
  simp [Text.isLineEnd]

theorem noLineEnd_moduledoc : ∀ c ∈ "moduledoc".toList, Text.isLineEnd c = false := by
  simp [Text.isLineEnd]

/-- **Documentation survives.** A text in which only line feeds end lines can be read off the file
that it was put in, from the heredoc of its function and from the one of its module. Reading ends
exactly where the heredoc does and meets no code. -/
theorem documentation_survives {doc : String} (hdoc : FeedsOnly doc.toList) :
    (∀ client module file artifact, moduleText client module = .ok file →
      artifact ∈ module.operations → artifact.doc = ⟨.str doc⟩ → Documents file "doc" doc) ∧
    ∀ artifact file, schemaText artifact = .ok file → artifact.doc = ⟨.str doc⟩ →
      Documents file "moduledoc" doc := by
  constructor
  · intro client module file artifact hfile hmem hartifact
    obtain ⟨text, before, behind, htext, hfile⟩ := moduleText_eq_ok hfile hmem
    obtain ⟨block, rest, hblock, htext⟩ := operationText_eq_ok htext
    rw [hartifact] at hblock
    rw [htext] at hfile
    simp only [List.cons_append, List.append_assoc] at hfile
    exact documents_of_eq noLineEnd_doc hdoc hblock hfile
  · intro artifact file hfile hartifact
    obtain ⟨block, before, behind, hblock, hfile⟩ := schemaText_eq_ok hfile
    rw [hartifact] at hblock
    exact documents_of_eq noLineEnd_moduledoc hdoc hblock hfile

/-- A text with runs of quotation marks, a backslash in front of an opening brace, lines that begin
with blanks and lines that are empty. -/
def quotedText : String := "\"\"\"\n  \"\"\"\"\n\n \\#\x7bcode\x7d \n\"\""

def documentedModule : OperationModule where
  name := "Things"
  module := "Example.Things"
  location := "things"
  operations := [⟨.str "show", ⟨.str quotedText⟩, ⟨.str "show", [], .options⟩, ⟨.str "show", [], []⟩⟩]

theorem documentation_survives_quotedText :
    FeedsOnly quotedText.toList ∧ ∃ file, moduleText (.str "Client") documentedModule = .ok file ∧
      Documents file "doc" quotedText := by
  have hfeeds : FeedsOnly quotedText.toList := by decide
  obtain ⟨file, hfile⟩ : ∃ file, moduleText (.str "Client") documentedModule = .ok file :=
    exists_eq_ok_of_isOk (by cbv)
  exact ⟨hfeeds, file, hfile, (documentation_survives hfeeds).1 _ _ _ _ hfile List.mem_cons_self rfl⟩

end ElixirClient.Layout
