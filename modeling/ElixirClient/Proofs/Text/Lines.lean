import ElixirClient.Proofs.Text.Split
import ElixirClient.Text.Lines

/-!
# Lines and parts

Lines are ended by more than the line feed. Where nothing else ends a line, the lines of a text are
its parts between line feeds (`map_content_lines`).
-/

namespace ElixirClient.Text

/-- Nothing but line feeds ends a line of the text. -/
def FeedsOnly (cs : List Char) : Prop := ∀ c ∈ cs, isLineEnd c = true → c = '\n'

instance (cs : List Char) : Decidable (FeedsOnly cs) :=
  List.decidableBAll (fun c => isLineEnd c = true → c = '\n') cs

theorem map_content_consFirst (c : Char) {ls : List Line} {part : List Char}
    {parts : List (List Char)} (h : ls.map Line.content = part :: parts) :
    (Line.consFirst c ls).map Line.content = (c :: part) :: parts := by
  cases ls with
  | nil => cases h
  | cons line ls =>
    obtain ⟨rfl, rfl⟩ := List.cons.inj h
    rfl

theorem lines_cons {c : Char} (hc : c ≠ '\r') (rest : List Char) :
    lines (c :: rest) =
      if isLineEnd c then ⟨[], [c]⟩ :: lines rest else Line.consFirst c (lines rest) := by
  rw [lines]
  exact fun _ h => absurd h hc

/-- Where only line feeds end lines, the lines are the parts between them. -/
theorem map_content_lines {cs : List Char} (h : FeedsOnly cs) :
    (lines (cs ++ ['\n'])).map Line.content = splitAt '\n' cs := by
  induction cs with
  | nil => rfl
  | cons c rest ih =>
    have hreturn : c ≠ '\r' := by
      rintro rfl
      exact absurd (h '\r' List.mem_cons_self rfl) (by decide)
    have hrest := ih fun d hd => h d (List.mem_cons_of_mem c hd)
    rw [List.cons_append, lines_cons hreturn]
    by_cases hc : c = '\n'
    · subst hc
      rw [splitAt_cons_self, ← hrest]
      rfl
    · have hinside : ¬ isLineEnd c = true := fun hend => hc (h c List.mem_cons_self hend)
      obtain ⟨part, parts, hsplit, hcons⟩ := splitAt_cons_of_ne hc rest
      rw [if_neg hinside, hcons]
      exact map_content_consFirst c (hrest.trans hsplit)

end ElixirClient.Text
