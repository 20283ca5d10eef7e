import ElixirClient.Proofs.Fault.Loops

/-!
# Results that persist

`Persists e e'`: what `e` yields, `e'` yields, too. Where `e` ends in a fault, nothing is said of
`e'`. Like `Confined`, this goes through `bind`, `map` and `mapM`, so it follows for a step of
rendering from its leaves.
-/

namespace ElixirClient

variable {α β : Type}

/-- The result of `e`, if there is one, is that of `e'`. -/
def Persists (e e' : Except Fault α) : Prop := ∀ a, e = .ok a → e' = .ok a

namespace Persists

theorem refl (e : Except Fault α) : Persists e e := fun _ h => h

theorem bind {e e' : Except Fault α} {next next' : α → Except Fault β} (he : Persists e e')
    (hnext : ∀ a, Persists (next a) (next' a)) : Persists (e >>= next) (e' >>= next') := by
  intro b h
  obtain ⟨a, ha, hb⟩ := bind_eq_ok.mp h
  exact bind_eq_ok.mpr ⟨a, he a ha, hnext a b hb⟩

theorem map {e e' : Except Fault α} (he : Persists e e') (f : α → β) :
    Persists (f <$> e) (f <$> e') := by
  intro b h
  obtain ⟨a, ha, hb⟩ := map_eq_ok.mp h
  exact map_eq_ok.mpr ⟨a, he a ha, hb⟩

/-- A loop persists if each of its rounds does. A round that fails ends the first loop, and then
nothing is claimed. -/
theorem mapM {f f' : α → Except Fault β} {xs : List α} (h : ∀ x ∈ xs, Persists (f x) (f' x)) :
    Persists (xs.mapM f) (xs.mapM f') := by
  induction xs with
  | nil => exact refl _
  | cons x rest ih =>
    rw [List.mapM_cons, List.mapM_cons]
    refine (h x List.mem_cons_self).bind fun y => ?_
    exact (ih fun z hz => h z (List.mem_cons_of_mem x hz)).bind fun ys => refl _

/-- Both sides take the same branch, since the condition is one and the same. -/
theorem ite {c : Prop} [Decidable c] {e e' other other' : Except Fault α} (he : Persists e e')
    (hother : Persists other other') :
    Persists (if c then e else other) (if c then e' else other') := by
  split
  · exact he
  · exact hother

end Persists

end ElixirClient
