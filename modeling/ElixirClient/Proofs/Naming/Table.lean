import ElixirClient.Naming.Rules
import ElixirClient.Proofs.Fault.Loops
import ElixirClient.Proofs.Json.Sorting

/-!
# The name table

A table that was built answers for exactly the names of its schemas, and with their normalized
forms (`find?_eq_some`). So the order of the schemas does not show in what is found (`find?_congr`),
although the table itself keeps that order. Without rename rules nothing can go wrong on the way to
a table (`exists_build`).
-/

namespace ElixirClient

variable {α : Type}

/-- Adding a member changes what is found under its own key only. -/
theorem Json.lookup_insertMember (key other : String) (value : α) (members : List (String × α)) :
    (Json.insertMember key value members).lookup other =
      if other = key then some value else members.lookup other := by
  induction members with
  | nil =>
    rw [insertMember]
    split
    · next h => rw [h, List.lookup_cons_self]
    · next h => rw [List.lookup_cons, beq_false_of_ne h]
  | cons member rest ih =>
    obtain ⟨k, v⟩ := member
    rw [insertMember]
    split
    · next hkey =>
      subst hkey
      split
      · next h => rw [h, List.lookup_cons_self]
      · next h => rw [List.lookup_cons, List.lookup_cons, beq_false_of_ne h]
    · next hkey =>
      rw [List.lookup_cons, List.lookup_cons, ih]
      split
      · -- found at the first member, whose key is not the one that was added
        next h => rw [if_neg (eq_of_beq h ▸ hkey)]
      · rfl

namespace NameTable

variable {rules : NamingRules} {schemas : List Schema} {start table : NameTable}

/-- The table with one more schema. -/
def enter (rules : NamingRules) (table : NameTable) (schema : Schema) : Except Fault NameTable :=
  match schema.name with
  | .str raw => do return Json.insertMember raw (← rules.normalize raw) table
  | _ => .error .noSuchMember

theorem build_eq : build rules schemas = schemas.foldlM (enter rules) [] := rfl

theorem enter_eq_ok {schema : Schema} :
    enter rules start schema = .ok table ↔ ∃ raw name, schema.name = .str raw ∧
      rules.normalize raw = .ok name ∧ table = Json.insertMember raw name start := by
  unfold enter
  constructor
  · intro h
    split at h
    · next raw hraw =>
      obtain ⟨name, hname, h⟩ := bind_eq_ok.mp h
      exact ⟨raw, name, hraw, hname, (Except.ok.inj h).symm⟩
    · cases h
  · rintro ⟨raw, name, hraw, hname, rfl⟩
    rw [hraw]
    exact bind_eq_ok.mpr ⟨name, hname, rfl⟩

/-- Schemas are entered by names of text, and are found besides what was there. -/
theorem lookup_foldlM_enter (h : schemas.foldlM (enter rules) start = .ok table) :
    (∀ schema ∈ schemas, ∃ raw name, schema.name = .str raw ∧ rules.normalize raw = .ok name) ∧
      ∀ raw name, table.lookup raw = some name ↔
        (.str raw ∈ schemas.map Schema.name ∧ rules.normalize raw = .ok name) ∨
        (.str raw ∉ schemas.map Schema.name ∧ start.lookup raw = some name) := by
  induction schemas generalizing start with
  | nil =>
    cases h
    exact ⟨nofun, fun raw name => by simp⟩
  | cons schema rest ih =>
    rw [List.foldlM_cons] at h
    obtain ⟨next, hnext, hrest⟩ := bind_eq_ok.mp h
    obtain ⟨text, normalized, hname, hnormalized, rfl⟩ := enter_eq_ok.mp hnext
    obtain ⟨htext, hlookup⟩ := ih hrest
    refine ⟨List.forall_mem_cons.mpr ⟨⟨text, normalized, hname, hnormalized⟩, htext⟩, ?_⟩
    intro raw name
    rw [hlookup, List.map_cons, List.mem_cons, hname, Json.str.injEq, Json.lookup_insertMember]
    -- a later schema of the same name is entered by the same form
    by_cases hraw : raw = text
    · simp only [hraw, if_true, true_or, true_and, not_true, false_and, or_false, hnormalized,
        Except.ok.injEq, Option.some.injEq]
      exact ⟨fun h => h.elim And.right And.right,
        fun h => (em _).imp (fun hmem => ⟨hmem, h⟩) fun hmem => ⟨hmem, h⟩⟩
    · simp only [hraw, if_false, false_or]

section Built

variable (h : build rules schemas = .ok table)

include h

/-- A table knows the names of its schemas, each by its normalized form. -/
theorem lookup_build {raw name : String} : table.lookup raw = some name ↔
    .str raw ∈ schemas.map Schema.name ∧ rules.normalize raw = .ok name := by
  rw [(lookup_foldlM_enter (build_eq ▸ h)).2]
  simp

theorem find?_eq_some {raw : Json} {name : String} :
    table.find? raw = .ok (some name) ↔ raw ∈ schemas.map Schema.name ∧
      ∃ text, raw = .str text ∧ rules.normalize text = .ok name := by
  unfold find?
  cases raw with
  | str text => simp only [Except.ok.injEq, lookup_build h, Json.str.injEq, exists_eq_left']
  | _ => simp

/-- Every schema of a table is found. -/
theorem exists_find? {schema : Schema} (hmem : schema ∈ schemas) :
    ∃ name, table.find? schema.name = .ok (some name) := by
  obtain ⟨raw, name, hraw, hname⟩ := (lookup_foldlM_enter (build_eq ▸ h)).1 schema hmem
  exact ⟨name, (find?_eq_some h).mpr ⟨List.mem_map.mpr ⟨schema, hmem, rfl⟩, raw, hraw, hname⟩⟩

/-- Tables of the same schemas find the same names, whatever the order of the schemas is. -/
theorem find?_congr {schemas' : List Schema} {table' : NameTable} (hperm : schemas'.Perm schemas)
    (h' : build rules schemas' = .ok table') (raw : Json) : table'.find? raw = table.find? raw := by
  cases raw with
  | str text =>
    have hlookup : table'.lookup text = table.lookup text := by
      refine Option.ext fun name => ?_
      rw [lookup_build h', lookup_build h, (hperm.map Schema.name).mem_iff]
    rw [find?, find?, hlookup]
  | _ => rfl

end Built

/-- A table is built of schemas that each have a normalized name. -/
theorem exists_foldlM_enter
    (h : ∀ schema ∈ schemas, ∃ raw name, schema.name = .str raw ∧ rules.normalize raw = .ok name)
    (start : NameTable) : ∃ table, schemas.foldlM (enter rules) start = .ok table := by
  induction schemas generalizing start with
  | nil => exact ⟨start, rfl⟩
  | cons schema rest ih =>
    obtain ⟨raw, name, hraw, hname⟩ := h schema List.mem_cons_self
    have hnext : enter rules start schema = .ok (Json.insertMember raw name start) :=
      enter_eq_ok.mpr ⟨raw, name, hraw, hname, rfl⟩
    rw [List.foldlM_cons, hnext]
    exact ih (fun other hother => h other (List.mem_cons_of_mem schema hother)) _

theorem exists_build_iff : (∃ table, build rules schemas = .ok table) ↔
    ∀ schema ∈ schemas, ∃ raw name, schema.name = .str raw ∧ rules.normalize raw = .ok name := by
  rw [build_eq]
  exact ⟨fun ⟨_, h⟩ => (lookup_foldlM_enter h).1, fun h => exists_foldlM_enter h []⟩

/-- Normalizing a name can fail in the replacement of a rename rule and nowhere else. -/
theorem exists_normalize (h : rules.rename = []) (raw : String) :
    ∃ name, rules.normalize raw = .ok name := by
  unfold NamingRules.normalize NamingRules.applyRenames
  rw [h]
  exact ⟨_, rfl⟩

theorem exists_build (htext : ∀ schema ∈ schemas, schema.name.IsText) (h : rules.rename = []) :
    ∃ table, build rules schemas = .ok table := by
  refine exists_build_iff.mpr fun schema hmem => ?_
  obtain ⟨raw, hraw⟩ := htext schema hmem
  obtain ⟨name, hname⟩ := exists_normalize h raw
  exact ⟨raw, name, hraw, hname⟩

end NameTable

end ElixirClient
