import ElixirClient.Proofs.Fault.First
import ElixirClient.Proofs.Node.Merging
import ElixirClient.Proofs.Resolver.Leaves

/-!
# What resolving comes to

A reference resolves to a type (`isType_of_resolve`), and the modules that the type names are those
of the leaves of the reference (`names_iff_of_resolve`). Whether it resolves at all rests on the
schemas among the leaves: `RestsOn` says so of any computation that is built of resolutions, and
`RestsOn.bind`, `RestsOn.map` and `RestsOn.mapM` carry it from the parts to the whole.
-/

namespace ElixirClient

namespace Resolver

variable {r : Resolver} {ref : TypeRef} {node : Node}

/-! ## The type of a reference -/

/-- Induction over what references resolve to: from primitives and modules by lists and merges. -/
theorem of_resolve {P : Node → Prop} (primitive : ∀ kind, P (primitiveNode kind))
    (sequence : ∀ item, P item → P (.sequence item)) (named : ∀ module, P (.named module))
    (merge : ∀ nodes merged, (∀ node ∈ nodes, P node) → Node.merge nodes = .ok merged → P merged)
    (h : r.resolve ref = .ok node) : P node := by
  induction ref using TypeRef.induction generalizing node with
  | primitive kind =>
    rw [resolve] at h
    cases h
    exact primitive kind
  | array item ih =>
    rw [resolve] at h
    obtain ⟨inner, hinner, rfl⟩ := map_eq_ok.mp h
    exact sequence inner (ih hinner)
  | schema name =>
    rw [resolve] at h
    obtain ⟨module, _, rfl⟩ := map_eq_ok.mp h
    exact named _
  | external module =>
    rw [resolve] at h
    cases h
    exact named module
  | union members ih =>
    rw [resolve_union] at h
    obtain ⟨nodes, hnodes, hmerge⟩ := bind_eq_ok.mp h
    refine merge nodes node (fun inner hinner => ?_) hmerge
    obtain ⟨member, hmember, hround⟩ := exists_mem_of_mapM_eq_ok hnodes inner hinner
    exact ih member hmember hround
  | stray value =>
    rw [resolve] at h
    cases h

/-- By `of_resolve`: each way to make a node makes a type. -/
theorem isType_of_resolve (h : r.resolve ref = .ok node) : node.IsType := by
  refine of_resolve (fun kind => ?_) (fun _ => .sequence) .named (fun _ _ hnodes => .merge hnodes) h
  cases kind with
  | object => exact .map
  | _ => exact .scalar (by decide)

theorem isType_of_union {refs : List TypeRef} (h : r.union refs = .ok node) : node.IsType := by
  rw [union_eq] at h
  exact isType_of_resolve h

theorem isType_of_resolveAll {refs : List TypeRef} {nodes : List Node}
    (h : r.resolveAll refs = .ok nodes) : ∀ node ∈ nodes, node.IsType := by
  rw [resolveAll_eq] at h
  intro node hnode
  obtain ⟨ref, _, href⟩ := exists_mem_of_mapM_eq_ok h node hnode
  exact isType_of_resolve href

/-- A module has a name exactly if the table has one for the schema. -/
theorem moduleName_eq_ok {raw : Json} {module : String} :
    r.moduleName raw = .ok module ↔ ∃ name, r.names.find? raw = .ok (some name) ∧
      module = r.baseModule.plain ++ "." ++ name := by
  unfold moduleName
  constructor
  · intro h
    obtain ⟨found, hfound, h⟩ := bind_eq_ok.mp h
    cases found with
    | none => cases h
    | some name => exact ⟨name, hfound, (Except.ok.inj h).symm⟩
  · rintro ⟨name, hname, rfl⟩
    exact bind_eq_ok.mpr ⟨some name, hname, rfl⟩

/-- A leaf of a reference stands for the module: it is this module, or a schema that has it. -/
def LeadsTo (r : Resolver) (ref : TypeRef) (module : Json) : Prop :=
  .external module ∈ ref.leaves ∨
    ∃ raw text, .schema raw ∈ ref.leaves ∧ r.moduleName raw = .ok text ∧ module = .str text

theorem leadsTo_union {members : List TypeRef} {module : Json} :
    r.LeadsTo (.union members) module ↔ ∃ member ∈ members, r.LeadsTo member module := by
  unfold LeadsTo
  rw [TypeRef.leaves_union]
  -- external modules and schemas are looked for among the leaves in the same way
  constructor
  · rintro (h | ⟨raw, text, h, hmodule⟩)
    · obtain ⟨member, hmember, h⟩ := List.mem_flatMap.mp h
      exact ⟨member, hmember, .inl h⟩
    · obtain ⟨member, hmember, h⟩ := List.mem_flatMap.mp h
      exact ⟨member, hmember, .inr ⟨raw, text, h, hmodule⟩⟩
  · rintro ⟨member, hmember, h | ⟨raw, text, h, hmodule⟩⟩
    · exact .inl (List.mem_flatMap.mpr ⟨member, hmember, h⟩)
    · exact .inr ⟨raw, text, List.mem_flatMap.mpr ⟨member, hmember, h⟩, hmodule⟩

/-- Only an external module can be called by anything but text. -/
theorem LeadsTo.isText {module : Json} (h : r.LeadsTo ref module)
    (hmodules : ref.ModulesText) : module.IsText := by
  rcases h with h | ⟨raw, text, _, _, rfl⟩
  · exact hmodules module h
  · exact ⟨text, rfl⟩

/-- A type names the modules that its reference leads to. -/
theorem names_iff_of_resolve (hmodules : ref.ModulesText)
    (h : r.resolve ref = .ok node) (module : Json) :
    node.Names module ↔ r.LeadsTo ref module := by
  induction ref using TypeRef.induction generalizing node module with
  | primitive kind =>
    rw [resolve] at h
    cases h
    cases kind <;> simp [primitiveNode, LeadsTo, Node.Names]
  | array item ih =>
    rw [resolve] at h
    obtain ⟨inner, hinner, rfl⟩ := map_eq_ok.mp h
    have hitem : item.ModulesText := by rwa [TypeRef.ModulesText, TypeRef.leaves_array] at hmodules
    rw [Node.names_sequence, ih hitem hinner]
    unfold LeadsTo
    rw [TypeRef.leaves_array]
  | schema name =>
    rw [resolve] at h
    obtain ⟨text, htext, rfl⟩ := map_eq_ok.mp h
    simp only [Node.names_named, LeadsTo, TypeRef.leaves_schema, List.mem_singleton, reduceCtorEq,
      false_or, TypeRef.schema.injEq]
    constructor
    · rintro rfl
      exact ⟨name, text, rfl, htext, rfl⟩
    · rintro ⟨raw, other, rfl, hother, rfl⟩
      rw [htext] at hother
      rw [Except.ok.inj hother]
  | external other =>
    rw [resolve] at h
    cases h
    simp [LeadsTo, eq_comm]
  | union members ih =>
    rw [resolve_union] at h
    obtain ⟨nodes, hnodes, hmerge⟩ := bind_eq_ok.mp h
    obtain ⟨type, htype, rfl⟩ := mapM_eq_ok.mp hnodes
    have hmember : ∀ member ∈ members, ∀ module,
        (type member).Names module ↔ r.LeadsTo member module := fun member hmem =>
      ih member hmem (hmodules.of_mem hmem) (htype member hmem)
    -- no module is lost in the merge, since all of them are text
    have htext : ∀ node ∈ members.map type, node.NamesText := by
      intro node hnode module hmodule
      obtain ⟨member, hmem, rfl⟩ := List.mem_map.mp hnode
      exact ((hmember member hmem module).mp hmodule).isText (hmodules.of_mem hmem)
    obtain ⟨merged, hmerged, hnames⟩ := Node.merge_spec htext
    rw [hmerged] at hmerge
    cases hmerge
    rw [hnames, leadsTo_union]
    simp only [List.mem_map, exists_exists_and_eq_and]
    exact exists_congr fun member => and_congr_right fun hmem => hmember member hmem module
  | stray value =>
    rw [resolve] at h
    cases h

theorem namesText_of_resolve (hmodules : ref.ModulesText)
    (h : r.resolve ref = .ok node) : node.NamesText := fun module hmodule =>
  ((names_iff_of_resolve hmodules h module).mp hmodule).isText hmodules

/-- What references resolve to has a merge if it names modules of text only. -/
theorem exists_merge {refs : List TypeRef} (hmodules : ∀ ref ∈ refs, ref.ModulesText)
    {nodes : List Node} (h : refs.mapM r.resolve = .ok nodes) :
    ∃ merged, Node.merge nodes = .ok merged := by
  have hnames : ∀ node ∈ nodes, node.NamesText := by
    intro node hnode
    obtain ⟨ref, href, hround⟩ := exists_mem_of_mapM_eq_ok h node hnode
    exact namesText_of_resolve (hmodules ref href) hround
  obtain ⟨merged, hmerged, _⟩ := Node.merge_spec hnames
  exact ⟨merged, hmerged⟩

/-! ## What a result rests on -/

/-- The schema is in the name table. -/
def Knows (r : Resolver) (raw : Json) : Prop := ∃ module, r.moduleName raw = .ok module

end Resolver

/-- A schema is named somewhere in the references. -/
def TypeRef.Mentions (refs : List TypeRef) (raw : Json) : Prop :=
  .schema raw ∈ refs.flatMap TypeRef.leaves

namespace TypeRef

variable {refs refs' : List TypeRef} {raw : Json}

/-- Mentioning is about leaves, so it does not matter how references are arranged. -/
theorem mentions_append : Mentions (refs ++ refs') raw ↔ Mentions refs raw ∨ Mentions refs' raw := by
  unfold Mentions
  rw [List.flatMap_append, List.mem_append]

theorem mentions_union : Mentions [.union refs] raw ↔ Mentions refs raw := by
  simp [Mentions]

theorem mentions_iff : Mentions refs raw ↔ ∃ ref ∈ refs, Mentions [ref] raw := by
  simp [Mentions]

end TypeRef

namespace Resolver

open TypeRef (Mentions)

variable {α β : Type} {r : Resolver} {refs refs' : List TypeRef} {e : Except Fault α}

/-- The schema is the first one in the references that is not known. -/
def FirstUnknown (r : Resolver) (refs : List TypeRef) (raw : Json) : Prop :=
  FirstOf (fun leaf => ∀ name, leaf = .schema name → r.Knows name)
    (fun leaf => leaf = .schema raw ∧ ¬ r.Knows raw) (refs.flatMap TypeRef.leaves)

theorem forall_leaf_knows : (∀ leaf ∈ refs.flatMap TypeRef.leaves, ∀ name, leaf = .schema name →
    r.Knows name) ↔ ∀ raw, Mentions refs raw → r.Knows raw := by
  constructor
  · intro h raw hraw
    exact h _ hraw raw rfl
  · rintro h leaf hleaf name rfl
    exact h name hleaf

/-- The first unknown schema is in the first list, or all of that is known and it is in the
second. -/
theorem firstUnknown_append {raw : Json} : r.FirstUnknown (refs ++ refs') raw ↔
    r.FirstUnknown refs raw ∨
      (∀ raw, Mentions refs raw → r.Knows raw) ∧ r.FirstUnknown refs' raw := by
  unfold FirstUnknown
  rw [List.flatMap_append, firstOf_append, forall_leaf_knows]

theorem FirstUnknown.mentions {raw : Json} (h : r.FirstUnknown refs raw) : Mentions refs raw := by
  obtain ⟨before, leaf, behind, hleaves, _, rfl, _⟩ := h
  rw [Mentions, hleaves]
  exact List.mem_append_cons_self

theorem FirstUnknown.not_knows {raw : Json} (h : r.FirstUnknown refs raw) : ¬ r.Knows raw := by
  obtain ⟨_, _, _, _, _, _, hunknown⟩ := h
  exact hunknown

/-- There is only one that is first. -/
theorem FirstUnknown.unique {raw raw' : Json} (h : r.FirstUnknown refs raw)
    (h' : r.FirstUnknown refs raw') : raw = raw' := by
  have hdisjoint (raw : Json) (leaf : TypeRef) (hleaf : leaf = .schema raw ∧ ¬ r.Knows raw) :
      ¬ ∀ name, leaf = .schema name → r.Knows name := fun h => hleaf.2 (h raw hleaf.1)
  obtain ⟨leaf, ⟨hleaf, _⟩, hleaf', _⟩ := h.exists_both (hdisjoint raw) (hdisjoint raw') h'
  exact TypeRef.schema.inj (hleaf.symm.trans hleaf')

/-- The computation ends well if the schemas in the references are known, and in a dangling
reference to the first one that is unknown if not. -/
def RestsOn (r : Resolver) (refs : List TypeRef) (e : Except Fault α) : Prop :=
  ((∀ raw, Mentions refs raw → r.Knows raw) ∧ ∃ a, e = .ok a) ∨
    ∃ raw, r.FirstUnknown refs raw ∧ e = .error (.dangling ⟨raw, none⟩)

namespace RestsOn

theorem of_ok (h : ∀ raw, Mentions refs raw → r.Knows raw) (a : α) : r.RestsOn refs (.ok a) :=
  .inl ⟨h, a, rfl⟩

theorem nil (a : α) : r.RestsOn [] (.ok a) :=
  of_ok (fun _ hraw => absurd hraw List.not_mem_nil) a

/-- How the references arrange their leaves does not matter. -/
theorem congr (h : r.RestsOn refs e)
    (hrefs : refs.flatMap TypeRef.leaves = refs'.flatMap TypeRef.leaves) : r.RestsOn refs' e := by
  unfold RestsOn Mentions FirstUnknown at h ⊢
  rwa [← hrefs]

/-- References of two steps in the order of the steps: the first step comes first also in what it
misses. -/
theorem bind {next : α → Except Fault β} (he : r.RestsOn refs e)
    (hnext : ∀ a, e = .ok a → r.RestsOn refs' (next a)) : r.RestsOn (refs ++ refs') (e >>= next) := by
  rcases he with ⟨hknown, a, rfl⟩ | ⟨raw, hraw, rfl⟩
  · rcases hnext a rfl with ⟨hknown', b, hb⟩ | ⟨raw, hraw, herror⟩
    · refine .inl ⟨fun raw hraw => ?_, b, hb⟩
      exact (TypeRef.mentions_append.mp hraw).elim (hknown raw) (hknown' raw)
    · exact .inr ⟨raw, firstUnknown_append.mpr (.inr ⟨hknown, hraw⟩), herror⟩
  -- the first step has missed something, so the second is not reached
  · exact .inr ⟨raw, firstUnknown_append.mpr (.inl hraw), rfl⟩

theorem map (he : r.RestsOn refs e) (f : α → β) : r.RestsOn refs (f <$> e) := by
  rcases he with ⟨hknown, a, rfl⟩ | ⟨raw, hraw, rfl⟩
  · exact .inl ⟨hknown, f a, rfl⟩
  · exact .inr ⟨raw, hraw, rfl⟩

/-- The fault is the first reference that is not known, without an artifact. -/
theorem eq_error (h : r.RestsOn refs e) {fault : Fault} :
    e = .error fault ↔ ∃ raw, r.FirstUnknown refs raw ∧ fault = .dangling ⟨raw, none⟩ := by
  rcases h with ⟨hknown, a, rfl⟩ | ⟨raw, hraw, rfl⟩
  · refine ⟨nofun, ?_⟩
    rintro ⟨raw, hraw, _⟩
    exact absurd (hknown raw hraw.mentions) hraw.not_knows
  · constructor
    · intro h
      exact ⟨raw, hraw, (Except.error.inj h).symm⟩
    · rintro ⟨raw', hraw', rfl⟩
      rw [hraw.unique hraw']

/-- There is a fault as soon as one of the schemas is unknown. -/
theorem exists_error_iff (h : r.RestsOn refs e) :
    (∃ cause, e = .error (.dangling cause)) ↔ ∃ raw, Mentions refs raw ∧ ¬ r.Knows raw := by
  constructor
  · rintro ⟨cause, hcause⟩
    obtain ⟨raw, hraw, _⟩ := h.eq_error.mp hcause
    exact ⟨raw, hraw.mentions, hraw.not_knows⟩
  · rintro ⟨raw, hraw, hunknown⟩
    rcases h with ⟨hknown, _⟩ | ⟨first, _, herror⟩
    · exact absurd (hknown raw hraw) hunknown
    · exact ⟨_, herror⟩

/-- What follows and cannot fail does not count. -/
theorem bind_ok {next : α → Except Fault β} (he : r.RestsOn refs e)
    (hnext : ∀ a, e = .ok a → ∃ b, next a = .ok b) : r.RestsOn refs (e >>= next) := by
  have hbind : r.RestsOn (refs ++ []) (e >>= next) := he.bind fun a ha => by
    obtain ⟨b, hb⟩ := hnext a ha
    exact hb ▸ nil b
  rwa [List.append_nil] at hbind

theorem mapM {f : β → Except Fault α} {refsOf : β → List TypeRef} {xs : List β}
    (h : ∀ x ∈ xs, r.RestsOn (refsOf x) (f x)) : r.RestsOn (xs.flatMap refsOf) (xs.mapM f) := by
  induction xs with
  | nil => exact nil []
  | cons x rest ih =>
    have hrest : r.RestsOn (rest.flatMap refsOf) (rest.mapM f) :=
      ih fun y hy => h y (List.mem_cons_of_mem x hy)
    rw [List.mapM_cons, List.flatMap_cons]
    exact (h x List.mem_cons_self).bind fun y _ => hrest.map (y :: ·)

end RestsOn

/-! ## Resolving rests on the reference -/

/-- What resolves has no unknown schema in it. -/
theorem knows_of_resolve {ref : TypeRef} {node : Node} (h : r.resolve ref = .ok node) {raw : Json}
    (hraw : Mentions [ref] raw) : r.Knows raw := by
  induction ref using TypeRef.induction generalizing node with
  | schema name =>
    rw [resolve] at h
    obtain ⟨module, hmodule, _⟩ := map_eq_ok.mp h
    obtain rfl : raw = name := by simpa [Mentions] using hraw
    exact ⟨module, hmodule⟩
  | array item ih =>
    rw [resolve] at h
    obtain ⟨inner, hinner, _⟩ := map_eq_ok.mp h
    exact ih hinner (by simpa [Mentions] using hraw)
  | union members ih =>
    rw [resolve_union] at h
    obtain ⟨nodes, hnodes, _⟩ := bind_eq_ok.mp h
    obtain ⟨member, hmember, hraw⟩ := TypeRef.mentions_iff.mp (TypeRef.mentions_union.mp hraw)
    obtain ⟨inner, hinner⟩ := exists_of_mapM_eq_ok hnodes member hmember
    exact ih member hmember hinner hraw
  | primitive kind => simp [Mentions] at hraw
  | external module => simp [Mentions] at hraw
  | stray value => simp [Mentions] at hraw

theorem moduleName_restsOn {raw : Json} (h : raw.IsText) :
    r.RestsOn [.schema raw] (r.moduleName raw) := by
  obtain ⟨text, rfl⟩ := h
  have hmentions (raw : Json) : Mentions [.schema (.str text)] raw ↔ raw = .str text := by
    simp [Mentions]
  cases hmodule : r.moduleName (.str text) with
  | ok module => exact .of_ok (fun raw hraw => ⟨module, (hmentions raw).mp hraw ▸ hmodule⟩) module
  | error fault =>
    refine .inr ⟨.str text, ⟨[], _, [], rfl, nofun, rfl, ?_⟩, ?_⟩
    · rintro ⟨module, hknown⟩
      rw [hmodule] at hknown
      cases hknown
    · -- a text can be looked up, so the table has no entry for it
      rw [moduleName, NameTable.find?] at hmodule
      cases hlookup : r.names.lookup text with
      | none =>
        rw [hlookup] at hmodule
        exact hmodule ▸ rfl
      | some name =>
        rw [hlookup] at hmodule
        cases hmodule

/-- Resolving goes through the leaves from left to right and stops at the first that it does not
know. -/
theorem resolve_restsOn {ref : TypeRef} (h : ref.Sound) : r.RestsOn [ref] (r.resolve ref) := by
  induction ref using TypeRef.induction with
  | primitive kind =>
    rw [resolve]
    exact .of_ok (by simp [Mentions]) _
  | array item ih =>
    rw [resolve]
    exact ((ih (TypeRef.sound_array.mp h)).congr (by simp)).map _
  | schema name =>
    rw [resolve]
    exact (moduleName_restsOn (h.textNamed (.schema name) (by simp))).map _
  | external module =>
    rw [resolve]
    exact .of_ok (by simp [Mentions]) _
  | union members ih =>
    rw [resolve_union]
    rw [TypeRef.sound_union] at h
    have hmembers : r.RestsOn (members.flatMap fun member => [member]) (members.mapM r.resolve) :=
      .mapM fun member hmember => ih member hmember (h member hmember)
    -- members with module names of text have keys, so they can always be merged
    refine (hmembers.bind_ok fun nodes hnodes => ?_).congr (by simp)
    exact exists_merge (fun member hmember => (h member hmember).textNamed.modulesText) hnodes
  | stray value => exact (h.proper (.stray value) (by simp)).elim

/-- A union rests on its members. Merging them takes no more: they are keys by then. -/
theorem union_restsOn (h : ∀ ref ∈ refs, ref.Sound) : r.RestsOn refs (r.union refs) := by
  rw [union_eq]
  exact (resolve_restsOn (TypeRef.sound_union.mpr h)).congr (by simp)

theorem resolveAll_restsOn (h : ∀ ref ∈ refs, ref.Sound) : r.RestsOn refs (r.resolveAll refs) := by
  rw [resolveAll_eq]
  have hall : r.RestsOn (refs.flatMap fun ref => [ref]) (refs.mapM r.resolve) :=
    .mapM fun ref hmem => resolve_restsOn (h ref hmem)
  rwa [List.flatMap_singleton'] at hall

end Resolver

end ElixirClient
