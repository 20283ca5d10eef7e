import ElixirClient.Proofs.Json.Sorting
import ElixirClient.Proofs.Node.Kinds
import ElixirClient.Proofs.Order.FirstOfEach

/-!
# Merging types

A merge opens unions and drops repetitions. It can fail where a module is no key, and it can drop a
module where two modules have one key; neither happens to modules that are called by text, since a
node with such modules only is its own key (`key?_eq_self`). `merge_spec` is what is left: a merge
then has a result, and the result names the modules of its members.

Nodes that come from merges are `Flat`, and those may be merged in groups first, with the same
result (`merge_flatMap`).
-/

namespace ElixirClient.Node

/-- All modules that types in the tree name are called by text. -/
def NamesText (node : Node) : Prop := ∀ module, node.Names module → module.IsText

mutual
theorem key?_eq_self : (node : Node) → node.NamesText → node.key? = some node
  | .sequence item, h => by
    have hitem : item.key? = some item := key?_eq_self item fun module hmodule =>
      h module (names_sequence.mpr hmodule)
    rw [key?, hitem]
    rfl
  | .named module, h => by
    obtain ⟨text, rfl⟩ := h module (names_named.mpr rfl)
    rfl
  | .union members, h => by
    have hmembers : keys? members = some members := keys?_eq_self members fun member hmember =>
      fun module hmodule => h module (names_union.mpr ⟨member, hmember, hmodule⟩)
    rw [key?, hmembers]
    rfl
  | .scalar _, _ | .map, _ | .options, _ | .marker _, _ | .tagged _ _, _ | .var _, _ | .atom _, _
  | .literal _, _ | .moduleRef _, _ | .attribute _, _ | .typeValue _, _ | .access _ _, _
  | .fallback _ _, _ | .selectKeys _ _, _ | .pair _ _, _ | .list _, _ | .mapLiteral _, _
  | .interpolation _, _ | .call _ _ _, _ | .assign _ _, _ | .stray _, _ => rfl

theorem keys?_eq_self : (nodes : List Node) → (∀ node ∈ nodes, node.NamesText) →
    keys? nodes = some nodes
  | [], _ => rfl
  | node :: rest, h => by
    have hnode := key?_eq_self node (h node List.mem_cons_self)
    have hrest := keys?_eq_self rest fun other hother => h other (List.mem_cons_of_mem node hother)
    rw [keys?, hnode, hrest]
    rfl
end

theorem isSome_keys?_iff {nodes : List Node} :
    (keys? nodes).isSome ↔ ∀ node ∈ nodes, (key? node).isSome := by
  induction nodes with
  | nil => exact ⟨fun _ => nofun, fun _ => rfl⟩
  | cons node rest ih =>
    rw [keys?, List.forall_mem_cons, ← ih]
    cases key? node with
    | none => exact ⟨nofun, fun h => absurd h.1 nofun⟩
    | some key =>
      cases keys? rest with
      | none => exact ⟨nofun, fun h => absurd h.2 nofun⟩
      | some keys => exact ⟨fun _ => ⟨rfl, rfl⟩, fun _ => rfl⟩

/-- Nodes merge exactly if all members are keys, into one of each key. -/
theorem merge_eq_ok {nodes : List Node} {merged : Node} :
    merge nodes = .ok merged ↔
      (∀ member ∈ nodes.flatMap unionMembers, (key? member).isSome) ∧
        merged = ofUnion (firstOfEach key? (nodes.flatMap unionMembers)) := by
  rw [← isSome_keys?_iff, merge]
  cases keys? (nodes.flatMap unionMembers) with
  | none => exact ⟨nofun, fun h => absurd h.1 nofun⟩
  | some keys => exact ⟨fun h => ⟨rfl, (Except.ok.inj h).symm⟩, fun h => congrArg _ h.2.symm⟩

/-- Of the members of all nodes, the first of each key decide on the merge. -/
theorem merge_congr {nodes others : List Node}
    (h : firstOfEach key? (nodes.flatMap unionMembers) =
      firstOfEach key? (others.flatMap unionMembers)) : merge nodes = merge others := by
  have hmerge (nodes : List Node) : merge nodes =
      if (keys? (firstOfEach key? (nodes.flatMap unionMembers))).isSome then
        .ok (ofUnion (firstOfEach key? (nodes.flatMap unionMembers)))
      else .error .wrongKind := by
    -- a member that is dropped has the key of one that stays
    have hkeys : (keys? (firstOfEach key? (nodes.flatMap unionMembers))).isSome ↔
        (keys? (nodes.flatMap unionMembers)).isSome := by
      rw [isSome_keys?_iff, isSome_keys?_iff]
      constructor
      · intro h member hmember
        obtain ⟨first, hfirst, hkey⟩ := exists_mem_firstOfEach key? hmember
        exact hkey ▸ h first hfirst
      · exact fun h member hmember => h member (mem_of_mem_firstOfEach key? hmember)
    simp only [hkeys]
    rw [merge]
    cases keys? (nodes.flatMap unionMembers) <;> rfl
  rw [hmerge, hmerge, h]

/-- Nodes behind others that hold them already add nothing. -/
theorem merge_append_of_subset {nodes again : List Node} (h : again ⊆ nodes) :
    merge (nodes ++ again) = merge nodes := by
  refine merge_congr ?_
  rw [List.flatMap_append]
  refine firstOfEach_append_of_mem key? fun member hmember => ?_
  obtain ⟨node, hnode, hmember⟩ := List.mem_flatMap.mp hmember
  exact List.mem_map_of_mem (List.mem_flatMap.mpr ⟨node, h hnode, hmember⟩)

variable {module : Json}

theorem names_iff_unionMembers {node : Node} :
    node.Names module ↔ ∃ member ∈ node.unionMembers, member.Names module := by
  cases node with
  | union members => exact names_union
  | _ => simp [unionMembers]

theorem names_ofUnion {members : List Node} :
    (ofUnion members).Names module ↔ ∃ member ∈ members, member.Names module := by
  match members with
  | [] => simp [ofUnion]
  | [node] => simp [ofUnion]
  | first :: second :: rest => exact names_union

/-- Of nodes that are their own keys, only repetitions are dropped. -/
theorem mem_firstOfEach_key? {nodes : List Node} (h : ∀ node ∈ nodes, node.NamesText) {node : Node} :
    node ∈ firstOfEach key? nodes ↔ node ∈ nodes := by
  refine ⟨mem_of_mem_firstOfEach key?, fun hnode => ?_⟩
  obtain ⟨other, hother, hkey⟩ := exists_mem_firstOfEach key? hnode
  have hself := key?_eq_self other (h other (mem_of_mem_firstOfEach key? hother))
  rw [hself, key?_eq_self node (h node hnode)] at hkey
  rwa [← Option.some.inj hkey]

/-- Types whose modules are called by text have a merge, and it names all of these modules. -/
theorem merge_spec {nodes : List Node} (h : ∀ node ∈ nodes, node.NamesText) :
    ∃ merged, merge nodes = .ok merged ∧
      ∀ module, merged.Names module ↔ ∃ node ∈ nodes, node.Names module := by
  have htext : ∀ member ∈ nodes.flatMap unionMembers, member.NamesText := by
    intro member hmember module hmodule
    obtain ⟨node, hnode, hmember⟩ := List.mem_flatMap.mp hmember
    exact h node hnode module (names_iff_unionMembers.mpr ⟨member, hmember, hmodule⟩)
  refine ⟨ofUnion (firstOfEach key? (nodes.flatMap unionMembers)), ?_, fun module => ?_⟩
  · refine merge_eq_ok.mpr ⟨fun member hmember => ?_, rfl⟩
    rw [key?_eq_self member (htext member hmember)]
    rfl
  · simp only [names_ofUnion, mem_firstOfEach_key? htext, List.mem_flatMap]
    constructor
    · rintro ⟨member, ⟨node, hnode, hmember⟩, hmodule⟩
      exact ⟨node, hnode, names_iff_unionMembers.mpr ⟨member, hmember, hmodule⟩⟩
    · rintro ⟨node, hnode, hmodule⟩
      obtain ⟨member, hmember, hmodule⟩ := names_iff_unionMembers.mp hmodule
      exact ⟨member, ⟨node, hnode, hmember⟩, hmodule⟩

/-- A merge of types is a type. -/
theorem IsType.merge {nodes : List Node} (h : ∀ node ∈ nodes, node.IsType) {merged : Node}
    (hmerge : Node.merge nodes = .ok merged) : merged.IsType := by
  have hmembers : ∀ member ∈ firstOfEach key? (nodes.flatMap unionMembers), member.IsType := by
    intro member hmember
    obtain ⟨node, hnode, hmember⟩ := List.mem_flatMap.mp (mem_of_mem_firstOfEach key? hmember)
    cases h node hnode with
    | union hmembers => exact hmembers member hmember
    | _ => exact List.mem_singleton.mp hmember ▸ h _ hnode
  obtain ⟨_, rfl⟩ := merge_eq_ok.mp hmerge
  cases hfirst : firstOfEach key? (nodes.flatMap unionMembers) with
  | nil => exact .scalar (by decide)
  | cons node rest =>
    rw [hfirst] at hmembers
    cases rest with
    | nil => exact hmembers node List.mem_cons_self
    | cons second rest => exact .union hmembers

/-! ## Data -/

/-- The outcome of an operation, with or without a value. -/
def isOutcome : Node → Bool
  | .marker _ | .tagged _ _ => true
  | _ => false

/-- The tree describes data, and no outcome of an operation. -/
def Untagged (node : Node) : Prop := node.Throughout fun part => part.isOutcome = false

/-- What holds throughout the nodes holds throughout their merge, if it holds of unions and of the
type that stands for no type. -/
theorem Throughout.merge {P : Node → Prop} (hnull : P (.scalar "null"))
    (hunion : ∀ members, P (.union members)) {nodes : List Node}
    (h : ∀ node ∈ nodes, node.Throughout P) {merged : Node}
    (hmerge : Node.merge nodes = .ok merged) : merged.Throughout P := by
  have hmembers : ∀ member ∈ firstOfEach key? (nodes.flatMap unionMembers), member.Throughout P := by
    intro member hmember
    obtain ⟨node, hnode, hmember⟩ := List.mem_flatMap.mp (mem_of_mem_firstOfEach key? hmember)
    have hthroughout := h node hnode
    cases node with
    | union members => exact (throughout_union.mp hthroughout).2 member hmember
    | _ => exact List.mem_singleton.mp hmember ▸ hthroughout
  obtain ⟨_, rfl⟩ := merge_eq_ok.mp hmerge
  match firstOfEach key? (nodes.flatMap unionMembers), hmembers with
  | [], _ => exact (throughout_leaf rfl).mpr hnull
  | [node], hmembers => exact hmembers node List.mem_cons_self
  | first :: second :: rest, hmembers => exact throughout_union.mpr ⟨hunion _, hmembers⟩

/-! ## Merges of merges -/

/-- A node that may stand in a merge as it is: no union, or a union of nodes that are none. -/
structure Flat (node : Node) : Prop where
  nonempty : node.unionMembers ≠ []
  single : ∀ member ∈ node.unionMembers, member.unionMembers = [member]

theorem Flat.of_single {node : Node} (h : node.unionMembers = [node]) : node.Flat where
  nonempty := by
    rw [h]
    exact List.cons_ne_nil _ _
  single member hmember := by
    rw [h, List.mem_singleton] at hmember
    rw [hmember, h]

/-- Members that are no unions come back from their union. -/
theorem unionMembers_ofUnion {members : List Node} (hne : members ≠ [])
    (h : ∀ member ∈ members, member.unionMembers = [member]) :
    (ofUnion members).unionMembers = members := by
  match members with
  | [] => exact absurd rfl hne
  | [node] => exact h node List.mem_cons_self
  | first :: second :: rest => rfl

section Flat

variable {nodes : List Node} {merged : Node}

theorem firstOfEach_ne_nil (hflat : ∀ node ∈ nodes, node.Flat) (hne : nodes ≠ []) :
    firstOfEach key? (nodes.flatMap unionMembers) ≠ [] := by
  obtain ⟨node, hnode⟩ := List.exists_mem_of_ne_nil nodes hne
  obtain ⟨member, hmember⟩ := List.exists_mem_of_ne_nil _ (hflat node hnode).nonempty
  obtain ⟨first, hfirst, _⟩ :=
    exists_mem_firstOfEach key? (List.mem_flatMap.mpr ⟨node, hnode, hmember⟩)
  exact List.ne_nil_of_mem hfirst

theorem single_of_mem_firstOfEach (hflat : ∀ node ∈ nodes, node.Flat) {member : Node}
    (hmember : member ∈ firstOfEach key? (nodes.flatMap unionMembers)) :
    member.unionMembers = [member] := by
  obtain ⟨node, hnode, hmember⟩ := List.mem_flatMap.mp (mem_of_mem_firstOfEach key? hmember)
  exact (hflat node hnode).single member hmember

theorem unionMembers_merge (hflat : ∀ node ∈ nodes, node.Flat) (hne : nodes ≠ [])
    (h : merge nodes = .ok merged) :
    merged.unionMembers = firstOfEach key? (nodes.flatMap unionMembers) := by
  obtain ⟨_, rfl⟩ := merge_eq_ok.mp h
  exact unionMembers_ofUnion (firstOfEach_ne_nil hflat hne) fun _ => single_of_mem_firstOfEach hflat

/-- A merge of no nodes is no union; any other has the members of its nodes. -/
theorem Flat.merge (hflat : ∀ node ∈ nodes, node.Flat) (h : Node.merge nodes = .ok merged) :
    merged.Flat := by
  by_cases hne : nodes = []
  · rw [hne] at h
    cases h
    exact .of_single rfl
  · have hmembers := unionMembers_merge hflat hne h
    exact ⟨hmembers ▸ firstOfEach_ne_nil hflat hne,
      fun member hmember => single_of_mem_firstOfEach hflat (hmembers ▸ hmember)⟩

/-- Nodes among others may be merged first. -/
theorem merge_append_merge_append (hflat : ∀ node ∈ nodes, node.Flat) (hne : nodes ≠ [])
    (h : Node.merge nodes = .ok merged) (front behind : List Node) :
    Node.merge (front ++ [merged] ++ behind) = Node.merge (front ++ nodes ++ behind) := by
  refine merge_congr ?_
  simp only [List.flatMap_append, List.flatMap_singleton, unionMembers_merge hflat hne h]
  exact firstOfEach_append_firstOfEach_append key? _ _ _

end Flat

/-- Nodes may be merged in groups first: it makes no difference to the merge of all of them. -/
theorem merge_flatMap {α : Type} {xs : List α} {nodesOf : α → List Node} {marker : α → Node}
    (hflat : ∀ x ∈ xs, ∀ node ∈ nodesOf x, node.Flat) (hne : ∀ x ∈ xs, nodesOf x ≠ [])
    (h : ∀ x ∈ xs, merge (nodesOf x) = .ok (marker x)) :
    merge (xs.flatMap nodesOf) = merge (xs.map marker) := by
  have hmembers : (xs.map marker).flatMap unionMembers =
      xs.flatMap fun x => firstOfEach key? ((nodesOf x).flatMap unionMembers) := by
    rw [List.flatMap_map]
    exact List.flatMap_congr fun x hx => unionMembers_merge (hflat x hx) (hne x hx) (h x hx)
  refine merge_congr ?_
  rw [hmembers, firstOfEach_flatMap_firstOfEach, List.flatMap_assoc]

end ElixirClient.Node
