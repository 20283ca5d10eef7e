import Mathlib.Data.List.Induction
import Mathlib.Data.Prod.Lex
import ElixirClient.Generation
import ElixirClient.Proofs.Fault.Loops
import ElixirClient.Proofs.Json.Sorting
import ElixirClient.Proofs.Order.FirstOfEach
import ElixirClient.Proofs.Order.Grouping
import ElixirClient.Proofs.Order.StableSort

/-!
# The order in which a run renders

A run collects operations into groups by module, sorts the groups, and sorts each group by function
name. `operationsByModule_eq_ok` says what the groups are without the collecting: one for each
module name, with all operations of that module in their order. `Operation.inRunOrder` is the order
that results for the operations of the whole run. Nothing is lost or repeated in it
(`perm_of_inRunOrder`), and if all names are text, it is the stable sort by module name and then by
function name (`inRunOrder_text`).
-/

namespace ElixirClient

/-! ## Groups -/

namespace Operation

/-- The names of the modules that own operations, each once and as the first of them spells it. -/
def moduleNames (operations : List Operation) : List Json :=
  firstOfEach Json.key? (operations.map moduleName)

/-- The operations that a module owns, in their order. -/
def ofModule (operations : List Operation) (name : Json) : List Operation :=
  operations.filter fun operation => operation.moduleName.key? = name.key?

theorem pairwise_moduleNames (operations : List Operation) :
    (moduleNames operations).Pairwise fun a b => a.key? ≠ b.key? :=
  pairwise_firstOfEach _ _

theorem exists_moduleName {operations : List Operation} {operation : Operation}
    (h : operation ∈ operations) :
    ∃ name ∈ moduleNames operations, name.key? = operation.moduleName.key? :=
  exists_mem_firstOfEach Json.key? (List.mem_map.mpr ⟨operation, h, rfl⟩)

/-- One operation more adds its module at the end, unless the module is there already. -/
theorem moduleNames_concat (operations : List Operation) (operation : Operation) :
    moduleNames (operations ++ [operation]) =
      if operation.moduleName.key? ∈ (moduleNames operations).map Json.key? then
        moduleNames operations
      else moduleNames operations ++ [operation.moduleName] := by
  -- the first of each name stands for all that have its key
  have hkeys : operation.moduleName.key? ∈ (operations.map moduleName).map Json.key? ↔
      operation.moduleName.key? ∈ (moduleNames operations).map Json.key? := by
    rw [List.mem_map, List.mem_map]
    constructor
    · rintro ⟨name, hname, hkey⟩
      obtain ⟨first, hfirst, hsame⟩ := exists_mem_firstOfEach Json.key? hname
      exact ⟨first, hfirst, hsame.trans hkey⟩
    · rintro ⟨name, hname, hkey⟩
      exact ⟨name, mem_of_mem_firstOfEach _ hname, hkey⟩
  rw [moduleNames, List.map_append, List.map_cons, List.map_nil]
  split
  · next h => exact firstOfEach_concat_of_mem Json.key? (hkeys.mpr h)
  · next h => exact firstOfEach_concat_of_not_mem Json.key? fun h' => h (hkeys.mp h')

theorem ofModule_concat (operations : List Operation) (operation : Operation) (name : Json) :
    ofModule (operations ++ [operation]) name =
      if name.key? = operation.moduleName.key? then ofModule operations name ++ [operation]
      else ofModule operations name := by
  unfold ofModule
  rw [List.filter_append]
  split
  · next h => rw [List.filter_cons_of_pos (by simp [h]), List.filter_nil]
  · next h =>
    rw [List.filter_cons_of_neg (by simpa using fun h' => h h'.symm), List.filter_nil,
      List.append_nil]

end Operation

/-- Adding an operation to groups that have different names: it goes to the end of the group of its
module, or becomes a group behind all others. -/
theorem insertOperation_map (operation : Operation) (group : Json → List Operation)
    {names : List Json} (hnames : names.Pairwise fun a b => a.key? ≠ b.key?) :
    insertOperation operation (names.map fun name => (name, group name)) =
      if operation.moduleName.key? ∈ names.map Json.key? then
        names.map fun name =>
          (name, if name.key? = operation.moduleName.key? then group name ++ [operation]
            else group name)
      else (names.map fun name => (name, group name)) ++ [(operation.moduleName, [operation])] := by
  induction names with
  | nil => rfl
  | cons name rest ih =>
    rw [List.map_cons, insertOperation]
    by_cases hname : name.key? = operation.moduleName.key?
    · rw [if_pos hname, List.map_cons, if_pos (List.mem_cons.mpr (.inl hname.symm)), List.map_cons,
        if_pos hname]
      congr 1
      -- the other groups have other names, so none of them takes the operation
      refine List.map_congr_left fun other hother => ?_
      have hne := List.rel_of_pairwise_cons hnames hother
      rw [if_neg fun h => hne (hname.trans h.symm)]
    · have hmem : operation.moduleName.key? ∈ (name :: rest).map Json.key? ↔
          operation.moduleName.key? ∈ rest.map Json.key? := by
        rw [List.map_cons, List.mem_cons, or_iff_right fun h => hname h.symm]
      rw [if_neg hname, ih hnames.of_cons, if_congr hmem rfl rfl]
      split
      · rw [List.map_cons, if_neg hname]
      · rw [List.cons_append]

/-- The groups that come out of collecting: one for each module name, with all operations of that
module. Induction from the last operation on: it joins the group of its name, or begins one. -/
theorem foldl_insertOperation (operations : List Operation) :
    operations.foldl (fun groups operation => insertOperation operation groups) [] =
      (Operation.moduleNames operations).map fun name =>
        (name, Operation.ofModule operations name) := by
  induction operations using List.reverseRecOn with
  | nil => rfl
  | append_singleton rest operation ih =>
    rw [List.foldl_append, List.foldl_cons, List.foldl_nil, ih,
      insertOperation_map operation (Operation.ofModule rest) (Operation.pairwise_moduleNames rest),
      Operation.moduleNames_concat]
    split
    · refine List.map_congr_left fun name _ => ?_
      rw [Operation.ofModule_concat]
    · -- under a new name the groups so far stay, and the new one holds nothing else
      next hnew =>
      rw [List.map_append, List.map_cons, List.map_nil, Operation.ofModule_concat, if_pos rfl]
      congr 1
      · refine List.map_congr_left fun name hname => ?_
        rw [Operation.ofModule_concat, if_neg fun h => hnew ?_]
        exact List.mem_map.mpr ⟨name, hname, h⟩
      · have hempty : Operation.ofModule rest operation.moduleName = [] := by
          refine List.filter_eq_nil_iff.mpr fun other hother h => hnew ?_
          obtain ⟨name, hname, hkey⟩ := Operation.exists_moduleName hother
          exact List.mem_map.mpr ⟨name, hname, hkey.trans (of_decide_eq_true h)⟩
        rw [hempty, List.nil_append]

/-- Collecting and sorting the groups is sorting the names and then taking each name's operations.
Groups are sorted by names only, so the sort goes through the map. -/
theorem operationsByModule_eq_ok {operations : List Operation}
    {groups : List (Json × List Operation)} (h : operationsByModule operations = .ok groups) :
    ∃ names, Json.sortBy? id (Operation.moduleNames operations) = some names ∧
      groups = names.map fun name => (name, Operation.ofModule operations name) := by
  unfold operationsByModule at h
  split at h
  · cases h
  · rw [foldl_insertOperation, orderly_eq_ok, Json.sortBy?_map] at h
    obtain ⟨names, hnames, hgroups⟩ := Option.map_eq_some_iff.mp h
    exact ⟨names, hnames, hgroups.symm⟩

/-! ## The order of a run -/

namespace Operation

/-- The operations in the order in which a run renders them. -/
def inRunOrder (operations : List Operation) : Except Fault (List Operation) := do
  let names ← orderly (Json.sortBy? id (moduleNames operations))
  let groups ← names.mapM fun name =>
    orderly (Json.sortBy? functionName (ofModule operations name))
  return groups.flatten

/-- The order of a run is a concatenation of the sorted groups under the sorted names. -/
theorem inRunOrder_eq_ok {operations ordered : List Operation} :
    inRunOrder operations = .ok ordered ↔ ∃ names, ∃ group : Json → List Operation,
      Json.sortBy? id (moduleNames operations) = some names ∧
      (∀ name ∈ names, Json.sortBy? functionName (ofModule operations name) = some (group name)) ∧
      ordered = names.flatMap group := by
  unfold inRunOrder
  rw [bind_eq_ok]
  constructor
  · rintro ⟨names, hnames, h⟩
    obtain ⟨groups, hgroups, h⟩ := bind_eq_ok.mp h
    obtain ⟨group, hgroup, rfl⟩ := mapM_eq_ok.mp hgroups
    refine ⟨names, group, orderly_eq_ok.mp hnames, fun name hname => ?_, ?_⟩
    · exact orderly_eq_ok.mp (hgroup name hname)
    · exact (Except.ok.inj h).symm
  · rintro ⟨names, group, hnames, hgroup, rfl⟩
    refine ⟨names, orderly_eq_ok.mpr hnames, bind_eq_ok.mpr ⟨names.map group, ?_, rfl⟩⟩
    exact mapM_eq_ok.mpr ⟨group, fun name hname => orderly_eq_ok.mpr (hgroup name hname), rfl⟩

section Sorted

variable {operations : List Operation} {names : List Json} {group : Json → List Operation}
  (hnames : Json.sortBy? id (moduleNames operations) = some names)
  (hgroup : ∀ name ∈ names,
    Json.sortBy? functionName (ofModule operations name) = some (group name))

include hnames in
theorem pairwise_names : names.Pairwise fun a b => a.key? ≠ b.key? :=
  (Json.perm_of_sortBy? hnames).symm.pairwise (pairwise_moduleNames operations) fun h => h.symm

include hnames in
/-- Sorted names do not descend, and no two are equal, so they ascend. -/
theorem ascending_names (htext : ∀ name ∈ moduleNames operations, name.IsText) :
    names.Pairwise fun a b => a.plain < b.plain := by
  have hmem (name : Json) (h : name ∈ names) : name.IsText :=
    htext name ((Json.perm_of_sortBy? hnames).mem_iff.mp h)
  refine ((Json.pairwise_of_sortBy? htext hnames).and (pairwise_names hnames)).imp_of_mem ?_
  rintro a b ha hb ⟨hle, hne⟩
  exact lt_of_le_of_ne hle fun h =>
    hne ((Json.key?_eq_iff_plain_eq (hmem a ha) (hmem b hb)).mpr h)

include hnames in
/-- A module name of text is alone, or all other module names are text as well. -/
theorem ascending_names_of_mem {text : String} (htext : .str text ∈ names) :
    names.Pairwise fun a b => a.plain < b.plain := by
  have hperm := Json.perm_of_sortBy? hnames
  have hsort := hnames
  unfold Json.sortBy? at hsort
  split at hsort
  · next h =>
    rcases h with hlength | hcomparable
    · -- a single name is sorted without being compared
      rw [← hperm.length_eq] at hlength
      match names, hlength with
      | [], _ => exact .nil
      | [name], _ => exact List.pairwise_singleton _ _
    · rw [List.map_id] at hcomparable
      exact ascending_names hnames
        (Json.isText_of_comparable hcomparable (hperm.mem_iff.mp htext))
  · cases hsort

include hgroup in
theorem moduleName_of_mem_group {name : Json} (hname : name ∈ names) {operation : Operation}
    (h : operation ∈ group name) : operation.moduleName.key? = name.key? := by
  have hmem := (Json.perm_of_sortBy? (hgroup name hname)).mem_iff.mp h
  exact of_decide_eq_true (List.mem_filter.mp hmem).2

include hnames hgroup in
/-- Nothing is lost or repeated: groups are permuted within, and each operation is in the group of
its own name. -/
theorem perm_flatMap_group : (names.flatMap group).Perm operations := by
  have hgroups : (names.flatMap group).Perm (names.flatMap fun name => ofModule operations name) :=
    List.Perm.flatMap_left _ fun name hname => Json.perm_of_sortBy? (hgroup name hname)
  refine hgroups.trans (Grouping.perm_flatMap_filter (pairwise_names hnames) fun operation h => ?_)
  obtain ⟨name, hname, hkey⟩ := exists_moduleName h
  exact ⟨name, (Json.perm_of_sortBy? hnames).mem_iff.mpr hname, hkey⟩

include hnames hgroup in
/-- The operations of one module in the order of the run are its group. -/
theorem filter_flatMap_group {name : Json} (hname : name ∈ names) :
    ((names.flatMap group).filter fun operation => operation.moduleName.key? = name.key?) =
      group name :=
  Grouping.filter_flatMap_eq (pairwise_names hnames)
    (fun _ hn _ hx => moduleName_of_mem_group hgroup hn hx) hname

end Sorted

/-- Rendering in order loses and repeats no operation. -/
theorem perm_of_inRunOrder {operations ordered : List Operation}
    (h : inRunOrder operations = .ok ordered) : ordered.Perm operations := by
  obtain ⟨names, group, hnames, hgroup, rfl⟩ := inRunOrder_eq_ok.mp h
  exact perm_flatMap_group hnames hgroup

/-! ## Names of text -/

/-- Ascending module names and, inside a module, ascending function names. -/
def runsBefore (a b : Operation) : Bool :=
  decide (a.moduleName.plain < b.moduleName.plain ∨
    a.moduleName.plain = b.moduleName.plain ∧ a.functionName.plain ≤ b.functionName.plain)

/-- Ascending function names. -/
def functionBefore (a b : Operation) : Bool := decide (a.functionName.plain ≤ b.functionName.plain)

/-- The order of a run on text names is the lexicographic one. -/
theorem runsBefore_iff {a b : Operation} :
    runsBefore a b = true ↔ toLex (a.moduleName.plain, a.functionName.plain) ≤
      toLex (b.moduleName.plain, b.functionName.plain) := by
  rw [runsBefore, decide_eq_true_iff, Prod.Lex.le_iff]
  exact Iff.rfl

theorem runsBefore_trans (a b c : Operation) (hab : runsBefore a b) (hbc : runsBefore b c) :
    runsBefore a c :=
  runsBefore_iff.mpr ((runsBefore_iff.mp hab).trans (runsBefore_iff.mp hbc))

theorem runsBefore_total (a b : Operation) : runsBefore a b || runsBefore b a := by
  rw [Bool.or_eq_true, runsBefore_iff, runsBefore_iff]
  exact le_total _ _

theorem functionBefore_trans (a b c : Operation) (hab : functionBefore a b)
    (hbc : functionBefore b c) : functionBefore a c :=
  decide_eq_true ((of_decide_eq_true hab).trans (of_decide_eq_true hbc))

theorem functionBefore_total (a b : Operation) : functionBefore a b || functionBefore b a := by
  rw [Bool.or_eq_true, functionBefore, functionBefore, decide_eq_true_iff, decide_eq_true_iff]
  exact le_total _ _

/-- Operations are tied in the run if they are in one module and tied there, which lets stability of
the whole sort be told group by group. -/
theorem tied_runsBefore (a b : Operation) :
    StableSort.tied runsBefore a b = (decide (b.moduleName.plain = a.moduleName.plain) &&
      StableSort.tied functionBefore a b) := by
  rw [Bool.eq_iff_iff, Bool.and_eq_true, StableSort.tied_iff, StableSort.tied_iff, decide_eq_true_iff,
    runsBefore, runsBefore, functionBefore, functionBefore]
  simp only [decide_eq_true_iff]
  constructor
  · -- different module names would have to ascend both ways
    rintro ⟨h | ⟨hname, hab⟩, h' | ⟨_, hba⟩⟩
    · exact absurd h (lt_asymm h')
    · next hname => exact absurd h (hname ▸ lt_irrefl _)
    · exact absurd h' (hname ▸ lt_irrefl _)
    · exact ⟨hname.symm, hab, hba⟩
  · rintro ⟨hname, hab, hba⟩
    exact ⟨.inr ⟨hname.symm, hab⟩, .inr ⟨hname, hba⟩⟩

/-- The names of an operation are text. -/
def HasTextNames (operation : Operation) : Prop :=
  operation.moduleName.IsText ∧ operation.functionName.IsText

/-- The operations that nothing tells apart from a given one are all in its module. -/
theorem filter_tied_runsBefore {l : List Operation} (hl : ∀ o ∈ l, o.moduleName.IsText)
    {x : Operation} {name : Json} (hname : name.IsText) (hx : x.moduleName.plain = name.plain) :
    l.filter (StableSort.tied runsBefore x) =
      (l.filter fun o => o.moduleName.key? = name.key?).filter
        (StableSort.tied functionBefore x) := by
  rw [List.filter_filter]
  refine List.filter_congr fun o ho => ?_
  rw [tied_runsBefore, Bool.and_comm, hx]
  congr 1
  rw [decide_eq_decide, Json.key?_eq_iff_plain_eq (hl o ho) hname]

section Text

variable {operations : List Operation} (htext : ∀ o ∈ operations, o.HasTextNames)

include htext in
theorem isText_of_mem_moduleNames {name : Json} (h : name ∈ moduleNames operations) :
    name.IsText := by
  obtain ⟨o, ho, rfl⟩ := List.mem_map.mp (mem_of_mem_firstOfEach _ h)
  exact (htext o ho).1

variable {names : List Json} {group : Json → List Operation}
  (hnames : Json.sortBy? id (moduleNames operations) = some names)
  (hgroup : ∀ name ∈ names,
    Json.sortBy? functionName (ofModule operations name) = some (group name))

include htext hnames in
theorem isText_of_mem_names {name : Json} (h : name ∈ names) : name.IsText :=
  isText_of_mem_moduleNames htext ((Json.perm_of_sortBy? hnames).mem_iff.mp h)

include htext hnames hgroup

/-- The members of a group name its module. -/
theorem plain_of_mem_group {name : Json} (hname : name ∈ names) {o : Operation}
    (ho : o ∈ group name) : o.moduleName.plain = name.plain := by
  have hmem : o ∈ operations :=
    (perm_flatMap_group hnames hgroup).mem_iff.mp (List.mem_flatMap.mpr ⟨name, hname, ho⟩)
  have hkey := moduleName_of_mem_group hgroup hname ho
  have htextName := isText_of_mem_names htext hnames hname
  exact (Json.key?_eq_iff_plain_eq (htext o hmem).1 htextName).mp hkey

/-- The groups one after the other are in order: inside a group the functions ascend, and across
groups the modules do. -/
theorem pairwise_runsBefore : (names.flatMap group).Pairwise fun a b => runsBefore a b := by
  have hmodule {name : Json} (hname : name ∈ names) {o : Operation} (ho : o ∈ group name) :=
    plain_of_mem_group htext hnames hgroup hname ho
  refine List.pairwise_flatMap.mpr ⟨fun name hname => ?_, ?_⟩
  · have hfunctions := Json.pairwise_of_sortBy?
      (fun o ho => (htext o (List.mem_filter.mp ho).1).2) (hgroup name hname)
    refine hfunctions.imp_of_mem fun ha hb hab => ?_
    exact decide_eq_true (.inr ⟨(hmodule hname ha).trans (hmodule hname hb).symm, hab⟩)
  · have hascending := ascending_names hnames fun name h => isText_of_mem_moduleNames htext h
    refine hascending.imp_of_mem fun hm hn hlt a ha b hb => decide_eq_true (.inl ?_)
    rwa [hmodule hm ha, hmodule hn hb]

/-- A tie of the whole order is a tie inside one module, and its group has it in the order of the
operations. -/
theorem filter_tied_flatMap_group {x : Operation} (hx : x ∈ names.flatMap group) :
    (names.flatMap group).filter (StableSort.tied runsBefore x) =
      operations.filter (StableSort.tied runsBefore x) := by
  obtain ⟨name, hname, hx⟩ := List.mem_flatMap.mp hx
  have htextName := isText_of_mem_names htext hnames hname
  have hmodule := plain_of_mem_group htext hnames hgroup hname hx
  have hsorted : (ofModule operations name).mergeSort functionBefore = group name := by
    have hstable := Json.sortBy?_text fun o (ho : o ∈ ofModule operations name) =>
      (htext o (List.mem_filter.mp ho).1).2
    rw [hgroup name hname] at hstable
    exact (Option.some.inj hstable).symm
  have hperm := perm_flatMap_group hnames hgroup
  calc (names.flatMap group).filter (StableSort.tied runsBefore x)
      = (group name).filter (StableSort.tied functionBefore x) := by
        rw [filter_tied_runsBefore (fun o ho => (htext o (hperm.mem_iff.mp ho)).1) htextName hmodule,
          filter_flatMap_group hnames hgroup hname]
    _ = (ofModule operations name).filter (StableSort.tied functionBefore x) := by
        rw [← hsorted, StableSort.filter_tied_mergeSort functionBefore_trans functionBefore_total]
    _ = operations.filter (StableSort.tied runsBefore x) :=
        (filter_tied_runsBefore (fun o ho => (htext o ho).1) htextName hmodule).symm

end Text

/-- Under names of text, the order of a run is the stable sort by module name and then by function
name. Both arrangements are sorted, and inside a module a tie is left in its order by both. -/
theorem inRunOrder_text {operations : List Operation} (htext : ∀ o ∈ operations, o.HasTextNames) :
    inRunOrder operations = .ok (operations.mergeSort runsBefore) := by
  let names := (moduleNames operations).mergeSort fun a b => decide (a.plain ≤ b.plain)
  let group (name : Json) := (ofModule operations name).mergeSort functionBefore
  have hnames : Json.sortBy? id (moduleNames operations) = some names :=
    Json.sortBy?_text fun name h => isText_of_mem_moduleNames htext h
  have hgroup : ∀ name ∈ names,
      Json.sortBy? functionName (ofModule operations name) = some (group name) :=
    fun name _ => Json.sortBy?_text fun o ho => (htext o (List.mem_filter.mp ho).1).2
  have hsame : names.flatMap group = operations.mergeSort runsBefore := by
    refine StableSort.eq_of_pairwise_of_filter_tied runsBefore_total
      (pairwise_runsBefore htext hnames hgroup)
      (List.pairwise_mergeSort runsBefore_trans runsBefore_total operations)
      ((perm_flatMap_group hnames hgroup).trans (List.mergeSort_perm _ _).symm) fun x hx => ?_
    rw [filter_tied_flatMap_group htext hnames hgroup hx,
      StableSort.filter_tied_mergeSort runsBefore_trans runsBefore_total]
  exact inRunOrder_eq_ok.mpr ⟨names, group, hnames, hgroup, hsame.symm⟩

end Operation

end ElixirClient
