import ElixirClient.Proofs.Descriptor.Misreading

/-!
# Documents that are handled

A document is handled if it is read, or refused with a cause. The rules for operations and documents
are those of their parts, in the order in which the parts are read; parameters are never misread,
only the list of them can be. So a document is handled exactly if it is not misread:
`handles_readDescriptors_iff`.
-/

namespace ElixirClient

/-- The list under a key; where there is none, it is empty. -/
def listed (members : List (String × Json)) (key : String) : Json :=
  (members.lookup key).getD (.arr [])

/-! ## What is misread -/

/-- The object has the fields of an operation that are read first; the method is text. -/
structure HasOperationFields (members : List (String × Json)) : Prop where
  functionName : ∃ name, members.lookup "function_name" = some name
  moduleName : ∃ name, members.lookup "module_name" = some name
  method : ∃ text, members.lookup "method" = some (.str text)
  path : ∃ path, members.lookup "path" = some path

/-- A content type with a body is whatever goes through two values. -/
inductive MisreadBody : Misuse → Json → Prop
  | whole {value : Json} : value.elements? = none → MisreadBody .wrongKind value
  | pair {value : Json} {items : List Json} : value.elements? = some items → items.length ≠ 2 →
    MisreadBody .wrongValue value
  | type {value content type : Json} : value.elements? = some [content, type] →
    MisreadReference type → MisreadBody .wrongKind value

inductive MisreadContent : Misuse → Json → Prop
  | whole {value : Json} : value.isObject = false → MisreadContent .noSuchMember value
  | type {members : List (String × Json)} :
    FirstOf (fun member => Succeeds (readTypeRef member.2))
      (fun member => MisreadReference member.2) members →
    MisreadContent .wrongKind (.obj members)

inductive MisreadResponses : Misuse → Json → Prop
  | whole {value : Json} : value.isObject = false → MisreadResponses .noSuchMember value
  | response {cause : Misuse} {members : List (String × Json)} :
    FirstOf (fun member => Succeeds (readStatus member.1) ∧ Succeeds (readContent member.2))
      (fun member => Succeeds (readStatus member.1) ∧ MisreadContent cause member.2) members →
    MisreadResponses cause (.obj members)

inductive MisreadOperation : Misuse → Json → Prop
  | requestBody {cause : Misuse} {members : List (String × Json)} : HasOperationFields members →
    MisreadEach readBody MisreadBody cause (listed members "request_body") →
    MisreadOperation cause (.obj members)
  | responses {cause : Misuse} {members : List (String × Json)} : HasOperationFields members →
    Succeeds (readEach readBody (listed members "request_body")) →
    MisreadResponses cause ((members.lookup "responses").getD (.obj [])) →
    MisreadOperation cause (.obj members)
  | pathParams {members : List (String × Json)} : HasOperationFields members →
    Succeeds (readEach readBody (listed members "request_body")) →
    Succeeds (readResponses ((members.lookup "responses").getD (.obj []))) →
    (listed members "path_params").elements? = none →
    MisreadOperation .wrongKind (.obj members)
  | queryParams {members : List (String × Json)} : HasOperationFields members →
    Succeeds (readEach readBody (listed members "request_body")) →
    Succeeds (readResponses ((members.lookup "responses").getD (.obj []))) →
    Succeeds (readParams members "path_params") →
    (listed members "query_params").elements? = none →
    MisreadOperation .wrongKind (.obj members)

inductive MisreadDocument : Misuse → Json → Prop
  | schemas {cause : Misuse} {members : List (String × Json)} :
    MisreadEach readNamedSchema MisreadSchema cause (listed members "schemas") →
    MisreadDocument cause (.obj members)
  | operations {cause : Misuse} {members : List (String × Json)} :
    Succeeds (readEach readNamedSchema (listed members "schemas")) →
    MisreadEach readOperation MisreadOperation cause (listed members "operations") →
    MisreadDocument cause (.obj members)

/-! ## Reading -/

variable {value : Json} {members : List (String × Json)} {key : String} {cause : Misuse}

/-- A parameter with a type that is misread is refused, since reading it turns that fault into a
refusal. -/
theorem readParam_ne_misuse (item : Json) : readParam item ≠ .error (.misuse cause) := by
  intro h
  unfold readParam at h
  -- a parameter that is no object, and then the three ways in which its type is read
  split at h
  · cases h
  · simp only at h
    split at h
    · cases h
    · cases h
    · next fault hkind hfault =>
      cases h
      obtain ⟨rfl, _⟩ := readTypeRef_eq_misuse.mp hfault
      exact hkind rfl

/-- Parameters are misread exactly if what should list them cannot be gone through. -/
theorem readParams_eq_misuse :
    readParams members key = .error (.misuse cause) ↔
      cause = .wrongKind ∧ (listed members key).elements? = none := by
  have hread : readParams members key = readEach readParam (listed members key) := rfl
  rw [hread, readEach_eq_error]
  constructor
  · rintro (⟨hcause, hvalue⟩ | ⟨_, _, _, item, _, _, _, hitem⟩)
    · cases hcause
      exact ⟨rfl, hvalue⟩
    · exact absurd hitem (readParam_ne_misuse item)
  · rintro ⟨rfl, hvalue⟩
    exact .inl ⟨rfl, hvalue⟩

/-- A body is misread as a whole, as a pair, or in its type, and nowhere else. -/
theorem readBody_eq_misuse (value : Json) :
    readBody value = .error (.misuse cause) ↔ MisreadBody cause value := by
  unfold readBody
  rw [bind_eq_error, Json.elements_eq_error]
  constructor
  · rintro (⟨hcause, hvalue⟩ | ⟨items, hitems, h⟩)
    · cases hcause
      exact .whole hvalue
    · rw [Json.elements_eq_ok] at hitems
      split at h
      -- a pair comes apart, and then only its type can be misread
      · obtain ⟨rfl, htype⟩ := readTypeRef_eq_misuse.mp (bind_ok_eq_error.mp h)
        exact .type hitems htype
      · next hpair =>
        cases h
        refine .pair hitems fun hlength => ?_
        obtain ⟨content, type, rfl⟩ := List.length_eq_two.mp hlength
        exact hpair content type rfl
  · intro h
    cases h with
    | whole hvalue => exact .inl ⟨rfl, hvalue⟩
    | @pair _ items hitems hlength =>
      refine .inr ⟨items, Json.elements_eq_ok.mpr hitems, ?_⟩
      split
      · exact absurd rfl hlength
      · rfl
    | type hitems htype =>
      refine .inr ⟨_, Json.elements_eq_ok.mpr hitems, ?_⟩
      exact bind_ok_eq_error.mpr (readTypeRef_eq_misuse.mpr ⟨rfl, htype⟩)

/-- Contents are read in order, so those before the one that is misread are fine. -/
theorem readContent_eq_misuse :
    readContent value = .error (.misuse cause) ↔ MisreadContent cause value := by
  cases value with
  | obj members =>
    rw [readContent, mapM_eq_error]
    constructor
    · rintro ⟨before, member, behind, rfl, hbefore, h⟩
      obtain ⟨rfl, htype⟩ := readTypeRef_eq_misuse.mp (bind_ok_eq_error.mp h)
      exact .type ⟨before, member, behind, rfl,
        fun earlier hmem => succeeds_bind_ok.mp (hbefore earlier hmem), htype⟩
    · intro h
      cases h with
      | whole hvalue => cases hvalue
      | type h =>
      obtain ⟨before, member, behind, rfl, hbefore, htype⟩ := h
      refine ⟨before, member, behind, rfl,
        fun earlier hmem => succeeds_bind_ok.mpr (hbefore earlier hmem), ?_⟩
      exact bind_ok_eq_error.mpr (readTypeRef_eq_misuse.mpr ⟨rfl, htype⟩)
  | _ =>
    constructor
    · intro h
      cases h
      exact .whole rfl
    · rintro ⟨_⟩
      rfl

theorem readStatus_ne_misuse (text : String) : readStatus text ≠ .error (.misuse cause) := by
  unfold readStatus
  split
  · nofun
  · split <;> nofun

/-- Responses are misread at the first of them that has a misread content. Its status has been read
before, and so have all earlier ones. -/
theorem readResponses_eq_misuse :
    readResponses value = .error (.misuse cause) ↔ MisreadResponses cause value := by
  cases value with
  | obj members =>
    -- whether a response can be read does not depend on those before it
    have hloop : readResponses (.obj members) = .error (.misuse cause) ↔
        FirstOf (fun member => Succeeds (readStatus member.1) ∧ Succeeds (readContent member.2))
          (fun member => Succeeds (readStatus member.1) ∧ MisreadContent cause member.2)
          members := by
      -- what is collected so far does not matter to the next response
      refine foldlM_eq_error (fun done member => ?_) fun done member => ?_
      · exact succeeds_seq fun status _ => succeeds_bind_ok
      · refine seq_eq_error_of_ne (readStatus_ne_misuse member.1) fun status _ => ?_
        exact bind_ok_eq_error.trans readContent_eq_misuse
    rw [hloop]
    refine ⟨.response, fun h => ?_⟩
    cases h with
    | whole hvalue => cases hvalue
    | response h => exact h
  | _ =>
    constructor
    · intro h
      cases h
      exact .whole rfl
    · rintro ⟨_⟩
      rfl

theorem requireField_eq_ok {field : Json} :
    requireField members key = .ok field ↔ members.lookup key = some field := by
  unfold requireField
  cases members.lookup key with
  | none => exact ⟨nofun, nofun⟩
  | some value => exact ⟨fun h => congrArg _ (Except.ok.inj h), fun h => by cases h; rfl⟩

theorem requireField_ne_misuse : requireField members key ≠ .error (.misuse cause) := by
  unfold requireField
  split <;> nofun

theorem method_ne_misuse :
    (requireField members "method" >>= readMethod) ≠ .error (.misuse cause) := by
  intro h
  rcases bind_eq_error.mp h with h | ⟨method, _, h⟩
  · exact requireField_ne_misuse h
  · cases method <;> cases h

/-- The fields that come first are all there, and none of them is misread: the rest of an operation
is looked at only then. -/
theorem hasOperationFields_iff :
    HasOperationFields members ↔ Succeeds (requireField members "function_name") ∧
      Succeeds (requireField members "module_name") ∧
      Succeeds (requireField members "method" >>= readMethod) ∧
      Succeeds (requireField members "path") := by
  have hmethod : Succeeds (requireField members "method" >>= readMethod) ↔
      ∃ text, members.lookup "method" = some (.str text) := by
    constructor
    · rintro ⟨method, h⟩
      obtain ⟨field, hfield, h⟩ := bind_eq_ok.mp h
      cases field with
      | str text => exact ⟨text, requireField_eq_ok.mp hfield⟩
      | _ => cases h
    · rintro ⟨text, h⟩
      exact ⟨_, bind_eq_ok.mpr ⟨_, requireField_eq_ok.mpr h, rfl⟩⟩
  rw [hmethod]
  simp only [Succeeds, requireField_eq_ok]
  exact ⟨fun h => ⟨h.functionName, h.moduleName, h.method, h.path⟩,
    fun h => ⟨h.1, h.2.1, h.2.2.1, h.2.2.2⟩⟩

/-- An operation is read in steps whose results are put together in the end. -/
theorem readOperation_obj (members : List (String × Json)) :
    readOperation (.obj members) = (do
      let functionName ← requireField members "function_name"
      let moduleName ← requireField members "module_name"
      let method ← requireField members "method" >>= readMethod
      let path ← requireField members "path"
      let requestBody ← readEach readBody (listed members "request_body")
      let responses ← readResponses ((members.lookup "responses").getD (.obj []))
      let pathParams ← readParams members "path_params"
      let queryParams ← readParams members "query_params"
      return {
        functionName, moduleName, method, path, pathParams, queryParams, requestBody, responses
        docstring := (members.lookup "docstring").getD (.str "") }) := by
  simp only [readOperation, readEach, listed, bind_assoc]

/-- An operation is misread at the first of its parts that is, in the order in which they are
read. -/
theorem readOperation_eq_misuse (value : Json) :
    readOperation value = .error (.misuse cause) ↔ MisreadOperation cause value := by
  cases value with
  | obj members =>
    -- the steps in order: a later one is reached only if all before it succeeded
    have hsteps : readOperation (.obj members) = .error (.misuse cause) ↔
        HasOperationFields members ∧
          (MisreadEach readBody MisreadBody cause (listed members "request_body") ∨
            Succeeds (readEach readBody (listed members "request_body")) ∧
            (MisreadResponses cause ((members.lookup "responses").getD (.obj [])) ∨
              Succeeds (readResponses ((members.lookup "responses").getD (.obj []))) ∧
              (readParams members "path_params" = .error (.misuse cause) ∨
                Succeeds (readParams members "path_params") ∧
                readParams members "query_params" = .error (.misuse cause)))) := by
      rw [readOperation_obj, hasOperationFields_iff, ← readEach_eq_misuse readBody_eq_misuse,
        ← readResponses_eq_misuse, and_assoc, and_assoc, and_assoc]
      refine seq_eq_error_of_ne requireField_ne_misuse fun _ _ => ?_
      refine seq_eq_error_of_ne requireField_ne_misuse fun _ _ => ?_
      refine seq_eq_error_of_ne method_ne_misuse fun _ _ => ?_
      refine seq_eq_error_of_ne requireField_ne_misuse fun _ _ => ?_
      refine seq_eq_error fun _ _ => seq_eq_error fun _ _ => seq_eq_error fun _ _ => ?_
      exact bind_ok_eq_error
    rw [hsteps, readParams_eq_misuse, readParams_eq_misuse]
    constructor
    · rintro ⟨hfields, h | ⟨hbody, h | ⟨hresponses, ⟨rfl, h⟩ | ⟨hpath, rfl, h⟩⟩⟩⟩
      · exact .requestBody hfields h
      · exact .responses hfields hbody h
      · exact .pathParams hfields hbody hresponses h
      · exact .queryParams hfields hbody hresponses hpath h
    · intro h
      cases h with
      | requestBody hfields h => exact ⟨hfields, .inl h⟩
      | responses hfields hbody h => exact ⟨hfields, .inr ⟨hbody, .inl h⟩⟩
      | pathParams hfields hbody hresponses h =>
        exact ⟨hfields, .inr ⟨hbody, .inr ⟨hresponses, .inl ⟨rfl, h⟩⟩⟩⟩
      | queryParams hfields hbody hresponses hpath h =>
        exact ⟨hfields, .inr ⟨hbody, .inr ⟨hresponses, .inr ⟨hpath, rfl, h⟩⟩⟩⟩
  | _ => exact ⟨nofun, nofun⟩

theorem readNamedSchema_eq_misuse (value : Json) :
    readNamedSchema value = .error (.misuse cause) ↔ MisreadSchema cause value :=
  readSchema_eq_misuse

/-- **Misread documents.** -/
theorem readDescriptors_eq_misuse (value : Json) :
    readDescriptors value = .error (.misuse cause) ↔ MisreadDocument cause value := by
  cases value with
  | obj members =>
    have hread : readDescriptors (.obj members) = (do
        let schemas ← readEach readNamedSchema (listed members "schemas")
        let operations ← readEach readOperation (listed members "operations")
        return ⟨schemas, operations⟩) := by
      simp only [readDescriptors, readEach, listed, bind_assoc]
    -- schemas are read in front of operations
    have hsteps : readDescriptors (.obj members) = .error (.misuse cause) ↔
        MisreadEach readNamedSchema MisreadSchema cause (listed members "schemas") ∨
          Succeeds (readEach readNamedSchema (listed members "schemas")) ∧
          MisreadEach readOperation MisreadOperation cause (listed members "operations") := by
      rw [hread, ← readEach_eq_misuse readNamedSchema_eq_misuse,
        ← readEach_eq_misuse readOperation_eq_misuse]
      exact seq_eq_error fun schemas _ => bind_ok_eq_error
    rw [hsteps]
    constructor
    · rintro (h | ⟨hschemas, h⟩)
      · exact .schemas h
      · exact .operations hschemas h
    · intro h
      cases h with
      | schemas h => exact .inl h
      | operations hschemas h => exact .inr ⟨hschemas, h⟩
  | _ =>
    constructor
    · intro h
      cases h
    · intro h
      cases h

/-! ## Nothing else goes wrong -/

/-- Every fault of the computation is a refusal or a misuse. -/
abbrev Refuses {α γ : Type} (refusal : γ → Fault) (e : Except Fault α) : Prop :=
  Confined (Fault.RefusedOr refusal fun _ => True) e

/-- The computation has a result, or it ends in a refusal. -/
def Handles {α γ : Type} (refusal : γ → Fault) (e : Except Fault α) : Prop :=
  Succeeds e ∨ ∃ cause, e = .error (refusal cause)

/-- Where every fault is a refusal or a misuse, a document is handled exactly if it is not
misused. -/
theorem Refuses.handles_iff {α γ : Type} {refusal : γ → Fault} {e : Except Fault α}
    (h : Refuses refusal e) (hrefusal : ∀ cause misuse, refusal cause ≠ .misuse misuse) :
    Handles refusal e ↔ ∀ cause, e ≠ .error (.misuse cause) := by
  constructor
  · rintro (⟨a, rfl⟩ | ⟨refused, rfl⟩) cause hmisuse
    · cases hmisuse
    · exact hrefusal refused cause (Except.error.inj hmisuse)
  · intro hnone
    cases e with
    | ok a => exact .inl ⟨a, rfl⟩
    | error fault =>
      cases h fault rfl with
      | refused cause => exact .inr ⟨cause, rfl⟩
      | misused _ => exact absurd rfl (hnone _)

/-- Going through a value that has no elements is a misuse. -/
theorem refuses_elements {γ : Type} {refusal : γ → Fault} (value : Json) :
    Refuses refusal value.elements := by
  intro fault h
  obtain ⟨rfl, _⟩ := Json.elements_eq_error.mp h
  exact .misused trivial

theorem refuses_readTypeRef (value : Json) : Refuses .descriptor (readTypeRef value) :=
  (readTypeRef_faults value).mono fun _ h => h.imp fun _ _ => trivial

theorem refuses_readNamedSchema (value : Json) :
    Refuses .descriptor (readNamedSchema value) :=
  (readSchema_faults _ value).mono fun _ h => h.imp fun _ _ => trivial

/-- Here a misuse does not get through: it has become a refusal. -/
theorem refuses_readParams (members : List (String × Json)) (key : String) :
    Refuses .descriptor (readParams members key) := by
  refine (refuses_elements _).bind fun items _ => .mapM fun item _ => ?_
  unfold readParam
  split
  · exact .error (.refused _)
  · simp only
    split
    · exact .ok _
    · exact .error (.refused _)
    · next fault _ hfault => exact .error (refuses_readTypeRef _ fault hfault)

/-- A body that is no pair is a misuse, and a type may be anything that its reader makes of it. -/
theorem refuses_readBody (value : Json) : Refuses .descriptor (readBody value) := by
  refine (refuses_elements value).bind fun items _ => ?_
  split
  · exact (refuses_readTypeRef _).bind fun type _ => .ok _
  · exact .error (.misused trivial)

theorem refuses_readContent (value : Json) : Refuses .descriptor (readContent value) := by
  cases value with
  | obj members =>
    refine .mapM fun member _ => ?_
    exact (refuses_readTypeRef member.2).bind fun type _ => .ok _
  | _ => exact .error (.misused trivial)

theorem refuses_readStatus (text : String) : Refuses .descriptor (readStatus text) := by
  unfold readStatus
  split
  · exact .ok _
  · split
    · exact .ok _
    · exact .error (.refused _)

/-- Responses are collected in a loop, of which each round reads a status and then a content. -/
theorem refuses_readResponses (value : Json) :
    Refuses .descriptor (readResponses value) := by
  cases value with
  | obj members =>
    refine .foldlM (fun done member _ => ?_) []
    refine (refuses_readStatus member.1).bind fun status _ => ?_
    exact (refuses_readContent member.2).bind fun content _ => .ok _
  | _ => exact .error (.misused trivial)

theorem refuses_requireField (members : List (String × Json)) (key : String) :
    Refuses .descriptor (requireField members key) := by
  unfold requireField
  split
  · exact .ok _
  · exact .error (.refused _)

theorem refuses_readMethod (value : Json) : Refuses .descriptor (readMethod value) := by
  cases value with
  | str text => exact .ok _
  | _ => exact .error (.refused _)

theorem refuses_readOperation (value : Json) :
    Refuses .descriptor (readOperation value) := by
  cases value with
  | obj members =>
    rw [readOperation_obj]
    have hfield := refuses_requireField members
    refine (hfield _).bind fun _ _ => (hfield _).bind fun _ _ => ?_
    refine ((hfield _).bind fun method _ => refuses_readMethod method).bind fun _ _ => ?_
    refine (hfield _).bind fun _ _ => ?_
    -- bodies are read in a loop of their own
    have hbodies : Refuses .descriptor (readEach readBody (listed members "request_body")) :=
      (refuses_elements _).bind fun _ _ =>
        .mapM fun body _ => refuses_readBody body
    refine hbodies.bind fun _ _ => (refuses_readResponses _).bind fun _ _ => ?_
    refine (refuses_readParams _ _).bind fun _ _ => ?_
    exact (refuses_readParams _ _).bind fun _ _ => .ok _
  | _ => exact .error (.refused _)

theorem refuses_readDescriptors (value : Json) :
    Refuses .descriptor (readDescriptors value) := by
  cases value with
  | obj members =>
    refine (refuses_elements _).bind fun _ _ => ?_
    refine (Confined.mapM fun _ _ => refuses_readNamedSchema _).bind fun _ _ => ?_
    refine (refuses_elements _).bind fun _ _ => ?_
    exact (Confined.mapM fun _ _ => refuses_readOperation _).bind fun _ _ => .ok _
  | _ => exact .error (.refused _)

/-- **Handled documents.** A document is read or refused exactly if it is not misread. -/
theorem handles_readDescriptors_iff (value : Json) :
    Handles .descriptor (readDescriptors value) ↔ ∀ cause, ¬ MisreadDocument cause value := by
  rw [(refuses_readDescriptors value).handles_iff nofun]
  exact forall_congr' fun cause => not_congr (readDescriptors_eq_misuse value)

end ElixirClient
