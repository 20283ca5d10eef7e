import ElixirClient.Proofs.Naming.Identifier
import ElixirClient.Proofs.PathTemplate.Url
import ElixirClient.Proofs.Rendering.Modules
import ElixirClient.Proofs.Rendering.WellFormed
import ElixirClient.Proofs.Resolver.Unions
import ElixirClient.Proofs.Source.SteadyNodes

/-!
# Indented bodies

The body of a function is printed first and indented afterwards, so indenting goes over the literals
in it. Those are escaped before, but of all line ends only the line feed is. Taking the indentation
away again gives the printed body exactly if the texts that an operation brings along have no other
line ends (`outdent_function_iff`); otherwise a literal has been changed
(`indented_path_separator`).
-/

namespace ElixirClient

open Source (Inert SteadyName Framed outdent)

namespace Operation

variable {scope : Scope} {operation : Operation} {f : Function}

/-! ## Names without line ends -/

/-- Names of arguments are made of letters, digits and underscores of one alphabet. -/
theorem inert_variableName (raw : String) : Inert (Naming.variableName raw).toList := by
  intro c hc
  have hchar := Naming.variableName_alphabet raw c hc
  by_contra hend
  have hatom := (Source.not_isAtomChar_of_isLineEnd (by simpa using hend)).1
  simp only [Naming.isArgumentChar, Naming.isLower, Bool.or_eq_true] at hchar
  simp only [Source.isAtomChar, Source.isAtomStart, Bool.or_eq_false_iff] at hatom
  -- a character of an argument is one of an atom, and those are no line ends
  rcases hchar with (hchar | hchar) | hchar <;> simp_all

/-- The variables of a url are arguments. -/
theorem plain_url {url : List Piece} (h : operation.url = .ok url) :
    (Node.interpolation url).Plain := by
  refine (Node.throughout_leaf rfl).mpr fun name hname => ?_
  obtain ⟨path, arguments, _, harguments, hcheck, rfl⟩ := url_eq_ok.mp h
  obtain ⟨part, hpart, hpiece⟩ := List.mem_map.mp hname
  cases part with
  | text cs => cases hpiece
  | placeholder raw =>
    rw [partPiece_placeholder harguments hcheck hpart] at hpiece
    obtain rfl := Piece.var.inj hpiece
    exact inert_variableName _

theorem plain_var {name : String} (h : Inert name.toList) : (Node.var name).Plain :=
  (Node.throughout_leaf rfl).mpr h

theorem plain_atom (name : Json) : (Node.atom name).Plain := (Node.throughout_leaf rfl).mpr trivial

theorem plain_of_isType {node : Node} (h : node.IsType) : node.Plain := by
  intro part hpart
  cases h.parts part hpart <;> trivial

/-- Keys of the table are literals of text, and in quotation marks anything may stand. -/
theorem plain_requestTable (hcontent : ∀ entry ∈ operation.requestBody, entry.1.IsText)
    {node : Node} (h : operation.requestTable scope.resolver = .ok node) : node.Plain := by
  obtain ⟨type, htype, rfl⟩ := requestTable_eq_ok h
  refine Node.throughout_list.mpr ⟨trivial, fun pair hpair => ?_⟩
  obtain ⟨entry, hentry, rfl⟩ := List.mem_map.mp hpair
  obtain ⟨content, hcontent⟩ := hcontent entry hentry
  have hnode : (type entry).Plain :=
    plain_of_isType (Resolver.isType_of_resolve (htype entry hentry))
  rw [hcontent, Node.throughout_pair, Node.throughout_typeValue]
  exact ⟨trivial, (Node.throughout_leaf rfl).mpr trivial, trivial, hnode⟩

theorem plain_responseTable {node : Node}
    (h : operation.responseTable scope.resolver = .ok node) : node.Plain := by
  obtain ⟨type, htype, rfl⟩ := responseTable_eq_ok h
  refine Node.throughout_list.mpr ⟨trivial, fun pair hpair => ?_⟩
  obtain ⟨response, hresponse, rfl⟩ := List.mem_map.mp hpair
  have hnode : (type response).Plain :=
    plain_of_isType (Resolver.isType_of_union (htype response hresponse))
  have hstatus : response.1.node.Plain := by
    cases response.1 with
    | code n => exact (Node.throughout_leaf rfl).mpr trivial
    | default => exact plain_atom _
  rw [Node.throughout_pair, Node.throughout_typeValue]
  exact ⟨trivial, hstatus, trivial, hnode⟩

/-- Names that stand bare in a call are those of arguments and of four variables. -/
theorem plain_call (hcontent : ∀ entry ∈ operation.requestBody, entry.1.IsText) {node : Node}
    (h : operation.call scope = .ok node) : node.Plain := by
  -- keys in quotation marks go with names of arguments, which are inert
  have hword (raw : String) (name : String)
      (hname : name ∈ "body" :: operation.pathParams.map Param.argument) :
      (Node.pair (.atom (.str raw)) (.var name)).Plain := by
    have hinert : Inert name.toList := by
      rcases List.mem_cons.mp hname with rfl | hname
      · decide
      · obtain ⟨param, _, rfl⟩ := List.mem_map.mp hname
        exact inert_variableName _
    exact Node.throughout_pair.mpr ⟨trivial, plain_atom _, plain_var hinert⟩
  have htarget : (Node.pair (.moduleRef (scope.config.qualified operation.moduleName))
      (.atom operation.functionName)).Plain :=
    Node.throughout_pair.mpr ⟨trivial, (Node.throughout_leaf rfl).mpr trivial, plain_atom _⟩
  have hvar : ∀ name ∈ ["body", "query", "opts"], (Node.var name).Plain := by
    simp only [List.forall_mem_cons]
    exact ⟨plain_var (by decide), plain_var (by decide), plain_var (by decide),
      List.forall_mem_nil _⟩
  obtain ⟨front, rfl, hentries⟩ := exists_entries_of_call h
    (fun items hitems => Node.throughout_list.mpr ⟨trivial, hitems⟩) hword htarget
    (fun url => plain_url) (plain_atom _) hvar (fun table => plain_requestTable hcontent)
    (fun table => plain_responseTable)
  have hname : Inert "request".toList := by decide
  refine Node.throughout_call.mpr ⟨hname, plain_var (by decide), ?_⟩
  exact List.forall_mem_singleton.mpr
    (Node.throughout_mapLiteral.mpr ⟨⟨front, _, _, rfl⟩, hentries⟩)

/-- No statement of a body shows a bare name that comes from a descriptor as it is. -/
theorem plain_of_body (hcontent : ∀ entry ∈ operation.requestBody, entry.1.IsText)
    (h : operation.function scope = .ok f) : ∀ node ∈ f.body, node.Plain := by
  obtain ⟨query, call, hquery, hcall, hbody, _⟩ := function_eq_ok h
  have hclient : clientStatement.Plain := by
    have htarget : Inert "client".toList := by decide
    have hdefault : Inert "default_client".toList := by decide
    refine Node.throughout_assign.mpr ⟨htarget, Node.throughout_fallback.mpr ⟨trivial, ?_, ?_⟩⟩
    · exact Node.throughout_access.mpr ⟨trivial, plain_var (by decide), plain_atom _⟩
    · exact (Node.throughout_leaf rfl).mpr hdefault
  have hkeys : ∀ node ∈ query, node.Plain := by
    rcases query_eq_ok hquery with ⟨_, rfl⟩ | ⟨keys, rfl, _⟩
    · nofun
    · rintro node ⟨⟩
      have htarget : Inert "query".toList := by decide
      exact Node.throughout_assign.mpr ⟨htarget,
        Node.throughout_selectKeys.mpr ⟨trivial, plain_var (by decide)⟩⟩
  rw [hbody]
  simp only [List.forall_mem_append, List.forall_mem_cons, Option.mem_toList]
  exact ⟨⟨hclient, hkeys⟩, plain_call hcontent hcall, nofun⟩

/-! ## Statements -/

theorem framed_client {text : String} (h : Source.exprText clientStatement = .ok text) :
    Framed text.toList := by
  have htext : Source.exprText clientStatement =
      .ok "client = opts[:client] || @default_client" := rfl
  rw [htext] at h
  cases h
  exact ⟨'c', "lient = opts[:client] || @default_clien".toList, 't', by decide, by decide, by rfl⟩

/-- The statement for query parameters begins and ends with its own words, whatever the keys are. -/
theorem framed_query {keys : List Json} {text : String}
    (h : Source.exprText (.assign "query" (.selectKeys (.var "opts") keys)) = .ok text) :
    Framed text.toList := by
  rw [Source.exprText, Source.exprText, Source.exprText] at h
  obtain ⟨value, hvalue, h⟩ := bind_eq_ok.mp h
  obtain ⟨keyTexts, _, hvalue⟩ := bind_eq_ok.mp hvalue
  cases hvalue
  cases h
  refine ⟨'q', ("uery = Keyword.take(opts, [" ++ ", ".intercalate keyTexts ++ "]").toList, ')',
    by decide, by decide, ?_⟩
  simp

theorem framed_call {args : List Node} {text : String}
    (h : Source.exprText (.call (.var "client") "request" args) = .ok text) :
    Framed text.toList := by
  rw [Source.exprText, Source.exprText] at h
  obtain ⟨argTexts, _, h⟩ := bind_eq_ok.mp h
  cases h
  refine ⟨'c', ("lient.request(" ++ ", ".intercalate argTexts).toList, ')', by decide,
    by decide, ?_⟩
  simp

/-- Every statement begins with a name and ends with another one or a parenthesis. -/
theorem framed_of_body (h : operation.function scope = .ok f) :
    ∀ node ∈ f.body, ∀ text, Source.exprText node = .ok text → Framed text.toList := by
  obtain ⟨query, call, hquery, hcall, hbody, _⟩ := function_eq_ok h
  have hkeys : ∀ node ∈ query, ∀ text, Source.exprText node = .ok text → Framed text.toList := by
    rcases query_eq_ok hquery with ⟨_, rfl⟩ | ⟨keys, rfl, _⟩
    · nofun
    · rintro node ⟨⟩ text htext
      exact framed_query htext
  have hcall : ∀ text, Source.exprText call = .ok text → Framed text.toList := by
    obtain ⟨_, _, _, _, _, _, _, _, _, _, _, _, rfl⟩ := call_eq_ok hcall
    exact fun text htext => framed_call htext
  rw [hbody]
  simp only [List.forall_mem_append, List.forall_mem_cons, Option.mem_toList]
  exact ⟨⟨fun text htext => framed_client htext, hkeys⟩, hcall, nofun⟩

/-! ## Texts of an operation -/

/-- The texts of a url hold all of the path but its placeholders. Those are printed as keys, so
nothing of the path is lost by looking at texts and names. -/
theorem feedsOnly_path {path : String} {arguments : Arguments}
    (harguments : operation.pathArguments = .ok arguments)
    (hcheck : operation.checkPath path arguments = .ok ())
    (hnames : ∀ param ∈ operation.pathParams, param.name.FeedsOnly) :
    (∀ text, .text text ∈ (PathPart.ofPath path.toList).map (partPiece arguments) →
      Text.FeedsOnly text.toList) ↔ Text.FeedsOnly path.toList := by
  -- the path is its parts, so a line end of it stands in one of them
  have hsource : Text.FeedsOnly path.toList ↔
      ∀ part ∈ PathPart.ofPath path.toList, Text.FeedsOnly part.source := by
    conv_lhs => rw [← PathPart.flatMap_source_ofPath path.toList]
    exact List.forall_mem_flatMap
  rw [hsource]
  constructor
  · intro h part hpart
    cases part with
    | text cs =>
      have hcs := h _ (List.mem_map.mpr ⟨_, hpart, rfl⟩)
      rwa [String.toList_ofList] at hcs
    | placeholder name =>
      -- the url has a variable here, but the name is declared and printed as a key
      obtain ⟨htexts, _, _, rfl⟩ := pathArguments_eq_ok.mp harguments
      have hdeclared := declared_of_mem_ofPath hcheck hpart
      rw [List.map_map] at hdeclared
      obtain ⟨param, hparam, hname⟩ := List.mem_map.mp hdeclared
      obtain ⟨raw, hraw⟩ := htexts param hparam
      have hfeeds := hnames param hparam
      have hsame : raw.toList = name := by
        rw [Function.comp_apply, Param.entry, hraw, Json.plain] at hname
        rw [show raw = String.ofList name from hname, String.toList_ofList]
      rw [hraw, Json.FeedsOnly, hsame] at hfeeds
      refine List.forall_mem_cons.mpr ⟨by decide, List.forall_mem_append.mpr ⟨hfeeds, ?_⟩⟩
      exact List.forall_mem_singleton.mpr (by decide)
  · intro h text htext
    obtain ⟨part, hpart, hpiece⟩ := List.mem_map.mp htext
    cases part with
    | text cs =>
      obtain rfl := Piece.text.inj hpiece
      rw [String.toList_ofList]
      exact h _ hpart
    | placeholder name => cases hpiece

/-- The texts of an operation that are in quotation marks in the body of its function. -/
def printedTexts (operation : Operation) : List Json :=
  [operation.functionName, operation.path, .str operation.method] ++
    (operation.pathParams.map Param.name ++ operation.queryParams.map Param.name ++
      operation.requestBody.map (·.1))

/-- Of a parameter, the raw name is printed in quotation marks, and the argument is not. -/
theorem quiet_arguments : (∀ pair ∈ (operation.pathParams.map Param.entry).map (fun argument =>
      Node.pair (.atom (.str argument.1)) (.var argument.2)) ++
    (if operation.hasBody then [Node.pair (.atom (.str "body")) (.var "body")] else []),
    pair.Throughout Node.QuietHere) ↔
      ∀ param ∈ operation.pathParams, Text.FeedsOnly param.name.plain.toList := by
  have hword {raw name : String} : (Node.pair (.atom (.str raw)) (.var name)).Throughout
      Node.QuietHere ↔ Text.FeedsOnly raw.toList := by
    simp
  have hbody : ∀ pair ∈
      (if operation.hasBody then [Node.pair (.atom (.str "body")) (.var "body")] else []),
      pair.Throughout Node.QuietHere := by
    have hinert : Inert "body".toList := by decide
    split
    · exact List.forall_mem_singleton.mpr (hword.mpr hinert.feedsOnly)
    · exact List.forall_mem_nil _
  rw [List.forall_mem_append, and_iff_left hbody, List.map_map, List.forall_mem_map]
  exact forall₂_congr fun param _ => hword

/-- What is printed of a body are its content types; a type of data prints names of modules, which
are looked at elsewhere. -/
theorem quiet_requestTable {node : Node} (h : operation.requestTable scope.resolver = .ok node) :
    node.Throughout Node.QuietHere ↔ ∀ entry ∈ operation.requestBody, entry.1.FeedsOnly := by
  obtain ⟨type, htype, rfl⟩ := requestTable_eq_ok h
  refine (Node.throughout_list.trans (and_iff_right trivial)).trans ?_
  rw [List.forall_mem_map]
  refine forall₂_congr fun entry hentry => ?_
  have hnode : (type entry).Throughout Node.QuietHere :=
    Node.quiet_of_isType (Resolver.isType_of_resolve (htype entry hentry))
      (Resolver.untagged_of_resolve (htype entry hentry))
  have hvalue : (Node.typeValue (type entry)).Throughout Node.QuietHere :=
    Node.throughout_typeValue.mpr ⟨trivial, hnode⟩
  rw [Node.throughout_pair, and_iff_left hvalue]
  exact (and_iff_right trivial).trans (Node.throughout_leaf rfl)

/-- The table for responses prints nothing that a descriptor could put into quotation marks. -/
theorem quiet_responseTable {node : Node} (h : operation.responseTable scope.resolver = .ok node) :
    node.Throughout Node.QuietHere := by
  obtain ⟨type, htype, rfl⟩ := responseTable_eq_ok h
  refine Node.throughout_list.mpr ⟨trivial, List.forall_mem_map.mpr fun response hresponse => ?_⟩
  have hnode : (type response).Throughout Node.QuietHere := by
    have htype := htype response hresponse
    rw [Resolver.union_eq] at htype
    exact Node.quiet_of_isType (Resolver.isType_of_resolve htype)
      (Resolver.untagged_of_resolve htype)
  have hstatus : response.1.node.Throughout Node.QuietHere := by
    have hinert : Inert "default".toList := by decide
    cases response.1 with
    | code n => exact (Node.throughout_leaf rfl).mpr trivial
    | default => exact (Node.throughout_leaf rfl).mpr hinert.feedsOnly
  exact Node.throughout_pair.mpr ⟨trivial, hstatus, Node.throughout_typeValue.mpr ⟨trivial, hnode⟩⟩

/-- The key and the value of an entry. -/
def QuietEntry (entry : String × Node) : Prop :=
  Text.FeedsOnly entry.1.toList ∧ entry.2.Throughout Node.QuietHere

/-- The keys of the call are words of the generator, without line ends. -/
theorem quietEntry_iff (key : String) {node : Node} (hkey : Inert key.toList) :
    QuietEntry (key, node) ↔ node.Throughout Node.QuietHere :=
  and_iff_right hkey.feedsOnly

theorem quiet_request {entries : List (String × Node)} :
    (Node.call (.var "client") "request" [.mapLiteral entries]).Throughout Node.QuietHere ↔
      ∀ entry ∈ entries, QuietEntry entry := by
  rw [Node.throughout_call, List.forall_mem_singleton, Node.throughout_mapLiteral]
  -- each entry counts with its key, which the map literal prints as well
  unfold QuietEntry
  rw [forall₂_and]
  exact ⟨fun h => h.2.2, fun h => ⟨trivial, (Node.throughout_leaf rfl).mpr trivial, h⟩⟩

/-- All texts that the call prints in quotation marks, each under the entry that prints it. -/
theorem quiet_call {node : Node} (h : operation.call scope = .ok node) :
    node.Throughout Node.QuietHere ↔
      SteadyName (scope.config.qualified operation.moduleName) ∧
        operation.functionName.FeedsOnly ∧ operation.path.FeedsOnly ∧
        Text.FeedsOnly operation.method.toList ∧
        (∀ param ∈ operation.pathParams, param.name.FeedsOnly) ∧
        ∀ entry ∈ operation.requestBody, entry.1.FeedsOnly := by
  obtain ⟨arguments, url, body, query, request, response, harguments, hurl, hbody, hquery, hrequest,
    hresponse, rfl⟩ := call_eq_ok h
  obtain ⟨path, arguments', hpath, harguments', hcheck, rfl⟩ := url_eq_ok.mp hurl
  rw [harguments] at harguments'
  cases harguments'
  obtain ⟨htexts, _, _, rfl⟩ := pathArguments_eq_ok.mp harguments
  have hnames : (∀ param ∈ operation.pathParams, Text.FeedsOnly param.name.plain.toList) ↔
      ∀ param ∈ operation.pathParams, param.name.FeedsOnly := by
    refine forall₂_congr fun param hparam => ?_
    obtain ⟨raw, hraw⟩ := htexts param hparam
    rw [hraw, Json.plain, Json.FeedsOnly]
  have hvar {condition : Bool} {key name : String} {entries : List (String × Node)}
      (h : entryIf condition key (.ok (.var name)) = .ok entries) (hkey : Inert key.toList) :
      ∀ entry ∈ entries, QuietEntry entry := by
    refine forall_of_entryIf (fun node hnode => ?_) h
    cases hnode
    exact (quietEntry_iff _ hkey).mpr ((Node.throughout_leaf rfl).mpr trivial)
  have hrequest : (∀ entry ∈ request, QuietEntry entry) ↔
      ∀ entry ∈ operation.requestBody, entry.1.FeedsOnly := by
    refine forall_entryIf_iff hrequest (fun node hnode => ?_) fun hnone => ?_
    · exact (quietEntry_iff _ (by decide)).trans (quiet_requestTable hnode)
    · rw [hasBody_eq_false_iff.mp hnone]
      exact List.forall_mem_nil _
  have hresponse : ∀ entry ∈ response, QuietEntry entry :=
    forall_of_entryIf (fun node hnode =>
      (quietEntry_iff _ (by decide)).mpr (quiet_responseTable hnode)) hresponse
  -- the entries that are always there
  have hargs := (quietEntry_iff "args" (by decide)).trans
    ((Node.throughout_list.trans (and_iff_right trivial)).trans (quiet_arguments.trans hnames))
  have htarget : QuietEntry ("call",
      .pair (.moduleRef (scope.config.qualified operation.moduleName))
        (.atom operation.functionName)) ↔
        SteadyName (scope.config.qualified operation.moduleName) ∧
          operation.functionName.FeedsOnly := by
    rw [quietEntry_iff _ (by decide), Node.throughout_pair]
    exact (and_iff_right trivial).trans
      (and_congr List.forall_mem_singleton (Node.throughout_leaf rfl))
  have hpieces (pieces : List Piece) : QuietEntry ("url", .interpolation pieces) ↔
      ∀ text, .text text ∈ pieces → Text.FeedsOnly text.toList :=
    (quietEntry_iff _ (by decide)).trans List.forall_mem_singleton
  have hmethod : QuietEntry ("method", .atom (.str operation.method)) ↔
      Text.FeedsOnly operation.method.toList :=
    (quietEntry_iff _ (by decide)).trans (Node.throughout_leaf rfl)
  have hopts : QuietEntry ("opts", .var "opts") :=
    (quietEntry_iff _ (by decide)).mpr ((Node.throughout_leaf rfl).mpr trivial)
  rw [quiet_request, hpath, Json.FeedsOnly]
  simp only [List.append_assoc, List.cons_append, List.nil_append, List.forall_mem_append,
    List.forall_mem_cons]
  rw [hargs, htarget, hpieces, hmethod, hrequest]
  constructor
  · rintro ⟨hargs, ⟨htarget, hname⟩, hurl, _, hmethod, _, hcontent, _⟩
    exact ⟨htarget, hname, (feedsOnly_path harguments hcheck hargs).mp hurl, hmethod, hargs,
      hcontent⟩
  · rintro ⟨htarget, hname, hurl, hmethod, hargs, hcontent⟩
    exact ⟨hargs, ⟨htarget, hname⟩, (feedsOnly_path harguments hcheck hargs).mpr hurl,
      hvar hbody (by decide), hmethod, hvar hquery (by decide), hcontent, hresponse, hopts,
      List.forall_mem_nil _⟩

/-! ## The body -/

theorem quiet_query {query : Option Node} (h : operation.query = .ok query) :
    (∀ node ∈ query, node.Throughout Node.QuietHere) ↔
      ∀ param ∈ operation.queryParams, param.name.FeedsOnly := by
  rcases query_eq_ok h with ⟨hnone, rfl⟩ | ⟨keys, rfl, hkeys⟩
  · rw [hnone]
    exact iff_of_true nofun (List.forall_mem_nil _)
  · have hquiet : (Node.assign "query" (.selectKeys (.var "opts") keys)).Throughout
        Node.QuietHere ↔ ∀ key ∈ keys, key.FeedsOnly := by
      have hopts : (Node.var "opts").Throughout Node.QuietHere := (Node.throughout_leaf rfl).mpr trivial
      rw [Node.throughout_assign, Node.throughout_selectKeys, and_iff_left hopts]
      exact and_iff_right trivial
    have hparams : (∀ key ∈ keys, key.FeedsOnly) ↔
        ∀ param ∈ operation.queryParams, param.name.FeedsOnly := by
      rw [← List.forall_mem_map (f := Param.name)]
      exact forall_congr' fun key => by rw [hkeys.mem_iff]
    exact (by simp : _ ↔ _).trans (hquiet.trans hparams)

/-- What an operation brings along into the body of its function stays as it is: no text has a line
end but line feeds, and names of modules do not come apart. -/
structure KeepsLines (scope : Scope) (operation : Operation) : Prop where
  texts : ∀ text ∈ operation.printedTexts, text.FeedsOnly
  target : SteadyName (scope.config.qualified operation.moduleName)
  modules : ∀ ref ∈ operation.tableRefs, ∀ module, scope.resolver.LeadsTo ref module →
    SteadyName module.plain

/-- The texts of an operation that are printed in quotation marks are `printedTexts`, and no text is
printed besides them but the name of the module that the call goes to. -/
theorem quiet_body_iff (h : operation.function scope = .ok f) :
    (∀ node ∈ f.body, node.Throughout Node.QuietHere) ↔
      (∀ text ∈ operation.printedTexts, text.FeedsOnly) ∧
        SteadyName (scope.config.qualified operation.moduleName) := by
  obtain ⟨query, call, hquery, hcall, hbody, _⟩ := function_eq_ok h
  have hclient : clientStatement.Throughout Node.QuietHere := by
    have hkey : Inert "client".toList := by decide
    refine Node.throughout_assign.mpr ⟨trivial, Node.throughout_fallback.mpr ⟨trivial, ?_, ?_⟩⟩
    · exact Node.throughout_access.mpr
        ⟨trivial, (Node.throughout_leaf rfl).mpr trivial, (Node.throughout_leaf rfl).mpr hkey.feedsOnly⟩
    · exact List.forall_mem_singleton.mpr trivial
  have hstatements : (∀ node ∈ f.body, node.Throughout Node.QuietHere) ↔
      (∀ node ∈ query, node.Throughout Node.QuietHere) ∧ call.Throughout Node.QuietHere := by
    rw [hbody]
    simp only [List.forall_mem_append, List.forall_mem_cons, Option.mem_toList]
    rw [and_iff_right hclient, and_iff_left (List.forall_mem_nil _)]
    exact Iff.rfl
  rw [hstatements, quiet_query hquery, quiet_call hcall]
  simp only [printedTexts, List.forall_mem_append, List.forall_mem_cons, List.forall_mem_map,
    Json.FeedsOnly]
  tauto

/-- The modules that are named in a body are those that its tables refer to. -/
theorem names_body_iff (hmodules : ∀ ref ∈ operation.refs, ref.ModulesText)
    (h : operation.function scope = .ok f) (module : Json) :
    (∃ node ∈ f.body, node.Names module) ↔
      ∃ ref ∈ operation.tableRefs, scope.resolver.LeadsTo ref module := by
  rw [← (carries_function hmodules h).names module]
  constructor
  · rintro ⟨node, hnode, hmodule⟩
    exact ⟨node, List.mem_append_right _ hnode, hmodule⟩
  · rintro ⟨node, hnode, hmodule⟩
    rcases List.mem_append.mp hnode with hnode | hnode
    · rw [default_of_function h node hnode] at hmodule
      simp at hmodule
    · exact ⟨node, hnode, hmodule⟩

/-- Statements are steady exactly if the operation keeps its lines: texts, the target of the call,
and modules of the tables are three independent matters. -/
theorem steady_body_iff (hmodules : ∀ ref ∈ operation.refs, ref.ModulesText)
    (h : operation.function scope = .ok f) :
    (∀ node ∈ f.body, node.Steady) ↔ operation.KeepsLines scope := by
  -- texts in quotation marks and names of modules are told apart node by node
  have hsplit : (∀ node ∈ f.body, node.Steady) ↔
      (∀ node ∈ f.body, node.Throughout Node.QuietHere) ∧
        ∀ module, (∃ node ∈ f.body, node.Names module) → SteadyName module.plain := by
    simp only [Node.steady_iff, forall_and]
    refine and_congr_right' ⟨?_, ?_⟩
    · rintro hall module ⟨node, hnode, hmodule⟩
      exact hall node hnode module hmodule
    · exact fun hall node hnode module hmodule => hall module ⟨node, hnode, hmodule⟩
  rw [hsplit, quiet_body_iff h]
  constructor
  · rintro ⟨⟨htexts, htarget⟩, hall⟩
    refine ⟨htexts, htarget, fun ref href module hmodule => hall module ?_⟩
    exact (names_body_iff hmodules h module).mpr ⟨ref, href, hmodule⟩
  · intro hkeeps
    refine ⟨⟨hkeeps.texts, hkeeps.target⟩, fun module hmodule => ?_⟩
    obtain ⟨ref, href, hmodule⟩ := (names_body_iff hmodules h module).mp hmodule
    exact hkeeps.modules ref href module hmodule

/-! ## The text of a function -/

/-- **Indentation keeps what has no other line ends.** The text of a function is its head, its
statements, indented, and `end`. To take the indentation away gives the statements, as they were
printed, exactly if no text that the operation brings along has a line end other than the line feed
and no name of a module comes apart. -/
theorem outdent_function_iff (hname : operation.functionName.IsText)
    (hquery : ∀ param ∈ operation.queryParams, param.name.IsText)
    (hcontent : ∀ entry ∈ operation.requestBody, entry.1.IsText)
    (hmodules : ∀ ref ∈ operation.refs, ref.ModulesText)
    (h : operation.function scope = .ok f) :
    ∃ text arguments statements block,
      Source.functionText f = .ok text ∧ f.arguments.mapM Source.argumentText = .ok arguments ∧
      Source.exprTexts f.body = .ok statements ∧
      text = "def " ++ f.name.plain ++ "(" ++ ", ".intercalate arguments ++ ") do\n" ++
        String.ofList block ++ "\nend" ∧
      (outdent block = (Source.bodyText statements).toList ↔ operation.KeepsLines scope) := by
  have hexpr := isExpr_of_body hname hquery hcontent h
  have hdefaults : ∀ node ∈ f.arguments.filterMap Argument.default, node.IsExpr := fun node hnode =>
    default_of_function h node hnode ▸ .list nofun
  obtain ⟨text, htext⟩ := Source.exists_functionText hdefaults hexpr
  obtain ⟨arguments, harguments, hrest⟩ := bind_eq_ok.mp htext
  obtain ⟨statements, hstatements, hrest⟩ := bind_eq_ok.mp hrest
  -- statements begin and end with marks, never with blanks
  have hframed : ∀ text ∈ statements, Framed text.toList := by
    intro text hmem
    rw [Source.exprTexts_eq] at hstatements
    obtain ⟨node, hnode, hprint⟩ := exists_mem_of_mapM_eq_ok hstatements text hmem
    exact framed_of_body h node hnode text hprint
  refine ⟨text, arguments, statements, _, htext, harguments, hstatements,
    (Except.ok.inj hrest).symm, ?_⟩
  exact (Source.outdent_bodyText_iff hexpr (plain_of_body hcontent h) hstatements hframed).trans
    (steady_body_iff hmodules h)

/-- A path with a line feed, a parameter and a body. -/
def withFeed : Operation :=
  { functionName := .str "show", moduleName := .str "Pets", method := "get"
    path := .str "/a\nb/\x7bid\x7d", pathParams := [⟨.str "id", .primitive .string⟩]
    requestBody := [(.str "text/plain", .primitive .string)] }

def emptyScope : Scope := ⟨{}, []⟩

theorem withFeed_keepsLines : withFeed.KeepsLines emptyScope := by
  refine ⟨by decide, by decide, fun ref href module hmodule => ?_⟩
  obtain rfl : ref = .primitive .string := by
    simpa [tableRefs, withFeed, responsesByStatus] using href
  simp [Resolver.LeadsTo] at hmodule

theorem outdent_function_iff_withFeed :
    withFeed.functionName.IsText ∧ (∀ param ∈ withFeed.queryParams, param.name.IsText) ∧
      (∀ entry ∈ withFeed.requestBody, entry.1.IsText) ∧
      (∀ ref ∈ withFeed.refs, ref.ModulesText) ∧
      ∃ f, withFeed.function emptyScope = .ok f ∧ ∃ text arguments statements block,
        Source.functionText f = .ok text ∧
        f.arguments.mapM Source.argumentText = .ok arguments ∧
        Source.exprTexts f.body = .ok statements ∧
        text = "def " ++ f.name.plain ++ "(" ++ ", ".intercalate arguments ++ ") do\n" ++
          String.ofList block ++ "\nend" ∧
        outdent block = (Source.bodyText statements).toList := by
  have hname : withFeed.functionName.IsText := ⟨"show", rfl⟩
  have hquery : ∀ param ∈ withFeed.queryParams, param.name.IsText := nofun
  have hcontent : ∀ entry ∈ withFeed.requestBody, entry.1.IsText := by
    simp [withFeed, Json.IsText]
  have hmodules : ∀ ref ∈ withFeed.refs, ref.ModulesText := by
    simp [withFeed, refs, TypeRef.ModulesText]
  obtain ⟨f, hf⟩ : ∃ f, withFeed.function emptyScope = .ok f := ⟨_, rfl⟩
  obtain ⟨text, arguments, statements, block, htext, harguments, hstatements, hparts, hiff⟩ :=
    outdent_function_iff hname hquery hcontent hmodules hf
  exact ⟨hname, hquery, hcontent, hmodules, f, hf, text, arguments, statements, block, htext,
    harguments, hstatements, hparts, hiff.mpr withFeed_keepsLines⟩

/-- A path with a line separator in it. -/
def withSeparator : Operation :=
  { functionName := .str "show", moduleName := .str "Pets", method := "get"
    path := .str "/a\u2028b" }

theorem indented_path_separator : ∃ f, withSeparator.function emptyScope = .ok f ∧
    ∃ statements block, Source.exprTexts f.body = .ok statements ∧
      Source.functionText f = .ok ("def show(opts \\\\ []) do\n" ++
        String.ofList block ++ "\nend") ∧
      outdent block ≠ (Source.bodyText statements).toList := by
  refine ⟨_, rfl, _, _, rfl, rfl, ?_⟩
  -- a separator in the path is a line end to the indentation, but is not escaped
  decide +kernel

end Operation

end ElixirClient
