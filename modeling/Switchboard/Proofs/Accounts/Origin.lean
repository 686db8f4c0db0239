import Switchboard.Accounts
import Switchboard.Proofs.Dispatch.Reading
import Switchboard.Proofs.Doc.Clauses
import Switchboard.Proofs.Routing
import Switchboard.Proofs.Source.Documented

/-!
# Where the tables of the accounts come from

The two services are rows of routes over tables of fields, written down by hand. They are
not free, though. Fields and routes are what the generator reads from a source, and the
router that it writes for them has to answer each request as the routes do.

So a route is compared with an endpoint. It serves the endpoint when it is reached where the
handler says and calls a method with the record of the handler, filled from the form
(`Endpoint.IsServedBy`); which method that is does not matter. When routes serve the
endpoints of a service one by one, nothing else needs to be known of them: whatever the
state and the request are, they answer what the router of the service says when its code is
read (`answers_of_served`).

What is left are the tables. The constraints of each field are those of its tag
(`documented_fields`), and the work of a route counts on nothing but the values of its
fields (`create_factorsThrough` and its siblings). So every source that documents the
handlers and the records of the services has exactly the tables as its records, and the
routes serve its endpoints (`exists_services_of_isSourced`) and answer as the routers
written for it say (`answers_of_isSourced`), whatever else stands in it. The source of the
two services is one of these (`isSourced_accountsSource`).
-/

namespace Switchboard

open Dispatch
open Text (join isBlankText)

/-! ## Routes that serve endpoints -/

section Served

variable {σ : Type}

/-- **The route that calls a method of an endpoint**: it is reached where the handler says,
and the method gets the record, filled from the form. -/
def Endpoint.route (e : Endpoint)
    (method : σ → Http.Request → List (String × FieldValue) → Result σ) : Route σ :=
  ⟨e.handler.directive, Switchboard.handler e.record.fields fun state r inputs =>
    method state r (takeFields e.record.fields inputs)⟩

/-- A route serves an endpoint when it calls some method of it. -/
def Endpoint.IsServedBy (e : Endpoint) (route : Route σ) : Prop :=
  ∃ method, route = e.route method

/-- **What a call of a method is answered with**, behind the guard that stands around it:
the failure of the intake, or what comes of the method. -/
def Endpoint.answer (e : Endpoint)
    (method : σ → Http.Request → List (String × FieldValue) → Result σ) (state : σ)
    (r : Http.Request) : σ × Reply :=
  if e.handler.directive.auth && !authorized r then (state, unauthorized)
  else match intake e.record.fields r with
    | .error refusal => (state, refusal.reply)
    | .ok values => (method state r values).settle state

/-- The route of an endpoint answers a verb it takes with the call of its method. -/
theorem Endpoint.serve_route {e : Endpoint} {r : Http.Request}
    (hverb : e.handler.directive.takesVerb r.verb = true)
    (method : σ → Http.Request → List (String × FieldValue) → Result σ) (state : σ) :
    (e.route method).serve state r = e.answer method state r := by
  rw [Route.serve, answer, route, hverb]
  dsimp only
  rw [Bool.not_true, if_neg Bool.false_ne_true]
  refine ite_congr rfl (fun _ => rfl) fun _ => ?_
  rw [Switchboard.handler, intake]
  cases inputsOfRequest e.record.fields r with
  | error refusal => rfl
  | ok inputs =>
    dsimp only [Except.map]
    cases method state r (takeFields e.record.fields inputs) <;> rfl

/-- The first endpoint on a path is served by the first route on it. -/
theorem find?_of_served {es : List Endpoint} {routes : List (Route σ)}
    (h : List.Forall₂ Endpoint.IsServedBy es routes) (path : String) :
    Option.Rel Endpoint.IsServedBy
      (es.find? fun e => e.handler.directive.url == path)
      (routes.find? fun route => route.directive.url == path) := by
  induction h with
  | nil => exact .none
  | @cons e route es routes he _ ih =>
    have hdirective : route.directive = e.handler.directive := by
      obtain ⟨_, rfl⟩ := he
      rfl
    by_cases hpath : e.handler.directive.url = path
    · rw [List.find?_cons_of_pos (by simpa using hpath),
        List.find?_cons_of_pos (by simpa [hdirective] using hpath)]
      exact .some he
    · rw [List.find?_cons_of_neg (by simpa using hpath),
        List.find?_cons_of_neg (by simpa [hdirective] using hpath)]
      exact ih

/-- **A request is answered as the router of a service says**: by one of the two refusals,
or by a method of the endpoint whose handler the router calls. -/
inductive Service.Answers (s : Service) (routes : List (Route σ)) (state : σ)
    (r : Http.Request) : Prop where
  /-- Nothing is served on the path. -/
  | unknownPath
    (router : readRouter r.uri.path r.verb (routerCode s) = .value unknownPathExpression)
    (reply : serve routes state r = (state, unknownPath))
  /-- The verb is refused. -/
  | wrongVerb
    (router : readRouter r.uri.path r.verb (routerCode s) = .value wrongVerbExpression)
    (reply : serve routes state r = (state, wrongVerb))
  /-- A handler is called. -/
  | call {e : Endpoint}
    {method : σ → Http.Request → List (String × FieldValue) → Result σ}
    (endpoint : e ∈ s.endpoints) (route : e.route method ∈ routes)
    (router : readRouter r.uri.path r.verb (routerCode s)
      = .value (callExpression e.handler))
    (reply : serve routes state r = e.answer method state r)

/-- **Routes that serve the endpoints of a service answer as its router says**, in each
state and to each request. -/
theorem answers_of_served {s : Service} {routes : List (Route σ)}
    (h : List.Forall₂ Endpoint.IsServedBy s.endpoints routes) (state : σ)
    (r : Http.Request) : s.Answers routes state r := by
  have hrouter := readRouter_routerCode s r.uri.path r.verb
  rw [List.find?_map, Function.comp_def] at hrouter
  have hfind := find?_of_served h r.uri.path
  generalize hroute : routes.find? (fun route => route.directive.url == r.uri.path) = found
    at hfind
  cases he : s.endpoints.find? fun e => e.handler.directive.url == r.uri.path with
  | none =>
    rw [he] at hfind hrouter
    cases hfind with
    | none => exact .unknownPath hrouter (by rw [serve, hroute])
  | some e =>
    rw [he] at hfind hrouter
    cases hfind with
    | some hserved =>
      obtain ⟨method, rfl⟩ := hserved
      have hreply : serve routes state r = (e.route method).serve state r := by
        rw [serve, hroute]
      dsimp only [Option.map_some] at hrouter
      cases hverb : e.handler.directive.takesVerb r.verb with
      | true =>
        rw [hverb, if_pos rfl] at hrouter
        exact .call (List.mem_of_find?_eq_some he) (List.mem_of_find?_eq_some hroute)
          hrouter (hreply.trans (Endpoint.serve_route hverb method state))
      | false =>
        rw [hverb, if_neg Bool.false_ne_true] at hrouter
        refine .wrongVerb hrouter (hreply.trans ?_)
        rw [Route.serve, Endpoint.route, hverb]
        rfl

/-- **A handler serves an endpoint when its work counts on nothing but the record.** -/
theorem Endpoint.isServedBy_handler {e : Endpoint}
    {work : σ → Http.Request → InputMap → Result σ}
    (h : ∀ state r, (work state r).FactorsThrough (takeFields e.record.fields)) :
    e.IsServedBy ⟨e.handler.directive, Switchboard.handler e.record.fields work⟩ := by
  have hmethod : ∀ state r, ∃ method : List (String × FieldValue) → Result σ,
      work state r = method ∘ takeFields e.record.fields := fun state r =>
    haveI : Nonempty (Result σ) := ⟨work state r .empty⟩
    (Function.factorsThrough_iff _).mp (h state r)
  choose method hmethod using hmethod
  refine ⟨method, ?_⟩
  rw [route, show work = fun state r inputs => method state r (takeFields e.record.fields inputs)
    from funext fun state => funext fun r => hmethod state r]

end Served

namespace Accounts

open Doc Source

/-! ## Fields as they are documented -/

/-- The constraints of a field, as the pair they are written as. -/
def constraintsPair (clauses : String) : SpacedPair := ⟨"apivalidator", clauses, ""⟩

theorem isWritable_constraintsPair (clauses : String) :
    (constraintsPair clauses).IsWritable where
  key_ne_empty := show "apivalidator" ≠ "" by decide
  key := List.all_eq_true.mp (rfl : "apivalidator".toList.all isKeyChar = true)
  blanks := rfl

/-- A value without quotes and backslashes is written as it is. -/
theorem escapeQuotes_of_plain {value : String}
    (h : ∀ ch ∈ value.toList, ch ≠ '\\' ∧ ch ≠ '"') : escapeQuotes value = value := by
  rw [← String.toList_inj, toList_escapeQuotes]
  conv_rhs => rw [← List.flatMap_singleton' value.toList]
  refine List.flatMap_congr fun ch hch => ?_
  rw [if_neg (by simp [h ch hch])]

/-- **A field is read as it is written down** when its constraints are those of its
clauses. The clauses are given by their characters, of which all is computed. -/
theorem isDocumented_field {name : String} {kind : Kind} {clauses : List Char}
    {c : Constraints}
    (hplain : (clauses.all fun ch => ch != '\\' && ch != '"' && ch != '\n') = true)
    (hblank : clauses.all Text.isBlank = false)
    (h : (clauseTexts clauses).foldlM takeClause Constraints.none >>= checkBounds
      = .ok { c with declared := true }) :
    (field name kind (String.ofList clauses) c).IsDocumented := by
  generalize htext : String.ofList clauses = text
  obtain rfl : clauses = text.toList := by rw [← htext, String.toList_ofList]
  simp only [List.all_eq_true, Bool.and_eq_true, bne_iff_ne] at hplain
  have hescape : escapeQuotes text = text :=
    escapeQuotes_of_plain fun ch hch => (hplain ch hch).1
  have hwritable := isWritable_constraintsPair text
  have htag : (field name kind text c).tag = (constraintsPair text).text := by
    rw [SpacedPair.text, constraintsPair, hescape, String.append_empty]
    rfl
  have hlookup : lookup (field name kind text c).tag "apivalidator" = some text := by
    rw [htag, hwritable.lookup]
    exact if_pos rfl
  refine ⟨?_, (isAnnotated_iff _).mpr (.inl ⟨text, hlookup, hblank⟩), ?_⟩
  · have hline : '\n' ∉ text.toList := fun hch => (hplain _ hch).2 rfl
    rw [htag]
    refine tagText_pair hwritable rfl ?_
    rw [← htag]
    simpa [field] using hline
  · rw [constraints_of_lookup hlookup, isBlankText, hblank, if_neg Bool.false_ne_true, h]
    rfl

/-- **The constraints in the tables are those of the tags**, field by field. -/
theorem documented_fields :
    ∀ t ∈ profileFields ++ createFields ++ characterFields ++ rateFields,
      t.IsDocumented := by
  simp only [profileFields, createFields, characterFields, rateFields, List.cons_append,
    List.nil_append, List.forall_mem_cons]
  refine ⟨?_, ?_, ?_, ?_, ?_, ?_, ?_, ?_, ?_, ?_, ?_, List.forall_mem_nil _⟩ <;>
    refine isDocumented_field ?_ ?_ ?_ <;> decide +kernel

/-! ## What methods get -/

/-- A look-up goes by the login. -/
theorem takeFields_profileFields (inputs : InputMap) :
    takeFields profileFields inputs = [("login", .string (inputs.takeString "login").1)] := rfl

/-- An account is made of all fields of its form. -/
theorem takeFields_createFields (id : UInt64) (inputs : InputMap) :
    takeFields createFields inputs
      = [("login", .string (newUser id inputs).login),
        ("name", .string (newUser id inputs).fullName),
        ("status", .string (newUser id inputs).status),
        ("age", .int (newUser id inputs).age)] := rfl

/-- A rating is made of all fields of its form. -/
theorem takeFields_rateFields (inputs : InputMap) :
    takeFields rateFields inputs
      = [("user_id", .uint64 (newRating inputs).user),
        ("stars", .int (newRating inputs).stars)] := rfl

/-- A character is made of the fields of its form. -/
theorem exists_takeFields_characterFields (inputs : InputMap) :
    ∃ username name rank level,
      takeFields characterFields inputs
        = [("username", .string username), ("name", .string name),
          ("class", .string rank), ("level", .int level)]
      ∧ ∀ r, createCharacter () r inputs
        = if username = "bad_username" then .error (.text "bad user")
          else .value () (.object [("id", .int 12), ("login", .string username),
            ("full_name", .string name), ("level", .int level)]) :=
  ⟨_, _, _, _, rfl, fun _ => rfl⟩

/-- The work of each route counts on nothing of a form but these values. -/
theorem profile_factorsThrough (s : Store) (r : Http.Request) :
    (profile s r).FactorsThrough (takeFields profileFields) := by
  intro a b h
  rw [takeFields_profileFields, takeFields_profileFields] at h
  have hlogin : (a.takeString "login").1 = (b.takeString "login").1 := by simpa using h
  unfold profile
  dsimp only
  rw [hlogin]

theorem create_factorsThrough (s : Store) (r : Http.Request) :
    (create s r).FactorsThrough (takeFields createFields) := by
  intro a b h
  rw [takeFields_createFields s.nextId, takeFields_createFields s.nextId] at h
  simp only [List.cons.injEq, Prod.mk.injEq, FieldValue.string.injEq, FieldValue.int.injEq,
    true_and, and_true] at h
  have huser : newUser s.nextId a = newUser s.nextId b :=
    (User.mk.injEq ..).mpr ⟨rfl, h⟩
  rw [create, create, huser]

theorem rate_factorsThrough (s : Store) (r : Http.Request) :
    (rate s r).FactorsThrough (takeFields rateFields) := by
  intro a b h
  rw [takeFields_rateFields, takeFields_rateFields] at h
  simp only [List.cons.injEq, Prod.mk.injEq, FieldValue.uint64.injEq, FieldValue.int.injEq,
    true_and, and_true] at h
  have hrating : newRating a = newRating b := (Rating.mk.injEq ..).mpr ⟨h.1, h.2, rfl⟩
  rw [rate, rate, hrating]

theorem createCharacter_factorsThrough (s : Unit) (r : Http.Request) :
    (createCharacter s r).FactorsThrough (takeFields characterFields) := by
  intro a b h
  obtain ⟨_, _, _, _, hfields, hanswer⟩ := exists_takeFields_characterFields a
  obtain ⟨_, _, _, _, hfields', hanswer'⟩ := exists_takeFields_characterFields b
  rw [hfields, hfields'] at h
  simp only [List.cons.injEq, Prod.mk.injEq, FieldValue.string.injEq, FieldValue.int.injEq,
    true_and, and_true] at h
  obtain ⟨rfl, rfl, -, rfl⟩ := h
  rw [hanswer, hanswer']

/-! ## Sources of the tables -/

/-- A handler of the two services, with its directive. -/
def profileRow : HandlerRow :=
  ⟨"MyApi", "profile", "ProfileParams", ⟨"/user/profile", false, ""⟩⟩

@[inherit_doc profileRow]
def createRow : HandlerRow :=
  ⟨"MyApi", "create", "CreateParams", ⟨"/user/create", true, "POST"⟩⟩

@[inherit_doc profileRow]
def rateRow : HandlerRow :=
  ⟨"MyApi", "rate", "RateParams", ⟨"/user/rate", false, ""⟩⟩

@[inherit_doc profileRow]
def characterRow : HandlerRow :=
  ⟨"OtherApi", "create", "OtherCreateParams", ⟨"/user/create", true, "POST"⟩⟩

/-- The records of the two services, each with its table. -/
def recordRows : List RecordRow :=
  [⟨"ProfileParams", profileFields, false⟩, ⟨"CreateParams", createFields, false⟩,
    ⟨"OtherCreateParams", characterFields, false⟩, ⟨"RateParams", rateFields, true⟩]

/-- **A source of the two services**: it documents their handlers and their records, in
order, whatever else stands between these. -/
def IsSourced (source file : String) : Prop :=
  ∃ tokens items, fileTokens source = .ok tokens ∧ itemsOf tokens = .ok items
    ∧ ∃ rows : List (List HandlerRow × List RecordRow),
      List.Forall₂ (fun item p => (item.source file).Documents p.1 p.2) items rows
      ∧ rows.flatMap Prod.fst = [profileRow, createRow, rateRow, characterRow]
      ∧ rows.flatMap Prod.snd = recordRows

/-- A handler that counts on the fields of rows serves the endpoint of these rows. -/
theorem isServedBy_of_rows {σ : Type} {e : Endpoint} {row : HandlerRow} {record : RecordRow}
    (hrow : e.handler.row = row) (hrecord : some record = some e.record.row)
    {work : σ → Http.Request → InputMap → Result σ}
    (h : ∀ state r, (work state r).FactorsThrough (takeFields record.fields)) :
    e.IsServedBy ⟨row.directive, handler record.fields work⟩ := by
  obtain rfl := hrow
  obtain rfl := Option.some.inj hrecord
  exact Endpoint.isServedBy_handler h

/-- Endpoints with the rows of the two services are these services. -/
theorem servicesOf_of_rows {lookUp creation rating character : Endpoint}
    (hlookUp : lookUp.handler.row = profileRow) (hcreation : creation.handler.row = createRow)
    (hrating : rating.handler.row = rateRow)
    (hcharacter : character.handler.row = characterRow) :
    servicesOf [lookUp, creation, rating, character]
      = [⟨"MyApi", [lookUp, creation, rating]⟩, ⟨"OtherApi", [character]⟩] := by
  have h₁ : lookUp.receiver = "MyApi" := congrArg HandlerRow.receiver hlookUp
  have h₂ : creation.receiver = "MyApi" := congrArg HandlerRow.receiver hcreation
  have h₃ : rating.receiver = "MyApi" := congrArg HandlerRow.receiver hrating
  have h₄ : character.receiver = "OtherApi" := congrArg HandlerRow.receiver hcharacter
  have hkeys : keysOf Endpoint.receiver [lookUp, creation, rating, character]
      = ["MyApi", "OtherApi"] := by
    simp only [keysOf, List.map_cons, List.map_nil, h₁, h₂, h₃, h₄]
    decide
  rw [servicesOf, hkeys]
  simp [h₁, h₂, h₃, h₄]

/-- **The tables are those of every source of the services.** It is accepted. Its records
are the tables of fields and no others, its methods are the two services, and the routes
serve these, one endpoint by one route. -/
theorem exists_services_of_isSourced (moduleName : String) {source file : String}
    (h : IsSourced source file) :
    ∃ api accounts characters, Api.ofSource moduleName source file = .ok api
      ∧ api.records.map Record.row = recordRows
      ∧ api.services = .ok [⟨"MyApi", accounts⟩, ⟨"OtherApi", characters⟩]
      ∧ accounts.map (fun e => e.handler.row) = [profileRow, createRow, rateRow]
      ∧ characters.map (fun e => e.handler.row) = [characterRow]
      ∧ List.Forall₂ Endpoint.IsServedBy accounts routes
      ∧ List.Forall₂ Endpoint.IsServedBy characters characterRoutes := by
  obtain ⟨tokens, items, htokens, hitems, rows, hrows, hhandlers, htables⟩ := h
  have hlinks : ∀ row ∈ rows.flatMap Prod.fst,
      ∃ r ∈ rows.flatMap Prod.snd, r.name = row.record := by
    rw [hhandlers, htables]
    decide
  obtain ⟨api, es, hapi, hrecords, hes, hends⟩ :=
    Api.ofSource_of_documents moduleName htokens hitems hrows hlinks
  rw [htables] at hrecords
  rw [hhandlers, htables] at hends
  -- four handlers are documented, so there are four endpoints
  obtain ⟨lookUp, _, hlookUp, h₁, rfl⟩ := List.forall₂_cons_left_iff.mp hends
  obtain ⟨creation, _, hcreation, h₂, rfl⟩ := List.forall₂_cons_left_iff.mp h₁
  obtain ⟨rating, _, hrating, h₃, rfl⟩ := List.forall₂_cons_left_iff.mp h₂
  obtain ⟨character, _, hcharacter, h₄, rfl⟩ := List.forall₂_cons_left_iff.mp h₃
  rw [List.forall₂_nil_left_iff.mp h₄] at hes
  have hservices := servicesOf_of_rows hlookUp.1 hcreation.1 hrating.1 hcharacter.1
  refine ⟨api, [lookUp, creation, rating], [character], hapi, hrecords,
    hservices ▸ Api.services_eq_ok hes, ?_, ?_, ?_, ?_⟩
  · rw [List.map_cons, List.map_cons, List.map_singleton, hlookUp.1, hcreation.1, hrating.1]
  · rw [List.map_singleton, hcharacter.1]
  · refine .cons ?_ (.cons ?_ (.cons ?_ .nil))
    · exact isServedBy_of_rows hlookUp.1 hlookUp.2 profile_factorsThrough
    · exact isServedBy_of_rows hcreation.1 hcreation.2 create_factorsThrough
    · exact isServedBy_of_rows hrating.1 hrating.2 rate_factorsThrough
  · exact .cons (isServedBy_of_rows hcharacter.1 hcharacter.2 createCharacter_factorsThrough)
      .nil

/-- **Each request is answered as the routers of the source say**, whatever accounts there
are. -/
theorem answers_of_isSourced (moduleName : String) {source file : String}
    (h : IsSourced source file) :
    ∃ api accounts characters, Api.ofSource moduleName source file = .ok api
      ∧ api.services = .ok [accounts, characters]
      ∧ ∀ (store : Store) (r : Http.Request),
        accounts.Answers routes store r ∧ characters.Answers characterRoutes () r := by
  obtain ⟨api, _, _, hapi, -, hservices, -, -, haccounts, hcharacters⟩ :=
    exists_services_of_isSourced moduleName h
  exact ⟨api, _, _, hapi, hservices, fun store r =>
    ⟨answers_of_served haccounts store r, answers_of_served hcharacters () r⟩⟩

/-! ## The source of the tables -/

/-- **The source of the two services**: the declarations of their records and methods.
Bodies of methods, which are never looked at, and items that declare nothing are left
out. -/
def accountsSource : String := join "\n" [
  "pub struct ProfileParams \x7b",
  "    /// apivalidator:\"required\"",
  "    pub login: String,",
  "\x7d",
  "pub struct CreateParams \x7b",
  "    /// apivalidator:\"required,min=10\"",
  "    pub login: String,",
  "    /// apivalidator:\"paramname=full_name\"",
  "    pub name: String,",
  "    /// apivalidator:\"enum=user|moderator|admin,default=user\"",
  "    pub status: String,",
  "    /// apivalidator:\"min=0,max=128\"",
  "    pub age: i64,",
  "\x7d",
  "pub struct OtherCreateParams \x7b",
  "    /// apivalidator:\"required,min=3\"",
  "    pub username: String,",
  "    /// apivalidator:\"paramname=account_name\"",
  "    pub name: String,",
  "    /// apivalidator:\"enum=warrior|sorcerer|rouge,default=warrior\"",
  "    pub class: String,",
  "    /// apivalidator:\"min=1,max=50\"",
  "    pub level: i64,",
  "\x7d",
  "#[derive(Default)]",
  "pub struct RateParams \x7b",
  "    /// apivalidator:\"required,paramname=user_id\"",
  "    pub user_id: u64,",
  "    /// apivalidator:\"required,min=1,max=5\"",
  "    pub stars: i64,",
  "    /// Not part of the form.",
  "    pub source: Option<String>,",
  "\x7d",
  "impl MyApi \x7b",
  "    /// Looks a user up by login.",
  "    ///",
  "    /// apigen:api \x7b\"url\": \"/user/profile\", \"auth\": false\x7d",
  "    pub fn profile(&self, ctx: &Context, params: ProfileParams)",
  "        -> Result<User, Box<dyn Error>> \x7b\x7d",
  "    /// apigen:api \x7b\"url\": \"/user/create\", \"auth\": true, \"method\": \"POST\"\x7d",
  "    pub fn create(&self, params: CreateParams) -> Result<NewUser, ApiError> \x7b\x7d",
  "    /// apigen:api \x7b\"url\": \"/user/rate\"\x7d",
  "    pub fn rate(&self, ctx: Context, params: &RateParams)",
  "        -> Result<Rating, ApiError> \x7b\x7d",
  "\x7d",
  "impl OtherApi \x7b",
  "    /// apigen:api \x7b\"url\": \"/user/create\", \"auth\": true, \"method\": \"POST\"\x7d",
  "    pub fn create(&self, params: &OtherCreateParams)",
  "        -> Result<OtherUser, Box<dyn Error + Send + Sync>> \x7b\x7d",
  "\x7d"]

/-- The documentation of methods that create. -/
def createDoc : List Attribute :=
  [.doc " apigen:api \x7b\"url\": \"/user/create\", \"auth\": true, \"method\": \"POST\"\x7d"]

/-- The methods of the accounts, with their documentation. -/
def accountMethods : List MethodRow := [
  ⟨profileRow, [.doc " Looks a user up by login.", .doc "",
    .doc " apigen:api \x7b\"url\": \"/user/profile\", \"auth\": false\x7d"]⟩,
  ⟨createRow, createDoc⟩,
  ⟨rateRow, [.doc " apigen:api \x7b\"url\": \"/user/rate\"\x7d"]⟩]

/-- The method of the characters. -/
def characterMethods : List MethodRow := [⟨characterRow, createDoc⟩]

theorem directive_createDoc :
    directive (docText createDoc) = .ok ⟨"/user/create", true, "POST"⟩ := by
  rw [directive, toList_docText, createDoc, List.flatMap_singleton]
  dsimp only
  rewrite [String.toList_ofList]
  decide +kernel

/-- **The directives in the tables are those of the documentation**, method by method. -/
theorem documented_methods : ∀ m ∈ accountMethods ++ characterMethods, m.IsDocumented := by
  simp only [accountMethods, characterMethods, List.cons_append, List.nil_append,
    List.forall_mem_cons]
  refine ⟨?_, directive_createDoc, ?_, directive_createDoc, List.forall_mem_nil _⟩
  · rw [MethodRow.IsDocumented, directive, toList_docText]
    simp only [List.flatMap_cons, List.flatMap_nil]
    repeat rewrite [String.toList_ofList]
    decide +kernel
  · rw [MethodRow.IsDocumented, directive, toList_docText, List.flatMap_singleton]
    dsimp only
    rewrite [String.toList_ofList]
    decide +kernel

/-- What is seen of the items of the source. -/
theorem items_of_accountsSource :
    (fileTokens accountsSource >>= itemsOf).map (List.map (Item.source "src/api.rs"))
      = .ok [.struct "ProfileParams" (profileFields.map Field.source),
        .struct "CreateParams" (createFields.map Field.source),
        .struct "OtherCreateParams" (characterFields.map Field.source),
        .struct "RateParams" (rateFields.map Field.source
          ++ [⟨"source", [.doc " Not part of the form."], none⟩]),
        .impl false (accountMethods.map MethodRow.source),
        .impl false (characterMethods.map MethodRow.source)] := by
  -- the characters of short lines are found much faster than those of one long text
  rw [fileTokens, accountsSource, join, String.toList_intercalate]
  simp only [List.map_cons, List.map_nil]
  repeat rewrite [String.toList_ofList]
  decide +kernel

/-- **The source documents the tables.** -/
theorem isSourced_accountsSource : IsSourced accountsSource "src/api.rs" := by
  obtain ⟨items, hread, hseen⟩ := map_eq_ok.mp items_of_accountsSource
  obtain ⟨tokens, htokens, hitems⟩ := bind_eq_ok.mp hread
  have hfields := documented_fields
  simp only [List.forall_mem_append] at hfields
  obtain ⟨⟨⟨hprofile, hcreate⟩, hcharacter⟩, hrate⟩ := hfields
  have hplain : isAnnotated (tagText [.doc " Not part of the form."]) = false := by
    decide +kernel
  have hmethods := List.forall_mem_append.mp documented_methods
  refine ⟨tokens, items, htokens, hitems, [([], [⟨"ProfileParams", profileFields, false⟩]),
    ([], [⟨"CreateParams", createFields, false⟩]),
    ([], [⟨"OtherCreateParams", characterFields, false⟩]),
    ([], [⟨"RateParams", rateFields, true⟩]),
    (accountMethods.map MethodRow.handler, []),
    (characterMethods.map MethodRow.handler, [])], ?_, rfl, rfl⟩
  rw [← List.forall₂_map_left_iff
    (R := fun (i : ItemSource) (p : List HandlerRow × List RecordRow) => i.Documents p.1 p.2),
    hseen]
  refine .cons (.tableAlone (List.cons_ne_nil _ _) hprofile) ?_
  refine .cons (.tableAlone (List.cons_ne_nil _ _) hcreate) ?_
  refine .cons (.tableAlone (List.cons_ne_nil _ _) hcharacter) ?_
  refine .cons (.table (List.cons_ne_nil _ _) hrate (List.forall_mem_singleton.mpr hplain)) ?_
  exact .cons (.allMethods hmethods.1) (.cons (.allMethods hmethods.2) .nil)

end Accounts

end Switchboard
