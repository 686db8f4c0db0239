import Switchboard.Routing

/-!
# A small service of user accounts

Two services stand side by side. One keeps user accounts: they can be looked
up, created with a token, and rated. The other one makes characters and keeps
nothing.

Accounts are stored by login and numbered in the order they are created, by
numbers of 64 bits that wrap around. The store begins with one account, number
42, and never drops or changes one.
-/

namespace Switchboard.Accounts

/-! ## The store -/

/-- **An account.** -/
structure User where
  /-- Its number. -/
  id : UInt64
  /-- The login. -/
  login : String
  /-- The full name. -/
  fullName : String
  /-- The status. -/
  status : String
  /-- The age. -/
  age : Int
deriving DecidableEq, Repr

/-- An account as JSON. -/
def User.json (u : User) : Json :=
  .object [("id", .int u.id.toNat), ("login", .string u.login),
    ("full_name", .string u.fullName), ("status", .string u.status),
    ("age", .int u.age)]

/-- **The accounts there are**, by login, and the number of the next one. -/
structure Store where
  /-- The accounts. -/
  users : OrderedMap User
  /-- The next number. -/
  nextId : UInt64

/-- The account that is there from the start. -/
def seed : User := ⟨42, "rvasily", "Vasily Romanov", "user", 30⟩

/-- **The store at the start.** -/
def Store.initial : Store := ⟨.ofList [(seed.login, seed)], 43⟩

/-! ## Fields -/

/-- A field with constraints. -/
def field (name : String) (kind : Kind) (clauses : String) (c : Constraints) :
    Field :=
  ⟨name, kind, "apivalidator:\"" ++ clauses ++ "\"", { c with declared := true }⟩

/-- The fields of a look-up. -/
def profileFields : List Field :=
  [field "login" .string "required" { Constraints.none with required := true }]

/-- The fields of a new account. -/
def createFields : List Field :=
  [field "login" .string "required,min=10"
     { Constraints.none with required := true, min := some 10 },
   field "name" .string "paramname=full_name"
     { Constraints.none with key := "full_name" },
   field "status" .string "enum=user|moderator|admin,default=user"
     { Constraints.none with
       choices := ["user", "moderator", "admin"], fallback := "user" },
   field "age" .int "min=0,max=128"
     { Constraints.none with min := some 0, max := some 128 }]

/-- The fields of a rating. -/
def rateFields : List Field :=
  [field "user_id" .uint64 "required,paramname=user_id"
     { Constraints.none with required := true, key := "user_id" },
   field "stars" .int "required,min=1,max=5"
     { Constraints.none with required := true, min := some 1, max := some 5 }]

/-- The fields of a new character. -/
def characterFields : List Field :=
  [field "username" .string "required,min=3"
     { Constraints.none with required := true, min := some 3 },
   field "name" .string "paramname=account_name"
     { Constraints.none with key := "account_name" },
   field "class" .string "enum=warrior|sorcerer|rouge,default=warrior"
     { Constraints.none with
       choices := ["warrior", "sorcerer", "rouge"], fallback := "warrior" },
   field "level" .int "min=1,max=50"
     { Constraints.none with min := some 1, max := some 50 }]

/-! ## Accounts -/

/-- **Looking an account up.** Two logins are special: one is refused and one
panics. -/
def profile (store : Store) (_ : Http.Request) (inputs : InputMap) :
    Result Store :=
  let (login, _) := inputs.takeString "login"
  if login = "bad_user" then .error (.text "bad user")
  else if login = "panic" then .panic (.text "profile exploded")
  else match store.users.get? login with
    | some u => .value store u.json
    | none => .error (.withStatus .boxed 404 "user not exist")

/-- The account a form describes. -/
def newUser (id : UInt64) (inputs : InputMap) : User :=
  let (login, inputs) := inputs.takeString "login"
  let (fullName, inputs) := inputs.takeString "full_name"
  let (status, inputs) := inputs.takeString "status"
  let (age, _) := inputs.takeInt "age"
  ⟨id, login, fullName, status, age⟩

/-- **Creating an account**, unless its login is taken. -/
def create (store : Store) (_ : Http.Request) (inputs : InputMap) :
    Result Store :=
  let u := newUser store.nextId inputs
  if store.users.contains u.login then
    .error (.withStatus .bare 409 ("user " ++ u.login ++ " exist"))
  else
    .value ⟨store.users.insert u.login u, store.nextId + 1⟩
      (.object [("id", .int u.id.toNat)])

/-- **What a rating is made with.** Its source is no field of the form. -/
structure Rating where
  /-- The number of the account that is rated. -/
  user : Nat
  /-- The stars. -/
  stars : Int
  /-- Where the rating is from, if that is known already. -/
  source : Option String
deriving DecidableEq, Repr

/-- A rating before anything is known of it. -/
def Rating.unfilled : Rating := ⟨0, 0, none⟩

/-- The rating a form describes; what is no field of the form stays as it was. -/
def newRating (inputs : InputMap) : Rating :=
  let (user, inputs) := inputs.takeUint64 "user_id"
  let (stars, _) := inputs.takeInt "stars"
  { Rating.unfilled with user := user, stars := stars }

/-- **Rating an account.** The source of a rating is the agent that sent it, unless
it is known already. -/
def rate (store : Store) (r : Http.Request) (inputs : InputMap) :
    Result Store :=
  let rating := newRating inputs
  let source := (rating.source.or (r.headerText? "User-Agent")).getD "unknown"
  .value store (.object [("user_id", .int rating.user), ("stars", .int rating.stars),
    ("source", .string source)])

/-- **The routes of the accounts.** -/
def routes : List (Route Store) :=
  [⟨⟨"/user/profile", false, ""⟩, handler profileFields profile⟩,
   ⟨⟨"/user/create", true, "POST"⟩, handler createFields create⟩,
   ⟨⟨"/user/rate", false, ""⟩, handler rateFields rate⟩]

/-! ## Characters -/

/-- **Making a character.** One name is refused. -/
def createCharacter (_ : Unit) (_ : Http.Request) (inputs : InputMap) :
    Result Unit :=
  let (name, inputs) := inputs.takeString "username"
  let (fullName, inputs) := inputs.takeString "account_name"
  let (_, inputs) := inputs.takeString "class"
  let (level, _) := inputs.takeInt "level"
  if name = "bad_username" then .error (.text "bad user")
  else .value () (.object [("id", .int 12), ("login", .string name),
    ("full_name", .string fullName), ("level", .int level)])

/-- **The routes of the characters.** -/
def characterRoutes : List (Route Unit) :=
  [⟨⟨"/user/create", true, "POST"⟩, handler characterFields createCharacter⟩]

/-! ## Both services -/

/-- Which of the two services a request is for. -/
inductive Service where
  /-- The accounts. -/
  | accounts
  /-- The characters. -/
  | characters
deriving DecidableEq, Repr

/-- **What a request is answered with**, and the store from then on. -/
def step (store : Store) : Service → Http.Request → Store × Reply
  | .accounts, r => serve routes store r
  | .characters, r => (store, (serve characterRoutes () r).2)

/-- **What a row of requests is answered with**, one after the other, and the
store after them. -/
def run (store : Store) : List (Service × Http.Request) → Store × List Reply
  | [] => (store, [])
  | (service, r) :: rest =>
    let (store, reply) := step store service r
    let (store, replies) := run store rest
    (store, reply :: replies)

end Switchboard.Accounts
