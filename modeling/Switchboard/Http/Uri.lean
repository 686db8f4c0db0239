/-!
# Request targets

A target is a path with an optional query, or a whole address with a scheme
and an authority before these, or an authority alone. Only the path and the
query matter later; a fragment is cut off. The path of an address without one
is the root, and an authority alone has an empty path.

An authority ends at the first slash, question mark or hash. It may hold
user information before an at sign and an address in brackets, and what counts
of colons and percent signs is only what stands after these.
-/

namespace Switchboard.Http

/-- **Why a target is refused.** -/
inductive UriError where
  /-- It is longer than 65534 bytes. -/
  | tooLong
  /-- There is nothing where something has to be. -/
  | empty
  /-- A character that no target holds at its place. -/
  | badChar
  /-- The authority is out of shape. -/
  | badAuthority
  /-- The scheme is longer than 64 bytes. -/
  | schemeTooLong
  /-- The parts do not fit together. -/
  | badFormat
deriving DecidableEq, Repr

/-- The wording of a refusal. -/
def UriError.message : UriError → String
  | tooLong => "uri too long"
  | empty => "empty string"
  | badChar => "invalid uri character"
  | badAuthority => "invalid authority"
  | schemeTooLong => "scheme too long"
  | badFormat => "invalid format"

/-- **The path and the query of a target.** -/
structure Uri where
  /-- The path. -/
  path : String
  /-- The query, without its question mark, if there is one. -/
  query : Option String
deriving DecidableEq, Repr

/-! ## Path and query -/

/-- Whether a character may stand in a path. -/
def isPathChar (c : Char) : Bool :=
  let n := c.toNat
  (0x21 ≤ n && n ≤ 0x22) || (0x24 ≤ n && n ≤ 0x3b) || n == 0x3d
    || (0x40 ≤ n && n ≤ 0x5f) || (0x61 ≤ n && n ≤ 0x7e) || 0x7f ≤ n

/-- Whether a character may stand in a query. -/
def isQueryChar (c : Char) : Bool :=
  let n := c.toNat
  n == 0x21 || (0x24 ≤ n && n ≤ 0x3b) || n == 0x3d || 0x3f ≤ n

/-- Characters up to a hash, all of them of one class. -/
def readUntilHash (allowed : Char → Bool) :
    List Char → Except UriError (List Char)
  | [] => .ok []
  | '#' :: _ => .ok []
  | c :: rest =>
    if allowed c then (readUntilHash allowed rest).map (c :: ·)
    else .error .badChar

/-- The path, and the query if there is one. -/
def readPathAndQuery :
    List Char → Except UriError (List Char × Option (List Char))
  | [] => .ok ([], none)
  | '#' :: _ => .ok ([], none)
  | '?' :: rest => (readUntilHash isQueryChar rest).map fun q => ([], some q)
  | c :: rest =>
    if isPathChar c then
      (readPathAndQuery rest).map fun (path, query) => (c :: path, query)
    else .error .badChar

/-- A target from its path and query; without a path the root is meant. -/
def pathAndQuery (cs : List Char) : Except UriError Uri := do
  let (path, query) ← readPathAndQuery cs
  return ⟨if path.isEmpty then "/" else String.ofList path,
    query.map String.ofList⟩

/-! ## Authority -/

/-- What has been seen of an authority. -/
structure AuthorityScan where
  /-- Colons that count. -/
  colons : Nat
  /-- Whether an opening bracket was seen. -/
  opened : Bool
  /-- Whether a closing bracket was seen. -/
  closed : Bool
  /-- Whether a percent sign that counts was seen. -/
  percent : Bool
  /-- Whether the last character was an at sign. -/
  afterAt : Bool

/-- Whether a plain character may stand in an authority. -/
def isAuthorityChar (c : Char) : Bool :=
  c.isAlphanum || "!$&\x27()*+,-.;=_~".toList.contains c

/-- **The authority taken in by one more character.** -/
def AuthorityScan.step (s : AuthorityScan) (c : Char) :
    Except UriError AuthorityScan :=
  if c = ':' then
    if 8 ≤ s.colons then .error .badAuthority
    else .ok { s with colons := s.colons + 1, afterAt := false }
  else if c = '[' then
    if s.percent || s.opened then .error .badAuthority
    else .ok { s with opened := true, afterAt := false }
  else if c = ']' then
    if !s.opened || s.closed then .error .badAuthority
    else
      .ok { s with closed := true, colons := 0, percent := false, afterAt := false }
  else if c = '@' then .ok { s with colons := 0, percent := false, afterAt := true }
  else if c = '%' then .ok { s with percent := true, afterAt := false }
  else if isAuthorityChar c then .ok { s with afterAt := false }
  else .error .badChar

/-- Whether an authority is in shape at its end. -/
def AuthorityScan.finished (s : AuthorityScan) : Bool :=
  s.opened == s.closed && s.colons ≤ 1 && !s.afterAt && !s.percent

/-- What follows the authority at the front of a text. -/
def afterAuthority (s : AuthorityScan) :
    List Char → Except UriError (List Char)
  | [] => if s.finished then .ok [] else .error .badAuthority
  | c :: rest =>
    if c = '/' ∨ c = '?' ∨ c = '#' then
      if s.finished then .ok (c :: rest) else .error .badAuthority
    else do afterAuthority (← s.step c) rest

/-- **What follows the authority at the front of a text**, which is not
empty. -/
def readAuthority (cs : List Char) : Except UriError (List Char) :=
  if cs.isEmpty then .error .empty
  else afterAuthority ⟨0, false, false, false, false⟩ cs

/-! ## Scheme -/

/-- Whether a character may stand in a scheme. -/
def isSchemeChar (c : Char) : Bool :=
  c.isAlphanum || c == '+' || c == '-' || c == '.' || c == '~'

/-- **What follows the scheme of an address and the two slashes after it**, if
there is a scheme. A scheme may be empty where something follows the
slashes. -/
def afterScheme? (cs : List Char) : Except UriError (Option (List Char)) :=
  let scheme := cs.takeWhile isSchemeChar
  match cs.dropWhile isSchemeChar with
  | ':' :: '/' :: '/' :: rest =>
    if scheme.isEmpty && rest.isEmpty then .ok none
    else if 64 < scheme.length then .error .schemeTooLong
    else .ok (some rest)
  | _ => .ok none

/-- **A target from its text.** -/
def Uri.read (s : String) : Except UriError Uri :=
  if 65534 < s.utf8ByteSize then .error .tooLong
  else match s.toList with
    | [] => .error .empty
    | ['/'] => .ok ⟨"/", none⟩
    | ['*'] => .ok ⟨"*", none⟩
    | '/' :: rest => pathAndQuery ('/' :: rest)
    | cs => do
      match ← afterScheme? cs with
      | some rest =>
        let after ← readAuthority rest
        if after.length = rest.length then .error .badFormat
        else pathAndQuery after
      | none =>
        match ← readAuthority cs with
        | [] => return ⟨"", none⟩
        | _ :: _ => .error (if cs.length = 1 then .badChar else .badFormat)

end Switchboard.Http
