import Aircd.Table
import Aircd.Text

/-!
Principals, their tokens and their authentication: `auth.rs`, the parser of
`tokens.rs` and the two tables of `store.rs`. Verification of a secret against
its argon2 hash is a parameter, as that code is not part of the repository.
-/
namespace Aircd.Auth
open Aircd.Text

structure Principal where
  id : Text
  nick : Text
  team : Option Text
  deriving DecidableEq, Repr

structure PrincipalRow extends Principal where
  token : Text
  last_seen_seq : Int
  connected_at : Option Int
  disconnected_at : Option Int
  deriving DecidableEq, Repr

structure TokenRow where
  principal_id : Text
  token_id : Text
  token_hash : Text
  revoked_at : Option Int
  deriving DecidableEq, Repr

abbrev PrincipalTable := Table (fun row : PrincipalRow => row.id)
abbrev TokenTable := Table (fun row : TokenRow => row.token_id)

/-- `tokens::verify`: whether the secret matches the stored hash, or an error when the hash is malformed. -/
abbrev Verify := Text → Text → Except Text Bool

def TOKEN_PREFIX : Text := "airc_".toList

/-- `tokens::parse`. -/
def parse (token : Text) : Option (Text × Text) :=
  if TOKEN_PREFIX.isPrefixOf token then
    match splitOnce ['_'] (token.drop TOKEN_PREFIX.length) with
    | some (token_id, secret) => if token_id = [] ∨ secret = [] then none else some (token_id, secret)
    | none => none
  else none

def authenticate_new (verify : Verify) (principals : PrincipalTable) (tokens : TokenTable) (token_id secret : Text) :
    Except Text (Option Principal) :=
  match tokens.find token_id with
  | none => .ok none
  | some row =>
    match principals.find row.principal_id with
    | none => .ok none
    | some principal =>
      if row.revoked_at.isSome then .ok none
      else
        match verify secret row.token_hash with
        | .ok true => .ok (some principal.toPrincipal)
        | .ok false => .ok none
        | .error error => .error error

def authenticate_legacy (principals : PrincipalTable) (token : Text) : Except Text Principal :=
  match principals.rows.find? (fun row => decide (row.token = token)) with
  | some row => .ok row.toPrincipal
  | none => .error "invalid token".toList

def authenticate (verify : Verify) (principals : PrincipalTable) (tokens : TokenTable) (token : Text) :
    Except Text Principal :=
  match parse token with
  | none => authenticate_legacy principals token
  | some (token_id, secret) =>
    match authenticate_new verify principals tokens token_id secret with
    | .error error => .error error
    | .ok (some principal) => .ok principal
    | .ok none => authenticate_legacy principals token

end Aircd.Auth
