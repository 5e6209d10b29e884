import Aircd.Schema

/-!
# Tokens and who they stand for

The tokens that `tokens.rs` generates and the principals that `auth.rs` finds
for a token. The random bytes are arguments of `generate`.
-/
namespace Aircd.Auth
open Aircd.Text

def TOKEN_ID_BYTES : Nat := 16
def SECRET_BYTES : Nat := 32

/-- Two hex digits a byte, `{byte:02x}`. -/
def hex_encode (bytes : List UInt8) : Text :=
  bytes.flatMap (fun byte => [Nat.digitChar (byte.toNat / 16), Nat.digitChar (byte.toNat % 16)])

/-- The full token, its id and its secret. -/
def generate (token_id_bytes : Vector UInt8 TOKEN_ID_BYTES) (secret_bytes : Vector UInt8 SECRET_BYTES) : Text × Text × Text :=
  let token_id_hex := hex_encode token_id_bytes.toList
  let secret_hex := hex_encode secret_bytes.toList
  (TOKEN_PREFIX ++ token_id_hex ++ '_' :: secret_hex, token_id_hex, secret_hex)

/-! ## The parts of a token -/

theorem digitChar_ne : ∀ {n : Nat}, n < 16 → Nat.digitChar n ≠ '_' := by decide

theorem clean_hex (bytes : List UInt8) : '_' ∉ hex_encode bytes := by
  intro inside
  obtain ⟨byte, _, here⟩ := List.mem_flatMap.mp inside
  have high : byte.toNat / 16 < 16 := by
    have bound := byte.toNat_lt
    omega
  have low : byte.toNat % 16 < 16 := Nat.mod_lt _ (by decide)
  rcases List.mem_pair.mp here with same | same
  · exact digitChar_ne high same.symm
  · exact digitChar_ne low same.symm

theorem hex_ne_nil {bytes : List UInt8} (some : bytes ≠ []) : hex_encode bytes ≠ [] := by
  obtain ⟨byte, rest, rfl⟩ := List.exists_cons_of_ne_nil some
  simp [hex_encode]

theorem parts_of_splitOnce {c : Char} : ∀ {t before after : Text}, splitOnce [c] t = some (before, after) →
    t = before ++ c :: after ∧ c ∉ before
  | [], _, _, split => by cases split
  | first :: rest, before, after, split => by
    rw [splitOnce] at split
    split at split
    · next here =>
      have same : c = first := by simpa [List.isPrefixOf] using here
      cases split
      exact ⟨by rw [same]; rfl, by simp⟩
    · next elsewhere =>
      have other : c ≠ first := by simpa [List.isPrefixOf] using elsewhere
      obtain ⟨⟨more, last⟩, found, same⟩ := Option.map_eq_some_iff.mp split
      cases same
      obtain ⟨rfl, clean⟩ := parts_of_splitOnce found
      exact ⟨rfl, by simp [other, clean]⟩

/-- A token is parsed when neither its id nor its secret is empty; its id has no underscore. -/
theorem parse_eq_some {token token_id secret : Text} : parse token = some (token_id, secret) ↔
    token = TOKEN_PREFIX ++ token_id ++ '_' :: secret ∧ '_' ∉ token_id ∧ token_id ≠ [] ∧ secret ≠ [] := by
  constructor
  · intro parses
    unfold parse at parses
    split at parses
    · next starts =>
      obtain ⟨body, rfl⟩ := List.isPrefixOf_iff_prefix.mp starts
      rw [List.drop_left] at parses
      split at parses
      · next _ _ split =>
        obtain ⟨rfl, clean⟩ := parts_of_splitOnce split
        split at parses
        · cases parses
        · next both =>
          cases parses
          rw [not_or] at both
          exact ⟨by rw [List.append_assoc], clean, both.1, both.2⟩
      · cases parses
    · cases parses
  · rintro ⟨rfl, clean, some_id, some_secret⟩
    have starts : TOKEN_PREFIX.isPrefixOf (TOKEN_PREFIX ++ (token_id ++ '_' :: secret)) = true :=
      List.isPrefixOf_iff_prefix.mpr ⟨_, rfl⟩
    simp [parse, starts, splitOnce_char clean, some_id, some_secret]

theorem parse_generate (token_id_bytes : Vector UInt8 TOKEN_ID_BYTES) (secret_bytes : Vector UInt8 SECRET_BYTES) :
    parse (generate token_id_bytes secret_bytes).1 = some (generate token_id_bytes secret_bytes).2 := by
  have some_bytes {n : Nat} (bytes : Vector UInt8 (n + 1)) : bytes.toList ≠ [] := by
    intro none
    have length := congrArg List.length none
    simp at length
  exact parse_eq_some.mpr ⟨rfl, clean_hex _, hex_ne_nil (some_bytes token_id_bytes), hex_ne_nil (some_bytes secret_bytes)⟩

/-! ## Who a token stands for -/

variable {verify : Verify} {principals : PrincipalTable} {tokens : TokenTable}

/-- The token stands for the principal by a row of `principal_tokens` that is not revoked. -/
def Issued (verify : Verify) (principals : PrincipalTable) (tokens : TokenTable) (token : Text) (principal : Principal) : Prop :=
  ∃ token_id secret, token = TOKEN_PREFIX ++ token_id ++ '_' :: secret ∧ '_' ∉ token_id ∧
    ∃ row ∈ tokens.rows, row.token_id = token_id ∧ row.revoked_at = none ∧ verify secret row.token_hash = .ok true ∧
      ∃ owner ∈ principals.rows, owner.id = row.principal_id ∧ owner.toPrincipal = principal

/-- The token is the legacy token of the principal. -/
def Legacy (principals : PrincipalTable) (token : Text) (principal : Principal) : Prop :=
  ∃ owner ∈ principals.rows, owner.token = token ∧ owner.toPrincipal = principal

theorem authenticate_new_some {token_id secret : Text} {principal : Principal}
    (found : authenticate_new verify principals tokens token_id secret = .ok (some principal)) :
    ∃ row ∈ tokens.rows, row.token_id = token_id ∧ row.revoked_at = none ∧ verify secret row.token_hash = .ok true ∧
      ∃ owner ∈ principals.rows, owner.id = row.principal_id ∧ owner.toPrincipal = principal := by
  unfold authenticate_new at found
  split at found
  · cases found
  next row row_found =>
  split at found
  · cases found
  next owner owner_found =>
  split at found
  · cases found
  next unrevoked =>
  split at found
  · next verified =>
    cases found
    obtain ⟨row_mem, row_id⟩ := Table.find_iff.mp row_found
    obtain ⟨owner_mem, owner_id⟩ := Table.find_iff.mp owner_found
    exact ⟨row, row_mem, row_id, by simpa using unrevoked, verified, owner, owner_mem, owner_id, rfl⟩
  · cases found
  · cases found

theorem authenticate_legacy_ok {token : Text} {principal : Principal}
    (found : authenticate_legacy principals token = .ok principal) : Legacy principals token principal := by
  unfold authenticate_legacy at found
  split at found
  · next owner owner_found =>
    cases found
    exact ⟨owner, List.mem_of_find?_eq_some owner_found, by simpa using List.find?_some owner_found, rfl⟩
  · cases found

theorem authenticate_sound {token : Text} {principal : Principal}
    (found : authenticate verify principals tokens token = .ok principal) :
    Issued verify principals tokens token principal ∨ Legacy principals token principal := by
  unfold authenticate at found
  split at found
  · exact .inr (authenticate_legacy_ok found)
  · next token_id secret parses =>
    split at found
    · cases found
    · next issued =>
      cases found
      obtain ⟨whole, clean, _, _⟩ := parse_eq_some.mp parses
      exact .inl ⟨token_id, secret, whole, clean, authenticate_new_some issued⟩
    · exact .inr (authenticate_legacy_ok found)

/-- A row that is not revoked and whose hash verifies the secret lets its principal in. -/
theorem authenticate_issued {token token_id secret : Text} {row : TokenRow} {owner : PrincipalRow}
    (parses : parse token = some (token_id, secret)) (listed : row ∈ tokens.rows) (here : row.token_id = token_id)
    (unrevoked : row.revoked_at = none) (verified : verify secret row.token_hash = .ok true)
    (owned : owner ∈ principals.rows) (owns : owner.id = row.principal_id) :
    authenticate verify principals tokens token = .ok owner.toPrincipal := by
  have row_found : tokens.find token_id = some row := Table.find_iff.mpr ⟨listed, here⟩
  have owner_found : principals.find row.principal_id = some owner := Table.find_iff.mpr ⟨owned, owns⟩
  simp [authenticate, parses, authenticate_new, row_found, owner_found, unrevoked, verified]

/-- With its row revoked, a token is looked up as a legacy one. -/
theorem authenticate_revoked {token token_id secret : Text} {row : TokenRow} (parses : parse token = some (token_id, secret))
    (listed : row ∈ tokens.rows) (here : row.token_id = token_id) (revoked : row.revoked_at ≠ none) :
    authenticate verify principals tokens token = authenticate_legacy principals token := by
  have row_found : tokens.find token_id = some row := Table.find_iff.mpr ⟨listed, here⟩
  have rejected : authenticate_new verify principals tokens token_id secret = .ok none := by
    cases owner_found : principals.find row.principal_id with
    | none => simp [authenticate_new, row_found, owner_found]
    | some owner => simp [authenticate_new, row_found, owner_found, Option.isSome_iff_ne_none.mpr revoked]
  simp [authenticate, parses, rejected]

theorem authenticate_legacy_of_mem (unique : (principals.rows.map (fun row => row.token)).Nodup) {owner : PrincipalRow}
    (owned : owner ∈ principals.rows) : authenticate_legacy principals owner.token = .ok owner.toPrincipal := by
  unfold authenticate_legacy
  split
  · next other found =>
    have same : other.token = owner.token := by simpa using List.find?_some found
    rw [List.inj_on_of_nodup_map unique (List.mem_of_find?_eq_some found) owned same]
  · next missing =>
    have other := List.find?_eq_none.mp missing owner owned
    simp at other

theorem authenticate_legacy_none {token : Text} (nobody : ∀ owner ∈ principals.rows, owner.token ≠ token) :
    authenticate_legacy principals token = .error "invalid token".toList := by
  have missing : principals.rows.find? (fun row => decide (row.token = token)) = none := by
    simpa [List.find?_eq_none] using nobody
  simp [authenticate_legacy, missing]

/-- A token lets in nobody but whom it was issued to or whose legacy token it is. An issued token lets its
principal in until its row is revoked; from then on it is worth what it is worth as a legacy token. -/
theorem authenticate_correct {hash : Schema.Hash} (agrees : ∀ salt secret token_hash, hash salt secret = .ok token_hash →
      ∀ other, verify other token_hash = .ok (decide (other = secret)))
    (unique : (principals.rows.map (fun row => row.token)).Nodup) :
    (∀ token principal, authenticate verify principals tokens token = .ok principal →
      Issued verify principals tokens token principal ∨ Legacy principals token principal) ∧
    ∀ token_id_bytes secret_bytes full token_id secret, generate token_id_bytes secret_bytes = (full, token_id, secret) →
      ∀ row ∈ tokens.rows, row.token_id = token_id → ∀ salt, hash salt secret = .ok row.token_hash →
        (row.revoked_at = none → ∀ owner ∈ principals.rows, owner.id = row.principal_id →
          authenticate verify principals tokens full = .ok owner.toPrincipal) ∧
        (row.revoked_at ≠ none →
          (∀ owner ∈ principals.rows, owner.token = full →
            authenticate verify principals tokens full = .ok owner.toPrincipal) ∧
          ((∀ owner ∈ principals.rows, owner.token ≠ full) →
            authenticate verify principals tokens full = .error "invalid token".toList)) := by
  refine ⟨fun _ _ => authenticate_sound, ?_⟩
  intro token_id_bytes secret_bytes full token_id secret generated row listed here salt hashed
  have parses : parse full = some (token_id, secret) := by
    have parts := parse_generate token_id_bytes secret_bytes
    rwa [generated] at parts
  refine ⟨?_, ?_⟩
  · intro unrevoked owner owned owns
    have verified := agrees salt secret row.token_hash hashed secret
    rw [decide_eq_true rfl] at verified
    exact authenticate_issued parses listed here unrevoked verified owned owns
  · intro revoked
    rw [authenticate_revoked parses listed here revoked]
    refine ⟨?_, authenticate_legacy_none⟩
    rintro owner owned rfl
    exact authenticate_legacy_of_mem unique owned

/-- Two principals, the first of whom has an issued token. -/
def humans : PrincipalTable where
  rows := [⟨⟨"human".toList, "human".toList, some "demo".toList⟩, "human-token".toList, 0, none, none⟩,
    ⟨⟨"agent-a".toList, "agent-a".toList, none⟩, "agent-a-token".toList, 0, none, none⟩]
  distinct := by decide

def issued (revoked_at : Option Int) : TokenTable where
  rows := [⟨"human".toList, hex_encode (List.replicate 16 171), hex_encode (List.replicate 32 5), revoked_at⟩]
  distinct := List.nodup_singleton _

theorem authenticate_correct_human :
    let verify : Verify := fun secret token_hash => .ok (decide (secret = token_hash))
    let full := (generate (Vector.replicate 16 171) (Vector.replicate 32 5)).1
    authenticate verify humans (issued none) full = .ok ⟨"human".toList, "human".toList, some "demo".toList⟩ ∧
    authenticate verify humans (issued (some 7)) full = .error "invalid token".toList := by
  intro verify full
  have agrees : ∀ salt secret token_hash, (fun _ secret => .ok secret : Schema.Hash) salt secret = .ok token_hash →
      ∀ other, verify other token_hash = .ok (decide (other = secret)) := by
    rintro salt secret token_hash hashed other
    obtain rfl : secret = token_hash := Except.ok.inj hashed
    rfl
  have unique : (humans.rows.map (fun row => row.token)).Nodup := by decide
  have generated : generate (Vector.replicate 16 171) (Vector.replicate 32 5) =
      (full, hex_encode (List.replicate 16 171), hex_encode (List.replicate 32 5)) := rfl
  have current := (@authenticate_correct verify humans (issued none) _ agrees unique).2 _ _ _ _ _ generated _
    List.mem_cons_self rfl [] rfl
  have revoked := (@authenticate_correct verify humans (issued (some 7)) _ agrees unique).2 _ _ _ _ _ generated _
    List.mem_cons_self rfl [] rfl
  have nobody : ∀ owner ∈ humans.rows, owner.token ≠ full := by decide
  exact ⟨current.1 rfl _ List.mem_cons_self rfl, (revoked.2 (by simp)).2 nobody⟩

end Aircd.Auth
