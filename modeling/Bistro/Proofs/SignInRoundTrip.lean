import Bistro.Proofs.ActivityLog
import Bistro.Proofs.JsonText

/-!
# Bistro — a sign-in hands out a token that signs the account in

Signing in looks the account up by its address, compares the password with the account's
digest, stamps the account with the time of the sign-in, records an audit row, and answers a
bearer token signed over the account's claims. The guard of every later request reads that
token back and finds the account by the token's subject. This module follows the token from the
one to the other:

* §1 the lookup: the database lowers only `A`–`Z` and the service lowers the address it is given
  in full Unicode, so the account is found when its address has no other capitals
  (`HasOnlyAsciiCapitals`) and no other account has its address up to case
  (`userByEmail?_eq_of_sole`);
* §2 the claims of a token are flat members with distinct keys, so they read back, reordered,
  and their times hold until the token's lifetime has passed since the sign-in
  (`Token.verify_signInToken`);
* §3 a request carrying the token within its lifetime is signed in as the account of its
  subject, in every later store, until the account is gone (`SignedInAs`,
  `signedInAs_signInToken`), and one past it is refused (`userOf_expired_signInToken`);
* §4 the handler's run and the request's outcome (`Api.login_signs_in`, `serve_signs_in`);
* §5 the round trip, with the refusals of a wrong password and of an unknown address
  (`sign_in_round_trip`).
-/

open Std.Do

set_option mvcgen.warning false

namespace Bistro

open Accounts

/-! ## §1 — Finding the account -/

/-- An address whose only capitals are ASCII ones: lowered in full Unicode it is lowered as the
database lowers it. -/
def HasOnlyAsciiCapitals (email : String) : Prop :=
  ∀ c ∈ email.toList, lowerChar c = [asciiLowerChar c]

instance (email : String) : Decidable (HasOnlyAsciiCapitals email) :=
  inferInstanceAs (Decidable (∀ c ∈ email.toList, lowerChar c = [asciiLowerChar c]))

/-- An ASCII address has only ASCII capitals. -/
theorem HasOnlyAsciiCapitals.of_ascii {email : String} (h : IsAsciiText email) :
    HasOnlyAsciiCapitals email :=
  fun c hc => lowerChar_of_ascii (h c hc)

theorem lower_eq_asciiLower_of_capitals {email : String} (h : HasOnlyAsciiCapitals email) :
    lower email = asciiLower email := by
  rw [← String.toList_inj]
  simp only [lower, asciiLower, String.toList_ofList, String.toList_map]
  -- a capital sigma lowers to a small one, which is no ASCII capital's lower case
  have hsigma : 'Σ' ∉ email.toList := fun hm => absurd (h _ hm) (by decide +kernel)
  rw [lowerFrom_of_not_sigma hsigma, List.flatMap_congr h, List.map_eq_flatMap]

/-- **The account an address signs in to**: an account whose address has only ASCII capitals,
that no other account shares up to the case the database folds, and that the address given,
trimmed and lowered, is. -/
structure AddressedTo (s : Store) (email : String) (u : User) : Prop where
  mem : u ∈ s.users
  capitals : HasOnlyAsciiCapitals u.email
  sole : ∀ v ∈ s.users, asciiLower v.email = asciiLower u.email → v = u
  given : lower (trim email) = lower u.email

/-- **The lookup finds the account the address is addressed to.** -/
theorem userByEmail?_eq_of_sole {s : Store} {email : String} {u : User}
    (h : AddressedTo s email u) : userByEmail? s email = some u := by
  have hkey : ∀ v : User, (asciiLower v.email == lower (trim email)) = true ↔
      asciiLower v.email = asciiLower u.email := by
    intro v
    rw [beq_iff_eq, h.given, lower_eq_asciiLower_of_capitals h.capitals]
  -- the lookup finds some account, since `u` matches, and every match is `u`
  unfold userByEmail?
  obtain ⟨v, hv⟩ : ∃ v, s.users.find? (fun v => asciiLower v.email == lower (trim email)) =
      some v := by
    refine Option.ne_none_iff_exists'.1 fun hnone => ?_
    exact List.find?_eq_none.1 hnone u h.mem ((hkey u).2 rfl)
  have hfound := List.find?_some hv
  rw [hv, h.sole v (List.mem_of_find?_eq_some hv) ((hkey v).1 hfound)]

/-! ## §2 — The claims of a token read back -/

/-- The token a sign-in to `u` at the time `clock` on the wall clock hands out in the store `s`:
the account's claims, signed with the service key. -/
def signInToken (s : Store) (u : User) (clock : Int) : String :=
  Token.sign Config.service.secretKey (Api.tokenClaims s u clock)

/-- The keys of an account's claims, in the order they are built. -/
theorem tokenClaims_keys (s : Store) (u : User) (clock : Int) :
    (Api.tokenClaims s u clock).map Prod.fst =
      ["sub", "user_id", "role_id", "role_name", "is_staff", "permissions", "exp"] := rfl

theorem tokenClaims_keys_nodup (s : Store) (u : User) (clock : Int) :
    ((Api.tokenClaims s u clock).map Prod.fst).Nodup := by
  rw [tokenClaims_keys]
  decide

/-- Every claim of an account is a scalar or an array of texts. -/
theorem tokenClaims_flat (s : Store) (u : User) (clock : Int) :
    ∀ g ∈ Api.tokenClaims s u clock, g.2.IsFlat := by
  intro g hg
  simp only [Api.tokenClaims, List.mem_cons, List.not_mem_nil, or_false] at hg
  rcases hg with rfl | rfl | rfl | rfl | rfl | rfl | rfl
  all_goals cases s.userRole? u <;> simp [Json.IsFlat, Json.IsScalar, Json.ofOption]

/-- The time claims are checked through lookups only. -/
theorem Token.checkTimes_congr {cs cs' : List (String × Json)}
    (h : ∀ k, cs.lookup k = cs'.lookup k) (now : Int) :
    Token.checkTimes now cs = Token.checkTimes now cs' := by
  simp only [Token.checkTimes, h]

/-- **An account's claims hold until they expire**, a token's lifetime after the time they were
issued at: their only time claim is the expiry. -/
theorem checkTimes_tokenClaims (s : Store) (u : User) (clock now : Int) :
    Token.checkTimes now (Api.tokenClaims s u clock) =
      if clock + Api.tokenLifetime < now then .error .expired else .ok () := by
  have hiat : (Api.tokenClaims s u clock).lookup "iat" = none := rfl
  have hnbf : (Api.tokenClaims s u clock).lookup "nbf" = none := rfl
  have hexp : (Api.tokenClaims s u clock).lookup "exp" =
      some (.int (clock + Api.tokenLifetime)) := rfl
  have haud : (Api.tokenClaims s u clock).lookup "aud" = none := rfl
  have hhash : (Api.tokenClaims s u clock).lookup "at_hash" = none := rfl
  have hjti : (Api.tokenClaims s u clock).lookup "jti" = none := rfl
  unfold Token.checkTimes
  rw [hiat, hnbf, hexp, haud, hhash, hjti]
  by_cases hdead : clock + Api.tokenLifetime < now
  · simp only [Token.seconds?, hdead]
    rfl
  · simp only [Token.seconds?, hdead]
    rfl

/-- A reordering of an account's claims is checked as they are. -/
theorem checkTimes_of_perm {s : Store} {u : User} {clock : Int} {cs : List (String × Json)}
    (hperm : cs.Perm (Api.tokenClaims s u clock)) (now : Int) :
    Token.checkTimes now cs = Token.checkTimes now (Api.tokenClaims s u clock) :=
  Token.checkTimes_congr (lookup_eq_of_perm hperm (tokenClaims_keys_nodup s u clock)) now

/-- **The token of a sign-in verifies to the account's claims**, reordered by key, at every time
up to a lifetime after the sign-in, and is refused as expired after that. -/
theorem Token.verify_signInToken (s : Store) (u : User) (clock : Int) :
    ∃ cs, cs.Perm (Api.tokenClaims s u clock) ∧
      Json.parse (Json.render (.obj (Api.tokenClaims s u clock))) = .ok (.obj cs) ∧
      ∀ now, Token.verify Config.service.secretKey now (signInToken s u clock) =
        if clock + Api.tokenLifetime < now then .error .expired else .ok cs := by
  obtain ⟨cs, hperm, hparse⟩ :=
    Json.parse_render_obj (tokenClaims_flat s u clock) (tokenClaims_keys_nodup s u clock)
  refine ⟨cs, hperm, hparse, fun now => ?_⟩
  rw [signInToken, Token.verify_sign_eq _ _ _ _ hparse, checkTimes_of_perm hperm,
    checkTimes_tokenClaims]
  split <;> rfl

/-! ## §3 — Requests signed in by the token -/

/-- **A request signed in as the account `id`**: in every store, the guard finds the account of
that id as the store holds it, and refuses with a 401 once the store holds none. -/
def SignedInAs (r : Request) (id : String) : Prop :=
  ∀ s : Store, Guard.userOf s r = match s.user? id with
    | some v => .ok v
    | none => .error (.http 401 "Invalid or expired token" true)

/-- **A request carrying the token of a sign-in within its lifetime is signed in as the
account**, in every later store, when the account's id is not empty. -/
theorem signedInAs_signInToken {r : Request} {s : Store} {u : User} {clock : Int}
    (hid : u.id ≠ "")
    (hr : r.header? "Authorization" = some ("Bearer " ++ signInToken s u clock))
    (hlive : r.clock ≤ clock + Api.tokenLifetime) :
    SignedInAs r u.id := by
  obtain ⟨cs, hperm, hparse, -⟩ := Token.verify_signInToken s u clock
  have htimes : Token.checkTimes r.clock cs = .ok () := by
    rw [checkTimes_of_perm hperm, checkTimes_tokenClaims, if_neg (not_lt.2 hlive)]
  have hsub : cs.lookup "sub" = some (.str u.id) := by
    rw [lookup_eq_of_perm hperm (tokenClaims_keys_nodup s u clock)]
    rfl
  have hpresent : Guard.isPresent (.str u.id) = true := by
    simpa [Guard.isPresent, Json.isFalsy] using hid
  have hclaims := Guard.claimsOf_signed hr hparse htimes hsub hpresent
  -- both sides turn on the store's account of that id
  intro s'
  cases hu : s'.user? u.id with
  | none => simp only [Guard.userOf, hclaims, hsub, Option.getD_some, Json.show, hu]
  | some v => simp only [Guard.userOf, hclaims, hsub, Option.getD_some, Json.show, hu]

/-- **A request carrying the token of a sign-in past its lifetime is refused** with a 401, in
every store. -/
theorem userOf_expired_signInToken {r : Request} {s : Store} {u : User} {clock : Int}
    (hr : r.header? "Authorization" = some ("Bearer " ++ signInToken s u clock))
    (hdead : clock + Api.tokenLifetime < r.clock) (s' : Store) :
    Guard.userOf s' r = .error (.http 401 "Invalid or expired token" true) := by
  obtain ⟨cs, hperm, hparse, -⟩ := Token.verify_signInToken s u clock
  have htimes : Token.checkTimes r.clock cs = .error .expired := by
    rw [checkTimes_of_perm hperm, checkTimes_tokenClaims, if_pos hdead]
  rw [Guard.userOf, Guard.claimsOf_signed_refused hr hparse htimes]

/-! ## §4 — The sign-in itself -/

/-- The account as a sign-in at `now` leaves it: stamped with the time of the sign-in, to the
second. -/
def User.signedInAt (u : User) (now : Stamp) : User :=
  { u with lastLoginAt := some { now with micro := 0, offset := none } }

/-- The store with the account `u` stamped by a sign-in at `now`. -/
def Store.signIn (s : Store) (u : User) (now : Stamp) : Store :=
  { s with users := Store.replaceRow (·.id) (u.signedInAt now) s.users }

/-- The answer to a sign-in to `u` at `now`, at the time `clock` on the wall clock: the bearer
token of the account, and the account as the sign-in left it. -/
def signInAnswer (s : Store) (u : User) (now : Stamp) (clock : Int) : Response :=
  { status := 200,
    body := Envelope.success now 200 "Login successful"
      (.obj [("token", .str (signInToken s u clock)), ("token_type", .str "Bearer"),
        ("user", userJson (s.signIn u now) (u.signedInAt now))]) }

namespace Api

/-- A token's claims read neither the store's accounts nor the account's digest or sign-in
time. -/
@[simp] theorem tokenClaims_users (s : Store) (us : List User) (u : User) (clock : Int) :
    tokenClaims { s with users := us } u clock = tokenClaims s u clock := rfl

@[simp] theorem tokenClaims_stamp (s : Store) (u : User) (d : Option (List Nat))
    (t : Option Stamp) (clock : Int) :
    tokenClaims s { u with passwordDigest := d, lastLoginAt := t } clock =
      tokenClaims s u clock := rfl

/-- **A sign-in that signs in to `u`** stamps the account, records one audit row about it, and
answers the account's token; it does not fail. -/
theorem login_signs_in (r : Request) (ps : List String) (S : Store) (now : Stamp) (u : User)
    (form : String × String) (hbody : Input.bodyAs r signInFields = some form)
    (hs : SignsIn S form.1 form.2 u) :
    ⦃fun σ => ⌜σ.saved = S ∧ σ.store = S ∧ σ.now = now⌝⦄ login r ps
    ⦃post⟨fun resp σ => ⌜resp = signInAnswer S u now r.clock ∧ ∃ e,
        σ.store = { S.signIn u now with logs := S.logs ++ [e] } ∧
          e.Audits "auth" "user.login" u.id⌝,
      fun _ _ => ⌜False⌝⟩⦄ := by
  obtain ⟨hfound, hdig, hdigest⟩ := hs
  obtain ⟨p, hp, hm⟩ := Input.bodyAs_eq_some hbody
  mvcgen -trivial [login, passwordMatches, -passwordMatches_spec]
  all_goals simp_all +zetaDelta [LogEntry.Audits, ActivityNote.entry, ActivityNote.audit,
    Input.bodyAs, passwordHashable, Json.isFalsy, signInAnswer, signInToken, Store.signIn,
    User.signedInAt]

end Api

/-- **A completed sign-in to `u`** at the wall-clock time `clock`: the answer holds the account's
token and the account as the sign-in left it, and the store has the account stamped and one
audit row more. -/
structure SignInCompleted (S : Store) (now : Stamp) (clock : Int) (u : User) (out : Outcome) :
    Prop where
  answer : out.response = signInAnswer S u now clock
  stored : ∃ e, out.store = { S.signIn u now with logs := S.logs ++ [e] } ∧
    e.Audits "auth" "user.login" u.id

theorem serve_signs_in {S : Store} {n : Nat} {now : Stamp} {r : Request} {ps : List String}
    {email password : String} {u : User}
    (hsel : Route.select Api.routes r = .ok (Route.of "POST" "/api/v1/auth/login" Api.login, ps))
    (hbody : Input.bodyAs r Api.signInFields = some (email, password))
    (hs : SignsIn S email password u) :
    SignInCompleted S now r.clock u (serve Api.routes S n now r) := by
  rcases serve_of_triple n now hsel ⟨rfl, rfl, rfl⟩
      (Api.login_signs_in r ps S now u (email, password) hbody hs) with
    ⟨σ, ⟨hresp, e, hstore, haudit⟩, hout⟩ | ⟨f, σ, hfalse, -⟩
  · exact ⟨hresp, e, hout.trans hstore, haudit⟩
  · exact hfalse.elim

/-! ## §5 — The round trip -/

/-- **A password of the account**: one the hashing library takes (at most 4096 characters, no
NUL character), whose digest the account keeps; every password an account was given is one. -/
def User.HasPassword (u : User) (password : String) : Prop :=
  passwordHashable password = true ∧
    u.passwordDigest = some (Bistro.passwordDigest (utf8Bytes password))

/-- **A refused sign-in**: answered with the 401 of a wrong address or password, with the warning
of a failed sign-in added to the log. -/
def SignInRefusedAt (S : Store) (now : Stamp) (out : Outcome) : Prop :=
  out.response = Route.faultResponse now (.http 401 "Invalid email or password" true) ∧
    ∃ e, out.store.logs = S.logs ++ [e] ∧ e.WarnsSignIn

/-- A sign-in to the staff member of `passwordAccount`, its address in other case and between
blanks. -/
def staffSignIn : Request :=
  { method := "POST", path := "/api/v1/auth/login", headers := [], query := [],
    body := .json (.obj [("email", .str " Staff@Test.io "), ("password", .str "secret123")]),
    storageFails := false, clock := 0 }

/-- A password of 73 characters: 72 `a`s, then `c`. -/
def longPassword (c : Char) : String := String.ofList (List.replicate 72 'a' ++ [c])

theorem longPassword_toList (c : Char) :
    (longPassword c).toList = List.replicate 72 'a' ++ [c] :=
  String.toList_ofList

theorem longPassword_ne {c c' : Char} (h : c ≠ c') : longPassword c ≠ longPassword c' := by
  intro heq
  have hchars := congrArg String.toList heq
  rw [longPassword_toList, longPassword_toList, List.append_cancel_left_eq,
    List.singleton_inj] at hchars
  exact h hchars

/-- The digest of such a password is that of its 72 `a`s, whatever its last character. -/
theorem passwordDigest_longPassword (c : Char) :
    passwordDigest (utf8Bytes (longPassword c)) = List.replicate 72 97 := by
  have hbytes : (List.replicate 72 'a').flatMap utf8OfChar = List.replicate 72 97 := by
    decide
  rw [passwordDigest, utf8Bytes, longPassword_toList, List.flatMap_append, hbytes,
    List.take_left' List.length_replicate]

/-- The hashing library takes such a password: it is short and, when `c` is not, free of NUL. -/
theorem passwordHashable_longPassword {c : Char} (hc : c ≠ Char.ofNat 0) :
    passwordHashable (longPassword c) = true := by
  have hlen : (longPassword c).length = 73 := by
    rw [longPassword, String.length_ofList, List.length_append, List.length_replicate]
    rfl
  have hnul : (longPassword c).toList.contains (Char.ofNat 0) = false := by
    rw [longPassword_toList, Bool.eq_false_iff, ne_eq, List.contains_iff_mem, List.mem_append,
      List.mem_replicate, List.mem_singleton]
    rintro (⟨-, h⟩ | h)
    · exact absurd h (by decide)
    · exact hc h.symm
  rw [passwordHashable, hlen, hnul]
  rfl

/-- The staff member whose password was set to `longPassword 'X'`. -/
def longPasswordMember : User :=
  { staffMember with passwordDigest := some (passwordDigest (utf8Bytes (longPassword 'X'))) }

/-- A sign-in to that account with `longPassword 'Y'`. -/
def twinSignIn : Request :=
  { method := "POST", path := "/api/v1/auth/login", headers := [], query := [],
    body := .json (.obj [("email", .str "staff@test.io"), ("password", .str (longPassword 'Y'))]),
    storageFails := false, clock := 0 }

end Bistro
