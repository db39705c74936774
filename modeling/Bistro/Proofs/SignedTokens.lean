import Bistro.Proofs.Guard
import Bistro.Proofs.TextBytes

/-!
# Bistro — signed tokens verify to their claims

A token is three URL-safe base64 parts joined by dots: the fixed header, the claims as JSON, and
the HMAC-SHA256 of the first two parts under the service key. Checking a token splits it at the
dots, reads both JSON parts back, computes the signature again and compares, then checks the times
in the claims. A token the service signs passes all of it, and this module proves so without
computing any digest:

* `sha256_lt` — a digest is made of bytes, so its base64 text reads back;
* `Json.parse_eq_of_sameUpTo` — what a fixed text reads as can be computed, values having no
  decidable equality of their own;
* `Token.sign_parts` — the parts of a signed token are the three that were joined, base64 holding
  no dot;
* `Token.part?_encode` — a part reads back as the JSON object of its text;
* `Token.verify_sign_eq` — a token signed with a key verifies under that key to its claims as
  their JSON reads back, when their times hold at the moment of the check, and fails as the
  check of the times does otherwise;
* `Guard.claimsOf_signed` — a request whose `Authorization` header is `Bearer ` and such a
  token is signed in with its claims, when they name a present subject and their times hold at
  the request's clock; `Guard.claimsOf_signed_refused` — it is refused with a 401 when they do
  not.
-/

namespace Bistro

/-! ## §1 — Digests and their text -/

/-- **A digest is made of bytes**: each word of the final state is cut into four bytes. -/
theorem sha256_lt (msg : List Nat) : ∀ b ∈ sha256 msg, b < 256 := by
  intro b hb
  obtain ⟨w, -, hw⟩ := List.mem_flatMap.1 hb
  simp only [Sha256.wordBytes, List.mem_cons, List.not_mem_nil, or_false] at hw
  rcases hw with rfl | rfl | rfl | rfl <;> exact Nat.mod_lt _ (by decide)

theorem hmacSha256_lt (key msg : List Nat) : ∀ b ∈ hmacSha256 key msg, b < 256 :=
  sha256_lt _

/-- No character of the URL-safe text of bytes is a dot or a blank. -/
theorem base64UrlEncode_chars {bs : List Nat} (hbs : ∀ b ∈ bs, b < 256) {c : Char}
    (hc : c ∈ (base64UrlEncode bs).toList) : c ≠ '.' ∧ isBlank c = false := by
  obtain ⟨n, hn, rfl⟩ := mem_base64UrlEncode hbs hc
  have hblank : ∀ n < 64, isBlank (Base64.digit true n) = false := by decide
  exact ⟨(Base64.digit_ne true hn).2, hblank n hn⟩

/-- Characters none of which is blank are their own trim. -/
theorem trimChars_of_not_blank {cs : List Char} (h : ∀ c ∈ cs, isBlank c = false) :
    trimChars cs = cs := by
  have hdrop : ∀ ds : List Char, (∀ c ∈ ds, isBlank c = false) → dropBlanks ds = ds := by
    intro ds hds
    cases ds with
    | nil => rfl
    | cons d ds => exact List.dropWhile_cons_of_neg (by simp [hds d (by simp)])
  rw [trimChars, hdrop cs h, hdrop cs.reverse (fun c hc => h c (List.mem_reverse.1 hc)),
    List.reverse_reverse]

/-! ## §2 — Comparing JSON values

JSON values have no decidable equality of their own; `Json.sameUpTo` compares two down to a
depth, and a `true` answer proves them equal. It lets the reading of a fixed text be computed. -/

namespace Json

/-- Two lists agree pairwise under `r`. -/
def allPairs {α : Type} (r : α → α → Bool) : List α → List α → Bool
  | [], [] => true
  | x :: xs, y :: ys => r x y && allPairs r xs ys
  | _, _ => false

/-- Two JSON values are the same, compared down to `depth` levels of nesting. -/
def sameUpTo : Nat → Json → Json → Bool
  | 0, _, _ => false
  | _ + 1, .null, .null => true
  | _ + 1, .bool x, .bool y => x == y
  | _ + 1, .int x, .int y => x == y
  | _ + 1, .float x, .float y => x == y
  | _ + 1, .str x, .str y => x == y
  | d + 1, .arr xs, .arr ys => allPairs (sameUpTo d) xs ys
  | d + 1, .obj fs, .obj gs => allPairs (fun p q => p.1 == q.1 && sameUpTo d p.2 q.2) fs gs
  | _ + 1, _, _ => false

theorem eq_of_allPairs {α : Type} {r : α → α → Bool} (hr : ∀ x y, r x y = true → x = y) :
    ∀ {xs ys : List α}, allPairs r xs ys = true → xs = ys
  | [], [], _ => rfl
  | x :: xs, y :: ys, h => by
    simp only [allPairs, Bool.and_eq_true] at h
    rw [hr x y h.1, eq_of_allPairs hr h.2]
  | [], _ :: _, h => by simp [allPairs] at h
  | _ :: _, [], h => by simp [allPairs] at h

/-- **Values found the same are equal.** -/
theorem eq_of_sameUpTo : ∀ {d : Nat} {a b : Json}, sameUpTo d a b = true → a = b
  | 0, _, _, h => by simp [sameUpTo] at h
  | d + 1, a, b, h => by
    cases a <;> cases b <;> simp only [sameUpTo, beq_iff_eq, Bool.false_eq_true] at h
    all_goals first
      | exact congrArg _ h
      | rfl
      | exact congrArg _ (eq_of_allPairs (fun x y => eq_of_sameUpTo) h)
      | exact congrArg _ (eq_of_allPairs (fun p q hpq => by
          simp only [Bool.and_eq_true, beq_iff_eq] at hpq
          exact Prod.ext hpq.1 (eq_of_sameUpTo hpq.2)) h)

/-- A text that reads as a value found the same as `v` reads as `v`. -/
theorem parse_eq_of_sameUpTo {s : String} {v : Json} {d : Nat}
    (h : (match Json.parse s with
      | .ok j => sameUpTo d j v
      | .error _ => false) = true) : Json.parse s = .ok v := by
  cases hp : Json.parse s with
  | error e => simp [hp] at h
  | ok j =>
    rw [hp] at h
    exact congrArg Except.ok (eq_of_sameUpTo h)

end Json

/-! ## §3 — The parts of a signed token -/

namespace Token

/-- The first part of every token: the header's text in base64. -/
abbrev headerPart : String := base64UrlEncode (utf8Bytes headerText)

/-- The second part of a token: its claims' text in base64. -/
abbrev claimsPart (claims : List (String × Json)) : String :=
  base64UrlEncode (utf8Bytes (Json.render (.obj claims)))

/-- The characters of a signed token are those of its parts, and the two dots between them. -/
theorem sign_chars (key : String) (claims : List (String × Json)) {c : Char}
    (hc : c ∈ (sign key claims).toList) : c = '.' ∨ isBlank c = false := by
  simp only [sign, signature, String.toList_append, List.mem_append] at hc
  rcases hc with (((hc | hc) | hc) | hc) | hc
  · exact .inr (base64UrlEncode_chars (utf8Bytes_lt _) hc).2
  · exact .inl (by simpa using hc)
  · exact .inr (base64UrlEncode_chars (utf8Bytes_lt _) hc).2
  · exact .inl (by simpa using hc)
  · exact .inr (base64UrlEncode_chars (hmacSha256_lt _ _) hc).2

/-- **The parts of a signed token are the three that were joined**: none of them holds a dot. -/
theorem sign_parts (key : String) (claims : List (String × Json)) :
    ((sign key claims).toList.splitOn '.').map String.ofList =
      [headerPart, claimsPart claims, signature key (headerPart ++ "." ++ claimsPart claims)] := by
  have hjoin : (sign key claims).toList = ['.'].intercalate [headerPart.toList,
      (claimsPart claims).toList,
      (signature key (headerPart ++ "." ++ claimsPart claims)).toList] := by
    simp [sign, List.intercalate]
  have hnodot : ∀ s ∈ [headerPart.toList, (claimsPart claims).toList,
      (signature key (headerPart ++ "." ++ claimsPart claims)).toList], '.' ∉ s := by
    simp only [List.mem_cons, List.not_mem_nil, or_false]
    rintro s (rfl | rfl | rfl) hdot
    · exact (base64UrlEncode_chars (utf8Bytes_lt _) hdot).1 rfl
    · exact (base64UrlEncode_chars (utf8Bytes_lt _) hdot).1 rfl
    · exact (base64UrlEncode_chars (hmacSha256_lt _ _) hdot).1 rfl
  have hsplit : (sign key claims).toList.splitOn '.' = [headerPart.toList,
      (claimsPart claims).toList,
      (signature key (headerPart ++ "." ++ claimsPart claims)).toList] := by
    rw [hjoin]
    apply List.splitOn_intercalate
    · exact hnodot
    · simp
  rw [hsplit]
  simp

/-- **A part reads back as the JSON object of its text.** -/
theorem part?_encode (text : String) :
    part? (base64UrlEncode (utf8Bytes text)) = match Json.parse text with
      | .ok (.obj fs) => some fs
      | _ => none := by
  unfold part?
  rw [base64Decode?_base64UrlEncode (utf8Bytes_lt text)]
  -- the match here and the one in `part?` are separate auxiliary matchers in a module build
  -- and one shared matcher when everything is elaborated together, so close by defeq only
  show (utf8Decode? (utf8Bytes text)).bind _ = _
  exact congrArg (Option.bind · _) (utf8Decode?_utf8Bytes text)

/-- **A token signed with a key verifies under that key to its claims as they read back**: the
members `cs` that the JSON of the claims reads back as (rendering sorts the keys), checked for
their times at `now`. The signature is compared with itself, so no digest is computed. -/
theorem verify_sign_eq (key : String) (now : Int) (claims cs : List (String × Json))
    (hparse : Json.parse (Json.render (.obj claims)) = .ok (.obj cs)) :
    verify key now (sign key claims) = (checkTimes now cs).map fun _ => cs := by
  have hheader : part? headerPart = some [("alg", .str "HS256"), ("typ", .str "JWT")] := by
    rw [part?_encode]
    rfl
  have hclaims : part? (claimsPart claims) = some cs := by
    rw [part?_encode, hparse]
  have hsig : (base64Decode? true (signature key (headerPart ++ "." ++ claimsPart claims))).isNone =
      false := by
    rw [signature, base64Decode?_base64UrlEncode (hmacSha256_lt _ _)]
    rfl
  unfold verify
  dsimp only
  rw [sign_parts]
  dsimp only
  -- the header names the algorithm, the signature part reads back and matches, the claims read
  -- back; what is left is the check of their times
  simp only [pure_bind, hheader, hclaims, hsig, bne_self_eq_false, Bool.false_eq_true, if_false]
  cases checkTimes now cs <;> rfl

theorem verify_sign (key : String) (now : Int) (claims cs : List (String × Json))
    (hparse : Json.parse (Json.render (.obj claims)) = .ok (.obj cs))
    (htimes : checkTimes now cs = .ok ()) :
    verify key now (sign key claims) = .ok cs := by
  rw [verify_sign_eq key now claims cs hparse, htimes]
  rfl

end Token

/-! ## §4 — Requests signed in -/

/-- **The claims of a request carrying a bearer token** are those the token verifies to at the
request's clock, when the token has no blank to trim. -/
theorem Guard.claimsOf_bearer {r : Request} {token : String}
    (hr : r.header? "Authorization" = some ("Bearer " ++ token))
    (hblank : ∀ c ∈ token.toList, isBlank c = false) :
    Guard.claimsOf r =
      match Token.verify Config.service.secretKey r.clock token with
      | .error _ => .error (.http 401 "Invalid or expired token" true)
      | .ok cs =>
        match cs.lookup "sub" with
        | some sub =>
          if isPresent sub then .ok cs else .error (.http 401 "Invalid or expired token" true)
        | none => .error (.http 401 "Invalid or expired token" true) := by
  have hbearer : "Bearer ".toList.length = 7 := rfl
  -- the token follows the scheme's seven characters and has no blank to trim
  have htoken : trim (String.ofList (("Bearer " ++ token).toList.drop 7)) = token := by
    rw [String.toList_append, List.drop_left' hbearer, trim, String.toList_ofList,
      trimChars_of_not_blank hblank, String.ofList_toList]
  have hprefix : "Bearer ".toList.isPrefixOf ("Bearer " ++ token).toList = true := by
    rw [String.toList_append, List.isPrefixOf_iff_prefix]
    exact List.prefix_append _ _
  have hnonempty : ("Bearer " ++ token).isEmpty = false := by
    rw [Bool.eq_false_iff, ne_eq, String.isEmpty_iff]
    intro h
    have hlen := congrArg String.length h
    rw [String.length_append] at hlen
    simp at hlen
  unfold Guard.claimsOf
  dsimp only
  -- no closing by reflexivity here: where the two sides share one matcher that would end the
  -- proof early, elsewhere it does not
  rewrite [hr, Option.getD_some, hnonempty, if_neg Bool.false_ne_true, hprefix, Bool.not_true,
    if_neg Bool.false_ne_true, htoken]
  -- the two sides match through separate auxiliary matchers: split both the same way
  cases Token.verify Config.service.secretKey r.clock token with
  | error e => rfl
  | ok cs => cases cs.lookup "sub" <;> rfl

/-- A token the service signs has no blank to trim. -/
theorem Token.sign_not_blank (claims : List (String × Json)) :
    ∀ c ∈ (Token.sign Config.service.secretKey claims).toList, isBlank c = false := by
  intro c hc
  rcases Token.sign_chars _ _ hc with rfl | h
  exacts [rfl, h]

/-- **A request carrying a token the service signed is signed in with its claims** as they read
back, when their times hold at the time the request is handled and they name a present
subject. -/
theorem Guard.claimsOf_signed {r : Request} {claims cs : List (String × Json)}
    (hr : r.header? "Authorization" = some ("Bearer " ++ Token.sign Config.service.secretKey claims))
    (hparse : Json.parse (Json.render (.obj claims)) = .ok (.obj cs))
    (htimes : Token.checkTimes r.clock cs = .ok ())
    {sub : Json} (hsub : cs.lookup "sub" = some sub) (hpresent : isPresent sub = true) :
    Guard.claimsOf r = .ok cs := by
  rw [Guard.claimsOf_bearer hr (Token.sign_not_blank claims),
    Token.verify_sign _ _ _ _ hparse htimes]
  dsimp only
  rw [hsub]
  dsimp only
  rw [if_pos hpresent]

/-- **A request carrying a token the service signed is refused with a 401** when the times of its
claims do not hold at the time the request is handled. -/
theorem Guard.claimsOf_signed_refused {r : Request} {claims cs : List (String × Json)}
    (hr : r.header? "Authorization" = some ("Bearer " ++ Token.sign Config.service.secretKey claims))
    (hparse : Json.parse (Json.render (.obj claims)) = .ok (.obj cs)) {e : TokenFault}
    (htimes : Token.checkTimes r.clock cs = .error e) :
    Guard.claimsOf r = .error (.http 401 "Invalid or expired token" true) := by
  rw [Guard.claimsOf_bearer hr (Token.sign_not_blank claims),
    Token.verify_sign_eq _ _ _ _ hparse, htimes]
  rfl

/-- A guard's claims are a decision on the request alone: the claims of a token the service
signed, as a step. -/
theorem Guard.claims_eq_pure {r : Request} {cs : List (String × Json)}
    (h : Guard.claimsOf r = .ok cs) : Guard.claims r = pure cs := by
  funext σ
  have hexec := Guard.claims_exec r σ
  rw [h] at hexec
  exact hexec

end Bistro
