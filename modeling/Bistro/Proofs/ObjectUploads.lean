import Bistro.Proofs.Footprints
import Bistro.Proofs.ProductBundles

/-!
# Bistro — objects put only by requests that succeed

Three routes publish an uploaded image in the file store: the image of a product
(`POST /api/v1/products/{id}/image`), and the logo of a theme made or changed
(`POST /api/v1/themes`, `PUT /api/v1/themes/{theme_id}`). The file store is outside the store's
transaction: an object it took stays when the request fails. Each of the three publishes after
every check that can refuse it, and what follows the publication cannot fail, so an object is
only ever put by a request that then succeeds:

* `Media.objectName`, `Media.objectUrl` — the name an object is put under, in its folder after a
  fresh identifier and with the extension of its type, and the address it is published at;
* `publish_outcome` — a publication puts that one object and gives its address, or is refused
  with the session as it was but for the counter;
* `attachLogo_outcome` — the logo of a theme whose name no other theme has is published and
  recorded in the theme's row, and the write of that row cannot fail;
* `UploadAnswer` and one lemma per route — what each of the three handlers leaves.

Main statement, `uploads_only_on_success`: every request puts no object, or puts exactly one, is
answered with a success and leaves the row it serves holding the object's address; a request
whose file store refuses puts nothing; and a request of the three routes that fails leaves the
store as it was.
-/

namespace Bistro

open Themes

/-! ## §1 — Publishing an object -/

namespace Media

/-- The type an upload is published under: the type it states, or the one its name suggests. -/
def contentTypeOf (u : Upload) : String :=
  if u.contentType.isEmpty then (guessType u.filename).getD "" else u.contentType

/-- The name of the object an upload is put under in `folder`, with the fresh number `k`. -/
def objectName (u : Upload) (folder : String) (k : Nat) : String :=
  folder ++ "/" ++ hexOf (Txn.idText k) ++ typeExtension (contentTypeOf u)

/-- The public address of an object. -/
def objectUrl (name : String) : String :=
  Config.service.storageBase ++ "/" ++ Config.service.bucket ++ "/" ++ name

/-- The digits `Nat.toDigits 16` writes are lower-case hexadecimal ones. -/
theorem toDigits_hex (n : Nat) :
    ∀ c ∈ Nat.toDigits 16 n, c.isDigit = true ∨ 'a' ≤ c ∧ c ≤ 'f' := by
  have hdigit : ∀ d < 16, d.digitChar.isDigit = true ∨ 'a' ≤ d.digitChar ∧ d.digitChar ≤ 'f' := by
    decide
  induction n using Nat.strong_induction_on with
  | _ n ih =>
    rw [Nat.toDigits_eq_if (by decide)]
    split
    case isTrue hn => simpa using hdigit n hn
    case isFalse hn =>
      simp only [List.mem_append, List.mem_singleton]
      rintro c (hc | rfl)
      exacts [ih (n / 16) (Nat.div_lt_self (by omega) (by decide)) c hc,
        hdigit _ (Nat.mod_lt n (by decide))]

/-- **The public address of an object**: the file store's base and bucket, the folder, the
digits of the fresh identifier, which are 32 lower-case hexadecimal ones while the counter is below
`16 ^ 8`, and the extension of the upload's type. -/
theorem objectUrl_form (u : Upload) (folder : String) {k : Nat} (hk : k < 16 ^ 8) :
    ∃ hex, objectUrl (objectName u folder k) =
        "http://localhost:9000/restaurant/" ++ folder ++ "/" ++ hex ++
          typeExtension (contentTypeOf u) ∧
      hex.length = 32 ∧ ∀ c ∈ hex.toList, c.isDigit = true ∨ 'a' ≤ c ∧ c ≤ 'f' := by
  have hlen : (Nat.toDigits 16 k).length ≤ 8 := Nat.toDigits_length 16 k 8 (by decide) hk
  have hdigits := Orders.idText_digits k
  refine ⟨hexOf (Txn.idText k), ?_, ?_, ?_⟩
  · simp only [objectUrl, objectName, Config.service, String.append_assoc]
    rfl
  · have hzeros : "000040008000000000000000".toList.length = 24 := by decide
    rw [← String.length_toList, hexOf, String.toList_ofList, hdigits]
    simp only [List.length_append, List.length_replicate, hzeros]
    omega
  · rw [hexOf, String.toList_ofList, hdigits]
    simp only [List.mem_append, List.mem_replicate]
    rintro c ((⟨-, rfl⟩ | hc) | hc)
    · exact .inl rfl
    · exact toDigits_hex k c hc
    · have hversion : ∀ c ∈ "000040008000000000000000".toList, c.isDigit = true := by simp
      exact .inl (hversion c hc)

end Media

theorem Txn.exec_map {α β : Type} (f : α → β) (x : Txn α) (σ : Session) :
    (f <$> x).exec σ = match x.exec σ with
      | (.ok a, σ') => (.ok (f a), σ')
      | (.error e, σ') => (.error e, σ') := by
  rw [map_eq_bind_pure_comp, Txn.exec_bind]
  rcases x.exec σ with ⟨e | a, σ'⟩ <;> rfl

/-- A publication whose file passes the checks draws a name and puts the object under it, or
answers the 502 of the file store when the store refuses. -/
theorem publish_exec_checked {u : Upload} (folder : String) (fails : Bool) (σ : Session)
    (htype : Media.imageTypes.contains (Media.contentTypeOf u) = true)
    (hdata : u.data.isEmpty = false) :
    (Media.publish u folder fails).exec σ =
      if fails then (.error (.refuse 502 "Failed to upload file"), { σ with nextId := σ.nextId + 1 })
      else (.ok (Media.objectUrl (Media.objectName u folder σ.nextId)),
        { σ with nextId := σ.nextId + 1,
                 uploads := σ.uploads ++ [Media.objectName u folder σ.nextId] }) := by
  simp only [Media.contentTypeOf] at htype
  unfold Media.publish
  simp only [htype, hdata, Bool.not_true, Bool.false_eq_true, if_false]
  cases fails <;> rfl

/-- A publication whose file fails the checks is refused with a 400 before any name is drawn,
whatever the file store would do. -/
theorem publish_exec_unchecked {u : Upload} (folder : String) (fails : Bool) (σ : Session)
    (hbad : ¬ (Media.imageTypes.contains (Media.contentTypeOf u) = true ∧
      u.data.isEmpty = false)) :
    ∃ m, (Media.publish u folder fails).exec σ = (.error (.refuse 400 m), σ) := by
  unfold Media.publish
  cases htype : Media.imageTypes.contains (Media.contentTypeOf u) with
  | false =>
    simp only [Media.contentTypeOf] at htype
    simp only [htype, Bool.not_false, if_true, Txn.refuse]
    exact ⟨_, rfl⟩
  | true =>
    -- the type passes, so the file is empty
    have hdata : u.data.isEmpty = true := by
      cases hd : u.data.isEmpty
      · exact absurd ⟨htype, hd⟩ hbad
      · rfl
    simp only [Media.contentTypeOf] at htype
    simp only [htype, hdata, Bool.not_true, Bool.false_eq_true, if_false, if_true, Txn.refuse]
    exact ⟨_, rfl⟩

/-- **A publication** puts one object and gives its address, when the type is an image type, the
file is not empty and the file store takes it; otherwise it is refused, with a `502` when the file
store refuses, and the session is kept but for the counter. -/
theorem publish_outcome (u : Upload) (folder : String) (fails : Bool) (σ : Session) :
    Txn.Outcome
      (fun url σ' => fails = false ∧
        url = Media.objectUrl (Media.objectName u folder σ.nextId) ∧
        σ' = { σ with nextId := σ.nextId + 1,
                      uploads := σ.uploads ++ [Media.objectName u folder σ.nextId] })
      (fun e σ' => σ'.store = σ.store ∧ σ'.saved = σ.saved ∧ σ'.uploads = σ.uploads ∧
        (e = Fault.refuse 502 "Failed to upload file" ∨ ∃ m, e = Fault.refuse 400 m))
      ((Media.publish u folder fails).exec σ) := by
  by_cases hchecked : Media.imageTypes.contains (Media.contentTypeOf u) = true ∧
      u.data.isEmpty = false
  · rw [publish_exec_checked folder fails σ hchecked.1 hchecked.2]
    cases fails with
    | true => exact ⟨rfl, rfl, rfl, .inl rfl⟩
    | false => exact ⟨rfl, rfl, rfl⟩
  · obtain ⟨m, hm⟩ := publish_exec_unchecked folder fails σ hchecked
    rw [hm]
    exact ⟨rfl, rfl, rfl, .inr ⟨m, rfl⟩⟩

/-- A run that put an object: the objects it leaves are not `ups`, those it found. -/
def PutsObject {α : Type} (ups : List String) (run : Except Fault α × Session) : Prop :=
  run.2.uploads ≠ ups

/-- **A refused put**: a run that fails with the 502 of the file store, keeping the commit point
`saved` and the objects `ups` of the session it started from. -/
def PutRefused {α : Type} (saved : Store) (ups : List String) (run : Except Fault α × Session) :
    Prop :=
  run.1 = .error (.refuse 502 "Failed to upload file") ∧ run.2.saved = saved ∧ run.2.uploads = ups

/-- A refused put stops the steps after it. -/
theorem PutRefused.bind {α β : Type} {x : Txn α} {σ : Session} {saved : Store}
    {ups : List String} (h : PutRefused saved ups (x.exec σ)) (f : α → Txn β) :
    PutRefused saved ups ((x >>= f).exec σ) := by
  rcases hx : x.exec σ with ⟨e | a, σ'⟩
  · rw [hx] at h
    obtain ⟨he, hs, hu⟩ := h
    cases he
    rw [Txn.exec_bind_error hx]
    exact ⟨rfl, hs, hu⟩
  · rw [hx] at h
    cases h.1

/-- A refused put is the failure of the 502, from the session it leaves. -/
theorem PutRefused.eq {α : Type} {saved : Store} {ups : List String}
    {run : Except Fault α × Session} (h : PutRefused saved ups run) :
    run = (.error (.refuse 502 "Failed to upload file"), run.2) := by
  rcases run with ⟨e | a, σ'⟩ <;> cases h.1
  rfl

/-- **A file store that refuses refuses the put a working one takes**: where a publication puts
its object, the same publication with the file store refusing answers the 502 of the file store,
having put nothing. -/
theorem publish_put_refused {u : Upload} {folder : String} {σ σ' : Session} {url : String}
    (h : (Media.publish u folder false).exec σ = (.ok url, σ')) :
    PutRefused σ.saved σ.uploads ((Media.publish u folder true).exec σ) := by
  by_cases hchecked : Media.imageTypes.contains (Media.contentTypeOf u) = true ∧
      u.data.isEmpty = false
  · rw [publish_exec_checked folder true σ hchecked.1 hchecked.2]
    exact ⟨rfl, rfl, rfl⟩
  · -- a file refused by its checks is refused by the working store too
    obtain ⟨m, hm⟩ := publish_exec_unchecked folder false σ hchecked
    rw [hm] at h
    cases h

/-! ## §2 — The logo of a theme

A theme's row is written twice when a logo is sent: once checked for its name, then with the
logo's address. The second write has the name and the id of the first, so the check that let the
first through lets it through too: once an object is put, nothing can refuse the request. -/

/-- No other theme of the store has the name of `t`. -/
def ThemeNameFree (s : Store) (t : Theme) : Prop := ∀ o ∈ s.themes, o.name = t.name → o.id = t.id

/-- The store with the row of `t` written: replacing the row of its id, or added. -/
def Store.withTheme (t : Theme) (s : Store) : Store :=
  if (s.theme? t.id).isSome then { s with themes := Store.replaceRow (·.id) t s.themes }
  else { s with themes := s.themes ++ [t] }

theorem themes_conflict_eq_false_iff (s : Store) (t : Theme) :
    s.themes.any (fun o => o.name == t.name && o.id != t.id) = false ↔ ThemeNameFree s t := by
  simp [ThemeNameFree]

theorem Store.withTheme_row (t : Theme) (s : Store) : (s.withTheme t).theme? t.id = some t := by
  unfold Store.withTheme
  split
  · rename_i hsome
    obtain ⟨q, hq⟩ := Option.isSome_iff_exists.1 hsome
    exact Store.find?_replaceRow (fun o : Theme => o.id) t rfl hq
  · rename_i hnone
    simp only [Store.theme?, Option.not_isSome_iff_eq_none] at hnone ⊢
    simp [List.find?_append, hnone]

theorem Store.withTheme_free {t : Theme} {s : Store} (h : ThemeNameFree s t) :
    ThemeNameFree (s.withTheme t) t := by
  unfold Store.withTheme
  split
  · intro o ho hname
    obtain ⟨r, hr, rfl⟩ := List.mem_map.1 ho
    by_cases hid : (r.id == t.id) = true
    · simp [hid]
    · simp only [hid, Bool.false_eq_true, if_false] at hname ⊢
      exact h r hr hname
  · intro o ho hname
    rcases List.mem_append.1 ho with ho | ho
    · exact h o ho hname
    · simp_all

namespace Api

theorem saveTheme_exec {t : Theme} {σ : Session} (hfree : ThemeNameFree σ.store t) :
    (saveTheme t).exec σ = (.ok (), { σ with store := σ.store.withTheme t }) := by
  have hno := (themes_conflict_eq_false_iff σ.store t).2 hfree
  unfold saveTheme Store.withTheme
  simp only [Txn.exec_bind, Txn.exec_store, hno, Bool.false_eq_true, if_false]
  split <;> rfl

theorem saveTheme_conflict {t : Theme} {σ : Session} (hconf : ¬ ThemeNameFree σ.store t) :
    (saveTheme t).exec σ = (.error .integrity, σ) := by
  have hyes : σ.store.themes.any (fun o => o.name == t.name && o.id != t.id) = true :=
    Bool.eq_true_of_not_eq_false fun h => hconf ((themes_conflict_eq_false_iff σ.store t).1 h)
  unfold saveTheme
  simp only [Txn.exec_bind, Txn.exec_store, hyes, if_true]
  rfl

/-- **A theme's logo, attached**: with no logo sent the theme stays as it is; with one, its
publication is refused with the commit point and the objects kept, or puts its object and stores
the theme with the object's address. The write after the publication passes, the theme's name
being free of other themes. -/
theorem attachLogo_outcome (r : Request) (t : Theme) (logo : Option Upload) (σ : Session)
    (hfree : ThemeNameFree σ.store t) (hrow : σ.store.theme? t.id = some t) :
    Txn.Outcome
      (fun t' σ' => σ'.saved = σ.saved ∧ σ'.store.theme? t.id = some t' ∧
        (logo = none ∧ σ'.uploads = σ.uploads ∨
          ∃ u, logo = some u ∧ r.storageFails = false ∧
            σ'.uploads = σ.uploads ++ [Media.objectName u "themes" σ.nextId] ∧
            t'.logoUrl = some (Media.objectUrl (Media.objectName u "themes" σ.nextId))))
      (fun _ σ' => σ'.saved = σ.saved ∧ σ'.uploads = σ.uploads)
      ((attachLogo r t logo).exec σ) := by
  cases logo with
  | none => exact ⟨rfl, hrow, .inl ⟨rfl, rfl⟩⟩
  | some u =>
    simp only [attachLogo, Txn.exec_bind]
    have hpub := publish_outcome u "themes" r.storageFails σ
    generalize (Media.publish u "themes" r.storageFails).exec σ = run at hpub ⊢
    rcases run with ⟨e | url, σ₁⟩
    · exact ⟨hpub.2.1, hpub.2.2.1⟩
    · obtain ⟨hok, rfl, rfl⟩ := hpub
      dsimp only
      rw [saveTheme_exec]
      · exact ⟨rfl, Store.withTheme_row _ _, .inr ⟨u, rfl, hok, rfl, rfl⟩⟩
      -- the row is written again under the name it was just checked with
      · exact hfree

/-- Where a logo's publication puts its object, the same logo with the file store refusing is a
refused put. -/
theorem attachLogo_put_refused {r r' : Request} (hr : r.storageFails = false)
    (hr' : r'.storageFails = true) {t : Theme} {u : Upload} {σ σ' : Session} {t' : Theme}
    (h : (attachLogo r t (some u)).exec σ = (.ok t', σ')) :
    PutRefused σ.saved σ.uploads ((attachLogo r' t (some u)).exec σ) := by
  simp only [attachLogo, hr, hr'] at h ⊢
  rw [Txn.exec_bind] at h
  rcases hpub : (Media.publish u "themes" false).exec σ with ⟨e | url, σ₁⟩
  · rw [hpub] at h
    cases h
  · exact PutRefused.bind (publish_put_refused hpub) _

theorem themeName_reads (name : String) (own : Option String) : Txn.Reads (themeName name own) := by
  intro σ
  unfold themeName
  dsimp only
  split
  · rfl
  · rw [Txn.exec_bind, Txn.exec_store]
    dsimp only
    split
    · split <;> rfl
    · rfl

theorem themeAt_exec (id : String) (σ : Session) :
    (themeAt id).exec σ = match σ.store.theme? id with
      | some t => (.ok t, σ)
      | none => (.error (Fault.refuse 404 "Theme not found"), σ) := by
  unfold themeAt
  simp only [Txn.exec_bind, Txn.exec_store]
  cases σ.store.theme? id <;> rfl

theorem exec_onIntegrity {α : Type} (step : Txn α) (f : Fault) (σ : Session) :
    (Txn.onIntegrity step f).exec σ = match step.exec σ with
      | (.error .integrity, σ') => (.error f, { σ' with store := σ'.saved })
      | (.error e, σ') => (.error e, σ')
      | (.ok a, σ') => (.ok a, σ') := by
  unfold Txn.onIntegrity Txn.exec
  simp only [tryCatch, tryCatchThe, MonadExceptOf.tryCatch, ExceptT.tryCatch, ExceptT.mk,
    ExceptT.run, StateT.run, bind, StateT.bind]
  generalize step σ = res
  rcases res with ⟨e | a, s⟩
  · cases e <;> rfl
  · rfl

/-- **What an upload route answers**, run from a session with the commit point `S` and no object
put yet: a success `code` that put no object, or one object named in `folder` whose address the
store's row `holds`, put only when the file store does not refuse (`fails` is false); or a
failure that put no object and kept the commit point. -/
def UploadAnswer (S : Store) (folder : String) (code : Nat) (fails : Bool)
    (holds : Store → String → Prop) : Except Fault Response × Session → Prop :=
  Txn.Outcome
    (fun resp σ => resp.status = code ∧ (σ.uploads = [] ∨ ∃ u k, fails = false ∧
      σ.uploads = [Media.objectName u folder k] ∧
        holds σ.store (Media.objectUrl (Media.objectName u folder k))))
    (fun _ σ => σ.uploads = [] ∧ σ.saved = S)

theorem uploadProductImage_answer (r : Request) (ps : List String) (σ : Session)
    (h0 : σ.uploads = []) :
    UploadAnswer σ.saved "products" 200 r.storageFails
      (fun s url => ∃ p, s.product? (Route.param ps) = some p ∧ p.imageUrl = some url)
      ((uploadProductImage r ps).exec σ) := by
  simp only [uploadProductImage, Guard.admin, Txn.exec_bind, Guard.require_exec,
    storedProductAt_exec]
  cases hg : Guard.decision σ.store r .admin with
  | error e => exact ⟨h0, rfl⟩
  | ok u =>
  dsimp only
  cases hf : Input.formFile r "file" with
  | fail es => exact ⟨h0, rfl⟩
  | ok file =>
  dsimp only [Input.accept_ok_exec]
  cases hp : σ.store.product? (Route.param ps) with
  | none => exact ⟨h0, rfl⟩
  | some p₀ =>
  dsimp only
  have hpub := publish_outcome file "products" r.storageFails σ
  generalize (Media.publish file "products" r.storageFails).exec σ = run at hpub ⊢
  rcases run with ⟨e | url, σ₁⟩
  · exact ⟨hpub.2.2.1.trans h0, hpub.2.1⟩
  · obtain ⟨hok, rfl, rfl⟩ := hpub
    simp only [Txn.exec_modifyStore, Txn.exec_store, Reply.ok_exec]
    have hid : p₀.id = Route.param ps := by simpa using List.find?_some hp
    refine ⟨rfl, .inr ⟨file, σ.nextId, hok, by rw [h0]; rfl, _,
      Store.find?_replaceRow (fun q : Product => q.id)
        { p₀ with basePrice := storedDouble p₀.basePrice,
                   imageUrl := some (Media.objectUrl (Media.objectName file "products" σ.nextId)) }
        hid hp, rfl⟩⟩

/-- Where the upload of a product's image puts its object, the same request with the file store
refusing is a refused put: the guard, the file and the product are read alike. -/
theorem uploadProductImage_put_refused (r : Request) (ps : List String) (σ : Session)
    (hr : r.storageFails = false)
    (hput : PutsObject σ.uploads ((uploadProductImage r ps).exec σ)) :
    PutRefused σ.saved σ.uploads ((uploadProductImage { r with storageFails := true } ps).exec σ) := by
  have hguard : Guard.decision σ.store { r with storageFails := true } .admin =
      Guard.decision σ.store r .admin := Guard.decision_congr_headers .admin rfl rfl
  have hfile : Input.formFile { r with storageFails := true } "file" = Input.formFile r "file" :=
    rfl
  simp only [uploadProductImage, Guard.admin, Txn.exec_bind, Guard.require_exec,
    storedProductAt_exec, hguard, hfile, hr] at hput ⊢
  revert hput
  cases hg : Guard.decision σ.store r .admin with
  | error e => exact fun hput => absurd rfl hput
  | ok u =>
  dsimp only
  cases hf : Input.formFile r "file" with
  | fail es => exact fun hput => absurd rfl hput
  | ok file =>
  dsimp only [Input.accept_ok_exec]
  cases hp : σ.store.product? (Route.param ps) with
  | none => exact fun hput => absurd rfl hput
  | some p₀ =>
  dsimp only
  rcases hpub : (Media.publish file "products" false).exec σ with ⟨e | url, σ₁⟩
  · -- a refused publication puts nothing
    intro hput
    have hout := publish_outcome file "products" false σ
    rw [hpub] at hout
    exact absurd hout.2.2.1 hput
  · intro _
    have hrefused := publish_put_refused hpub
    rw [hrefused.eq]
    exact ⟨rfl, hrefused.2.1, hrefused.2.2⟩

theorem UploadAnswer.mono {S : Store} {folder : String} {code : Nat} {fails : Bool}
    {holds holds' : Store → String → Prop} (h : ∀ s url, holds s url → holds' s url)
    {run : Except Fault Response × Session} (ha : UploadAnswer S folder code fails holds run) :
    UploadAnswer S folder code fails holds' run := by
  rcases run with ⟨e | resp, σ⟩
  · exact ha
  · obtain ⟨hcode, hup⟩ := ha
    refine ⟨hcode, hup.imp id fun ⟨u, k, hf, hu, hh⟩ => ⟨u, k, hf, hu, h _ _ hh⟩⟩

/-- **A theme's row written, then its logo attached**: a name another theme has is refused before
any object is put; otherwise the logo, when sent, is put and its address recorded in the row. -/
theorem themeWrite_answer (r : Request) (t : Theme) (logo : Option Upload) (f : Fault)
    (reply : Theme → Txn Response) (code : Nat)
    (hreply : ∀ t' σ, ∃ resp, (reply t').exec σ = (.ok resp, σ) ∧ resp.status = code)
    (S : Store) (σ : Session) (hS : σ.saved = S) (h0 : σ.uploads = []) :
    UploadAnswer S "themes" code r.storageFails
      (fun s url => ∃ t', s.theme? t.id = some t' ∧ t'.logoUrl = some url)
      ((do Txn.onIntegrity (saveTheme t) f; let t' ← attachLogo r t logo; reply t').exec σ) := by
  subst hS
  rw [Txn.exec_bind, exec_onIntegrity]
  by_cases hfree : ThemeNameFree σ.store t
  · rw [saveTheme_exec hfree]
    dsimp only
    rw [Txn.exec_bind]
    have hlogo := attachLogo_outcome r t logo { σ with store := σ.store.withTheme t }
      (Store.withTheme_free hfree) (Store.withTheme_row t σ.store)
    generalize (attachLogo r t logo).exec { σ with store := σ.store.withTheme t } = run at hlogo ⊢
    rcases run with ⟨e | t', σ₁⟩
    · exact ⟨hlogo.2.trans h0, hlogo.1⟩
    · obtain ⟨-, hrow, hup⟩ := hlogo
      obtain ⟨resp, hexec, hstatus⟩ := hreply t' σ₁
      dsimp only
      rw [hexec]
      refine ⟨hstatus, ?_⟩
      rcases hup with ⟨-, hup⟩ | ⟨u, -, hok, hup, hurl⟩
      · exact .inl (hup.trans h0)
      · exact .inr ⟨u, σ.nextId, hok, by rw [hup, h0]; rfl, t', hrow, hurl⟩
  · -- a taken name: the write is refused and nothing is put
    rw [saveTheme_conflict hfree]
    exact ⟨h0, rfl⟩

/-- Where a theme's write puts its logo, the same write with the file store refusing is a refused
put: the name was free, and the logo's publication is the step that fails. -/
theorem themeWrite_put_refused {r r' : Request} (hr : r.storageFails = false)
    (hr' : r'.storageFails = true) (t : Theme) (logo : Option Upload) (f : Fault)
    (reply : Theme → Txn Response) (hreply : ∀ t' σ, ∃ resp, (reply t').exec σ = (.ok resp, σ))
    (σ : Session) {saved : Store} {ups : List String} (hs : σ.saved = saved)
    (hu : σ.uploads = ups)
    (hput : PutsObject ups
      ((do Txn.onIntegrity (saveTheme t) f; let t' ← attachLogo r t logo; reply t').exec σ)) :
    PutRefused saved ups
      ((do Txn.onIntegrity (saveTheme t) f; let t' ← attachLogo r' t logo; reply t').exec σ) := by
  subst hs hu
  rw [Txn.exec_bind, exec_onIntegrity] at hput ⊢
  by_cases hfree : ThemeNameFree σ.store t
  · rw [saveTheme_exec hfree] at hput ⊢
    dsimp only at hput ⊢
    rw [Txn.exec_bind] at hput
    have hlogo := attachLogo_outcome r t logo { σ with store := σ.store.withTheme t }
      (Store.withTheme_free hfree) (Store.withTheme_row t σ.store)
    rcases hrun : (attachLogo r t logo).exec { σ with store := σ.store.withTheme t } with
      ⟨e | t', σ₁⟩ <;> rw [hrun] at hlogo hput
    · -- a refused logo puts nothing
      exact absurd hlogo.2 hput
    · obtain ⟨resp, hresp⟩ := hreply t' σ₁
      dsimp only at hput
      rw [hresp] at hput
      cases logo with
      | none =>
        -- without a logo nothing is put
        rcases hlogo.2.2 with ⟨-, hup⟩ | ⟨u, hu, -⟩
        · exact absurd hup hput
        · cases hu
      | some u => exact PutRefused.bind (attachLogo_put_refused hr hr' hrun) _
  · -- a taken name: the working store's write put nothing either
    rw [saveTheme_conflict hfree] at hput
    exact absurd rfl hput

theorem createTheme_answer (r : Request) (ps : List String) (σ : Session) (h0 : σ.uploads = []) :
    UploadAnswer σ.saved "themes" 201 r.storageFails
      (fun s url => ∃ id t, s.theme? id = some t ∧ t.logoUrl = some url)
      ((createTheme r ps).exec σ) := by
  simp only [createTheme, Guard.staff, Txn.exec_bind, Guard.require_exec]
  cases hg : Guard.decision σ.store r .staff with
  | error e => exact ⟨h0, rfl⟩
  | ok u =>
  dsimp only
  cases hd : ThemeDraft.ofForm r with
  | fail es => exact ⟨h0, rfl⟩
  | ok d =>
  dsimp only [Input.accept_ok_exec]
  have hname := themeName_reads d.name none σ
  generalize (themeName d.name none).exec σ = run at hname ⊢
  rcases run with ⟨e | name, σ₁⟩ <;> dsimp only at hname <;> subst hname
  · exact ⟨h0, rfl⟩
  have hreply : ∀ (t : Theme) σ', ∃ resp,
      (Reply.created "Theme created successfully" t.json).exec σ' = (.ok resp, σ') ∧
        resp.status = 201 := fun _ _ => ⟨_, rfl, rfl⟩
  have hholds : ∀ (t : Theme) (s : Store) (url : String),
      (∃ t' : Theme, s.theme? t.id = some t' ∧ t'.logoUrl = some url) →
        ∃ id t', s.theme? id = some t' ∧ t'.logoUrl = some url :=
    fun t _ _ h => h.elim fun t' h => ⟨t.id, t', h⟩
  dsimp only
  -- with or without the default flag taken from the other themes, a fresh id and the write
  by_cases hdefault : d.isDefault = true
  · rw [if_pos hdefault, Txn.exec_bind]
    simp only [clearDefault, Txn.exec_modifyStore]
    rw [Txn.exec_bind, Txn.exec_freshId]
    dsimp only
    exact (themeWrite_answer r _ d.logo _ _ 201 hreply _ _ rfl (by exact h0)).mono (hholds _)
  · rw [if_neg hdefault, Txn.exec_bind, Txn.exec_freshId]
    dsimp only
    exact (themeWrite_answer r _ d.logo _ _ 201 hreply _ _ rfl (by exact h0)).mono (hholds _)

/-- Where the creation of a theme puts its logo, the same request with the file store refusing is
a refused put: the guard, the form and the name are read alike. -/
theorem createTheme_put_refused (r : Request) (ps : List String) (σ : Session)
    (hr : r.storageFails = false) (hput : PutsObject σ.uploads ((createTheme r ps).exec σ)) :
    PutRefused σ.saved σ.uploads ((createTheme { r with storageFails := true } ps).exec σ) := by
  have hguard : Guard.decision σ.store { r with storageFails := true } .staff =
      Guard.decision σ.store r .staff := Guard.decision_congr_headers .staff rfl rfl
  have hform : ThemeDraft.ofForm { r with storageFails := true } = ThemeDraft.ofForm r := rfl
  simp only [createTheme, Guard.staff, Txn.exec_bind, Guard.require_exec, hguard, hform] at hput ⊢
  revert hput
  cases hg : Guard.decision σ.store r .staff with
  | error e => exact fun hput => absurd rfl hput
  | ok u =>
  dsimp only
  cases hd : ThemeDraft.ofForm r with
  | fail es => exact fun hput => absurd rfl hput
  | ok d =>
  dsimp only [Input.accept_ok_exec]
  have hname := themeName_reads d.name none σ
  generalize (themeName d.name none).exec σ = run at hname ⊢
  rcases run with ⟨e | name, σ₁⟩ <;> dsimp only at hname <;> subst hname
  · exact fun hput => absurd rfl hput
  have hreply : ∀ (t : Theme) σ', ∃ resp,
      (Reply.created "Theme created successfully" t.json).exec σ' = (.ok resp, σ') :=
    fun _ _ => ⟨_, rfl⟩
  dsimp only
  -- with or without the default flag taken from the other themes, a fresh id and the write,
  -- alike for both requests
  intro hput
  by_cases hdefault : d.isDefault = true
  · rw [if_pos hdefault, Txn.exec_bind] at hput ⊢
    simp only [clearDefault, Txn.exec_modifyStore] at hput ⊢
    rw [Txn.exec_bind, Txn.exec_freshId] at hput ⊢
    exact themeWrite_put_refused hr rfl _ d.logo _ _ hreply _ rfl rfl hput
  · rw [if_neg hdefault, Txn.exec_bind, Txn.exec_freshId] at hput ⊢
    exact themeWrite_put_refused hr rfl _ d.logo _ _ hreply _ rfl rfl hput

/-- The write of an updated theme once its new name is decided: the rest of the change. -/
def themeUpdateWrite (r : Request) (p : ThemePatch) (old : Theme) (name : Option String) :
    Txn Response := do
  let t := { p with name := name }.apply old
  if p.isDefault == some true then
    saveTheme t
    clearDefault (some t.id)
  Txn.onIntegrity (saveTheme t) themeNameTaken
  let t ← attachLogo r t p.logo
  Reply.ok "Theme updated successfully" t.json

theorem updateTheme_write_answer (r : Request) (p : ThemePatch) (old : Theme)
    (name : Option String) (σ : Session) (h0 : σ.uploads = []) :
    UploadAnswer σ.saved "themes" 200 r.storageFails
      (fun s url => ∃ id t, s.theme? id = some t ∧ t.logoUrl = some url)
      ((themeUpdateWrite r p old name).exec σ) := by
  have hreply : ∀ (t : Theme) σ', ∃ resp,
      (Reply.ok "Theme updated successfully" t.json).exec σ' = (.ok resp, σ') ∧
        resp.status = 200 := fun _ _ => ⟨_, rfl, rfl⟩
  have hholds : ∀ (t : Theme) (s : Store) (url : String),
      (∃ t' : Theme, s.theme? t.id = some t' ∧ t'.logoUrl = some url) →
        ∃ id t', s.theme? id = some t' ∧ t'.logoUrl = some url :=
    fun t _ _ h => h.elim fun t' h => ⟨t.id, t', h⟩
  unfold themeUpdateWrite
  -- a default flag is taken from the other themes only once the row has been written under it
  by_cases hdefault : (p.isDefault == some true) = true
  · rw [if_pos hdefault, Txn.exec_bind]
    by_cases hfree : ThemeNameFree σ.store ({ p with name := name }.apply old)
    · rw [saveTheme_exec hfree]
      dsimp only
      rw [Txn.exec_bind]
      simp only [clearDefault, Txn.exec_modifyStore]
      exact (themeWrite_answer r _ p.logo _ _ 200 hreply _ _ rfl (by exact h0)).mono (hholds _)
    · rw [saveTheme_conflict hfree]
      exact ⟨h0, rfl⟩
  · rw [if_neg hdefault]
    exact (themeWrite_answer r _ p.logo _ _ 200 hreply _ _ rfl (by exact h0)).mono (hholds _)

/-- Where the write of an updated theme puts its logo, the same write with the file store refusing
is a refused put. -/
theorem updateTheme_write_put_refused {r r' : Request} (hr : r.storageFails = false)
    (hr' : r'.storageFails = true) (p : ThemePatch) (old : Theme) (name : Option String)
    (σ : Session) (hput : PutsObject σ.uploads ((themeUpdateWrite r p old name).exec σ)) :
    PutRefused σ.saved σ.uploads ((themeUpdateWrite r' p old name).exec σ) := by
  have hreply : ∀ (t : Theme) σ', ∃ resp,
      (Reply.ok "Theme updated successfully" t.json).exec σ' = (.ok resp, σ') :=
    fun _ _ => ⟨_, rfl⟩
  unfold themeUpdateWrite at hput ⊢
  by_cases hdefault : (p.isDefault == some true) = true
  · rw [if_pos hdefault, Txn.exec_bind] at hput ⊢
    by_cases hfree : ThemeNameFree σ.store ({ p with name := name }.apply old)
    · rw [saveTheme_exec hfree] at hput ⊢
      dsimp only at hput ⊢
      rw [Txn.exec_bind] at hput ⊢
      simp only [clearDefault, Txn.exec_modifyStore] at hput ⊢
      exact themeWrite_put_refused hr hr' _ p.logo _ _ hreply _ rfl rfl hput
    · -- a taken name: the working store's write put nothing either
      rw [saveTheme_conflict hfree] at hput
      exact absurd rfl hput
  · rw [if_neg hdefault] at hput ⊢
    exact themeWrite_put_refused hr hr' _ p.logo _ _ hreply _ rfl rfl hput

theorem updateTheme_answer (r : Request) (ps : List String) (σ : Session) (h0 : σ.uploads = []) :
    UploadAnswer σ.saved "themes" 200 r.storageFails
      (fun s url => ∃ id t, s.theme? id = some t ∧ t.logoUrl = some url)
      ((updateTheme r ps).exec σ) := by
  simp only [updateTheme, Guard.staff, Txn.exec_bind, Guard.require_exec]
  cases hg : Guard.decision σ.store r .staff with
  | error e => exact ⟨h0, rfl⟩
  | ok u =>
  dsimp only
  cases hp : ThemePatch.ofForm r with
  | fail es => exact ⟨h0, rfl⟩
  | ok p =>
  dsimp only [Input.accept_ok_exec]
  rw [themeAt_exec]
  cases hold : σ.store.theme? (Route.param ps) with
  | none => exact ⟨h0, rfl⟩
  | some old =>
  dsimp only
  -- the new name, when one is sent, is checked against the other themes without a write
  cases hn : p.name with
  | none => exact updateTheme_write_answer r p old none σ h0
  | some n =>
  dsimp only
  rw [Txn.exec_bind, Txn.exec_map]
  have hname := themeName_reads n (some old.id) σ
  generalize (themeName n (some old.id)).exec σ = run at hname ⊢
  rcases run with ⟨e | name, σ₁⟩ <;> dsimp only at hname <;> subst hname
  · exact ⟨h0, rfl⟩
  · exact updateTheme_write_answer r p old (some name) _ h0

/-- Where the change of a theme puts its logo, the same request with the file store refusing is a
refused put: the guard, the form, the theme and the new name are read alike. -/
theorem updateTheme_put_refused (r : Request) (ps : List String) (σ : Session)
    (hr : r.storageFails = false) (hput : PutsObject σ.uploads ((updateTheme r ps).exec σ)) :
    PutRefused σ.saved σ.uploads ((updateTheme { r with storageFails := true } ps).exec σ) := by
  have hguard : Guard.decision σ.store { r with storageFails := true } .staff =
      Guard.decision σ.store r .staff := Guard.decision_congr_headers .staff rfl rfl
  have hform : ThemePatch.ofForm { r with storageFails := true } = ThemePatch.ofForm r := rfl
  simp only [updateTheme, Guard.staff, Txn.exec_bind, Guard.require_exec, hguard, hform] at hput ⊢
  revert hput
  cases hg : Guard.decision σ.store r .staff with
  | error e => exact fun hput => absurd rfl hput
  | ok u =>
  dsimp only
  cases hp : ThemePatch.ofForm r with
  | fail es => exact fun hput => absurd rfl hput
  | ok p =>
  dsimp only [Input.accept_ok_exec]
  rw [themeAt_exec]
  cases hold : σ.store.theme? (Route.param ps) with
  | none => exact fun hput => absurd rfl hput
  | some old =>
  dsimp only
  cases hn : p.name with
  | none =>
    exact @updateTheme_write_put_refused r { r with storageFails := true } hr rfl p old none σ
  | some n =>
  -- the new name is read the same way by both requests
  simp only [Txn.exec_bind, Txn.exec_map]
  have hname := themeName_reads n (some old.id) σ
  generalize (themeName n (some old.id)).exec σ = run at hname ⊢
  rcases run with ⟨e | name, σ₁⟩ <;> dsimp only at hname <;> subst hname
  · exact fun hput => absurd rfl hput
  · exact @updateTheme_write_put_refused r { r with storageFails := true } hr rfl p old (some name) _

/-- The routes whose footprint holds the file store: the image of a product and the two writes of
a theme. -/
theorem footprinted_files :
    footprinted.filter (fun p => decide (Part.files ∈ p.2)) =
      [(Route.of "POST" "/api/v1/products/\x7bid\x7d/image" uploadProductImage, [.products, .files]),
        (Route.of "POST" "/api/v1/themes" createTheme, [.themes, .files]),
        (Route.of "PUT" "/api/v1/themes/\x7btheme_id\x7d" updateTheme, [.themes, .files])] :=
  rfl

end Api

/-! ## §4 — Requests -/

/-- **What a request of an upload route leaves**: a success `code` that put no object, or put
exactly one in `folder`, when the file store did not refuse (`fails` is false), whose public
address the row it serves `holds`; or a failure that put no object and left the store `s` as it
was. -/
def UploadServed (s : Store) (now : Stamp) (fails : Bool) (folder : String) (code : Nat)
    (holds : Store → String → Prop) (out : Outcome) : Prop :=
  (out.response.status = code ∧ (out.uploads = [] ∨ ∃ u k, fails = false ∧
      out.uploads = [Media.objectName u folder k] ∧
      holds out.store (Media.objectUrl (Media.objectName u folder k)))) ∨
    (∃ e, out.response = Route.faultResponse now e) ∧ out.uploads = [] ∧ out.store = s

/-- A request of a route whose handler answers as an upload route does leaves what
`UploadServed` says: the session it starts from has put no object, and its commit point is the
store the request found. -/
theorem serve_uploadServed {s : Store} {n : Nat} {now : Stamp} {r : Request} {route : Route}
    {ps : List String} {folder : String} {code : Nat} {holds : Store → String → Prop}
    (hsel : Route.select Api.routes r = .ok (route, ps))
    (hans : ∀ σ : Session, σ.uploads = [] →
      Api.UploadAnswer σ.saved folder code r.storageFails holds ((route.handle r ps).exec σ)) :
    UploadServed s now r.storageFails folder code holds (serve Api.routes s n now r) := by
  rw [serve_eq, Route.dispatch_eq_handle hsel]
  have hrun := hans { store := s, saved := s, nextId := n, now := now } rfl
  generalize (route.handle r ps).exec { store := s, saved := s, nextId := n, now := now } = run
    at hrun ⊢
  rcases run with ⟨e | resp, σ⟩
  · exact .inr ⟨⟨e, rfl⟩, hrun⟩
  · exact .inl hrun

/-- A request of any other route puts no object: its footprint leaves out the file store. -/
theorem serve_uploads_nil_of_files {s : Store} {n : Nat} {now : Stamp} {r : Request}
    {route : Route} {ps : List String} {parts : List Part}
    (hsel : Route.select Api.routes r = .ok (route, ps)) (hp : (route, parts) ∈ Api.footprinted)
    (hfiles : Part.files ∉ parts) : (serve Api.routes s n now r).uploads = [] :=
  (serve_outside hsel (Api.footprinted_footprint _ hp)).2.1 hfiles

/-- The route a request selects does not read whether the file store refuses. -/
theorem Route.select_storageFails (routes : List Route) (r : Request) (b : Bool) :
    Route.select routes { r with storageFails := b } = Route.select routes r :=
  rfl

/-- A success that put an object was made with a file store that does not refuse. -/
theorem UploadServed.fails_false {s : Store} {now : Stamp} {fails : Bool} {folder : String}
    {code : Nat} {holds : Store → String → Prop} {out : Outcome}
    (h : UploadServed s now fails folder code holds out) (hput : out.uploads ≠ []) :
    fails = false := by
  rcases h with ⟨-, hnil | ⟨u, k, hf, -⟩⟩ | ⟨-, hnil, -⟩
  · exact absurd hnil hput
  · exact hf
  · exact absurd hnil hput

/-- **A refusing file store answers 502**: where a request of a route whose handler makes a
refused put in place of every put puts an object, the same request with the file store refusing
answers 502 "Failed to upload file", keeps the store it found and puts nothing. -/
theorem serve_put_refused {s : Store} {n : Nat} {now : Stamp} {r : Request} {route : Route}
    {ps : List String} (hsel : Route.select Api.routes r = .ok (route, ps))
    (href : ∀ σ : Session, PutsObject σ.uploads ((route.handle r ps).exec σ) →
      PutRefused σ.saved σ.uploads ((route.handle { r with storageFails := true } ps).exec σ))
    (hput : (serve Api.routes s n now r).uploads ≠ []) :
    (serve Api.routes s n now { r with storageFails := true }).response =
        Route.faultResponse now (.refuse 502 "Failed to upload file") ∧
      (serve Api.routes s n now { r with storageFails := true }).store = s ∧
      (serve Api.routes s n now { r with storageFails := true }).uploads = [] := by
  have hsel' := (Route.select_storageFails Api.routes r true).trans hsel
  rw [serve_eq, Route.dispatch_eq_handle hsel] at hput
  rw [serve_eq, Route.dispatch_eq_handle hsel']
  -- the working request's run put an object, whatever its answer
  have hputs : PutsObject [] ((route.handle r ps).exec
      { store := s, saved := s, nextId := n, now := now }) := by
    revert hput
    rcases (route.handle r ps).exec { store := s, saved := s, nextId := n, now := now } with
      ⟨_ | _, σ⟩ <;> exact id
  have hrefused := href _ hputs
  rw [hrefused.eq]
  exact ⟨rfl, hrefused.2.1, hrefused.2.2⟩

/-- The requests of the three upload routes leave what `UploadServed` says, and every other
request puts no object. -/
theorem upload_routes_served (s : Store) (n : Nat) (now : Stamp) (r : Request) :
    (∃ ps, Route.select Api.routes r =
        .ok (Route.of "POST" "/api/v1/products/\x7bid\x7d/image" Api.uploadProductImage, ps) ∧
      UploadServed s now r.storageFails "products" 200
        (fun st url => ∃ p, st.product? (Route.param ps) = some p ∧ p.imageUrl = some url)
        (serve Api.routes s n now r)) ∨
    (∃ ps, Route.select Api.routes r = .ok (Route.of "POST" "/api/v1/themes" Api.createTheme, ps) ∧
      UploadServed s now r.storageFails "themes" 201
        (fun st url => ∃ id t, st.theme? id = some t ∧ t.logoUrl = some url)
        (serve Api.routes s n now r)) ∨
    (∃ ps, Route.select Api.routes r =
        .ok (Route.of "PUT" "/api/v1/themes/\x7btheme_id\x7d" Api.updateTheme, ps) ∧
      UploadServed s now r.storageFails "themes" 200
        (fun st url => ∃ id t, st.theme? id = some t ∧ t.logoUrl = some url)
        (serve Api.routes s n now r)) ∨
    (serve Api.routes s n now r).uploads = [] := by
  rcases serve_within_footprint s n now r with ⟨-, hnil, -⟩ | ⟨route, ps, parts, hsel, hp, -⟩
  · exact .inr (.inr (.inr hnil))
  by_cases hfiles : Part.files ∈ parts
  · -- a footprint that holds the file store is one of the three upload routes
    have hmem : (route, parts) ∈ Api.footprinted.filter (fun p => decide (Part.files ∈ p.2)) :=
      List.mem_filter.2 ⟨hp, decide_eq_true hfiles⟩
    rw [Api.footprinted_files] at hmem
    simp only [List.mem_cons, Prod.mk.injEq, List.not_mem_nil, or_false] at hmem
    rcases hmem with ⟨rfl, -⟩ | ⟨rfl, -⟩ | ⟨rfl, -⟩
    · exact .inl ⟨ps, hsel, serve_uploadServed hsel (Api.uploadProductImage_answer r ps)⟩
    · exact .inr (.inl ⟨ps, hsel, serve_uploadServed hsel (Api.createTheme_answer r ps)⟩)
    · exact .inr (.inr (.inl ⟨ps, hsel, serve_uploadServed hsel (Api.updateTheme_answer r ps)⟩))
  · exact .inr (.inr (.inr (serve_uploads_nil_of_files hsel hp hfiles)))

/-- **Objects are put only by requests that succeed.** A request puts no object, or it is one of
the three upload routes and leaves what `UploadServed` says: a success that put exactly one object,
only when the file store did not refuse, with the row it serves — the product of the path, or a
theme — holding the object's public address; every failure of those routes puts nothing and keeps
the store as it was. And where a request puts an object, the same request with the file store
refusing the put answers 502 "Failed to upload file", keeps the store and puts nothing. -/
theorem uploads_only_on_success (s : Store) (n : Nat) (now : Stamp) (r : Request) :
    ((∃ ps, Route.select Api.routes r =
        .ok (Route.of "POST" "/api/v1/products/\x7bid\x7d/image" Api.uploadProductImage, ps) ∧
      UploadServed s now r.storageFails "products" 200
        (fun st url => ∃ p, st.product? (Route.param ps) = some p ∧ p.imageUrl = some url)
        (serve Api.routes s n now r)) ∨
    (∃ ps, Route.select Api.routes r = .ok (Route.of "POST" "/api/v1/themes" Api.createTheme, ps) ∧
      UploadServed s now r.storageFails "themes" 201
        (fun st url => ∃ id t, st.theme? id = some t ∧ t.logoUrl = some url)
        (serve Api.routes s n now r)) ∨
    (∃ ps, Route.select Api.routes r =
        .ok (Route.of "PUT" "/api/v1/themes/\x7btheme_id\x7d" Api.updateTheme, ps) ∧
      UploadServed s now r.storageFails "themes" 200
        (fun st url => ∃ id t, st.theme? id = some t ∧ t.logoUrl = some url)
        (serve Api.routes s n now r)) ∨
    (serve Api.routes s n now r).uploads = []) ∧
    ((serve Api.routes s n now r).uploads ≠ [] →
      (serve Api.routes s n now { r with storageFails := true }).response =
          Route.faultResponse now (.refuse 502 "Failed to upload file") ∧
        (serve Api.routes s n now { r with storageFails := true }).store = s ∧
        (serve Api.routes s n now { r with storageFails := true }).uploads = []) := by
  have hserved := upload_routes_served s n now r
  refine ⟨hserved, fun hput => ?_⟩
  -- each upload route's handler refuses with the file store refusing wherever it puts
  rcases hserved with ⟨ps, hsel, hup⟩ | ⟨ps, hsel, hup⟩ | ⟨ps, hsel, hup⟩ | hnil
  · exact serve_put_refused hsel
      (fun σ => Api.uploadProductImage_put_refused r ps σ (hup.fails_false hput)) hput
  · exact serve_put_refused hsel
      (fun σ => Api.createTheme_put_refused r ps σ (hup.fails_false hput)) hput
  · exact serve_put_refused hsel
      (fun σ => Api.updateTheme_put_refused r ps σ (hup.fails_false hput)) hput
  · exact absurd hnil hput

end Bistro
