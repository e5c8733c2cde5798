-- SUMMARY: When a private object is served only to unexpired authentication.
import MocaSP.Gater.Auth

/-!
# Unexpired authentication

`getObjectHandler` serves a private object to an account whose signature it
verified, in the headers of the request or in the query of a pre-signed URL. The
result is studied under arbitrary answers to its calls.

With a nonce, the expiry time is compared with the clock when the nonce is
claimed. Without one, header authentication compares whole seconds only, and a
pre-signed URL is not compared with the clock at all: the check that failed for
the headers is not repeated for the query.
-/

namespace Gater
open Fields Prog

open Metadata (Effect Instant)

/-! ## Answers -/

/-- What the clock and the services answer to a request. -/
structure Env where
  clock : Reading → Instant
  verifyHeader : Scheme → Text → Except SigErr Text
  verifyURL : Scheme → Text → Except SigErr (Option Text)
  upsert : Except Unit Nat
  permission : Except Unit Effect
  authentication : Text → Except Unit Bool
  download : Except Unit Unit

namespace Env

def answer (env : Env) {β : Type} : AuthCall β → β
  | .now reading => env.clock reading
  | .verifyHeader _ scheme rest => env.verifyHeader scheme rest
  | .verifyURL _ scheme rest => env.verifyURL scheme rest
  | .upsert _ _ => env.upsert
  | .deleteExpired _ => .ok ()
  | .verifyPermission _ => env.permission
  | .verifyAuthentication _ account => env.authentication account
  | .downloadObject _ _ => env.download

def eval (env : Env) {α : Type} (p : Code α) : α := Prog.eval env.answer p

attribute [simp] answer

variable {env : Env} {α β : Type}

@[simp] theorem eval_pure (a : α) : env.eval (pure a) = a := rfl

@[simp] theorem eval_do (e : AuthCall α) : env.eval (Prog.do_ e) = env.answer e := rfl

@[simp] theorem eval_bind (p : Code α) (f : α → Code β) :
    env.eval (p >>= f) = env.eval (f (env.eval p)) :=
  Prog.eval_bind _ p f

end Env

/-- The account of a download. -/
def AuthCall.download {β : Type} : AuthCall β → List Text
  | .downloadObject _ account => [account]
  | _ => []

/-- The accounts for which downloads are started. -/
def Env.downloads (env : Env) {α : Type} (p : Code α) : List Text :=
  observe env.answer AuthCall.download p

/-! ## The property -/

/-- From the time of the check to seven days later. -/
def InWindow (expiry now : Instant) : Prop :=
  now ≤ expiry ∧ expiry ≤ now + maxExpiryAgeInSec * second

instance {expiry now : Instant} : Decidable (InWindow expiry now) :=
  inferInstanceAs (Decidable (_ ∧ _))

section
variable (env : Env) (g : Gateway) (r : Request)

/-- The context that the headers give. -/
def headerContext : RequestContext := env.eval (newRequestContext g .getObject r)

variable (account : Text)

/-- A signature in the headers verifies for the account. -/
def HeaderVerified : Prop :=
  ∃ scheme rest, r.header.authorization = .signed scheme rest ∧
    env.verifyHeader scheme rest = .ok account

/-- A signature in the query verifies for the account. -/
def URLVerified : Prop :=
  ∃ scheme rest, r.query.authorization = .signed scheme rest ∧
    env.verifyURL scheme rest = .ok (some account)

variable (route : Route)

/-- When the expiry of the signature is checked: with the nonce, if there is
one. -/
def checkTime (nonce : Text) : Instant :=
  if nonce = [] then env.clock .sigExpiry else env.clock (.nonceExpiry route)

/-- The request is authenticated for the account by the signature on the route,
whose expiry time is given by the text and checked at the time. The query counts
when the headers fail. -/
inductive Authenticates : Text → Text → Instant → Prop where
  | header {account : Text} (passed : (headerContext env g r).err = none)
      (verified : HeaderVerified env r account) :
      Authenticates account (r.get expiryTimestamp)
        (checkTime env .header (r.get nonce))
  | url {account : Text} (failed : (headerContext env g r).err ≠ none)
      (verified : URLVerified env r account) :
      Authenticates account r.query.expiryTimestamp (checkTime env .url r.query.nonce)

/-- A private object is served only to an unexpired authentication. -/
def ServedUnexpired : Prop :=
  env.permission ≠ .ok .allow →
    ∀ account ∈ env.downloads (getObjectHandler g r), ∃ expiryStr now expiry,
      Authenticates env g r account expiryStr now ∧ g.parseTime expiryStr = some expiry ∧
        InWindow expiry now

/-! ## The condition -/

/-- The names are valid, the object is not public, and the account may read it. -/
structure MayRead (account : Text) : Prop where
  bucketName : g.checkValidBucketName r.bucketName = true
  objectName : g.checkValidObjectName r.objectName = true
  private_ : ∃ effect, env.permission = .ok effect ∧ effect ≠ .allow
  authenticated : env.authentication account = .ok true

/-- The expiry time, in whole seconds, is accepted. -/
def AgeAccepted : Prop :=
  ∃ expiry, g.parseTime (r.get expiryTimestamp) = some expiry ∧
    expiryAgeAccepted expiry (env.clock .sigExpiry)

/-- The nonce is well formed and its expiry time is not in the window when it is
claimed. -/
def ClaimLate (nonce expiryStr : Text) : Prop :=
  nonce ≠ [] ∧ wellFormedNonce nonce = true ∧
    ∀ expiry, g.parseTime expiryStr = some expiry →
      ¬ withinClaimWindow expiry (env.clock (.nonceExpiry route))

/-- The headers authenticate the account, and carry no nonce. -/
structure HeaderServes (account : Text) : Prop where
  mayRead : MayRead env g r account
  accepted : AgeAccepted env g r
  verified : HeaderVerified env r account
  noNonce : r.get nonce = []
  noneRequired : g.requireAuthNonce = false

/-- The headers do not authenticate the request, and the nonce gate has not
refused it. -/
def HeaderFails : Prop :=
  ¬ AgeAccepted env g r ∨ (∀ account, ¬ HeaderVerified env r account) ∨
    ClaimLate env g .header (r.get nonce) (r.get expiryTimestamp)

/-- The query holds a complete authentication. -/
def CompleteQuery : Prop :=
  r.query.userAddress ≠ [] ∧ r.query.appDomain ≠ [] ∧ r.query.expiryTimestamp ≠ [] ∧
    ∃ scheme rest, r.query.authorization = .signed scheme rest ∧
      preSignedScheme r.query scheme = some scheme

/-- A pre-signed URL authenticates the account, and carries no nonce. -/
structure URLServes (account : Text) : Prop where
  mayRead : MayRead env g r account
  headerFails : HeaderFails env g r
  complete : CompleteQuery r
  verified : URLVerified env r account
  noNonce : r.query.nonce = []

/-- A request without a nonce that authenticates is in the window. -/
structure InTime : Prop where
  header : ∀ account, HeaderServes env g r account →
    ∀ expiry, g.parseTime (r.get expiryTimestamp) = some expiry →
      InWindow expiry (env.clock .sigExpiry)
  url : ∀ account, URLServes env g r account →
    ∃ expiry, g.parseTime r.query.expiryTimestamp = some expiry ∧
      InWindow expiry (env.clock .sigExpiry)

/-! ## What the parts of the handler do -/

/-- The results of a claim. -/
inductive ClaimResult (route : Route) (nonce expiryStr : Text) : Except AuthErr Unit → Prop where
  | absent (empty : nonce = []) (free : g.requireAuthNonce = false) :
      ClaimResult route nonce expiryStr (.ok ())
  | claimed (present : nonce ≠ []) {expiry : Instant} (parsed : g.parseTime expiryStr = some expiry)
      (within : withinClaimWindow expiry (env.clock (.nonceExpiry route))) :
      ClaimResult route nonce expiryStr (.ok ())
  | late (late : ClaimLate env g route nonce expiryStr) {e : AuthErr}
      (kind : isAuthNonceRefusal e = false) : ClaimResult route nonce expiryStr (.error e)
  | refused (timely : ¬ ClaimLate env g route nonce expiryStr)
      (bound : ¬ (nonce = [] ∧ g.requireAuthNonce = false)) {e : AuthErr}
      (kind : isAuthNonceRefusal e = true) : ClaimResult route nonce expiryStr (.error e)

/-- The results of header authentication. -/
inductive HeaderResult : RequestContext → Prop where
  | passed {account : Text} (accepted : AgeAccepted env g r)
      (verified : HeaderVerified env r account)
      (claim : ClaimResult env g .header (r.get nonce) (r.get expiryTimestamp)
        (.ok ())) : HeaderResult ⟨account, none⟩
  | failed (fails : HeaderFails env g r) {account : Text} {e : AuthErr}
      (kind : isAuthNonceRefusal e = false) : HeaderResult ⟨account, some e⟩
  | refused (unfailing : ¬ HeaderFails env g r)
      (bound : ¬ (r.get nonce = [] ∧ g.requireAuthNonce = false))
      {account : Text} {e : AuthErr} (kind : isAuthNonceRefusal e = true) : HeaderResult ⟨account, some e⟩

theorem claimAuthNonce_result (account nonce expiryStr : Text) :
    ClaimResult env g route nonce expiryStr
      (env.eval (claimAuthNonce g route account nonce expiryStr)) := by
  rcases eq_or_ne nonce [] with rfl | hnonce
  · cases hrequired : g.requireAuthNonce with
    | false =>
      simp [claimAuthNonce, hrequired]
      exact .absent rfl hrequired
    | true =>
      simp [claimAuthNonce, hrequired]
      exact .refused (fun h => h.1 rfl) (by simp [hrequired]) rfl
  cases hformed : wellFormedNonce nonce with
  | false =>
    simp [claimAuthNonce, hnonce, hformed]
    exact .refused (by simp [ClaimLate, hformed]) (by simp [hnonce]) rfl
  | true =>
  cases hparse : g.parseTime expiryStr with
  | none =>
    simp [claimAuthNonce, hnonce, hformed, hparse]
    exact .late ⟨hnonce, hformed, by simp [hparse]⟩ rfl
  | some expiry =>
  by_cases hwithin : withinClaimWindow expiry (env.clock (.nonceExpiry route))
  · have htimely : ¬ ClaimLate env g route nonce expiryStr := fun h => h.2.2 expiry hparse hwithin
    cases hdb : g.hasDB with
    | false =>
      simp [claimAuthNonce, hnonce, hformed, hparse, hwithin, hdb]
      exact .refused htimely (by simp [hnonce]) rfl
    | true =>
      cases hupsert : env.upsert with
      | error =>
        simp [claimAuthNonce, claimInDB, hnonce, hformed, hparse, hwithin, hdb, hupsert]
        exact .refused htimely (by simp [hnonce]) rfl
      | ok rows =>
        by_cases hrows : rows > 0
        · simp [claimAuthNonce, claimInDB, hnonce, hformed, hparse, hwithin, hdb, hupsert, hrows]
          exact .claimed hnonce hparse hwithin
        · simp [claimAuthNonce, claimInDB, hnonce, hformed, hparse, hwithin, hdb, hupsert,
            Nat.eq_zero_of_not_pos hrows]
          exact .refused htimely (by simp [hnonce]) rfl
  · have hlate : ClaimLate env g route nonce expiryStr := by
      refine ⟨hnonce, hformed, ?_⟩
      intro _ h
      cases hparse.symm.trans h
      exact hwithin
    simp [claimAuthNonce, hnonce, hformed, hparse, hwithin]
    exact .late hlate rfl

theorem checkIfSigExpiry_eq : env.eval (checkIfSigExpiry g r) = .ok () ∧ AgeAccepted env g r ∨
    env.eval (checkIfSigExpiry g r) = .error .invalidExpiryDateHeader ∧ ¬ AgeAccepted env g r := by
  cases hparse : g.parseTime (r.get expiryTimestamp) with
  | none => simp [checkIfSigExpiry, AgeAccepted, hparse]
  | some expiry =>
    by_cases haccepted : expiryAgeAccepted expiry (env.clock .sigExpiry)
    all_goals simp [checkIfSigExpiry, AgeAccepted, hparse, haccepted]

theorem verifySignature_eq : (∃ account, env.eval (verifySignature r) = .ok account ∧
      HeaderVerified env r account) ∨
    ∃ e, env.eval (verifySignature r) = .error e ∧ isAuthNonceRefusal e = false ∧
      ∀ account, ¬ HeaderVerified env r account := by
  cases hauth : r.header.authorization with
  | other =>
    right
    exact ⟨.unsupportedSignType, by simp [verifySignature, hauth], rfl,
      by simp [HeaderVerified, hauth]⟩
  | signed scheme rest =>
    cases hverify : env.verifyHeader scheme rest with
    | error e =>
      right
      exact ⟨.signature e, by simp [verifySignature, hauth, hverify], rfl,
        by simp [HeaderVerified, hauth, hverify]⟩
    | ok account =>
      left
      exact ⟨account, by simp [verifySignature, hauth, hverify], scheme, rest, hauth, hverify⟩

theorem headerContext_result : HeaderResult env g r (headerContext env g r) := by
  obtain ⟨hcheck, haccepted⟩ | ⟨hcheck, haccepted⟩ := checkIfSigExpiry_eq env g r
  · obtain ⟨account, hverify, hverified⟩ | ⟨e, hverify, hkind, hverified⟩ :=
      verifySignature_eq env r
    · -- the headers verify; the rest is up to the nonce
      have hclaim := claimAuthNonce_result env g .header account
        (r.get nonce) (r.get expiryTimestamp)
      generalize hsingle : env.eval (claimAuthNonce g .header account (r.get nonce)
        (r.get expiryTimestamp)) = single at hclaim
      simp [headerContext, newRequestContext, Router.skipsAuth, hcheck, hverify, enforceSingleUse,
        hsingle]
      rcases single with e | ⟨⟩
      · rcases hclaim with _ | _ | ⟨late, kind⟩ | ⟨timely, bound, kind⟩
        · exact .failed (.inr (.inr late)) kind
        refine .refused ?_ bound kind
        rintro (h | h | h)
        · exact h haccepted
        · exact h account hverified
        · exact timely h
      · exact .passed haccepted hverified hclaim
    · simp [headerContext, newRequestContext, Router.skipsAuth, hcheck, hverify]
      exact .failed (.inr (.inl hverified)) hkind
  · simp [headerContext, newRequestContext, Router.skipsAuth, hcheck]
    exact .failed (.inl haccepted) rfl

theorem verifyPreSignedURL_eq (headerErr : AuthErr) (account : Text) :
    env.eval (verifyPreSignedURL r headerErr) = .ok account ↔
      CompleteQuery r ∧ URLVerified env r account := by
  by_cases hfields : r.query.userAddress = [] ∨ r.query.appDomain = [] ∨
      r.query.expiryTimestamp = []
  · have hincomplete : ¬ CompleteQuery r := by
      rintro ⟨h₁, h₂, h₃, -⟩
      simp [h₁, h₂, h₃] at hfields
    simp only [hincomplete, false_and, iff_false, verifyPreSignedURL]
    split <;> simp [hfields]
  · have hcomplete : CompleteQuery r ↔ ∃ scheme rest,
        r.query.authorization = .signed scheme rest ∧
          preSignedScheme r.query scheme = some scheme := by
      simp only [not_or] at hfields
      simp [CompleteQuery, hfields]
    rw [hcomplete]
    cases hauth : r.query.authorization with
    | other => simp [verifyPreSignedURL, hauth]
    | signed scheme rest =>
      have heval : env.eval (verifyPreSignedURL r headerErr) = .ok account ↔
          preSignedScheme r.query scheme = some scheme ∧
            env.verifyURL scheme rest = .ok (some account) := by
        cases hverify : env.verifyURL scheme rest with
        | error =>
          cases scheme <;> by_cases hkey : r.query.appRegPublicKey = [] <;>
            simp [verifyPreSignedURL, hauth, hfields, preSignedScheme, hverify, hkey]
        | ok address =>
          cases address <;> cases scheme <;> by_cases hkey : r.query.appRegPublicKey = [] <;>
            simp [verifyPreSignedURL, hauth, hfields, preSignedScheme, hverify, hkey]
      rw [heval]
      simp [URLVerified, hauth]

/-! ## Downloads -/

theorem silent_compositional : Compositional fun _ p => env.downloads p = [] where
  ret _ := rfl
  bind hp hf := by
    simp only [Env.downloads, observe_bind] at hp hf ⊢
    rw [hp, hf, List.append_nil]
  ask e he := by
    simp only [Env.downloads, observe_do]
    cases e <;> first | rfl | cases he
  claim route c := by
    simp only [Env.downloads, claimInDB, observe_bind, observe_do]
    split <;> rfl

theorem downloads_bind {α β : Type} {p : Code α} {f : α → Code β} (hp : env.downloads p = []) :
    env.downloads (p >>= f) = env.downloads (f (env.eval p)) := by
  simp only [Env.downloads, Env.eval, Prog.observe_bind] at hp ⊢
  rw [hp, List.nil_append]

theorem downloads_download : env.downloads (serveObject.download r account) = [account] := by
  simp only [Env.downloads, serveObject.download, observe_bind, observe_do, eval_do,
    AuthCall.download]
  split <;> rfl

theorem mem_downloads_serveObject (hprivate : env.permission ≠ .ok .allow) (account : Text)
    (reqCtxErr : Option AuthErr) (account' : Text) :
    account' ∈ env.downloads (serveObject r account reqCtxErr) ↔
      reqCtxErr = none ∧ account' = account ∧
        (∃ effect, env.permission = .ok effect ∧ effect ≠ .allow) ∧
        env.authentication account = .ok true := by
  have hask : ∀ {β : Type} (e : AuthCall β), e.isQuestion = true →
      env.downloads (do_ e) = [] := (silent_compositional env).ask
  unfold serveObject
  rw [downloads_bind env (hask _ rfl), Env.eval_do, Env.answer]
  cases hpermission : env.permission with
  | error => simp [Env.downloads]
  | ok effect =>
    have heffect : effect ≠ .allow := fun h => hprivate (by rw [hpermission, h])
    cases reqCtxErr with
    | some => cases effect <;> simp_all [Env.downloads]
    | none =>
      cases effect with
      | allow => exact absurd rfl heffect
      | unspecified | deny =>
        rw [downloads_bind env (hask _ rfl), Env.eval_do, Env.answer]
        cases hauth : env.authentication account with
        | error => simp [Env.downloads]
        | ok authenticated =>
          cases authenticated with
          | false => simp [Env.downloads]
          | true => simp [downloads_download]

/-- A download is started after the checks of names, for the account of the
headers or of the query. -/
theorem downloads_getObjectHandler : env.downloads (getObjectHandler g r) =
      if (headerContext env g r).refusal = none ∧ g.checkValidBucketName r.bucketName = true ∧
        g.checkValidObjectName r.objectName = true then
        env.downloads (authenticateObject g r (headerContext env g r))
      else [] := by
  have hsilent := (silent_compositional env).newRequestContext g .getObject r
  unfold getObjectHandler headerContext
  rw [downloads_bind env hsilent]
  cases (env.eval (newRequestContext g .getObject r)).refusal with
  | some => rfl
  | none =>
    cases g.checkValidBucketName r.bucketName <;> cases g.checkValidObjectName r.objectName <;> rfl

/-! ## The handler -/

variable {env g r}

variable {account : Text}

theorem HeaderServes.headerContext (h : HeaderServes env g r account) :
    headerContext env g r = ⟨account, none⟩ := by
  have hresult := headerContext_result env g r
  generalize Gater.headerContext env g r = reqCtx at hresult
  cases hresult with
  | passed _ verified =>
    obtain ⟨_, _, hauth, hverify⟩ := verified
    obtain ⟨_, _, hauth', hverify'⟩ := h.verified
    cases hauth.symm.trans hauth'
    rw [Except.ok.inj (hverify.symm.trans hverify')]
  | failed fails =>
    obtain hage | hnot | hlate := fails
    · exact absurd h.accepted hage
    · exact absurd h.verified (hnot account)
    · exact absurd h.noNonce hlate.1
  | refused _ bound => exact absurd ⟨h.noNonce, h.noneRequired⟩ bound

theorem HeaderFails.headerContext (h : HeaderFails env g r) : ∃ account e,
    headerContext env g r = ⟨account, some e⟩ ∧ isAuthNonceRefusal e = false := by
  have hresult := headerContext_result env g r
  generalize Gater.headerContext env g r = reqCtx at hresult
  cases hresult with
  | passed accepted verified claim =>
    obtain hage | hnot | hlate := h
    · exact absurd accepted hage
    · exact absurd verified (hnot _)
    · cases claim with
      | absent empty => exact absurd empty hlate.1
      | claimed _ parsed within => exact absurd within (hlate.2.2 _ parsed)
  | failed _ kind => exact ⟨_, _, rfl, kind⟩
  | refused unfailing => exact absurd h unfailing

theorem MayRead.notPublic (h : MayRead env g r account) : env.permission ≠ .ok .allow := by
  obtain ⟨_, heq, hne⟩ := h.private_
  intro hallow
  exact hne (Except.ok.inj (heq.symm.trans hallow))

/-- An account that may read the object gets it once it is authenticated. -/
theorem MayRead.mem_downloads (h : MayRead env g r account)
    (hrefusal : (headerContext env g r).refusal = none)
    (hserved : env.downloads (authenticateObject g r (headerContext env g r)) =
      env.downloads (serveObject r account none)) :
    account ∈ env.downloads (getObjectHandler g r) := by
  rw [downloads_getObjectHandler, if_pos ⟨hrefusal, h.bucketName, h.objectName⟩, hserved,
    mem_downloads_serveObject env r h.notPublic]
  exact ⟨rfl, rfl, h.private_, h.authenticated⟩

theorem HeaderServes.mem_downloads (h : HeaderServes env g r account) :
    account ∈ env.downloads (getObjectHandler g r) := by
  apply h.mayRead.mem_downloads
  · rw [h.headerContext]
    rfl
  · rw [h.headerContext]
    rfl

theorem URLServes.mem_downloads (h : URLServes env g r account) :
    account ∈ env.downloads (getObjectHandler g r) := by
  obtain ⟨_, e, hcontext, hkind⟩ := h.headerFails.headerContext
  have hurl := (verifyPreSignedURL_eq env r e account).mpr ⟨h.complete, h.verified⟩
  have hsilent := (silent_compositional env).verifyPreSignedURL r e
  apply h.mayRead.mem_downloads
  · simp [hcontext, RequestContext.refusal, hkind]
  · simp only [hcontext, authenticateObject]
    rw [downloads_bind env hsilent, hurl]
    simp [h.noNonce]

theorem InWindow.of_claim {expiry now : Instant} (h : withinClaimWindow expiry now) :
    InWindow expiry now := by
  obtain ⟨hpast, hfar⟩ := not_or.mp h
  exact ⟨Int.le_of_lt (Int.lt_of_sub_pos (Int.not_le.mp hpast)),
    Int.le_add_of_sub_left_le (Int.not_lt.mp hfar)⟩

/-- The query authenticates who is served when the headers fail: by itself if it
has no nonce, and with a claim in the window otherwise. -/
theorem mem_downloads_url (hprivate : env.permission ≠ .ok .allow) {account' : Text} {e : AuthErr}
    (hmem : account ∈ env.downloads (authenticateObject g r ⟨account', some e⟩)) :
    CompleteQuery r ∧ URLVerified env r account ∧
      (∃ effect, env.permission = .ok effect ∧ effect ≠ .allow) ∧
      env.authentication account = .ok true ∧
      (r.query.nonce = [] ∨
        r.query.nonce ≠ [] ∧ ClaimResult env g .url r.query.nonce r.query.expiryTimestamp (.ok ())) := by
  simp only [authenticateObject] at hmem
  rw [downloads_bind env ((silent_compositional env).verifyPreSignedURL r e)] at hmem
  cases hurl : env.eval (verifyPreSignedURL r e) with
  | error =>
    rw [hurl] at hmem
    cases ((mem_downloads_serveObject env r hprivate _ _ account).mp hmem).1
  | ok address =>
    obtain ⟨hcomplete, hverified⟩ := (verifyPreSignedURL_eq env r e address).mp hurl
    rw [hurl] at hmem
    by_cases hnonce : r.query.nonce = []
    · simp only [hnonce, if_true] at hmem
      obtain ⟨-, rfl, hpermission, hauthenticated⟩ :=
        (mem_downloads_serveObject env r hprivate _ none account).mp hmem
      exact ⟨hcomplete, hverified, hpermission, hauthenticated, .inl hnonce⟩
    · simp only [hnonce, if_false] at hmem
      rw [downloads_bind env ((silent_compositional env).claimAuthNonce _ _ _ _ _)] at hmem
      have hclaim := claimAuthNonce_result env g .url address r.query.nonce r.query.expiryTimestamp
      cases hresult : env.eval (claimAuthNonce g .url address r.query.nonce
          r.query.expiryTimestamp) with
      | error =>
        rw [hresult] at hmem
        cases hmem
      | ok =>
        rw [hresult] at hmem hclaim
        obtain ⟨-, rfl, hpermission, hauthenticated⟩ :=
          (mem_downloads_serveObject env r hprivate _ none account).mp hmem
        exact ⟨hcomplete, hverified, hpermission, hauthenticated, .inr ⟨hnonce, hclaim⟩⟩

/-- Who is served is authenticated, and in the window if every request without a
nonce is. -/
theorem InTime.authenticates (h : InTime env g r) (hprivate : env.permission ≠ .ok .allow)
    (hmem : account ∈ env.downloads (getObjectHandler g r)) :
    ∃ expiryStr now expiry, Authenticates env g r account expiryStr now ∧
      g.parseTime expiryStr = some expiry ∧ InWindow expiry now := by
  rw [downloads_getObjectHandler] at hmem
  split at hmem
  next hchecks =>
    obtain ⟨hrefusal, hbucket, hobject⟩ := hchecks
    have hresult := headerContext_result env g r
    generalize hcontext : headerContext env g r = reqCtx at hresult hmem hrefusal
    cases hresult with
    | passed accepted verified claim =>
      obtain ⟨-, rfl, hpermission, hauthenticated⟩ :=
        (mem_downloads_serveObject env r hprivate _ none account).mp hmem
      have hauth := Authenticates.header (by rw [hcontext]) verified
      cases claim with
      | absent empty free =>
        obtain ⟨expiry, hparse, hage⟩ := accepted
        have hserves : HeaderServes env g r account :=
          ⟨⟨hbucket, hobject, hpermission, hauthenticated⟩, ⟨expiry, hparse, hage⟩, verified, empty,
            free⟩
        refine ⟨_, _, expiry, hauth, hparse, ?_⟩
        rw [checkTime, if_pos empty]
        exact h.header account hserves expiry hparse
      | claimed present parsed within =>
        refine ⟨_, _, _, hauth, parsed, ?_⟩
        rw [checkTime, if_neg present]
        exact .of_claim within
    | failed fails =>
      obtain ⟨hcomplete, hverified, hpermission, hauthenticated, hnonce⟩ :=
        mem_downloads_url hprivate hmem
      have hauth : Authenticates env g r account _ _ := .url (by simp [hcontext]) hverified
      obtain hnonce | ⟨hnonce, hclaim⟩ := hnonce
      · obtain ⟨expiry, hparse, hwindow⟩ := h.url account
          ⟨⟨hbucket, hobject, hpermission, hauthenticated⟩, fails, hcomplete, hverified, hnonce⟩
        refine ⟨_, _, expiry, hauth, hparse, ?_⟩
        rw [checkTime, if_pos hnonce]
        exact hwindow
      · cases hclaim with
        | absent empty => exact absurd empty hnonce
        | claimed _ parsed within =>
          refine ⟨_, _, _, hauth, parsed, ?_⟩
          rw [checkTime, if_neg hnonce]
          exact .of_claim within
    | refused _ _ kind => simp [RequestContext.refusal, kind] at hrefusal
  · cases hmem

end

/-- **Unexpired authentication.** A private object is served only to an
authentication that has not expired and does not last for more than seven days,
if and only if the requests that carry no nonce and are served keep to that. -/
theorem served_unexpired_iff (env : Env) (g : Gateway) (r : Request) :
    ServedUnexpired env g r ↔ InTime env g r := by
  constructor
  · intro h
    constructor
    · intro account hserves _ hparse
      obtain ⟨_, _, _, hauth, hparse', hwindow⟩ :=
        h hserves.mayRead.notPublic account hserves.mem_downloads
      cases hauth with
      | header =>
        rw [checkTime, if_pos hserves.noNonce] at hwindow
        cases hparse.symm.trans hparse'
        exact hwindow
      | url failed => exact absurd (by rw [hserves.headerContext]) failed
    · intro account hserves
      obtain ⟨_, _, expiry, hauth, hparse, hwindow⟩ :=
        h hserves.mayRead.notPublic account hserves.mem_downloads
      cases hauth with
      | header passed =>
        obtain ⟨_, _, hcontext, -⟩ := hserves.headerFails.headerContext
        rw [hcontext] at passed
        cases passed
      | url =>
        rw [checkTime, if_pos hserves.noNonce] at hwindow
        exact ⟨expiry, hparse, hwindow⟩
  · intro h hprivate _ hmem
    exact h.authenticates hprivate hmem

-- A pre-signed URL without a nonce that expired at 10 s is used at 100 s.
def expiredGateway : Gateway where
  parseTime := fun _ => some (10 * second)

def expiredURL : Request where
  header := {}
  query :=
    { authorization := .signed .gnfd1Eddsa ['s'], expiryTimestamp := ['t'], userAddress := ['7'],
      appDomain := ['d'] }
  bucketName := ['b']
  objectName := ['o']

def expiredEnv : Env where
  clock := fun _ => 100 * second
  verifyHeader := fun _ _ => .error .rejected
  verifyURL := fun _ _ => .ok (some ['7'])
  upsert := .error ()
  permission := .ok .deny
  authentication := fun _ => .ok true
  download := .ok ()

/-- It is served. -/
theorem expired_url_served :
    expiredEnv.downloads (getObjectHandler expiredGateway expiredURL) = [['7']] ∧
      ¬ ServedUnexpired expiredEnv expiredGateway expiredURL := by
  have hserved : expiredEnv.downloads (getObjectHandler expiredGateway expiredURL) = [['7']] := by
    decide
  refine ⟨hserved, ?_⟩
  intro h
  obtain ⟨_, _, _, hauth, ⟨⟩, hwindow⟩ := h (by decide) ['7'] (by rw [hserved]; decide)
  cases hauth with
  | header passed => exact absurd passed (by decide)
  | url => exact absurd hwindow (by decide)

end Gater
