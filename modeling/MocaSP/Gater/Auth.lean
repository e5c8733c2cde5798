-- SUMMARY: Authentication of requests at the gateway, and the handler that serves objects.
import MocaSP.Base.Prog
import MocaSP.Metadata.Permission

/-!
# Authentication at the gateway

A request is authenticated by a signature in its headers, or, when objects are
served, by one in the query of a pre-signed URL. A signature covers an expiry
time, and may cover a nonce, which the gateway claims in a database shared by all
gateways, so that the request is honoured once.

The code is written over the calls it makes: readings of the clock, statements to
the database, and questions to other services. Signature schemes, the format of
times and the rules for names are parameters.
-/

namespace Gater
open Prog

open Metadata (Effect Instant)

/-- A second, in nanoseconds. -/
def second : Int := 1000000000

/-- `Time.Unix`: whole seconds, rounded down. -/
def unix (t : Instant) : Int := t / second

/-- Seven days. -/
def maxExpiryAgeInSec : Int := 604800

/-! ## Requests -/

inductive Scheme where
  | gnfd1Ecdsa | gnfd1Eddsa | gnfd2Eddsa

/-- An authorization text: a scheme and what follows it, or anything else. -/
inductive Authorization where
  | signed (scheme : Scheme) (rest : Text)
  | other

/-- The values a request carries in its headers or in its query. An absent value
is the empty text. -/
structure Fields where
  authorization : Authorization := .other
  expiryTimestamp : Text := []
  nonce : Text := []
  userAddress : Text := []
  appDomain : Text := []
  appRegPublicKey : Text := []

structure Request where
  header : Fields
  query : Fields
  bucketName : Text
  objectName : Text
  /-- The account in the path, on the routes that have one. -/
  accountID : Text := []

/-- A gateway's configuration, and the packages it is built with. -/
structure Gateway where
  requireAuthNonce : Bool := false
  /-- It has a database. -/
  hasDB : Bool := true
  /-- `time.Parse` for the format of expiry times. -/
  parseTime : Text → Option Instant
  checkValidBucketName : Text → Bool := fun _ => true
  checkValidObjectName : Text → Bool := fun _ => true
  /-- `unicode.ToLower`. -/
  toLower : Char → Char := Char.toLower

variable (g : Gateway) (r : Request)

/-- A value of the headers, or else of the query. -/
def Request.get (value : Fields → Text) : Text :=
  if value r.header = [] then value r.query else value r.header

inductive Router where
  | requestNonce | updateUserPublicKey | healthCheck | downloadObjectByUniversalEndpoint
  | viewObjectByUniversalEndpoint | getObjectMeta | getBucketMeta | listBucketsByIDs
  | listObjectsByIDs | getBsDBDataInfo
  | getObject | other

/-- `skipAuthRouterNames` -/
def Router.skipsAuth : Router → Bool
  | .getObject | .other => false
  | _ => true

/-- Why a signature was not accepted. -/
inductive SigErr where
  | authorizationHeaderFormat | requestConsistent | rejected

inductive AuthErr where
  | invalidExpiryDateHeader | unsupportedSignType
  | signature (e : SigErr)
  | missingAuthNonce | invalidAuthNonce | authNonceStore | reusedAuthRequest
  | invalidQuery | permissionService | authenticationService | noPermission | download

/-- The nonce gate refused a request whose signature verified. -/
def isAuthNonceRefusal : AuthErr → Bool
  | .reusedAuthRequest | .missingAuthNonce | .invalidAuthNonce | .authNonceStore => true
  | _ => false

/-! ## Calls -/

/-- Where the signature stands that a request is authenticated by. -/
inductive Route where
  | header | url

/-- What the clock is read for. -/
inductive Reading where
  | sigExpiry
  | nonceExpiry (route : Route)
  | claim (route : Route)
  | cleanup

/-- `unicode.IsSpace`. -/
def isSpace (c : Char) : Bool :=
  (9 ≤ c.toNat && c.toNat ≤ 13) || (0x2000 ≤ c.toNat && c.toNat ≤ 0x200A) ||
    c.toNat ∈ [0x20, 0x85, 0xA0, 0x1680, 0x2028, 0x2029, 0x202F, 0x205F, 0x3000]

def trimSpace (t : Text) : Text := ((t.dropWhile isSpace).reverse.dropWhile isSpace).reverse

def normalize (t : Text) : Text := (trimSpace t).map g.toLower

/-- A claim of a nonce, under the key of its row. -/
structure Claim where
  key : Text
  expiresAt : Instant
  deriving DecidableEq

def nonceKey (account nonce : Text) : Text := normalize g account ++ '|' :: normalize g nonce

inductive AuthCall : Type → Type where
  | now (reading : Reading) : AuthCall Instant
  | verifyHeader (r : Request) (scheme : Scheme) (rest : Text) : AuthCall (Except SigErr Text)
  /-- The address may be missing although the signature verified. -/
  | verifyURL (r : Request) (scheme : Scheme) (rest : Text) : AuthCall (Except SigErr (Option Text))
  /-- Insert the claim, or replace it if it expired before `now`; answers the
  number of affected rows. -/
  | upsert (c : Claim) (now : Int) : AuthCall (Except Unit Nat)
  | deleteExpired (expiredBefore : Int) : AuthCall (Except Unit Unit)
  /-- May the anonymous account read the object? -/
  | verifyPermission (r : Request) : AuthCall (Except Unit Effect)
  | verifyAuthentication (r : Request) (account : Text) : AuthCall (Except Unit Bool)
  | downloadObject (r : Request) (account : Text) : AuthCall (Except Unit Unit)

abbrev Code := Prog AuthCall

/-! ## The code -/

/-- The age is a number of whole seconds, rounded towards zero. -/
def expiryAgeAccepted (expiryDate now : Instant) : Prop :=
  ¬ (maxExpiryAgeInSec < (expiryDate - now).tdiv second ∨ (expiryDate - now).tdiv second < 0)

instance {expiryDate now : Instant} : Decidable (expiryAgeAccepted expiryDate now) :=
  inferInstanceAs (Decidable (¬ _))

def checkIfSigExpiry : Code (Except AuthErr Unit) :=
  match g.parseTime (r.get Fields.expiryTimestamp) with
  | none => return .error .invalidExpiryDateHeader
  | some expiryDate => do
    let now ← do_ (.now .sigExpiry)
    if expiryAgeAccepted expiryDate now then return .ok () else return .error .invalidExpiryDateHeader

def verifySignature : Code (Except AuthErr Text) :=
  match r.header.authorization with
  | .other => return .error .unsupportedSignType
  | .signed scheme rest => do
    match ← do_ (.verifyHeader r scheme rest) with
    | .error e => return .error (.signature e)
    | .ok account => return .ok account

def isHexDigit (c : Char) : Bool := c.isDigit || ('a' ≤ c && c ≤ 'f') || ('A' ≤ c && c ≤ 'F')

/-- Sixteen bytes in hexadecimal. -/
def wellFormedNonce (nonce : Text) : Bool := nonce.length = 32 && nonce.all isHexDigit

/-- The expiry time that a claim needs lies within the next seven days. -/
def withinClaimWindow (expiry now : Instant) : Prop :=
  ¬ (expiry - now ≤ 0 ∨ expiry - now > maxExpiryAgeInSec * second)

instance {expiry now : Instant} : Decidable (withinClaimWindow expiry now) :=
  inferInstanceAs (Decidable (¬ _))

/-- `ClaimAuthNonce`: whether the nonce was claimed. -/
def claimInDB (route : Route) (c : Claim) : Code (Except Unit Bool) := do
  let now ← do_ (.now (.claim route))
  match ← do_ (.upsert c (unix now)) with
  | .error _ => return .error ()
  | .ok rowsAffected => return .ok (rowsAffected > 0)

def claimAuthNonce (route : Route) (account nonce expiryStr : Text) : Code (Except AuthErr Unit) :=
  if nonce = [] then
    return if g.requireAuthNonce then .error .missingAuthNonce else .ok ()
  else if wellFormedNonce nonce = false then return .error .invalidAuthNonce
  else
    match g.parseTime expiryStr with
    | none => return .error .invalidExpiryDateHeader
    | some expiry => do
      let now ← do_ (.now (.nonceExpiry route))
      if ¬ withinClaimWindow expiry now then return .error .invalidExpiryDateHeader
      else if g.hasDB = false then return .error .authNonceStore
      else
        match ← claimInDB route ⟨nonceKey g account nonce, expiry⟩ with
        | .error _ => return .error .authNonceStore
        | .ok false => return .error .reusedAuthRequest
        | .ok true => return .ok ()

def enforceSingleUse (account : Text) : Code (Except AuthErr Unit) :=
  claimAuthNonce g .header account (r.get Fields.nonce) (r.get Fields.expiryTimestamp)

structure RequestContext where
  account : Text
  err : Option AuthErr

/-- The error, if it is a refusal by the nonce gate. -/
def RequestContext.refusal (reqCtx : RequestContext) : Option AuthErr :=
  reqCtx.err.filter isAuthNonceRefusal

def newRequestContext (router : Router) (r : Request) : Code RequestContext :=
  if router.skipsAuth then return ⟨r.accountID, none⟩
  else do
    match ← checkIfSigExpiry g r with
    | .error e => return ⟨r.accountID, some e⟩
    | .ok _ =>
      match ← verifySignature r with
      | .error e => return ⟨r.accountID, some e⟩
      | .ok account =>
        match ← enforceSingleUse g r account with
        | .error e => return ⟨[], some e⟩
        | .ok _ => return ⟨account, none⟩

/-- The scheme of a pre-signed URL whose query is complete. -/
def preSignedScheme (q : Fields) : Scheme → Option Scheme
  | .gnfd1Eddsa => some .gnfd1Eddsa
  | .gnfd2Eddsa => if q.appRegPublicKey = [] then none else some .gnfd2Eddsa
  | .gnfd1Ecdsa => none

/-- The account of a pre-signed URL. -/
def verifyPreSignedURL (headerErr : AuthErr) : Code (Except AuthErr Text) :=
  match r.query.authorization with
  | .other | .signed .gnfd1Ecdsa _ => return .error .unsupportedSignType
  | .signed scheme rest =>
    if r.query.userAddress = [] ∨ r.query.appDomain = [] ∨ r.query.expiryTimestamp = [] then
      return .error headerErr
    else
      match preSignedScheme r.query scheme with
      | none => return .error headerErr
      | some scheme => do
        match ← do_ (.verifyURL r scheme rest) with
        | .error e => return .error (.signature e)
        | .ok none => return .error headerErr
        | .ok (some account) => return .ok account

/-- The last part of `getObjectHandler`: the public read, or the permission of
the account. -/
def serveObject (account : Text) (reqCtxErr : Option AuthErr) : Code (Except AuthErr Unit) := do
  match ← do_ (.verifyPermission r) with
  | .error _ => return .error .permissionService
  | .ok .allow => download
  | .ok _ =>
    match reqCtxErr with
    | some e => return .error e
    | none =>
      match ← do_ (.verifyAuthentication r account) with
      | .error _ => return .error .authenticationService
      | .ok false => return .error .noPermission
      | .ok true => download
where
  download : Code (Except AuthErr Unit) := do
    match ← do_ (.downloadObject r account) with
    | .error _ => return .error .download
    | .ok _ => return .ok ()

/-- The part of `getObjectHandler` after the checks of names. -/
def authenticateObject (reqCtx : RequestContext) : Code (Except AuthErr Unit) :=
  match reqCtx.err with
  | none => serveObject r reqCtx.account none
  | some headerErr => do
    match ← verifyPreSignedURL r headerErr with
    | .error e => serveObject r reqCtx.account (some e)
    | .ok account =>
      if r.query.nonce = [] then serveObject r account none
      else
        match ← claimAuthNonce g .url account r.query.nonce r.query.expiryTimestamp with
        | .error e => return .error e
        | .ok _ => serveObject r account none

def getObjectHandler : Code (Except AuthErr Unit) := do
  let reqCtx ← newRequestContext g .getObject r
  match reqCtx.refusal with
  | some e => return .error e
  | none =>
  if g.checkValidBucketName r.bucketName = false then return .error .invalidQuery
  else if g.checkValidObjectName r.objectName = false then return .error .invalidQuery
  else authenticateObject g r reqCtx

/-- One turn of `cleanupAuthNonces`. -/
def cleanupAuthNonces : Code Unit := do
  let expiredBefore ← do_ (.now .cleanup)
  let _ ← do_ (.deleteExpired (unix expiredBefore))

/-! ## The shape of the code -/

/-- The call changes nothing. -/
def AuthCall.isQuestion {β : Type} : AuthCall β → Bool
  | .upsert _ _ | .deleteExpired _ | .downloadObject _ _ => false
  | _ => true

/-- A property that questions and claims have and that sequencing keeps. -/
structure Compositional (P : (α : Type) → Code α → Prop) : Prop where
  ret : ∀ {α : Type} (a : α), P α (pure a)
  bind : ∀ {α β : Type} {p : Code α} {f : α → Code β}, P α p → (∀ a, P β (f a)) → P β (p >>= f)
  ask : ∀ {α : Type} (e : AuthCall α), e.isQuestion = true → P α (do_ e)
  claim : ∀ route c, P _ (claimInDB route c)

namespace Compositional
variable {P : (α : Type) → Code α → Prop} (hP : Compositional P)

include hP

theorem checkIfSigExpiry (g : Gateway) (r : Request) : P _ (checkIfSigExpiry g r) := by
  unfold Gater.checkIfSigExpiry
  split
  · exact hP.ret _
  · refine hP.bind (hP.ask _ rfl) fun now => ?_
    split <;> exact hP.ret _

theorem verifySignature (r : Request) : P _ (verifySignature r) := by
  unfold Gater.verifySignature
  split
  · exact hP.ret _
  · refine hP.bind (hP.ask _ rfl) fun result => ?_
    split <;> exact hP.ret _

theorem claimAuthNonce (g : Gateway) (route : Route) (account nonce expiryStr : Text) :
    P _ (claimAuthNonce g route account nonce expiryStr) := by
  unfold Gater.claimAuthNonce
  split
  · exact hP.ret _
  split
  · exact hP.ret _
  split
  · exact hP.ret _
  refine hP.bind (hP.ask _ rfl) fun now => ?_
  split
  · exact hP.ret _
  split
  · exact hP.ret _
  · refine hP.bind (hP.claim _ _) fun claimed => ?_
    split <;> exact hP.ret _

theorem newRequestContext (g : Gateway) (router : Router) (r : Request) :
    P _ (newRequestContext g router r) := by
  unfold Gater.newRequestContext
  split
  · exact hP.ret _
  refine hP.bind (hP.checkIfSigExpiry g r) fun expiry => ?_
  split
  · exact hP.ret _
  refine hP.bind (hP.verifySignature r) fun account => ?_
  split
  · exact hP.ret _
  · refine hP.bind (hP.claimAuthNonce _ _ _ _ _) fun claimed => ?_
    split <;> exact hP.ret _

theorem verifyPreSignedURL (r : Request) (headerErr : AuthErr) :
    P _ (verifyPreSignedURL r headerErr) := by
  unfold Gater.verifyPreSignedURL
  split
  · exact hP.ret _
  · exact hP.ret _
  split
  · exact hP.ret _
  split
  · exact hP.ret _
  · refine hP.bind (hP.ask _ rfl) fun result => ?_
    split <;> exact hP.ret _

section
variable (hdownload : ∀ r account, P _ (do_ (.downloadObject r account)))

include hdownload

theorem serveObject (r : Request) (account : Text) (reqCtxErr : Option AuthErr) :
    P _ (serveObject r account reqCtxErr) := by
  have hserve : P _ (serveObject.download r account) := by
    refine hP.bind (hdownload _ _) fun result => ?_
    split <;> exact hP.ret _
  refine hP.bind (hP.ask _ rfl) fun permission => ?_
  split
  · exact hP.ret _
  · exact hserve
  split
  · exact hP.ret _
  refine hP.bind (hP.ask _ rfl) fun authenticated => ?_
  split
  · exact hP.ret _
  · exact hP.ret _
  · exact hserve

theorem getObjectHandler (g : Gateway) (r : Request) : P _ (getObjectHandler g r) := by
  refine hP.bind (hP.newRequestContext g .getObject r) fun reqCtx => ?_
  split
  · exact hP.ret _
  split
  · exact hP.ret _
  split
  · exact hP.ret _
  unfold authenticateObject
  split
  · exact hP.serveObject hdownload _ _ _
  refine hP.bind (hP.verifyPreSignedURL _ _) fun account => ?_
  split
  · exact hP.serveObject hdownload _ _ _
  split
  · exact hP.serveObject hdownload _ _ _
  refine hP.bind (hP.claimAuthNonce _ _ _ _ _) fun claimed => ?_
  split
  · exact hP.ret _
  · exact hP.serveObject hdownload _ _ _

end

end Compositional

end Gater
