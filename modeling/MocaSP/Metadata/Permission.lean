-- SUMMARY: Policy evaluation of the metadata service.
import MocaSP.Base.Except

/-!
# Policy evaluation

The metadata service answers permission queries from the tables the block syncer
fills. `BsDB` holds the reads it makes, each of which may fail. `Tables` are the
rows behind them, and `Tables.bsdb` the reads when all of them succeed.
-/

abbrev Text := List Char

namespace Metadata

inductive Effect where
  | unspecified | allow | deny
  deriving DecidableEq

inductive ActionType where
  | unspecified | all | updateBucketInfo | deleteBucket | createObject | deleteObject | copyObject
  | getObject | executeObject | listObject | updateGroupMember | deleteGroup | updateObjectInfo
  | updateGroupExtra | updateGroupInfo | updateObjectContent
  deriving DecidableEq

/-- The bit of each action in the bitmap of a statement. -/
def actionTypeMap : List (ActionType × Nat) :=
  [(.all, 0), (.updateBucketInfo, 1), (.deleteBucket, 2), (.createObject, 3), (.deleteObject, 4),
    (.copyObject, 5), (.getObject, 6), (.executeObject, 7), (.listObject, 8),
    (.updateGroupMember, 9), (.deleteGroup, 10), (.updateObjectInfo, 11), (.updateGroupExtra, 12),
    (.updateGroupInfo, 13), (.updateObjectContent, 14)]

inductive ResourceType where
  | bucket | object | group
  deriving DecidableEq

structure Resource where
  type : ResourceType
  id : Nat
  deriving DecidableEq

abbrev Address := Nat

/-- The account that asks; `none` is the empty address of an anonymous request. -/
abbrev Operator := Option Address

/-- The address form of an account. The empty one becomes the zero address. -/
def Operator.hexToAddress : Operator → Address
  | none => 0
  | some a => a

inductive Principal where
  | account (who : Operator)
  | group (id : Nat)
  deriving DecidableEq

def Principal.isGroup : Principal → Bool
  | .account _ => false
  | .group _ => true

/-! ## Rows -/

/-- A clock reading in nanoseconds. -/
abbrev Instant := Int

/-- `time.Unix(seconds, 0)` -/
def unixInstant (seconds : Int) : Instant := seconds * 1000000000

/-- An expiration time that is set and lies before `now`. -/
def expiredAt (expirationTime : Int) (now : Instant) : Bool :=
  expirationTime != 0 && decide (unixInstant expirationTime < now)

structure Permission where
  principal : Principal
  resource : Resource
  policyID : Nat
  expirationTime : Int
  removed : Bool

structure Statement where
  policyID : Nat
  effect : Effect
  actionValue : BitVec 64
  resources : Option (List Text)
  expirationTime : Int
  removed : Bool

/-- A row of the group table: a member of the group, or, under the zero address,
the group itself. -/
structure Group where
  groupID : Nat
  accountID : Address
  expirationTime : Int
  removed : Bool

/-- The sub-resource a caller asks for. -/
structure VerifyOptions where
  resource : Text

/-! ## Evaluation -/

/-- `regexp.Compile` -/
abbrev Compile := Text → Option (Text → Bool)

section
variable (compile : Compile)

/-- Some pattern of the list compiles and matches. -/
def matchesAny (target : Text) : List Text → Bool
  | [] => false
  | res :: rest =>
    match compile res with
    | none => matchesAny target rest
    | some reg => if reg target then true else matchesAny target rest

/-- The statement is about the sub-resource, if one is asked for. -/
def Statement.covers (s : Statement) : Option VerifyOptions → Bool
  | none => true
  | some opts =>
    if opts.resource = [] then true
    else match s.resources with
      | none => false
      | some resources => matchesAny compile opts.resource resources

def Statement.actions (s : Statement) : List ActionType :=
  (actionTypeMap.filter fun entry => s.actionValue.getLsbD entry.2).map Prod.fst

def Statement.eval (s : Statement) (action : ActionType) (opts : Option VerifyOptions) : Effect :=
  if s.covers compile opts then
    if s.actions.any fun act => act = action || act = .all then s.effect else .unspecified
  else .unspecified

/-- The loop over statements or policies: the first denial ends it, a grant is
remembered. -/
def denyOverrides {α : Type} (f : α → Effect) : List α → Bool → Effect
  | [], allowed => if allowed then .allow else .unspecified
  | x :: xs, allowed =>
    match f x with
    | .deny => .deny
    | .allow => denyOverrides f xs true
    | .unspecified => denyOverrides f xs allowed

/-- `Permission.Eval` on the statements it is given, whatever their policy. -/
def Permission.eval (p : Permission) (action : ActionType) (blockTime : Instant)
    (opts : Option VerifyOptions) (statements : List Statement) : Effect :=
  if expiredAt p.expirationTime blockTime then .unspecified
  else denyOverrides
    (fun s => if expiredAt s.expirationTime blockTime then .unspecified
      else s.eval compile action opts)
    statements false

end

/-! ## Verifying a policy -/

inductive MetadataErr where
  | database
  deriving DecidableEq

/-- The reads of the service. -/
structure BsDB where
  getPermissionByResourceAndPrincipal : Resource → Operator → Except MetadataErr (Option Permission)
  getPermissionsByResourceAndPrincipleType : Resource → Except MetadataErr (List Permission)
  getGroupsByGroupIDAndAccount : List Nat → Address → Except MetadataErr (List Group)
  getStatementsByPolicyID : List Nat → Except MetadataErr (List Statement)

-- Which of several matching rows a query for one row returns is up to the
-- database: `take` chooses it.
structure Tables where
  permissions : List Permission
  statements : List Statement
  groups : List Group
  take : List Permission → Option Permission
  take_mem : ∀ rows p, take rows = some p → p ∈ rows
  take_none : ∀ rows, take rows = none → rows = []

namespace Tables
variable (T : Tables)

def getPermissionByResourceAndPrincipal (resource : Resource) (who : Operator) :
    Option Permission :=
  T.take (T.permissions.filter fun p =>
    p.resource = resource ∧ p.principal = .account who ∧ p.removed = false)

def getPermissionsByResourceAndPrincipleType (resource : Resource) : List Permission :=
  T.permissions.filter fun p =>
    p.resource = resource ∧ p.principal.isGroup = true ∧ p.removed = false

/-- The memberships of the account in groups that are not deleted. The zero
address is no account: its rows stand for the groups. -/
def getGroupsByGroupIDAndAccount (groupIDList : List Nat) (account : Address) : List Group :=
  if account = 0 then []
  else
    let groupIDs := (T.groups.filter fun g =>
      g.groupID ∈ groupIDList ∧ g.accountID = 0 ∧ g.removed = false).map Group.groupID
    T.groups.filter fun g => g.groupID ∈ groupIDs ∧ g.accountID = account ∧ g.removed = false

def getStatementsByPolicyID (policyIDList : List Nat) : List Statement :=
  T.statements.filter fun s => s.policyID ∈ policyIDList ∧ s.removed = false

def bsdb : BsDB where
  getPermissionByResourceAndPrincipal resource who :=
    .ok (T.getPermissionByResourceAndPrincipal resource who)
  getPermissionsByResourceAndPrincipleType resource :=
    .ok (T.getPermissionsByResourceAndPrincipleType resource)
  getGroupsByGroupIDAndAccount ids account := .ok (T.getGroupsByGroupIDAndAccount ids account)
  getStatementsByPolicyID ids := .ok (T.getStatementsByPolicyID ids)

end Tables

/-- The group a policy is granted to. Only policies of groups are asked. -/
def Permission.groupID (p : Permission) : Nat :=
  match p.principal with
  | .group id => id
  | .account _ => 0

/-- A membership that has no expiration or ends after `now`. -/
def Group.current (g : Group) (now : Instant) : Bool :=
  g.expirationTime == 0 || decide (now < unixInstant g.expirationTime)

section
variable (compile : Compile) (db : BsDB)

variable (resource : Resource) (operator : Operator) (action : ActionType) (opts : Option VerifyOptions)
  (now : Instant)

/-- The verdict of the account's own policy. -/
def verifyAccountPolicy : Except MetadataErr Effect := do
  match ← db.getPermissionByResourceAndPrincipal resource operator with
  | none => return .unspecified
  | some permission =>
    let statements ← db.getStatementsByPolicyID [permission.policyID]
    return permission.eval compile action now opts statements

/-- The policies of the resource granted to a group of the account. -/
def groupPolicies : Except MetadataErr (List Permission) := do
  let permissions ← db.getPermissionsByResourceAndPrincipleType resource
  let groups ← db.getGroupsByGroupIDAndAccount (permissions.map Permission.groupID)
    operator.hexToAddress
  let groupIDs := (groups.filter fun g => g.current now).map Group.groupID
  return permissions.filter fun p => p.groupID ∈ groupIDs

/-- The verdict of the group policies. Their statements are fetched together. -/
def verifyGroupPolicies : Except MetadataErr Effect := do
  let permissions ← groupPolicies db resource operator now
  let statements ← db.getStatementsByPolicyID (permissions.map Permission.policyID)
  return denyOverrides (fun p => p.eval compile action now opts statements) permissions false

def verifyPolicy : Except MetadataErr Effect := do
  let effect ← verifyAccountPolicy compile db resource operator action opts now
  if effect ≠ .unspecified then return effect
  else verifyGroupPolicies compile db resource operator action opts now

end

/-! ## Objects -/

inductive Visibility where
  | unspecified | publicRead | private_ | inherit
  deriving DecidableEq

structure BucketInfo where
  bucketID : Nat
  visibility : Visibility

structure ObjectInfo where
  objectID : Nat
  bucketName : Text
  objectName : Text
  owner : Address
  visibility : Visibility

/-- What the chain's packages fix: the name of an object as a resource, and the
actions that a public object is open to. -/
structure ChainRules where
  compile : Compile
  objectGRN : Text → Text → Text
  publicReadObjectAllowed : ActionType → Bool

/-- Everyone may take the action on the object. -/
def ChainRules.isPublic (rules : ChainRules) (bucket : BucketInfo) (object : ObjectInfo)
    (action : ActionType) : Bool :=
  (object.visibility == .publicRead ||
    object.visibility == .inherit && bucket.visibility == .publicRead) &&
    rules.publicReadObjectAllowed action

def bucketResource (bucket : BucketInfo) : Resource := ⟨.bucket, bucket.bucketID⟩

def objectResource (object : ObjectInfo) : Resource := ⟨.object, object.objectID⟩

/-- The sub-resource of the bucket that the object is. -/
def ChainRules.objectOptions (rules : ChainRules) (object : ObjectInfo) : VerifyOptions :=
  ⟨rules.objectGRN object.bucketName object.objectName⟩

def verifyObjectPermission (rules : ChainRules) (db : BsDB) (bucket : BucketInfo)
    (object : ObjectInfo) (operator : Operator) (action : ActionType) (now : Instant) :
    Except MetadataErr Effect := do
  if rules.isPublic bucket object action then return .allow
  else if operator = some object.owner then return .allow
  else do
    let bucketEffect ← verifyPolicy rules.compile db (bucketResource bucket) operator action
      (some (rules.objectOptions object)) now
    if bucketEffect = .deny then return .deny
    else do
      let objectEffect ← verifyPolicy rules.compile db (objectResource object) operator action
        none now
      if objectEffect = .deny then return .deny
      else if bucketEffect = .allow ∨ objectEffect = .allow then return .allow
      else return .deny

end Metadata
