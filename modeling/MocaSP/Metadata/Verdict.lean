-- SUMMARY: When policy evaluation returns what the effective statements decide.
import MocaSP.Metadata.Permission

/-!
# Effective statements and the verdict

A statement is effective when it and its own policy are neither removed nor
expired, and the policy is granted on the resource to the account or to a group
the account is a member of. The verdict of the account's policy comes first, the
verdict of the group policies second, and in each a denial outweighs a grant.

Policy evaluation hands the statements of all group policies to each of them. A
policy that has expired is skipped, but its statements still count as long as
another group policy is in force. `Lowered` and `Raised` are the inputs on which
such *lapsed* statements change the result, and these are the only ones.
-/

namespace Metadata
open List Permission Tables

/-! ## Deny overrides -/

theorem Effect.cases (e : Effect) : e = .unspecified ∨ e = .allow ∨ e = .deny := by cases e <;> simp

/-- The effect when `denied` says that something denies and `granted` that
something grants. -/
structure Rules (denied granted : Prop) (e : Effect) : Prop where
  deny : e = .deny ↔ denied
  allow : e = .allow ↔ ¬ denied ∧ granted

namespace Rules
variable {d g d' g' : Prop} {e e' : Effect}

theorem congr (h : Rules d g e) (hd : d ↔ d') (hg : ¬ d → (g ↔ g')) : Rules d' g' e := by
  refine ⟨h.deny.trans hd, h.allow.trans ?_⟩
  rw [← hd]
  exact and_congr_right hg

theorem unspecified (h : Rules d g e) : e = .unspecified ↔ ¬ d ∧ ¬ g := by
  have hd := h.deny
  have hg := h.allow
  cases e <;> simp_all

theorem unique (h : Rules d g e) (h' : Rules d g e') : e = e' := by
  have hd := h.deny.trans h'.deny.symm
  have hg := h.allow.trans h'.allow.symm
  cases e <;> cases e' <;> simp_all

theorem iff_of (h : Rules d g e) : Rules d' g' e ↔ (d ↔ d') ∧ (¬ d → (g ↔ g')) := by
  constructor
  · intro h'
    have hd := h.deny.symm.trans h'.deny
    have hg := h.allow.symm.trans h'.allow
    tauto
  · intro heq
    exact h.congr heq.1 heq.2

theorem exists_effect (d g : Prop) : ∃ e, Rules d g e := by
  by_cases hd : d
  · exact ⟨.deny, by simp [hd], by simp [hd]⟩
  · by_cases hg : g
    · exact ⟨.allow, by simp [hd], by simp [hd, hg]⟩
    · exact ⟨.unspecified, by simp [hd], by simp [hg]⟩

/-- One effect decides unless it is unspecified, then the other one does. -/
theorem orElse (h : Rules d g e) (h' : Rules d' g' e') :
    Rules (d ∨ ¬ g ∧ d') (g ∨ g') (if e ≠ .unspecified then e else e') := by
  have hd := h.deny
  have hg := h.allow
  have hu := h.unspecified
  split
  · constructor <;> tauto
  · have hd' := h'.deny
    have hg' := h'.allow
    constructor <;> tauto

end Rules

theorem denyOverrides_rules {α : Type} (f : α → Effect) (xs : List α) (allowed : Bool) :
    Rules (∃ x ∈ xs, f x = .deny) (allowed = true ∨ ∃ x ∈ xs, f x = .allow)
      (denyOverrides f xs allowed) := by
  induction xs generalizing allowed with
  | nil =>
    cases allowed
    · constructor <;> simp [denyOverrides]
    · constructor <;> simp [denyOverrides]
  | cons x _ ih =>
    cases hx : f x with
    | deny => constructor <;> simp [denyOverrides, hx]
    | allow =>
      simp only [denyOverrides, hx]
      apply (ih true).congr <;> simp [hx]
    | unspecified =>
      simp only [denyOverrides, hx]
      apply (ih allowed).congr <;> simp [hx]

/-! ## Effective statements -/

/-- What `VerifyPolicy` is asked, and when. -/
structure Query where
  resource : Resource
  operator : Operator
  action : ActionType
  opts : Option VerifyOptions
  now : Instant

namespace Query
variable (compile : Compile) (T : Tables) (q : Query)

def run : Except MetadataErr Effect :=
  verifyPolicy compile T.bsdb q.resource q.operator q.action q.opts q.now

/-- The account is a member of the group now. The zero address is no account, and
a deleted group has no members. -/
structure Member (g : Nat) : Prop where
  account : q.operator.hexToAddress ≠ 0
  exists_ : ∃ own ∈ T.groups, own.groupID = g ∧ own.accountID = 0 ∧ own.removed = false
  row : ∃ m ∈ T.groups, m.groupID = g ∧ m.accountID = q.operator.hexToAddress ∧
    m.removed = false ∧ m.current q.now = true

/-- The policy is granted on the resource to a group of the account. -/
structure GroupPolicy (p : Permission) : Prop where
  row : p ∈ T.permissions
  resource : p.resource = q.resource
  kept : p.removed = false
  member : ∃ g, p.principal = .group g ∧ q.Member T g

/-- The policy granted on the resource to the account: the one the query takes,
should there be several. -/
structure AccountPolicy (p : Permission) : Prop where
  row : p ∈ T.permissions
  resource : p.resource = q.resource
  kept : p.removed = false
  principal : p.principal = .account q.operator
  taken : T.getPermissionByResourceAndPrincipal q.resource q.operator = some p

def InForce (p : Permission) : Prop := expiredAt p.expirationTime q.now = false

/-- A statement of the policy that is neither removed nor expired and has effect
`e` on the action. -/
structure States (p : Permission) (s : Statement) (e : Effect) : Prop where
  row : s ∈ T.statements
  own : s.policyID = p.policyID
  kept : s.removed = false
  unexpired : expiredAt s.expirationTime q.now = false
  effect : s.eval compile q.action q.opts = e

/-- An effective statement of the account's policy has effect `e`. -/
def AccountSays (e : Effect) : Prop :=
  ∃ p s, q.AccountPolicy T p ∧ q.InForce p ∧ q.States compile T p s e

/-- An effective statement of a group policy has effect `e`. -/
def GroupSays (e : Effect) : Prop :=
  ∃ p s, q.GroupPolicy T p ∧ q.InForce p ∧ q.States compile T p s e

/-- A statement has effect `e` that would be effective if its group policy had
not expired. -/
def LapsedSays (e : Effect) : Prop :=
  ∃ p s, q.GroupPolicy T p ∧ ¬ q.InForce p ∧ q.States compile T p s e

/-- **The verdict**: of the account's policy, or else of the group policies. -/
def Verdict (e : Effect) : Prop :=
  ∃ account group,
    Rules (q.AccountSays compile T .deny) (q.AccountSays compile T .allow) account ∧
    Rules (q.GroupSays compile T .deny) (q.GroupSays compile T .allow) group ∧
    e = if account ≠ .unspecified then account else group

/-! ## What the code computes -/

variable {compile T q}

theorem accountPolicy_iff {p : Permission} : q.AccountPolicy T p ↔
      T.getPermissionByResourceAndPrincipal q.resource q.operator = some p := by
  constructor
  · exact AccountPolicy.taken
  intro h
  have hmem := T.take_mem _ _ h
  simp only [mem_filter, decide_eq_true_eq] at hmem
  obtain ⟨hrow, hresource, hprincipal, hkept⟩ := hmem
  exact ⟨hrow, hresource, hkept, hprincipal, h⟩

theorem mem_groups_iff {ids : List Nat} {m : Group} :
    m ∈ T.getGroupsByGroupIDAndAccount ids q.operator.hexToAddress ∧ m.current q.now = true ↔
      q.operator.hexToAddress ≠ 0 ∧ m ∈ T.groups ∧ m.accountID = q.operator.hexToAddress ∧
        m.removed = false ∧ m.current q.now = true ∧ m.groupID ∈ ids ∧
        ∃ own ∈ T.groups, own.groupID = m.groupID ∧ own.accountID = 0 ∧ own.removed = false := by
  simp only [getGroupsByGroupIDAndAccount]
  split
  · simp [*]
  · simp only [mem_filter, mem_map, decide_eq_true_eq]
    grind

variable (T q) in
theorem groupPolicies_spec : ∃ permissions,
    groupPolicies T.bsdb q.resource q.operator q.now = .ok permissions ∧
      ∀ p, p ∈ permissions ↔ q.GroupPolicy T p := by
  refine ⟨_, rfl, ?_⟩
  intro p
  rw [mem_filter, decide_eq_true_eq]
  simp only [mem_map, mem_filter, mem_groups_iff]
  simp only [getPermissionsByResourceAndPrincipleType, mem_filter, decide_eq_true_eq]
  constructor
  · rintro ⟨⟨hrow, hresource, hgroup, hkept⟩, m, ⟨haccount, hm, hid, hmkept, hcurrent, -, hown⟩, hmg⟩
    cases hp : p.principal with
    | account => simp [hp, Principal.isGroup] at hgroup
    | group g =>
      have hg : m.groupID = g := by simpa [groupID, hp] using hmg
      subst hg
      exact ⟨hrow, hresource, hkept, _, hp, haccount, hown, m, hm, rfl, hid, hmkept, hcurrent⟩
  · rintro ⟨hrow, hresource, hkept, _, hp, haccount, hown, m, hm, rfl, hid, hmkept, hcurrent⟩
    have hpg : p.groupID = m.groupID := by simp [groupID, hp]
    refine ⟨⟨hrow, hresource, by simp [hp, Principal.isGroup], hkept⟩, m, ?_, hpg.symm⟩
    exact ⟨haccount, hm, hid, hmkept, hcurrent,
      ⟨p, ⟨hrow, hresource, by simp [hp, Principal.isGroup], hkept⟩, hpg⟩, hown⟩

theorem exists_statement_iff (ps : List Permission) (e : Effect) :
    (∃ s ∈ T.getStatementsByPolicyID (ps.map policyID),
      expiredAt s.expirationTime q.now = false ∧ s.eval compile q.action q.opts = e) ↔
      ∃ p ∈ ps, ∃ s, q.States compile T p s e := by
  simp only [getStatementsByPolicyID, mem_filter, mem_map, decide_eq_true_eq]
  constructor
  · rintro ⟨s, ⟨hrow, ⟨p, hp, hown⟩, hkept⟩, hlive, heffect⟩
    exact ⟨p, hp, s, hrow, hown.symm, hkept, hlive, heffect⟩
  · rintro ⟨p, hp, s, hrow, hown, hkept, hlive, heffect⟩
    exact ⟨s, ⟨hrow, ⟨p, hp, hown.symm⟩, hkept⟩, hlive, heffect⟩

/-- A policy that is in force rules by the statements of all the policies they
were fetched for. -/
theorem eval_rules (p : Permission) (ps : List Permission) :
    Rules (q.InForce p ∧ ∃ p' ∈ ps, ∃ s, q.States compile T p' s .deny)
      (q.InForce p ∧ ∃ p' ∈ ps, ∃ s, q.States compile T p' s .allow)
      (p.eval compile q.action q.now q.opts
        (T.getStatementsByPolicyID (ps.map policyID))) := by
  cases hp : expiredAt p.expirationTime q.now with
  | true => constructor <;> simp [eval, InForce, hp]
  | false =>
    have key : ∀ (s : Statement) (e : Effect), e ≠ .unspecified →
        ((if expiredAt s.expirationTime q.now then .unspecified
          else s.eval compile q.action q.opts) = e ↔
        expiredAt s.expirationTime q.now = false ∧ s.eval compile q.action q.opts = e) := by
      intro s _ he
      cases expiredAt s.expirationTime q.now <;> simp [he.symm]
    simp only [eval, InForce, hp, Bool.false_eq_true, if_false, true_and, ← exists_statement_iff]
    apply (denyOverrides_rules _ _ _).congr
    · simp [key]
    · simp [key]

variable (compile T q) in
theorem verifyAccountPolicy_spec : ∃ e,
    verifyAccountPolicy compile T.bsdb q.resource q.operator q.action q.opts q.now = .ok e ∧
      Rules (q.AccountSays compile T .deny) (q.AccountSays compile T .allow) e := by
  cases htaken : T.getPermissionByResourceAndPrincipal q.resource q.operator with
  | none =>
    refine ⟨.unspecified, ?_, ?_⟩
    · simp only [verifyAccountPolicy, bsdb, htaken]
      rfl
    · constructor <;> simp [AccountSays, accountPolicy_iff, htaken]
  | some p =>
    refine ⟨p.eval compile q.action q.now q.opts (T.getStatementsByPolicyID [p.policyID]), ?_, ?_⟩
    · simp only [verifyAccountPolicy, bsdb, htaken]
      rfl
    have hstated : ∀ e, q.AccountSays compile T e ↔
        q.InForce p ∧ ∃ p' ∈ [p], ∃ s, q.States compile T p' s e := by
      intro _
      simp [AccountSays, accountPolicy_iff, htaken]
    simp only [hstated]
    exact eval_rules p [p]

/-- Some group policy is in force. -/
def GroupInForce (T : Tables) (q : Query) : Prop := ∃ p, q.GroupPolicy T p ∧ q.InForce p

variable (compile T q) in
/-- The statements of all group policies count as soon as one policy is in
force. -/
theorem verifyGroupPolicies_spec : ∃ e,
    verifyGroupPolicies compile T.bsdb q.resource q.operator q.action q.opts q.now = .ok e ∧
      Rules (q.GroupInForce T ∧ (q.GroupSays compile T .deny ∨ q.LapsedSays compile T .deny))
        (q.GroupInForce T ∧ (q.GroupSays compile T .allow ∨ q.LapsedSays compile T .allow)) e := by
  obtain ⟨ps, hps, hmem⟩ := q.groupPolicies_spec T
  have hstated : ∀ e, (q.GroupSays compile T e ∨ q.LapsedSays compile T e) ↔
      ∃ p ∈ ps, ∃ s, q.States compile T p s e := by
    intro _
    simp only [hmem, GroupSays, LapsedSays]
    constructor
    · rintro (⟨p, s, hp, -, hs⟩ | ⟨p, s, hp, -, hs⟩)
      · exact ⟨p, hp, s, hs⟩
      · exact ⟨p, hp, s, hs⟩
    rintro ⟨p, hp, s, hs⟩
    by_cases hforce : q.InForce p
    · exact .inl ⟨p, s, hp, hforce, hs⟩
    · exact .inr ⟨p, s, hp, hforce, hs⟩
  have hrules := denyOverrides_rules
    (fun p => p.eval compile q.action q.now q.opts
      (T.getStatementsByPolicyID (ps.map policyID))) ps false
  refine ⟨_, ?_, hrules.congr ?_ ?_⟩
  · simp only [verifyGroupPolicies, hps]
    rfl
  · simp only [(eval_rules _ _).deny, hstated, GroupInForce, hmem]
    tauto
  simp only [(eval_rules _ _).deny, (eval_rules _ _).allow, hstated, GroupInForce, hmem,
    Bool.false_eq_true, false_or]
  intro hnot
  constructor
  · rintro ⟨p, hp, -, hforce, hs⟩
    exact ⟨⟨p, hp, hforce⟩, hs⟩
  · rintro ⟨⟨p, hp, hforce⟩, hs⟩
    exact ⟨p, hp, fun hdeny => hnot ⟨p, hp, hdeny⟩, hforce, hs⟩

/-! ## Where the result differs from the verdict -/

/-- The account's own policy decides nothing, and a group policy is in force. -/
def LeftToGroups (compile : Compile) (T : Tables) (q : Query) : Prop :=
  ¬ q.AccountSays compile T .deny ∧ ¬ q.AccountSays compile T .allow ∧ q.GroupInForce T

/-- A lapsed statement denies what no effective group statement denies. -/
def Lowered (compile : Compile) (T : Tables) (q : Query) : Prop :=
  q.LeftToGroups compile T ∧ ¬ q.GroupSays compile T .deny ∧ q.LapsedSays compile T .deny

/-- A lapsed statement, and no effective one, grants what nothing denies. -/
def Raised (compile : Compile) (T : Tables) (q : Query) : Prop :=
  q.LeftToGroups compile T ∧ ¬ q.GroupSays compile T .deny ∧ ¬ q.LapsedSays compile T .deny ∧
    ¬ q.GroupSays compile T .allow ∧ q.LapsedSays compile T .allow

theorem GroupSays.inForce {e : Effect} (h : q.GroupSays compile T e) : q.GroupInForce T := by
  obtain ⟨p, _, hp, hforce, -⟩ := h
  exact ⟨p, hp, hforce⟩

theorem verdict_iff {e : Effect} : q.Verdict compile T e ↔ Rules (q.AccountSays compile T .deny ∨
        ¬ q.AccountSays compile T .allow ∧ q.GroupSays compile T .deny)
      (q.AccountSays compile T .allow ∨ q.GroupSays compile T .allow) e := by
  constructor
  · rintro ⟨_, _, haccount, hgroup, rfl⟩
    exact haccount.orElse hgroup
  intro h
  obtain ⟨account, haccount⟩ :=
    Rules.exists_effect (q.AccountSays compile T .deny) (q.AccountSays compile T .allow)
  obtain ⟨group, hgroup⟩ :=
    Rules.exists_effect (q.GroupSays compile T .deny) (q.GroupSays compile T .allow)
  exact ⟨account, group, haccount, hgroup, h.unique (haccount.orElse hgroup)⟩

variable (compile T q) in
/-- `VerifyPolicy` returns the verdict. -/
def PolicyFaithful (compile : Compile) (T : Tables) (q : Query) : Prop :=
  ∃ e, q.run compile T = .ok e ∧ q.Verdict compile T e

variable (compile T q) in
/-- The result and the verdict side by side: they differ when lapsed statements
lower or raise the result, and only then. -/
theorem run_verdict : ∃ e v, q.run compile T = .ok e ∧ (∀ e', q.Verdict compile T e' ↔ e' = v) ∧
    (q.Lowered compile T ↔ e = .deny ∧ v ≠ .deny) ∧
    (q.Raised compile T ↔ e = .allow ∧ v = .unspecified) ∧
    (e = v ∨ q.Lowered compile T ∨ q.Raised compile T) := by
  obtain ⟨account, haccount, haccountRules⟩ := q.verifyAccountPolicy_spec compile T
  obtain ⟨group, hgroup, hgroupRules⟩ := q.verifyGroupPolicies_spec compile T
  have hrules := haccountRules.orElse hgroupRules
  have hrun : q.run compile T = .ok (if account ≠ .unspecified then account else group) := by
    simp only [run, verifyPolicy, haccount, hgroup]
    cases account <;> rfl
  generalize (if account ≠ .unspecified then account else group) = e at hrun hrules
  obtain ⟨v, hv⟩ := Rules.exists_effect
    (q.AccountSays compile T .deny ∨ ¬ q.AccountSays compile T .allow ∧ q.GroupSays compile T .deny)
    (q.AccountSays compile T .allow ∨ q.GroupSays compile T .allow)
  have hverdict : ∀ e', q.Verdict compile T e' ↔ e' = v := by
    intro _
    rw [verdict_iff]
    exact ⟨fun h => h.unique hv, fun h => h ▸ hv⟩
  -- A policy in force is behind every effective group statement; the rest is a
  -- matter of cases.
  have hdeny : q.GroupSays compile T .deny → q.GroupInForce T := GroupSays.inForce
  have hallow : q.GroupSays compile T .allow → q.GroupInForce T := GroupSays.inForce
  refine ⟨_, v, hrun, hverdict, ?_, ?_, ?_⟩
  · rw [ne_eq, hrules.deny, hv.deny, Lowered, LeftToGroups]
    grind
  · rw [hrules.allow, hv.unspecified, Raised, LeftToGroups]
    grind
  rw [← hverdict, verdict_iff, hrules.iff_of, Lowered, Raised, LeftToGroups]
  by_cases hforce : q.GroupInForce T
  · by_cases hlapsed : q.LapsedSays compile T .deny
    · grind
    · grind
  · grind

theorem policyFaithful_iff :
    q.PolicyFaithful compile T ↔ ¬ q.Lowered compile T ∧ ¬ q.Raised compile T := by
  obtain ⟨e, v, hrun, hverdict, _, _, _⟩ := q.run_verdict compile T
  have hiff : q.PolicyFaithful compile T ↔ e = v := by simp [PolicyFaithful, hrun, hverdict]
  rw [hiff]
  grind

end Query

/-! ## Objects -/

/-- What `VerifyObjectPermission` is asked, and when. -/
structure ObjectQuery where
  bucket : BucketInfo
  object : ObjectInfo
  operator : Operator
  action : ActionType
  now : Instant

namespace ObjectQuery
variable (rules : ChainRules) (T : Tables) (q : ObjectQuery)

def run : Except MetadataErr Effect :=
  verifyObjectPermission rules T.bsdb q.bucket q.object q.operator q.action q.now

/-- The bucket's policies are asked about the object as a sub-resource. -/
def onBucket : Query :=
  ⟨bucketResource q.bucket, q.operator, q.action, some (rules.objectOptions q.object), q.now⟩

def onObject : Query := ⟨objectResource q.object, q.operator, q.action, none, q.now⟩

/-- The object is not open to everyone for the action, nor to the operator as its
owner. -/
def NeedsPolicy : Prop :=
  rules.isPublic q.bucket q.object q.action = false ∧ q.operator ≠ some q.object.owner

/-- `VerifyObjectPermission` allows only what a verdict allows and no verdict
denies. -/
def ObjectFaithful : Prop :=
  q.NeedsPolicy rules → q.run rules T = .ok .allow →
    ((q.onBucket rules).Verdict rules.compile T .allow ∨ q.onObject.Verdict rules.compile T .allow) ∧
    ¬ (q.onBucket rules).Verdict rules.compile T .deny ∧ ¬ q.onObject.Verdict rules.compile T .deny

/-- No effective statement decides about the object, no lapsed statement denies,
and a lapsed statement grants. -/
def GrantedByLapse : Prop :=
  q.NeedsPolicy rules ∧
    ((q.onBucket rules).Raised rules.compile T ∨ q.onObject.Raised rules.compile T) ∧
    ((q.onBucket rules).Verdict rules.compile T .unspecified ∧
      ¬ (q.onBucket rules).Lowered rules.compile T) ∧
    (q.onObject.Verdict rules.compile T .unspecified ∧ ¬ q.onObject.Lowered rules.compile T)

variable {rules T q}

theorem objectFaithful_iff : q.ObjectFaithful rules T ↔ ¬ q.GrantedByLapse rules T := by
  by_cases hneeds : q.NeedsPolicy rules
  · obtain ⟨e, v, hbucket, hverdict, _, _, _⟩ := (q.onBucket rules).run_verdict rules.compile T
    obtain ⟨e', v', hobject, hverdict', _, _, _⟩ := q.onObject.run_verdict rules.compile T
    have hallow : q.run rules T = .ok .allow ↔ e ≠ .deny ∧ e' ≠ .deny ∧ (e = .allow ∨ e' = .allow) := by
      simp only [Query.run, onBucket, onObject] at hbucket hobject
      simp only [run, verifyObjectPermission, hneeds.1, hneeds.2, hbucket, hobject, Bool.false_eq_true,
        if_false]
      cases e <;> cases e' <;> simp [bind, Except.bind, pure, Except.pure]
    simp only [ObjectFaithful, GrantedByLapse, hallow, hverdict, hverdict']
    have hv := v.cases
    have hv' := v'.cases
    grind
  · simp [ObjectFaithful, GrantedByLapse, hneeds]

end ObjectQuery

/-- **Policy evaluation.** `VerifyPolicy` returns the verdict of the effective
statements, and `VerifyObjectPermission` allows only what such verdicts allow,
unless statements of expired group policies tip the balance. -/
theorem policy_evaluation_iff (rules : ChainRules) (T : Tables) (q : Query) (o : ObjectQuery) :
    q.PolicyFaithful rules.compile T ∧ o.ObjectFaithful rules T ↔
      (¬ q.Lowered rules.compile T ∧ ¬ q.Raised rules.compile T) ∧ ¬ o.GrantedByLapse rules T := by
  rw [Query.policyFaithful_iff, ObjectQuery.objectFaithful_iff]

-- Account 7 is in two groups. The policy that lets the first group read object 5
-- expired after 100 s; the policy of the second group lets it delete the object.
def lapsedRules : ChainRules where
  compile := fun _ => none
  objectGRN := fun bucket object => bucket ++ object
  publicReadObjectAllowed := fun action => action = .getObject

def lapsedTables : Tables where
  permissions := [⟨.group 1, ⟨.object, 5⟩, 11, 100, false⟩, ⟨.group 2, ⟨.object, 5⟩, 12, 0, false⟩]
  statements := [⟨11, .allow, 64, none, 0, false⟩, ⟨12, .allow, 16, none, 0, false⟩]
  groups := [⟨1, 0, 0, false⟩, ⟨1, 7, 0, false⟩, ⟨2, 0, 0, false⟩, ⟨2, 7, 0, false⟩]
  take := List.head?
  take_mem := fun _ _ h => mem_of_head? h
  take_none := fun _ h => List.head?_eq_none_iff.mp h

def lapsedQuery : ObjectQuery where
  bucket := ⟨3, .private_⟩
  object := ⟨5, ['b'], ['o'], 9, .private_⟩
  operator := some 7
  action := .getObject
  now := unixInstant 200

/-- No effective statement is about reading the object. -/
theorem lapsedQuery_silent (e : Effect) (he : e ≠ .unspecified) :
    ¬ lapsedQuery.onObject.AccountSays lapsedRules.compile lapsedTables e ∧
      ¬ lapsedQuery.onObject.GroupSays lapsedRules.compile lapsedTables e := by
  constructor
  · rintro ⟨_, _, ⟨-, -, -, -, htaken⟩, -, -⟩
    revert htaken
    simp [lapsedTables, getPermissionByResourceAndPrincipal]
  rintro ⟨p, _, ⟨hp, -, -, -⟩, hforce, ⟨hs, hown, -, -, heffect⟩⟩
  have hforce : expiredAt p.expirationTime (unixInstant 200) = false := hforce
  simp only [lapsedTables, mem_cons, not_mem_nil, or_false] at hp hs
  obtain rfl | rfl := hp
  · exact absurd hforce (by decide)
  · obtain rfl | rfl := hs
    · exact absurd hown (by decide)
    · exact he (heffect.symm.trans (by decide))

theorem lapsedQuery_verdict :
    lapsedQuery.onObject.Verdict lapsedRules.compile lapsedTables .unspecified := by
  have hdeny := lapsedQuery_silent .deny (by decide)
  have hallow := lapsedQuery_silent .allow (by decide)
  rw [Query.verdict_iff]
  constructor <;> simp [hdeny, hallow]

/-- Account 7 may still read the object. -/
theorem lapsed_policy_grants :
    lapsedQuery.onObject.run lapsedRules.compile lapsedTables = .ok .allow ∧
      lapsedQuery.onObject.Verdict lapsedRules.compile lapsedTables .unspecified ∧
      lapsedQuery.run lapsedRules lapsedTables = .ok .allow ∧
      ¬ (lapsedQuery.onObject.PolicyFaithful lapsedRules.compile lapsedTables ∧
        lapsedQuery.ObjectFaithful lapsedRules lapsedTables) := by
  have hrun : lapsedQuery.onObject.run lapsedRules.compile lapsedTables = .ok .allow := by
    decide +kernel
  refine ⟨hrun, lapsedQuery_verdict, by decide +kernel, ?_⟩
  rintro ⟨⟨_, he, hverdict⟩, -⟩
  rw [hrun] at he
  cases he
  have h := (Query.verdict_iff.mp hverdict).unique (Query.verdict_iff.mp lapsedQuery_verdict)
  cases h

end Metadata
