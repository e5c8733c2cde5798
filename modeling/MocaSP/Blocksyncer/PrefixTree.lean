-- SUMMARY: The prefix tree module of the block syncer.
import MocaSP.Base.Paths

/-!
# The prefix tree

The module keeps a row for every object and for every folder on the way to it. Its
handlers read the rows as they are before the block; what the events before have
changed they find in a context, under keys that do not name the bucket. A failed read
ends the attempt, and only a commit clears the context.

The database compares names as its collation does, which need not tell `a` from `A`;
the keys of the context are compared as they are.
-/

namespace Blocksyncer.PrefixTree

/-- Object names and paths. -/
abbrev Name := List Char

def pathParts (objectPath : Name) : List Name := objectPath.splitOn '/'

/-- The path of the folder that the first `i` parts make up. -/
def folderPath (parts : List Name) (i : Nat) : Name := Paths.dir '/' (parts.take i)

structure SlashPrefixTreeNode where
  pathName : Name
  fullName : Name
  name : Name
  isObject : Bool
  isFolder : Bool
  bucketName : Nat
  /-- Zero for folders. -/
  objectID : Nat
  objectName : Name
  deriving DecidableEq

def folderNode (bucketName : Nat) (parts : List Name) (i : Nat) : SlashPrefixTreeNode where
  pathName := folderPath parts (i - 1)
  fullName := folderPath parts i
  name := parts.getD (i - 1) [] ++ ['/']
  isObject := false
  isFolder := true
  bucketName
  objectID := 0
  objectName := []

def objectNode (bucketName : Nat) (objectPath : Name) (objectID : Nat) : SlashPrefixTreeNode where
  pathName := folderPath (pathParts objectPath) ((pathParts objectPath).length - 1)
  fullName := objectPath
  name := (pathParts objectPath).getD ((pathParts objectPath).length - 1) []
  isObject := true
  isFolder := false
  bucketName
  objectID
  objectName := objectPath

/-! ## Rows -/

/-- The rows of all shards. -/
abbrev Rows := List SlashPrefixTreeNode

-- names with the same collation key are the same to the database
variable (collate : Name → Name) (rows : Rows)

/-- Whether there is a folder. -/
def getPrefixTree (fullName : Name) (bucketName : Nat) : Bool :=
  rows.any fun r => collate r.fullName = collate fullName ∧ r.bucketName = bucketName ∧ r.isObject = false

def getPrefixTreeObject (objectID : Nat) : Bool := rows.any fun r => r.objectID = objectID

def getPrefixTreeCount (pathName : Name) (bucketName : Nat) : Nat :=
  rows.countP fun r => r.bucketName = bucketName ∧ collate r.pathName = collate pathName

/-- The bucket name, full name and kind of rows to be deleted. -/
structure Selector where
  bucketName : Nat
  fullName : Name
  isObject : Bool

def Selector.Selects (c : Selector) (r : SlashPrefixTreeNode) : Prop :=
  r.bucketName = c.bucketName ∧ collate r.fullName = collate c.fullName ∧ r.isObject = c.isObject

instance (c : Selector) (r : SlashPrefixTreeNode) : Decidable (c.Selects collate r) :=
  inferInstanceAs (Decidable (_ ∧ _))

inductive Stmt where
  | createPrefixTree (nodes : List SlashPrefixTreeNode)
  | deletePrefixTree (nodes : List Selector)

def exec : Stmt → Rows
  | .createPrefixTree nodes => rows ++ nodes
  | .deletePrefixTree nodes => rows.filter fun r => ∀ c ∈ nodes, ¬ c.Selects collate r

/-! ## The context -/

inductive Key where
  | folderExist (folder : Name)
  | folderCount (folder : Name)
  | objectExist (object : Nat)
  deriving DecidableEq

/-- A value with its type. -/
inductive Val where
  | int (n : Int)
  | int64 (n : Int)

def Val.int? : Val → Option Int
  | .int n => some n
  | .int64 _ => none

def Val.int64? : Val → Option Int
  | .int _ => none
  | .int64 n => some n

structure Session where
  ctx : Key → Option Val
  /-- The number of reads before one fails. -/
  reads : Nat

/-- No result if a read fails; the context is then as it was at that time. -/
def Handler (α : Type) := Session → Option α × Session

namespace Handler

def bind {α β : Type} (x : Handler α) (f : α → Handler β) : Handler β := fun s =>
  match x s with
  | (some a, s) => f a s
  | (none, s) => (none, s)

instance : Monad Handler where
  pure a := fun s => (some a, s)
  bind := bind

end Handler

def getCtx (key : Key) : Handler (Option Val) := fun s => (some (s.ctx key), s)

def setCtx (key : Key) (val : Val) : Handler Unit := fun s =>
  (some (), { s with ctx := Function.update s.ctx key (some val) })

def query {α : Type} (answer : α) : Handler α := fun s =>
  if s.reads = 0 then (none, s) else (some answer, { s with reads := s.reads - 1 })

/-! ## Handlers -/

/-- Whether the folder is to be created; the loop ends where there is no answer. -/
def checkFolder (bucketName : Nat) (path : Name) : Handler (Option Bool) := do
  match ← getCtx (.folderExist path) with
  | none =>
    if ← query (getPrefixTree collate rows path bucketName) then
      return none
    else
      setCtx (.folderExist path) (.int 1)
      return some true
  | some val =>
    match val.int64? with
    | some intVal =>
      if intVal = 0 then
        setCtx (.folderExist path) (.int 1)
        return some true
      else
        return some false
    | none => return none

def addToCount (bucketName : Nat) (path : Name) : Handler Unit := do
  match ← getCtx (.folderCount path) with
  | none =>
    let count ← query (getPrefixTreeCount collate rows path bucketName)
    setCtx (.folderCount path) (.int64 (count + 1))
  | some val =>
    match val.int64? with
    | some intVal => setCtx (.folderCount path) (.int64 (intVal + 1))
    | none => return ()

/-- The folders that are created, from the deepest up. -/
def createFolders (collate : Name → Name) (rows : Rows) (bucketName : Nat) (parts : List Name) :
    Nat → Handler (List SlashPrefixTreeNode)
  | 0 => return []
  | i + 1 => do
    let path := folderPath parts (i + 1)
    match ← checkFolder collate rows bucketName path with
    | none => return []
    | some missing =>
      addToCount collate rows bucketName path
      let nodes ← createFolders collate rows bucketName parts i
      return if missing then folderNode bucketName parts (i + 1) :: nodes else nodes

/-- Whether the node of the object is to be created. -/
def checkObject (objectID : Nat) : Handler Bool := do
  match ← getCtx (.objectExist objectID) with
  | none =>
    if ← query (getPrefixTreeObject rows objectID) then
      return false
    else
      setCtx (.objectExist objectID) (.int 1)
      return true
  | some val =>
    match val.int? with
    | some intVal =>
      if intVal = 0 then
        setCtx (.objectExist objectID) (.int 1)
        return true
      else
        return false
    | none => return false

def handleCreateObject (bucketName : Nat) (objectPath : Name) (objectID : Nat) :
    Handler (List Stmt) := do
  let parts := pathParts objectPath
  let folders ← createFolders collate rows bucketName parts (parts.length - 1)
  let missing ← checkObject rows objectID
  let nodes := folders ++ if missing then [objectNode bucketName objectPath objectID] else []
  return if nodes = [] then [] else [.createPrefixTree nodes]

/-- The count before it is decreased. -/
def takeFromCount (bucketName : Nat) (path : Name) : Handler Int := do
  match ← getCtx (.folderCount path) with
  | none =>
    let count ← query (getPrefixTreeCount collate rows path bucketName)
    setCtx (.folderCount path) (.int64 (count - 1))
    return count
  | some val =>
    match val.int64? with
    | some intVal =>
      setCtx (.folderCount path) (.int64 (intVal - 1))
      return intVal
    | none => return 0

/-- The folders that are deleted, from the deepest up. -/
def deleteFolders (collate : Name → Name) (rows : Rows) (bucketName : Nat) (parts : List Name) :
    Nat → Handler (List Selector)
  | 0 => return []
  | i + 1 => do
    let path := folderPath parts (i + 1)
    let count ← takeFromCount collate rows bucketName path
    if count ≤ 1 then
      setCtx (.folderExist path) (.int 0)
      let nodes ← deleteFolders collate rows bucketName parts i
      return ⟨bucketName, path, false⟩ :: nodes
    else
      return []

def deleteObject (bucketName : Nat) (objectPath : Name) (objectID : Nat) : Handler (List Stmt) := do
  let parts := pathParts objectPath
  let folders ← deleteFolders collate rows bucketName parts (parts.length - 1)
  setCtx (.objectExist objectID) (.int 0)
  return [.deletePrefixTree (⟨bucketName, objectPath, true⟩ :: folders)]

/-! ## Events and blocks -/

inductive Kind where
  | createObject
  | copyObject
  | deleteObject
  | cancelCreateObject
  | rejectSealObject (forUpdate : Bool)
  deriving DecidableEq

def Kind.creates : Kind → Bool
  | .createObject | .copyObject => true
  | .deleteObject | .cancelCreateObject | .rejectSealObject _ => false

/-- An event about an object; the object of a copy is the new one. -/
structure Event where
  kind : Kind
  bucketName : Nat
  objectName : Name
  objectID : Nat

/-- The rejection of an update is handled as that of a new object. -/
def extractEventStatements (event : Event) : Handler (List Stmt) :=
  match event.kind with
  | .createObject | .copyObject =>
    handleCreateObject collate rows event.bucketName event.objectName event.objectID
  | .deleteObject | .cancelCreateObject | .rejectSealObject _ =>
    deleteObject collate rows event.bucketName event.objectName event.objectID

def exportEvents (collate : Name → Name) (rows : Rows) : List Event → Handler (List Stmt)
  | [] => return []
  | event :: events => do
    let stmts ← extractEventStatements collate rows event
    let rest ← exportEvents collate rows events
    return stmts ++ rest

structure LiveObject where
  bucketName : Nat
  objectName : Name
  objectID : Nat
  deriving DecidableEq

/-- The objects on chain. An id is never used again. -/
structure Objects where
  live : List LiveObject := []
  nextObjectID : Nat := 1

def Event.object (e : Event) : LiveObject := ⟨e.bucketName, e.objectName, e.objectID⟩

/-- The objects after an event, if the chain can emit it. -/
def Objects.step (c : Objects) (e : Event) : Option Objects :=
  if e.kind.creates then
    if c.nextObjectID ≤ e.objectID ∧
        ∀ o ∈ c.live, ¬ (o.bucketName = e.bucketName ∧ o.objectName = e.objectName) then
      some ⟨c.live ++ [e.object], e.objectID + 1⟩
    else none
  else if e.object ∈ c.live then
    if e.kind = .rejectSealObject true then some c
    else some { c with live := c.live.filter (· ≠ e.object) }
  else none

def Objects.run (c : Objects) : List Event → Option Objects
  | [] => some c
  | e :: es => (c.step e).bind fun c' => c'.run es

/-- The events of a block, and how often it is processed: the number of reads that succeed in each
attempt that fails and in the one that commits. If all reads of an attempt succeed, it is the
statements or their commit that fail. -/
structure Block where
  events : List Event
  failed : List Nat := []
  reads : Nat

structure World where
  rows : Rows := []
  objects : Objects := {}

/-- What the failed attempts leave in the context. -/
def Block.left (b : Block) (rows : Rows) : Key → Option Val :=
  b.failed.foldl (fun ctx reads => (exportEvents collate rows b.events ⟨ctx, reads⟩).2.ctx) fun _ => none

/-- The block is committed, and the context cleared. -/
def World.process (w : World) (b : Block) : Option World :=
  (w.objects.run b.events).bind fun objects =>
    (exportEvents collate w.rows b.events ⟨b.left collate w.rows, b.reads⟩).1.map fun stmts =>
      ⟨stmts.foldl (exec collate) w.rows, objects⟩

end Blocksyncer.PrefixTree
