-- SUMMARY: The rows of the prefix tree against the objects on chain.
import MocaSP.Blocksyncer.PrefixTree
import MocaSP.Base.Run
import Mathlib.Data.List.Nodup
import Mathlib.Data.List.Perm.Basic

/-!
# The tree of the live objects

The rows are to be one node for each object on chain and one for each folder that its
name goes through. A handler sees the rows before the block and the context, so its
answers are those of the current rows only where the context knows what the events
before have done: of creations it knows which folders exist, of deletions how many
rows a folder has, and of either only if they were in the same bucket.
-/

namespace Blocksyncer.PrefixTree
open List Function Key Handler Paths

/-! ## Names and folders -/

/-- The name goes through the folder: one of its proper prefixes that end in a slash. -/
def HasFolder (objectPath path : Name) : Prop :=
  ∃ i, 0 < i ∧ i < (pathParts objectPath).length ∧ path = folderPath (pathParts objectPath) i

/-- The rows for the objects on chain. -/
inductive InTree (live : List LiveObject) : SlashPrefixTreeNode → Prop where
  | object {o : LiveObject} (h : o ∈ live) :
      InTree live (objectNode o.bucketName o.objectName o.objectID)
  | folder {o : LiveObject} (h : o ∈ live) {i : Nat} (hpos : 0 < i)
      (hlt : i < (pathParts o.objectName).length) :
      InTree live (folderNode o.bucketName (pathParts o.objectName) i)

structure Mirrors (rows : Rows) (live : List LiveObject) : Prop where
  nodup : rows.Nodup
  mem_iff : ∀ r, r ∈ rows ↔ InTree live r

/-- The names of the rows for objects of a bucket. -/
def Named (objects : List LiveObject) (bucketName : Nat) (path : Name) : Prop :=
  path = ['/'] ∨ ∃ o ∈ objects, o.bucketName = bucketName ∧
    (path = o.objectName ∨ HasFolder o.objectName path)

/-- No two names in a bucket are the same to the database. -/
def TellsApart (collate : Name → Name) (objects : List LiveObject) : Prop :=
  ∀ b p q, Named objects b p → Named objects b q → collate p = collate q → p = q

/-- The attempt that commits finds an empty context, the collation tells the names apart, events with
a folder in common are in one bucket and all create or all remove objects, no update of an object is
rejected, and no object is removed whose name starts with a slash. -/
structure Orderly (collate : Name → Name) (w : World) (b : Block) : Prop where
  fresh : b.left collate w.rows = fun _ => none
  told : TellsApart collate (w.objects.live ++ b.events.map Event.object)
  apart : ∀ e ∈ b.events, ∀ e' ∈ b.events, ∀ path, HasFolder e.objectName path →
    HasFolder e'.objectName path → e.bucketName = e'.bucketName ∧ e.kind.creates = e'.kind.creates
  rejected : ∀ e ∈ b.events, e.kind ≠ .rejectSealObject true
  rooted : ∀ e ∈ b.events, e.kind.creates = false → e.objectName.head? ≠ some '/'

variable {collate : Name → Name} {objects : List LiveObject}

variable {b k i : Nat} {parts : List Name} {ctx ctx' : Key → Option Val} {nodes : List SlashPrefixTreeNode}

section

variable {n n' : Name} {i j : Nat}

theorem pathParts_ne_nil (n : Name) : pathParts n ≠ [] := splitOn_ne_nil '/' n

theorem length_pathParts_pos (n : Name) : 0 < (pathParts n).length :=
  length_pos_iff.mpr (pathParts_ne_nil n)

theorem take_pathParts_ne_nil (hi : 0 < i) : (pathParts n).take i ≠ [] := by
  rw [Ne, take_eq_nil_iff]
  rintro (h | h)
  · omega
  · exact pathParts_ne_nil n h

/-- The path of a folder says what its parts are. -/
theorem take_of_folderPath (hi : 0 < i) (hi' : i ≤ (pathParts n).length) (hj : 0 < j)
    (hj' : j ≤ (pathParts n').length) (h : folderPath (pathParts n) i = folderPath (pathParts n') j) :
    i = j ∧ (pathParts n).take i = (pathParts n').take i := by
  have htake : (pathParts n).take i = (pathParts n').take j :=
    eq_of_dir ((split_splitOn _).take i) ((split_splitOn _).take j) (take_pathParts_ne_nil hi)
      (take_pathParts_ne_nil hj) h
  have hlen := congrArg length htake
  rw [length_take, length_take] at hlen
  obtain rfl : i = j := by omega
  exact ⟨rfl, htake⟩

theorem folderPath_ne (hi : 0 < i) (hij : i < j) (hj : j ≤ (pathParts n).length) :
    some (folderPath (pathParts n) i) ≠ folderPath (pathParts n) j := fun h =>
  Nat.ne_of_lt hij (take_of_folderPath hi (by omega) (by omega) hj (Option.some.inj h)).1

/-- A name that does not start with a slash has no folder with the path of the top level. -/
theorem folderPath_ne_root (hroot : n.head? ≠ some '/') (hi : 0 < i) (hi' : i < (pathParts n).length) :
    folderPath (pathParts n) i ≠ ['/'] := by
  intro h
  have htake : (pathParts n).take i = [[]] :=
    eq_of_dir_nil ((split_splitOn _).take i) (take_pathParts_ne_nil hi) h
  have hlen := congrArg length htake
  rw [length_take, length_singleton] at hlen
  have hone : i = 1 := by omega
  subst hone
  -- the name is its parts, joined
  have hjoin : ['/'].intercalate (pathParts n) = n := intercalate_splitOn '/'
  cases hparts : pathParts n with
  | nil => exact pathParts_ne_nil n hparts
  | cons p rest =>
    rw [hparts] at htake hi' hjoin
    cases rest with
    | nil => exact absurd hi' (by simp)
    | cons =>
      have hp : p = [] := head_eq_of_cons_eq htake
      subst hp
      rw [← hjoin] at hroot
      exact hroot rfl

/-- Two names that share a folder have the nodes of the folders above it in common. -/
theorem folderNode_congr (htake : (pathParts n).take k = (pathParts n').take k) (hi : 0 < i) (hk : i ≤ k) :
    folderNode b (pathParts n) i = folderNode b (pathParts n') i := by
  have hless : ∀ j, j ≤ k → (pathParts n).take j = (pathParts n').take j := by
    intro _ hj
    rw [← Nat.min_eq_left hj, ← take_take, htake, take_take]
  have hname : (pathParts n).getD (i - 1) [] = (pathParts n').getD (i - 1) [] := by
    have hget := congrArg (fun l : List Name => l[i - 1]?) htake
    simp only [getElem?_take_of_lt (show i - 1 < k by omega)] at hget
    rw [getD_eq_getElem?_getD, getD_eq_getElem?_getD, hget]
  unfold folderNode folderPath
  rw [hless (i - 1) (by omega), hless i hk, hname]

theorem HasFolder.take (hk : 0 < k) (hk' : k ≤ (pathParts n).length)
    (h : HasFolder n' (folderPath (pathParts n) k)) :
    k < (pathParts n').length ∧ (pathParts n).take k = (pathParts n').take k := by
  obtain ⟨_, hi, hi', heq⟩ := h
  obtain ⟨rfl, htake⟩ := take_of_folderPath hk hk' hi (by omega) heq
  exact ⟨hi', htake⟩

end

/-! ## Rows of the tree -/

/-- The rows of an object and of its folders beyond the `k`th. -/
def Branch (o : LiveObject) (k : Nat) (r : SlashPrefixTreeNode) : Prop :=
  r = objectNode o.bucketName o.objectName o.objectID ∨
  ∃ j, k < j ∧ j < (pathParts o.objectName).length ∧
    r = folderNode o.bucketName (pathParts o.objectName) j

/-- The row in the `j`th folder on the way to an object. -/
def child (o : LiveObject) (j : Nat) : SlashPrefixTreeNode :=
  if j + 1 < (pathParts o.objectName).length then folderNode o.bucketName (pathParts o.objectName) (j + 1)
  else objectNode o.bucketName o.objectName o.objectID

/-- No other object goes through the `j`th folder of this one. -/
def Sole (live : List LiveObject) (o : LiveObject) (j : Nat) : Prop :=
  ∀ m ∈ live, m.bucketName = o.bucketName →
    HasFolder m.objectName (folderPath (pathParts o.objectName) j) → m = o

section

variable {rows rows' : Rows} {live : List LiveObject} {o : LiveObject} {k b : Nat} {path n : Name}
  {r c : SlashPrefixTreeNode}

theorem objectNode_inj {m : LiveObject} (h : objectNode m.bucketName m.objectName m.objectID =
    objectNode o.bucketName o.objectName o.objectID) : m = o := by
  cases m
  cases o
  cases congrArg (·.bucketName) h
  cases congrArg (·.objectName) h
  cases congrArg (·.objectID) h
  rfl

theorem InTree.branch (h : InTree live r) : ∃ o ∈ live, r.bucketName = o.bucketName ∧ Branch o 0 r := by
  cases h with
  | object ho => exact ⟨_, ho, rfl, .inl rfl⟩
  | folder ho hpos hlt => exact ⟨_, ho, rfl, .inr ⟨_, hpos, hlt, rfl⟩⟩

/-- A row of the branch is in the last folder that stays or in one of the branch itself. -/
theorem Branch.pathName (h : Branch o k r) (hk : k < (pathParts o.objectName).length) :
    ∃ j, k ≤ j ∧ j < (pathParts o.objectName).length ∧
      r.pathName = folderPath (pathParts o.objectName) j := by
  rcases h with rfl | ⟨j, _, _, rfl⟩
  · exact ⟨_, by omega, by omega, rfl⟩
  · exact ⟨j - 1, by omega, by omega, rfl⟩

theorem InTree.named (h : InTree live r) (hlive : live ⊆ objects) :
    Named objects r.bucketName r.fullName ∧ Named objects r.bucketName r.pathName := by
  obtain ⟨o, ho, hb, hbranch⟩ := h.branch
  refine ⟨.inr ⟨o, hlive ho, hb.symm, ?_⟩, ?_⟩
  · rcases hbranch with rfl | ⟨j, hpos, hj, rfl⟩
    · exact .inl rfl
    · exact .inr ⟨j, hpos, hj, rfl⟩
  · obtain ⟨j, -, hj, hpath⟩ := hbranch.pathName (length_pathParts_pos _)
    rcases Nat.eq_zero_or_pos j with rfl | hpos
    · exact .inl hpath
    · exact .inr ⟨o, hlive ho, hb.symm, .inr ⟨j, hpos, hj, hpath⟩⟩

/-- Where names are told apart, the database finds the rows that have the name. -/
theorem reads_eq (hcol : TellsApart collate objects) (hrows : ∀ r ∈ rows, InTree live r)
    (hlive : live ⊆ objects) (hpath : Named objects b path) :
    getPrefixTree collate rows path b = getPrefixTree id rows path b ∧
      getPrefixTreeCount collate rows path b = getPrefixTreeCount id rows path b := by
  refine ⟨?_, countP_congr fun r hr => ?_⟩
  · rw [Bool.eq_iff_iff, getPrefixTree, any_eq_true, getPrefixTree, any_eq_true]
    refine exists_congr fun r => and_congr_right fun hr => ?_
    simp only [decide_eq_true_eq, id]
    refine and_congr_left fun hrest => ⟨fun heq => ?_, fun heq => heq ▸ rfl⟩
    exact hcol b _ _ (hrest.1 ▸ ((hrows r hr).named hlive).1) hpath heq
  · simp only [decide_eq_true_eq, id]
    refine and_congr_right fun hb => ⟨fun heq => ?_, fun heq => heq ▸ rfl⟩
    exact hcol b _ _ (hb ▸ ((hrows r hr).named hlive).2) hpath heq

section

variable {j : Nat} (hj : j < (pathParts o.objectName).length)
include hj

theorem child_cases : (child o j = objectNode o.bucketName o.objectName o.objectID ∧
      j = (pathParts o.objectName).length - 1) ∨
    (child o j = folderNode o.bucketName (pathParts o.objectName) (j + 1) ∧
      j + 1 < (pathParts o.objectName).length) := by
  unfold child
  split
  · exact .inr ⟨rfl, ‹_›⟩
  · exact .inl ⟨rfl, by omega⟩

theorem child_bucketName : (child o j).bucketName = o.bucketName := by
  rcases child_cases hj with ⟨h, -⟩ | ⟨h, -⟩ <;> rw [h] <;> rfl

theorem child_pathName : (child o j).pathName = folderPath (pathParts o.objectName) j := by
  rcases child_cases hj with ⟨h, hlast⟩ | ⟨h, -⟩
  · rw [h, hlast]
    rfl
  · rw [h]
    rfl

theorem inTree_child (ho : o ∈ live) : InTree live (child o j) := by
  rcases child_cases hj with ⟨h, -⟩ | ⟨h, hnext⟩
  · rw [h]
    exact .object ho
  · rw [h]
    exact .folder ho (by omega) hnext

theorem branch_child (hk : k ≤ j) : Branch o k (child o j) := by
  rcases child_cases hj with ⟨h, -⟩ | ⟨h, hnext⟩
  · exact .inl h
  · exact .inr ⟨j + 1, by omega, hnext, h⟩

/-- Only names with a slash at the start have a second row of the branch in the same folder. -/
theorem Branch.eq_child (h : Branch o k r) (hroot : o.objectName.head? ≠ some '/') (hpos : 0 < j)
    (hpath : r.pathName = folderPath (pathParts o.objectName) j) : r = child o j := by
  have hindex : ∀ i, i < (pathParts o.objectName).length →
      folderPath (pathParts o.objectName) i = folderPath (pathParts o.objectName) j → i = j := by
    intro i _ heq
    rcases Nat.eq_zero_or_pos i with rfl | hi0
    · exact absurd heq.symm (folderPath_ne_root hroot hpos hj)
    · exact (take_of_folderPath hi0 (by omega) hpos (by omega) heq).1
  rcases h with rfl | ⟨i, -, hi, rfl⟩
  · have := hindex _ (by omega) hpath
    rcases child_cases hj with ⟨h, -⟩ | ⟨h, _⟩
    · exact h.symm
    · omega
  · have := hindex _ (by omega) hpath
    rcases child_cases hj with ⟨h, _⟩ | ⟨h, -⟩
    · omega
    · rw [h, show j + 1 = i by omega]

end

theorem getPrefixTree_eq_true_iff : getPrefixTree id rows path b = true ↔
    ∃ r ∈ rows, r.fullName = path ∧ r.bucketName = b ∧ r.isObject = false := by
  simp [getPrefixTree]

variable {j : Nat}

theorem getPrefixTree_of_mem (h : folderNode b parts j ∈ rows) :
    getPrefixTree id rows (folderPath parts j) b = true :=
  getPrefixTree_eq_true_iff.mpr ⟨_, h, rfl, rfl, rfl⟩

theorem getPrefixTreeCount_congr (hnodup : rows.Nodup) (hnodup' : rows'.Nodup)
    (h : ∀ r, r.pathName = path → (r ∈ rows' ↔ r ∈ rows)) :
    getPrefixTreeCount id rows' path b = getPrefixTreeCount id rows path b := by
  unfold getPrefixTreeCount
  rw [countP_eq_length_filter, countP_eq_length_filter]
  refine List.Perm.length_eq ((perm_ext_iff_of_nodup (hnodup'.filter _) (hnodup.filter _)).mpr
    fun r => ?_)
  rw [mem_filter, mem_filter]
  refine and_congr_left fun hr => h r (of_decide_eq_true hr).2

/-- A row of the folder is deleted. -/
theorem getPrefixTreeCount_delete (hnodup : rows.Nodup) (hnodup' : rows'.Nodup) (hc : c ∈ rows)
    (hc' : c ∉ rows') (hb : c.bucketName = b)
    (h : ∀ r, r.pathName = c.pathName → r ≠ c → (r ∈ rows' ↔ r ∈ rows)) :
    getPrefixTreeCount id rows c.pathName b = getPrefixTreeCount id rows' c.pathName b + 1 := by
  unfold getPrefixTreeCount
  rw [countP_eq_length_filter, countP_eq_length_filter, ← length_cons (a := c)]
  have hnot : c ∉ rows'.filter fun r => decide (r.bucketName = b ∧ r.pathName = c.pathName) :=
    fun hmem => hc' (mem_filter.mp hmem).1
  refine List.Perm.length_eq ((perm_ext_iff_of_nodup (hnodup.filter _)
    (nodup_cons.mpr ⟨hnot, hnodup'.filter _⟩)).mpr fun r => ?_)
  by_cases hrc : r = c
  · subst hrc
    simp [hc, hb]
  · simp only [mem_filter, mem_cons, hrc, false_or, decide_eq_true_eq]
    exact and_congr_left fun hr => (h r hr.2 hrc).symm

/-- There is no second row in a folder. -/
theorem getPrefixTreeCount_le_one_iff (hnodup : rows.Nodup) (hc : c ∈ rows) (hb : c.bucketName = b) :
    getPrefixTreeCount id rows c.pathName b ≤ 1 ↔
      ∀ r ∈ rows, r.bucketName = b → r.pathName = c.pathName → r = c := by
  have hmem : ∀ r, r ∈ rows.filter (· ≠ c) ↔ r ∈ rows ∧ r ≠ c := by
    intro _
    rw [mem_filter, decide_eq_true_eq]
  rw [getPrefixTreeCount_delete hnodup (hnodup.filter (· ≠ c)) hc (fun h => ((hmem c).mp h).2 rfl) hb
    fun r _ hrc => (hmem r).trans (and_iff_left hrc)]
  have hzero : getPrefixTreeCount id (rows.filter (· ≠ c)) c.pathName b + 1 ≤ 1 ↔
      getPrefixTreeCount id (rows.filter (· ≠ c)) c.pathName b = 0 := by omega
  rw [hzero, getPrefixTreeCount, countP_eq_zero]
  constructor
  · intro h r hr hrb hpath
    by_contra hrc
    exact h r ((hmem r).mpr ⟨hr, hrc⟩) (decide_eq_true ⟨hrb, hpath⟩)
  intro h r hr hq
  obtain ⟨hr, hrc⟩ := (hmem r).mp hr
  obtain ⟨hrb, hpath⟩ := of_decide_eq_true hq
  exact hrc (h r hr hrb hpath)

/-- Rows of a branch do not show in folders that the object does not go through. -/
theorem getPrefixTree_of_not_hasFolder (hchange : ∀ r, ¬ Branch o k r → (r ∈ rows' ↔ r ∈ rows))
    (hnot : ¬ HasFolder o.objectName path) : getPrefixTree id rows' path b = getPrefixTree id rows path b := by
  rw [Bool.eq_iff_iff, getPrefixTree_eq_true_iff, getPrefixTree_eq_true_iff]
  refine exists_congr fun r => and_congr_left fun ⟨hr, _, hfolder⟩ => hchange r fun hbranch => hnot ?_
  rcases hbranch with rfl | ⟨j, _, hj, rfl⟩
  · cases hfolder
  · exact ⟨j, by omega, hj, hr.symm⟩

theorem getPrefixTreeCount_of_not_hasFolder (hnodup : rows.Nodup) (hnodup' : rows'.Nodup)
    (hchange : ∀ r, ¬ Branch o k r → (r ∈ rows' ↔ r ∈ rows))
    (hk : k < (pathParts o.objectName).length) (hnot : ¬ HasFolder o.objectName path)
    (hpath : path ≠ ['/']) : getPrefixTreeCount id rows' path b = getPrefixTreeCount id rows path b := by
  refine getPrefixTreeCount_congr hnodup hnodup' fun r hr => hchange r fun hbranch => ?_
  obtain ⟨j, -, hj, hpathName⟩ := hbranch.pathName hk
  rw [hr] at hpathName
  rcases Nat.eq_zero_or_pos j with rfl | hpos
  · exact hpath hpathName
  · exact hnot ⟨j, hpos, hj, hpathName⟩

namespace Mirrors

variable (h : Mirrors rows live)
include h

theorem getPrefixTree_iff : getPrefixTree id rows path b = true ↔
    ∃ o ∈ live, o.bucketName = b ∧ HasFolder o.objectName path := by
  rw [getPrefixTree_eq_true_iff]
  constructor
  · rintro ⟨r, hr, rfl, rfl, hfolder⟩
    cases (h.mem_iff r).mp hr with
    | object => cases hfolder
    | folder ho hpos hlt => exact ⟨_, ho, rfl, _, hpos, hlt, rfl⟩
  · rintro ⟨_, ho, rfl, _, hpos, hlt, rfl⟩
    exact ⟨_, (h.mem_iff _).mpr (.folder ho hpos hlt), rfl, rfl, rfl⟩

/-- A folder has the folders above it. -/
theorem above (hk : 0 < k → getPrefixTree id rows (folderPath (pathParts n) k) b = true)
    (hk' : k ≤ (pathParts n).length) (hj : 0 < j) (hjk : j ≤ k) :
    folderNode b (pathParts n) j ∈ rows := by
  obtain ⟨_, ho, rfl, hfolder⟩ := h.getPrefixTree_iff.mp (hk (by omega))
  obtain ⟨_, htake⟩ := hfolder.take (by omega) hk'
  rw [folderNode_congr htake hj hjk]
  exact (h.mem_iff _).mpr (.folder ho hj (by omega))

/-- If the folder below has no other object, then the folder has no other row if and only if it has
no other object. -/
theorem count_le_one_iff_sole (ho : o ∈ live) (hroot : o.objectName.head? ≠ some '/') (hpos : 0 < j)
    (hj : j < (pathParts o.objectName).length)
    (hnext : j + 1 < (pathParts o.objectName).length → Sole live o (j + 1)) :
    getPrefixTreeCount id rows (folderPath (pathParts o.objectName) j) o.bucketName ≤ 1 ↔
      Sole live o j := by
  rw [← child_pathName hj, getPrefixTreeCount_le_one_iff h.nodup
    ((h.mem_iff _).mpr (inTree_child hj ho)) (child_bucketName hj)]
  have hne := folderPath_ne_root hroot hpos hj
  constructor
  · intro hone m hm hb hfolder
    obtain ⟨hlt, htake⟩ := hfolder.take hpos (by omega)
    have heq : child m j = child o j := by
      refine hone _ ((h.mem_iff _).mpr (inTree_child hlt hm)) ((child_bucketName hlt).trans hb) ?_
      rw [child_pathName hlt, child_pathName hj, folderPath, folderPath, htake]
    rcases child_cases hlt with ⟨hm', -⟩ | ⟨hm', hmlt⟩ <;>
      rcases child_cases hj with ⟨ho', -⟩ | ⟨ho', holt⟩ <;> rw [hm', ho'] at heq
    · exact objectNode_inj heq
    · cases congrArg (·.isObject) heq
    · cases congrArg (·.isObject) heq
    · exact hnext holt m hm hb ⟨j + 1, by omega, hmlt, (congrArg (·.fullName) heq).symm⟩
  · intro hsole r hr hb hpath
    rw [child_pathName hj] at hpath
    obtain ⟨m, hm, hmb, hbranch⟩ := ((h.mem_iff r).mp hr).branch
    obtain ⟨i, -, hi, hpathName⟩ := hbranch.pathName (length_pathParts_pos _)
    have hpos' : 0 < i := by
      refine Nat.pos_of_ne_zero fun hzero => hne ?_
      rw [← hpath, hpathName, hzero]
      rfl
    obtain rfl := hsole m hm (hmb.symm.trans hb) ⟨i, hpos', hi, hpath.symm.trans hpathName⟩
    exact hbranch.eq_child hj hroot hpos hpath

theorem add (hk : k < (pathParts o.objectName).length) (hnodup : rows'.Nodup)
    (hmem : ∀ r, r ∈ rows' ↔ r ∈ rows ∨ Branch o k r) (hpresent : 0 < k →
      getPrefixTree id rows (folderPath (pathParts o.objectName) k) o.bucketName = true) :
    Mirrors rows' (live ++ [o]) := by
  refine ⟨hnodup, fun r => ?_⟩
  rw [hmem, h.mem_iff]
  constructor
  · rintro (hr | rfl | ⟨_, _, hj, rfl⟩)
    · cases hr with
      | object ho => exact .object (mem_append_left _ ho)
      | folder ho hpos hlt => exact .folder (mem_append_left _ ho) hpos hlt
    · exact .object (mem_append_right _ (.head _))
    · exact .folder (mem_append_right _ (.head _)) (by omega) hj
  · intro hr
    cases hr with
    | object ho =>
      rcases mem_append.mp ho with ho | ho
      · exact .inl (.object ho)
      · rw [mem_singleton.mp ho]
        exact .inr (.inl rfl)
    | @folder _ ho i hpos hlt =>
      rcases mem_append.mp ho with ho | ho
      · exact .inl (.folder ho hpos hlt)
      rw [mem_singleton.mp ho] at hlt ⊢
      -- a folder that is not created was there
      by_cases hik : k < i
      · exact .inr (.inr ⟨i, hik, hlt, rfl⟩)
      · exact .inl ((h.mem_iff _).mp (h.above hpresent (by omega) hpos (by omega)))

variable (ho : o ∈ live) (hroot : o.objectName.head? ≠ some '/')
  (hunused : ∀ j, k < j → j < (pathParts o.objectName).length →
    getPrefixTreeCount id rows (folderPath (pathParts o.objectName) j) o.bucketName ≤ 1)
include ho hroot hunused

/-- From the deepest folder up, those with one row are the object's own. -/
theorem sole_of_count : ∀ j, k < j → j < (pathParts o.objectName).length → Sole live o j := by
  have hrest : ∀ d j, d = (pathParts o.objectName).length - j → k < j →
      j < (pathParts o.objectName).length → Sole live o j := by
    intro d
    induction d with
    | zero =>
      intro _ _ _ _
      omega
    | succ _ ih =>
      intro j _ hkj hlt
      exact (h.count_le_one_iff_sole ho hroot (by omega) hlt fun hnext =>
        ih (j + 1) (by omega) (by omega) hnext).mp (hunused j hkj hlt)
  exact fun j => hrest _ j rfl

theorem remove (hk : k < (pathParts o.objectName).length) (hnodup : rows'.Nodup)
    (hmem : ∀ r, r ∈ rows' ↔ r ∈ rows ∧ ¬ Branch o k r) (hused : 0 < k →
      1 < getPrefixTreeCount id rows (folderPath (pathParts o.objectName) k) o.bucketName) :
    Mirrors rows' (live.filter (· ≠ o)) := by
  have hsole := h.sole_of_count ho hroot hunused
  have hlive : ∀ m, m ∈ live.filter (· ≠ o) ↔ m ∈ live ∧ m ≠ o := by
    intro _
    rw [mem_filter, decide_eq_true_eq]
  refine ⟨hnodup, fun r => ?_⟩
  rw [hmem, h.mem_iff]
  constructor
  · rintro ⟨hr, hbranch⟩
    cases hr with
    | @object m hm =>
      refine .object ((hlive m).mpr ⟨hm, fun heq => hbranch (.inl ?_)⟩)
      rw [heq]
    | @folder m hm i hpos hlt =>
      by_cases heq : m = o
      · subst heq
        have hik : i ≤ k := by
          by_contra hik
          exact hbranch (.inr ⟨i, by omega, hlt, rfl⟩)
        -- the folder where the loop stops has another object
        have hother : ¬ Sole live m k := by
          intro hsolek
          have := (h.count_le_one_iff_sole ho hroot (by omega) hk fun hnext =>
            hsole (k + 1) (by omega) hnext).mpr hsolek
          omega
        simp only [Sole, not_forall] at hother
        obtain ⟨m', hm', hb, hfolder, hne⟩ := hother
        obtain ⟨_, htake⟩ := hfolder.take (by omega) (by omega)
        rw [folderNode_congr htake hpos hik, ← hb]
        exact .folder ((hlive m').mpr ⟨hm', hne⟩) hpos (by omega)
      · exact .folder ((hlive m).mpr ⟨hm, heq⟩) hpos hlt
  · intro hr
    cases hr with
    | @object m hm =>
      obtain ⟨hm, hne⟩ := (hlive m).mp hm
      refine ⟨.object hm, fun hbranch => hne ?_⟩
      rcases hbranch with heq | ⟨j, -, -, heq⟩
      · exact objectNode_inj heq
      · cases congrArg (·.isObject) heq
    | @folder m hm i hpos hlt =>
      obtain ⟨hm, hne⟩ := (hlive m).mp hm
      refine ⟨.folder hm hpos hlt, fun hbranch => hne ?_⟩
      rcases hbranch with heq | ⟨j, hkj, hj, heq⟩
      · cases congrArg (·.isObject) heq
      · exact hsole j hkj hj m hm (congrArg (·.bucketName) heq)
          ⟨i, hpos, hlt, (congrArg (·.fullName) heq).symm⟩

end Mirrors

end

/-! ## What the handlers answer -/

/-- The folder that a context entry is about. -/
def Key.folder? : Key → Option Name
  | .folderExist path | .folderCount path => some path
  | .objectExist _ => none

theorem Handler.bind_eq_some {α β : Type} {x : Handler α} {f : α → Handler β} {s s' : Session} {b : β}
    (h : (x >>= f) s = (some b, s')) : ∃ a s₁, x s = (some a, s₁) ∧ f a s₁ = (some b, s') := by
  change bind x f s = _ at h
  unfold bind at h
  split at h
  · exact ⟨_, _, ‹_›, h⟩
  · cases h

theorem getCtx_bind {β : Type} {key : Key} {f : Option Val → Handler β} {s : Session}
    {r : Option β × Session} (h : (getCtx key >>= f) s = r) : f (s.ctx key) s = r := h

theorem query_bind {α β : Type} {answer : α} {f : α → Handler β} {s s' : Session} {b : β}
    (h : (query answer >>= f) s = (some b, s')) : ∃ s₁, f answer s₁ = (some b, s') ∧ s₁.ctx = s.ctx := by
  obtain ⟨_, _, hquery, h⟩ := bind_eq_some h
  unfold query at hquery
  split at hquery
  · cases hquery
  · cases hquery
    exact ⟨_, h, rfl⟩

/-- The context's entry, or without one what is read, says what is current. -/
def Agrees {α : Type} (ctx : Key → Option Val) (key : Key) (Says : Val → α → Prop) (read current : α) :
    Prop :=
  (ctx key = none → read = current) ∧ ∀ val, ctx key = some val → Says val current

/-- They say whether a folder is in the current rows. -/
def Known (collate : Name → Name) (db rows : Rows) (ctx : Key → Option Val) (b : Nat) (path : Name) : Prop :=
  Agrees ctx (.folderExist path) (fun val found => val.int64? = none ∧ found = true)
    (getPrefixTree collate db path b) (getPrefixTree id rows path b)

/-- They say how many of the current rows are in the folder. -/
def Counted (collate : Name → Name) (db rows : Rows) (ctx : Key → Option Val) (b : Nat) (path : Name) : Prop :=
  Agrees ctx (.folderCount path) (fun val (count : Nat) => val = .int64 count)
    (getPrefixTreeCount collate db path b) (getPrefixTreeCount id rows path b)

section

variable {db rows : Rows} {b : Nat} {path n : Name} {s s' : Session}

theorem checkFolder_spec {answer : Option Bool} (hknown : Known collate db rows s.ctx b path)
    (h : checkFolder collate db b path s = (some answer, s')) :
    (answer = none ∧ getPrefixTree id rows path b = true ∧ s'.ctx = s.ctx) ∨
    (answer = some true ∧ getPrefixTree id rows path b = false ∧
      s'.ctx = update s.ctx (.folderExist path) (some (.int 1))) := by
  replace h := getCtx_bind h
  cases hval : s.ctx (.folderExist path) with
  | none =>
    rw [hval] at h
    obtain ⟨_, h, hctx⟩ := query_bind h
    rw [hknown.1 hval] at h
    cases hfound : getPrefixTree id rows path b with
    | true =>
      rw [hfound] at h
      cases h
      exact .inl ⟨rfl, rfl, hctx⟩
    | false =>
      rw [hfound] at h
      cases h
      exact .inr ⟨rfl, rfl, congrArg (update · _ _) hctx⟩
  | some val =>
    rw [hval] at h
    obtain ⟨hint, hfound⟩ := hknown.2 val hval
    simp only [hint] at h
    cases h
    exact .inl ⟨rfl, hfound, rfl⟩

/-- The count is changed at the folder alone. -/
theorem addToCount_frame {u : Unit} (h : addToCount collate db b path s = (some u, s')) {key : Key}
    (hkey : key ≠ .folderCount path) : s'.ctx key = s.ctx key := by
  replace h := getCtx_bind h
  cases hval : s.ctx (.folderCount path) with
  | none =>
    rw [hval] at h
    obtain ⟨_, h, hctx⟩ := query_bind h
    cases h
    exact (update_of_ne hkey _ _).trans (congrFun hctx key)
  | some val =>
    rw [hval] at h
    cases hint : val.int64? with
    | none =>
      simp only [hint] at h
      cases h
      rfl
    | some =>
      simp only [hint] at h
      cases h
      exact update_of_ne hkey _ _

theorem takeFromCount_spec {count : Int} (hcounted : Counted collate db rows s.ctx b path)
    (h : takeFromCount collate db b path s = (some count, s')) : count = getPrefixTreeCount id rows path b ∧
      s'.ctx = update s.ctx (.folderCount path) (some (.int64 (count - 1))) := by
  replace h := getCtx_bind h
  cases hval : s.ctx (.folderCount path) with
  | none =>
    rw [hval] at h
    obtain ⟨_, h, hctx⟩ := query_bind h
    rw [hcounted.1 hval] at h
    cases h
    exact ⟨rfl, congrArg (update · _ _) hctx⟩
  | some val =>
    rw [hval] at h
    rw [hcounted.2 val hval] at h
    cases h
    exact ⟨rfl, rfl⟩

section

variable {α : Type} {key : Key} {Says : Val → α → Prop} {read current current' : α}

theorem Agrees.congr (h : Agrees ctx key Says read current) (hctx : ctx' key = ctx key)
    (heq : current' = current) : Agrees ctx' key Says read current' := by
  rw [Agrees, hctx, heq]
  exact h

theorem agrees_of_some {val : Val} (hval : ctx key = some val) (h : Says val current) :
    Agrees ctx key Says read current := by
  simp [Agrees, hval, h]

end

/-- A loop over the first `i` folders of a name, from the deepest up, goes on until the `k`th, with an
`f` for each one before, and has an entry for each folder whose keys it changes. -/
structure Walk {α : Type} (n : Name) (f : Nat → α) (Stop : Nat → Prop) (key : Name → Key)
    (val : Nat → Val) (d k i : Nat) (ctx ctx' : Key → Option Val) (nodes : List α) : Prop where
  le : k ≤ i
  stop : 0 < k → Stop k
  go : ∀ j, k < j → j ≤ i → ¬ Stop j
  nodes : nodes = (range' (k + 1) (i - k)).reverse.map f
  entry : ∀ j, k - d < j → j ≤ i → ctx' (key (folderPath (pathParts n) j)) = some (val j)
  frame : ∀ key : Key, (∀ j, k - d < j → j ≤ i → key.folder? ≠ folderPath (pathParts n) j) →
    ctx' key = ctx key

section

variable {α : Type} {f : Nat → α} {Stop : Nat → Prop} {key : Name → Key} {val : Nat → Val} {d : Nat}
  {ctx₁ : Key → Option Val} {nodes : List α}

theorem walk_stop (h : 0 < i → Stop i)
    (hentry : ∀ j, i - d < j → j ≤ i → ctx' (key (folderPath (pathParts n) j)) = some (val j))
    (hframe : ∀ key : Key, (∀ j, i - d < j → j ≤ i → key.folder? ≠ folderPath (pathParts n) j) →
      ctx' key = ctx key) : Walk n f Stop key val d i i ctx ctx' [] := by
  refine ⟨.refl, h, fun j h h' => absurd h (by omega), ?_, hentry, hframe⟩
  rw [Nat.sub_self]
  rfl

theorem Walk.succ (h : Walk n f Stop key val d k i ctx₁ ctx' nodes)
    (hi : i + 1 < (pathParts n).length) (hkey : ∀ path, (key path).folder? = some path)
    (hgo : ¬ Stop (i + 1)) (hbefore : ∀ key : Key, key.folder? ≠ folderPath (pathParts n) (i + 1) →
      ctx₁ key = ctx key)
    (hentry : ctx₁ (key (folderPath (pathParts n) (i + 1))) = some (val (i + 1))) :
    Walk n f Stop key val d k (i + 1) ctx ctx' (f (i + 1) :: nodes) := by
  have hki := h.le
  refine ⟨by omega, h.stop, fun j hkj hji => ?_, ?_, fun j hkj hji => ?_, fun key hk => ?_⟩
  · rcases Nat.lt_or_eq_of_le hji with hlt | rfl
    · exact h.go j hkj (by omega)
    · exact hgo
  · rw [h.nodes, show i + 1 - k = i - k + 1 by omega, range'_concat, reverse_append,
      show k + 1 + 1 * (i - k) = i + 1 by omega]
    rfl
  · rcases Nat.lt_or_eq_of_le hji with hlt | rfl
    · exact h.entry j hkj (by omega)
    · rw [h.frame, hentry]
      intro _ _ _ heq
      exact folderPath_ne (by omega) (by omega) (by omega) (heq.symm.trans (hkey _))
  · rw [h.frame key fun j hkj hji => hk j hkj (by omega)]
    exact hbefore key (hk (i + 1) (by omega) .refl)

/-- The keys of folders that the name does not go through are as before. -/
theorem Walk.frame_of_not_hasFolder (h : Walk n f Stop key val d k i ctx ctx' nodes)
    (hi : i < (pathParts n).length) (hnot : ¬ HasFolder n path) {key : Key}
    (hkey : key.folder? = some path) : ctx' key = ctx key :=
  h.frame key fun j hj hji heq =>
    hnot ⟨j, by omega, by omega, Option.some.inj (hkey.symm.trans heq)⟩

theorem Walk.mem_nodes (h : Walk n f Stop key val d k i ctx ctx' nodes) (r : α) :
    r ∈ nodes ↔ ∃ j, k < j ∧ j ≤ i ∧ r = f j := by
  rw [h.nodes, mem_map]
  refine exists_congr fun j => ?_
  rw [mem_reverse, mem_range'_1]
  constructor
  · rintro ⟨_, rfl⟩
    exact ⟨by omega, by omega, rfl⟩
  · rintro ⟨_, _, rfl⟩
    exact ⟨by omega, rfl⟩

end

/-- Of the first `i` folders those beyond the `k`th are created. -/
def Grows (rows : Rows) (b : Nat) (n : Name) :=
  Walk n (folderNode b (pathParts n))
    (fun j => getPrefixTree id rows (folderPath (pathParts n) j) b = true) .folderExist (fun _ => .int 1) 0

theorem createFolders_spec (hi : i < (pathParts n).length)
    (hknown : ∀ j, 0 < j → j ≤ i → Known collate db rows s.ctx b (folderPath (pathParts n) j))
    (h : createFolders collate db b (pathParts n) i s = (some nodes, s')) :
    ∃ k, Grows rows b n k i s.ctx s'.ctx nodes := by
  induction i generalizing s nodes with
  | zero =>
    cases h
    exact ⟨0, walk_stop (fun hk => absurd hk (by omega)) (fun j h h' => absurd h (by omega))
      fun _ _ => rfl⟩
  | succ i ih =>
    obtain ⟨_, _, hcheck, h⟩ := bind_eq_some h
    rcases checkFolder_spec (hknown (i + 1) (by omega) (by omega)) hcheck with
      ⟨rfl, hpresent, hctx⟩ | ⟨rfl, hmissing, hctx⟩
    · cases h
      exact ⟨i + 1, walk_stop (fun _ => hpresent) (fun j h h' => absurd h (by omega))
        fun key _ => congrFun hctx key⟩
    obtain ⟨_, s₂, hadd, h⟩ := bind_eq_some h
    obtain ⟨_, _, hrest, h⟩ := bind_eq_some h
    cases h
    -- the folder's own keys are all that has changed when the loop goes on
    have hbefore : ∀ key : Key, key.folder? ≠ folderPath (pathParts n) (i + 1) →
        s₂.ctx key = s.ctx key := by
      intro _ hkey
      rw [addToCount_frame hadd (by rintro rfl; exact hkey rfl), hctx,
        update_of_ne (by rintro rfl; exact hkey rfl)]
    obtain ⟨k, hgrows⟩ := ih (by omega) (fun j hj hji => (hknown j hj (by omega)).congr
      (hbefore _ (folderPath_ne hj (by omega) (by omega))) rfl) hrest
    refine ⟨k, hgrows.succ hi (fun _ => rfl) (by simp [hmissing]) hbefore ?_⟩
    rw [addToCount_frame hadd (by simp), hctx, update_self]

/-- Of the first `i` folders those beyond the `k`th are deleted. -/
def Shrinks (rows : Rows) (b : Nat) (n : Name) :=
  Walk n (fun j => (⟨b, folderPath (pathParts n) j, false⟩ : Selector))
    (fun j => 1 < getPrefixTreeCount id rows (folderPath (pathParts n) j) b) .folderCount
    (fun j => .int64 ((getPrefixTreeCount id rows (folderPath (pathParts n) j) b : Int) - 1)) 1

theorem deleteFolders_spec {nodes : List Selector} (hi : i < (pathParts n).length)
    (hcounted : ∀ j, 0 < j → j ≤ i → Counted collate db rows s.ctx b (folderPath (pathParts n) j))
    (h : deleteFolders collate db b (pathParts n) i s = (some nodes, s')) :
    ∃ k, Shrinks rows b n k i s.ctx s'.ctx nodes := by
  induction i generalizing s nodes with
  | zero =>
    cases h
    exact ⟨0, walk_stop (fun hk => absurd hk (by omega)) (fun j h h' => absurd h (by omega))
      fun _ _ => rfl⟩
  | succ i ih =>
    obtain ⟨_, s₁, htake, h⟩ := bind_eq_some h
    obtain ⟨rfl, hctx⟩ := takeFromCount_spec (hcounted (i + 1) (by omega) (by omega)) htake
    by_cases hle : getPrefixTreeCount id rows (folderPath (pathParts n) (i + 1)) b ≤ 1
    · rw [if_pos (by omega)] at h
      obtain ⟨_, s₂, hset, hgo⟩ := bind_eq_some h
      obtain ⟨_, _, hrest, ⟨⟩⟩ := bind_eq_some hgo
      have hctx₂ : s₂.ctx = update s₁.ctx (.folderExist (folderPath (pathParts n) (i + 1)))
          (some (.int 0)) := by
        cases hset
        rfl
      have hbefore : ∀ key : Key, key.folder? ≠ folderPath (pathParts n) (i + 1) →
          s₂.ctx key = s.ctx key := by
        intro _ hkey
        rw [hctx₂, update_of_ne (by rintro rfl; exact hkey rfl), hctx,
          update_of_ne (by rintro rfl; exact hkey rfl)]
      obtain ⟨k, hshrinks⟩ := ih (by omega) (fun j hj hji => (hcounted j hj (by omega)).congr
        (hbefore _ (folderPath_ne hj (by omega) (by omega))) rfl) hrest
      refine ⟨k, hshrinks.succ hi (fun _ => rfl) (Nat.not_lt.mpr hle) hbefore ?_⟩
      rw [hctx₂, update_of_ne (by simp), hctx, update_self]
    · rw [if_neg (by omega)] at h
      cases h
      refine ⟨i + 1, walk_stop (fun _ => Nat.not_le.mp hle) (fun j hkj hji => ?_) fun key hkey => ?_⟩
      · obtain rfl : j = i + 1 := by omega
        rw [hctx, update_self]
      · rw [hctx, update_of_ne]
        rintro rfl
        exact hkey (i + 1) (by omega) .refl rfl

end

/-! ## Blocks -/

structure Objects.WellFormed (c : Objects) : Prop where
  ids : ∀ o ∈ c.live, o.objectID < c.nextObjectID
  names : ∀ o ∈ c.live, ∀ o' ∈ c.live, o.bucketName = o'.bucketName →
    o.objectName = o'.objectName → o = o'
  pos : 0 < c.nextObjectID

theorem Objects.WellFormed.step {c c' : Objects} {e : Event} (h : c.WellFormed)
    (hstep : c.step e = some c') : c'.WellFormed := by
  unfold Objects.step at hstep
  split at hstep
  · obtain ⟨⟨_, hname⟩, ⟨⟩⟩ := Option.ite_none_right_eq_some.mp hstep
    refine ⟨fun o ho => ?_, fun o ho o' ho' hb hn => ?_, Nat.succ_pos _⟩
    · rcases mem_append.mp ho with ho | ho
      · have := h.ids o ho
        exact Nat.lt_succ_of_lt (by omega)
      · rw [mem_singleton.mp ho]
        exact .refl
    · rcases mem_append.mp ho with ho | ho <;> rcases mem_append.mp ho' with ho' | ho'
      · exact h.names o ho o' ho' hb hn
      · rw [mem_singleton.mp ho'] at hb hn
        exact absurd ⟨hb, hn⟩ (hname o ho)
      · rw [mem_singleton.mp ho] at hb hn
        exact absurd ⟨hb.symm, hn.symm⟩ (hname o' ho')
      · rw [mem_singleton.mp ho, mem_singleton.mp ho']
  · obtain ⟨-, heq⟩ := Option.ite_none_right_eq_some.mp hstep
    split at heq
    · cases heq
      exact h
    · cases heq
      exact ⟨fun o ho => h.ids o (mem_filter.mp ho).1, fun o ho o' ho' =>
        h.names o (mem_filter.mp ho).1 o' (mem_filter.mp ho').1, h.pos⟩

/-- In the course of a block: the rows that the statements so far lead to are those for the objects,
and the context makes up for the rows that are read. -/
structure Tracks (collate : Name → Name) (objects : List LiveObject) (db rows : Rows)
    (ctx : Key → Option Val) (past : List Event) (c : Objects) : Prop where
  mirrors : Mirrors rows c.live
  wellFormed : c.WellFormed
  live : c.live ⊆ objects
  created : ∀ b path, Named objects b path → (∀ e ∈ past, HasFolder e.objectName path →
    e.bucketName = b ∧ e.kind.creates = true) → Known collate db rows ctx b path
  removed : ∀ b path, Named objects b path → path ≠ ['/'] → (∀ e ∈ past, HasFolder e.objectName path →
    e.bucketName = b ∧ e.kind.creates = false) → Counted collate db rows ctx b path
  fresh : ∀ id, c.nextObjectID ≤ id → ctx (.objectExist id) = none ∧ getPrefixTreeObject db id = false

section

variable {db rows : Rows} {s s' : Session} {past : List Event} {c c' : Objects} {e : Event}
  {o : LiveObject} {stmts : List Stmt}

theorem Grows.nodup {n : Name} (h : Grows rows b n k i ctx ctx' nodes) (hi : i < (pathParts n).length) :
    nodes.Nodup := by
  rw [h.nodes]
  refine List.Nodup.map_on (fun j hj j' hj' heq => ?_) (nodup_reverse.mpr nodup_range')
  rw [mem_reverse, mem_range'_1] at hj hj'
  exact (take_of_folderPath (by omega) (by omega) (by omega) (by omega) (congrArg (·.fullName) heq)).1

/-- The statement adds the branch of the object, beyond the last folder that is there. -/
theorem Tracks.create_rows (h : Tracks collate objects db rows s.ctx past c) (hid : c.nextObjectID ≤ o.objectID)
    (hknown : ∀ path, HasFolder o.objectName path → Known collate db rows s.ctx o.bucketName path)
    (hrun : handleCreateObject collate db o.bucketName o.objectName o.objectID s = (some stmts, s')) :
    ∃ k nodes ctx₁, Grows rows o.bucketName o.objectName k ((pathParts o.objectName).length - 1)
        s.ctx ctx₁ nodes ∧
      s'.ctx = update ctx₁ (.objectExist o.objectID) (some (.int 1)) ∧
      (stmts.foldl (exec collate) rows).Nodup ∧
      ∀ r, r ∈ stmts.foldl (exec collate) rows ↔ r ∈ rows ∨ Branch o k r := by
  have hlen := length_pathParts_pos o.objectName
  obtain ⟨folders, s₁, hfolders, hrest⟩ := bind_eq_some hrun
  obtain ⟨_, _, hcheck, hend⟩ := bind_eq_some hrest
  obtain ⟨k, hgrows⟩ := createFolders_spec (by omega) (fun j hj hji =>
    hknown _ ⟨j, hj, by omega, rfl⟩) hfolders
  -- the object is new to the context and to the rows
  replace hcheck := getCtx_bind hcheck
  rw [hgrows.frame _ (by simp [folder?]), (h.fresh _ hid).1] at hcheck
  obtain ⟨_, hcheck, hctx⟩ := query_bind hcheck
  rw [(h.fresh _ hid).2] at hcheck
  cases hcheck
  cases hend
  have hnew : ∀ r, r ∈ folders ++ [objectNode o.bucketName o.objectName o.objectID] ↔ Branch o k r := by
    intro _
    rw [mem_append, mem_singleton, hgrows.mem_nodes, or_comm]
    refine or_congr_right (exists_congr fun j => and_congr_right fun _ => and_congr_left fun _ => ?_)
    omega
  refine ⟨k, folders, s₁.ctx, hgrows, congrArg (update · _ _) hctx, ?_⟩
  rw [if_pos rfl, if_neg (by simp)]
  refine ⟨nodup_append.mpr ⟨h.mirrors.nodup, nodup_append.mpr
    ⟨hgrows.nodup (by omega), nodup_singleton _, fun r hr r' hr' heq => ?_⟩, fun r hr r' hr' heq => ?_⟩,
    fun r => mem_append.trans (or_congr_right (hnew r))⟩
  · subst heq
    obtain ⟨_, -, -, rfl⟩ := (hgrows.mem_nodes r).mp hr
    cases congrArg (·.isObject) (mem_singleton.mp hr')
  · subst heq
    rcases (hnew r).mp hr' with rfl | ⟨j, hkj, _, rfl⟩
    · generalize hnode : objectNode o.bucketName o.objectName o.objectID = r at hr
      cases (h.mirrors.mem_iff r).mp hr with
      | @object o' ho =>
        have hlt := h.wellFormed.ids o' ho
        have heq : o.objectID = o'.objectID := congrArg (·.objectID) hnode
        omega
      | folder => cases congrArg (·.isObject) hnode
    · exact hgrows.go j hkj (by omega) (getPrefixTree_of_mem hr)

/-- The statement deletes the branch of the object, beyond the last folder that has another row. -/
theorem Tracks.delete_rows (h : Tracks collate objects db rows s.ctx past c)
    (hcol : TellsApart collate objects) (ho : o ∈ c.live)
    (hcounted : ∀ path, HasFolder o.objectName path → Counted collate db rows s.ctx o.bucketName path)
    (hrun : deleteObject collate db o.bucketName o.objectName o.objectID s = (some stmts, s')) :
    ∃ k nodes ctx₁, Shrinks rows o.bucketName o.objectName k ((pathParts o.objectName).length - 1)
        s.ctx ctx₁ nodes ∧
      s'.ctx = update ctx₁ (.objectExist o.objectID) (some (.int 0)) ∧
      (stmts.foldl (exec collate) rows).Nodup ∧
      ∀ r, r ∈ stmts.foldl (exec collate) rows ↔ r ∈ rows ∧ ¬ Branch o k r := by
  have hlen := length_pathParts_pos o.objectName
  obtain ⟨folders, s₁, hfolders, hrest⟩ := bind_eq_some hrun
  obtain ⟨_, _, hset, hend⟩ := bind_eq_some hrest
  obtain ⟨k, hshrinks⟩ := deleteFolders_spec (by omega) (fun j hj hji =>
    hcounted _ ⟨j, hj, by omega, rfl⟩) hfolders
  refine ⟨k, folders, s₁.ctx, hshrinks, ?_, ?_, fun r => ?_⟩
  · cases hend
    cases hset
    rfl
  · cases hend
    exact h.mirrors.nodup.filter _
  cases hend
  change r ∈ rows.filter _ ↔ _
  rw [mem_filter, decide_eq_true_eq]
  refine and_congr_right fun hr => ⟨fun hkept hbranch => ?_, fun hbranch sel hsel hselects => ?_⟩
  · rcases hbranch with rfl | ⟨j, hkj, hj, rfl⟩
    · exact hkept _ (.head _) ⟨rfl, rfl, rfl⟩
    · have hsel := (hshrinks.mem_nodes _).mpr ⟨j, hkj, by omega, rfl⟩
      exact hkept _ (.tail _ hsel) ⟨rfl, rfl, rfl⟩
  · obtain ⟨hb, hname, hobject⟩ := hselects
    have hnamed := (((h.mirrors.mem_iff r).mp hr).named h.live).1
    rw [hb] at hnamed
    rcases mem_cons.mp hsel with rfl | hsel
    · have hname := hcol _ _ _ hnamed (.inr ⟨o, h.live ho, rfl, .inl rfl⟩) hname
      cases (h.mirrors.mem_iff r).mp hr with
      | @object o' ho' =>
        obtain rfl : o' = o := h.wellFormed.names o' ho' _ ho hb hname
        exact hbranch (.inl rfl)
      | folder => cases hobject
    · obtain ⟨j, hkj, _, rfl⟩ := (hshrinks.mem_nodes sel).mp hsel
      have hname := hcol _ _ _ hnamed
        (.inr ⟨o, h.live ho, rfl, .inr ⟨j, by omega, by omega, rfl⟩⟩) hname
      cases (h.mirrors.mem_iff r).mp hr with
      | object => cases hobject
      | @folder o' _ _ hpos =>
        refine hbranch (.inr ⟨j, hkj, by omega, ?_⟩)
        obtain ⟨rfl, htake⟩ := take_of_folderPath hpos (by omega) (by omega) (by omega) hname
        rw [show o'.bucketName = o.bucketName from hb]
        exact folderNode_congr htake hpos .refl

/-- An event of the one kind has no folder that only events of the other kind may have. -/
theorem not_hasFolder_of_past {path : Name} {creates : Bool} (hcreates : e.kind.creates ≠ creates)
    (hpast : ∀ e' ∈ past ++ [e], HasFolder e'.objectName path →
      e'.bucketName = b ∧ e'.kind.creates = creates) : ¬ HasFolder e.objectName path :=
  fun hfolder => hcreates (hpast e (mem_append_right _ (.head _)) hfolder).2

section
variable (h : Tracks collate objects db rows s.ctx past c)
include h

section
variable (hapart : ∀ e' ∈ past, ∀ path, HasFolder e.objectName path → HasFolder e'.objectName path →
      e'.bucketName = e.bucketName ∧ e'.kind.creates = e.kind.creates)
include hapart

theorem Tracks.create (he : e.object ∈ objects) (hstep : c.step e = some c')
    (hcreates : e.kind.creates = true)
    (hrun : handleCreateObject collate db e.bucketName e.objectName e.objectID s = (some stmts, s')) :
    Tracks collate objects db (stmts.foldl (exec collate) rows) s'.ctx (past ++ [e]) c' := by
  have hwellFormed := h.wellFormed.step hstep
  rw [Objects.step, if_pos hcreates] at hstep
  obtain ⟨⟨hid, -⟩, ⟨⟩⟩ := Option.ite_none_right_eq_some.mp hstep
  have hlen := length_pathParts_pos e.object.objectName
  obtain ⟨k, nodes, ctx₁, hgrows, hctx, hnodup, hmem⟩ := h.create_rows (o := e.object) hid (fun path hpath =>
    h.created _ _ (.inr ⟨_, he, rfl, .inr hpath⟩) fun e' he' hpath' => by
      obtain ⟨hb, hkind⟩ := hapart e' he' path hpath hpath'
      exact ⟨hb, hkind.trans hcreates⟩) hrun
  have hk := hgrows.le
  have hchange : ∀ r, ¬ Branch e.object k r → (r ∈ stmts.foldl (exec collate) rows ↔ r ∈ rows) :=
    fun r hr => (hmem r).trans (or_iff_left hr)
  have hexist : ∀ path, s'.ctx (.folderExist path) = ctx₁ (.folderExist path) := by
    intro _
    rw [hctx, update_of_ne (by simp)]
  refine ⟨h.mirrors.add (by omega) hnodup hmem hgrows.stop, hwellFormed,
    append_subset.mpr ⟨h.live, fun _ ho => mem_singleton.mp ho ▸ he⟩, fun b path hnamed hpast => ?_,
    fun b path hnamed hpath hpast => ?_, fun id hnext => ?_⟩
  · have hold := h.created b path hnamed fun e' he' => hpast e' (mem_append_left _ he')
    by_cases hfolder : HasFolder e.object.objectName path
    · obtain ⟨rfl, -⟩ := hpast e (mem_append_right _ (.head _)) hfolder
      obtain ⟨j, hj, hjlen, rfl⟩ := hfolder
      by_cases hkj : k < j
      · -- a folder that this event creates
        exact agrees_of_some ((hexist _).trans (hgrows.entry j hkj (by omega)))
          ⟨rfl, getPrefixTree_of_mem ((hmem _).mpr (.inr (.inr ⟨j, hkj, hjlen, rfl⟩)))⟩
      -- a folder that was there
      have hthere := h.mirrors.above hgrows.stop (by omega) hj (by omega)
      refine hold.congr ((hexist _).trans (hgrows.frame _ fun i hki hilen => ?_)) ?_
      · exact folderPath_ne hj (by omega) (by omega)
      · exact (getPrefixTree_of_mem ((hmem _).mpr (.inl hthere))).trans (getPrefixTree_of_mem hthere).symm
    · exact hold.congr ((hexist path).trans (hgrows.frame_of_not_hasFolder (by omega) hfolder rfl))
        (getPrefixTree_of_not_hasFolder hchange hfolder)
  · have hfolder : ¬ HasFolder e.object.objectName path := not_hasFolder_of_past (by simp [hcreates]) hpast
    refine (h.removed b path hnamed hpath fun e' he' => hpast e' (mem_append_left _ he')).congr ?_
      (getPrefixTreeCount_of_not_hasFolder h.mirrors.nodup hnodup hchange (by omega) hfolder hpath)
    rw [hctx, update_of_ne (by simp), hgrows.frame_of_not_hasFolder (by omega) hfolder rfl]
  · change e.objectID < id at hnext
    obtain ⟨hnone, hdb⟩ := h.fresh id (by omega)
    refine ⟨?_, hdb⟩
    rw [hctx, update_of_ne (fun heq => ?_), hgrows.frame _ (by simp [folder?])]
    · exact hnone
    · exact Nat.ne_of_gt hnext (objectExist.inj heq)

theorem Tracks.delete (hcol : TellsApart collate objects) (he : e.object ∈ c.live)
    (hcreates : e.kind.creates = false) (hroot : e.objectName.head? ≠ some '/')
    (hwellFormed : (⟨c.live.filter (· ≠ e.object), c.nextObjectID⟩ : Objects).WellFormed)
    (hrun : deleteObject collate db e.bucketName e.objectName e.objectID s = (some stmts, s')) :
    Tracks collate objects db (stmts.foldl (exec collate) rows) s'.ctx (past ++ [e])
      ⟨c.live.filter (· ≠ e.object), c.nextObjectID⟩ := by
  have hlen := length_pathParts_pos e.object.objectName
  have hne : ∀ path, HasFolder e.objectName path → path ≠ ['/'] := by
    rintro _ ⟨_, hj, hjlen, rfl⟩
    exact folderPath_ne_root hroot hj hjlen
  obtain ⟨k, _, ctx₁, hshrinks, hctx, hnodup, hmem⟩ := h.delete_rows hcol he (fun path hpath =>
    h.removed _ _ (.inr ⟨_, h.live he, rfl, .inr hpath⟩) (hne path hpath) fun e' he' hpath' => by
      obtain ⟨hb, hkind⟩ := hapart e' he' path hpath hpath'
      exact ⟨hb, hkind.trans hcreates⟩) hrun
  have hle := hshrinks.le
  have hk : k < (pathParts e.object.objectName).length := by omega
  have hchange : ∀ r, ¬ Branch e.object k r → (r ∈ stmts.foldl (exec collate) rows ↔ r ∈ rows) :=
    fun r hr => (hmem r).trans (and_iff_left hr)
  have hcount : ∀ path, s'.ctx (.folderCount path) = ctx₁ (.folderCount path) := by
    intro _
    rw [hctx, update_of_ne (by simp)]
  refine ⟨h.mirrors.remove he hroot (fun j hkj hj => Nat.not_lt.mp (hshrinks.go j hkj (by omega))) hk
    hnodup hmem hshrinks.stop, hwellFormed, fun _ ho => h.live (mem_filter.mp ho).1,
    fun b path hnamed hpast => ?_, fun b path hnamed hpath hpast => ?_, fun id hnext => ?_⟩
  · have hfolder : ¬ HasFolder e.object.objectName path := not_hasFolder_of_past (by simp [hcreates]) hpast
    refine (h.created b path hnamed fun e' he' => hpast e' (mem_append_left _ he')).congr ?_
      (getPrefixTree_of_not_hasFolder hchange hfolder)
    rw [hctx, update_of_ne (by simp), hshrinks.frame_of_not_hasFolder (by omega) hfolder rfl]
  · have hold := h.removed b path hnamed hpath fun e' he' => hpast e' (mem_append_left _ he')
    by_cases hfolder : HasFolder e.object.objectName path
    · obtain ⟨rfl, -⟩ := hpast e (mem_append_right _ (.head _)) hfolder
      obtain ⟨j, hj, hjlen, rfl⟩ := hfolder
      by_cases hkj : k ≤ j
      · -- one row of the folder is deleted, and the context has one less
        have hval := (hcount _).trans (hshrinks.entry j (by omega) (by omega))
        have hless := getPrefixTreeCount_delete h.mirrors.nodup hnodup
          ((h.mirrors.mem_iff _).mpr (inTree_child hjlen he))
          (fun hin => ((hmem _).mp hin).2 (branch_child hjlen hkj)) (child_bucketName hjlen)
          fun r hr hrc => hchange r fun hbranch =>
            hrc (hbranch.eq_child hjlen hroot hj (hr.trans (child_pathName hjlen)))
        rw [child_pathName hjlen] at hless
        refine agrees_of_some hval (congrArg Val.int64 ?_)
        rw [hless, Int.natCast_succ]
        exact Int.add_sub_cancel _ 1
      · -- the loop has stopped below the folder
        refine hold.congr ((hcount _).trans (hshrinks.frame _ fun i hki hilen => ?_)) ?_
        · exact folderPath_ne hj (by omega) (by omega)
        · refine getPrefixTreeCount_congr h.mirrors.nodup hnodup fun r hr => hchange r fun hbranch => ?_
          obtain ⟨_, _, _, hpathName⟩ := hbranch.pathName hk
          exact folderPath_ne hj (by omega) (by omega) (congrArg some (hr.symm.trans hpathName))
    · exact hold.congr ((hcount path).trans (hshrinks.frame_of_not_hasFolder (by omega) hfolder rfl))
        (getPrefixTreeCount_of_not_hasFolder h.mirrors.nodup hnodup hchange hk hfolder hpath)
  · obtain ⟨hnone, hdb⟩ := h.fresh id hnext
    have hlt : e.objectID < c.nextObjectID := h.wellFormed.ids _ he
    refine ⟨?_, hdb⟩
    rw [hctx, update_of_ne (fun heq => ?_), hshrinks.frame _ (by simp [folder?])]
    · exact hnone
    · exact Nat.ne_of_gt (Nat.lt_of_lt_of_le hlt hnext) (objectExist.inj heq)

theorem Tracks.step (hcol : TellsApart collate objects) (he : e.object ∈ objects)
    (hstep : c.step e = some c') (hrejected : e.kind ≠ .rejectSealObject true)
    (hrooted : e.kind.creates = false → e.objectName.head? ≠ some '/')
    (hrun : extractEventStatements collate db e s = (some stmts, s')) :
    Tracks collate objects db (stmts.foldl (exec collate) rows) s'.ctx (past ++ [e]) c' := by
  have hextract : extractEventStatements collate db e =
      if e.kind.creates then handleCreateObject collate db e.bucketName e.objectName e.objectID
      else deleteObject collate db e.bucketName e.objectName e.objectID := by
    unfold extractEventStatements
    cases e.kind <;> rfl
  rw [hextract] at hrun
  cases hcreates : e.kind.creates with
  | true =>
    rw [hcreates, if_pos rfl] at hrun
    exact h.create hapart he hstep hcreates hrun
  | false =>
    rw [hcreates, if_neg Bool.false_ne_true] at hrun
    have hwellFormed := h.wellFormed.step hstep
    rw [Objects.step, hcreates, if_neg Bool.false_ne_true, if_neg hrejected] at hstep
    obtain ⟨he, ⟨⟩⟩ := Option.ite_none_right_eq_some.mp hstep
    exact h.delete hapart hcol he hcreates (hrooted hcreates) hwellFormed hrun

end

/-- The events of a block are handled one after another, each with those before it in the past. -/
theorem Tracks.exportEvents {events : List Event} (hcol : TellsApart collate objects)
    (hevents : events.map Event.object ⊆ objects) (hrunChain : c.run events = some c')
    (hapart : ∀ e ∈ past ++ events, ∀ e' ∈ past ++ events, ∀ path, HasFolder e.objectName path →
      HasFolder e'.objectName path → e.bucketName = e'.bucketName ∧ e.kind.creates = e'.kind.creates)
    (hrejected : ∀ e ∈ events, e.kind ≠ .rejectSealObject true)
    (hrooted : ∀ e ∈ events, e.kind.creates = false → e.objectName.head? ≠ some '/')
    (hrun : PrefixTree.exportEvents collate db events s = (some stmts, s')) :
    Mirrors (stmts.foldl (exec collate) rows) c'.live ∧ c'.WellFormed := by
  induction events generalizing rows s past c stmts with
  | nil =>
    cases hrunChain
    cases hrun
    exact ⟨h.mirrors, h.wellFormed⟩
  | cons e _ ih =>
    obtain ⟨_, hstep, hrest⟩ := Option.bind_eq_some_iff.mp hrunChain
    obtain ⟨_, _, hextract, hgo⟩ := bind_eq_some hrun
    obtain ⟨_, _, hexport, ⟨⟩⟩ := bind_eq_some hgo
    have htracks := h.step (fun e' he' path hpath hpath' => hapart e' (mem_append_left _ he') e
        (mem_append_right _ (.head _)) path hpath' hpath)
      hcol (hevents (.head _)) hstep (hrejected e (.head _)) (hrooted e (.head _)) hextract
    rw [foldl_append]
    refine ih htracks (fun _ he' => hevents (.tail _ he')) hrest ?_ (fun e' he' => hrejected e' (.tail _ he'))
      (fun e' he' => hrooted e' (.tail _ he')) hexport
    rw [append_assoc]
    exact hapart

end

end

/-- Before a block the context is empty, and the rows that are read are the current ones. -/
theorem Tracks.of_mirrors {rows : Rows} {c : Objects} (h : Mirrors rows c.live) (hc : c.WellFormed)
    (hcol : TellsApart collate objects) (hlive : c.live ⊆ objects) :
    Tracks collate objects rows rows (fun _ => none) [] c := by
  have hreads : ∀ b path, Named objects b path → _ := fun b path =>
    reads_eq hcol (fun r hr => (h.mem_iff r).mp hr) hlive
  refine ⟨h, hc, hlive, fun b path hnamed _ => ⟨fun _ => (hreads b path hnamed).1, fun val hval => ?_⟩,
    fun b path hnamed _ _ => ⟨fun _ => (hreads b path hnamed).2, fun val hval => ?_⟩,
    fun id hid => ⟨rfl, ?_⟩⟩
  · cases hval
  · cases hval
  rw [getPrefixTreeObject, any_eq_false]
  intro r hr heq
  have heq := of_decide_eq_true heq
  cases (h.mem_iff r).mp hr with
  | @object o ho =>
    have hlt := hc.ids o ho
    change o.objectID = id at heq
    omega
  | folder =>
    have := hc.pos
    change 0 = id at heq
    omega

def World.Consistent (w : World) : Prop := Mirrors w.rows w.objects.live ∧ w.objects.WellFormed

/-- In a run whose blocks are orderly, the rows are those for the objects on chain after every
block. -/
theorem tree_mirrors_objects (collate : Name → Name) (w : World)
    (hrun : Run (World.process collate) (Orderly collate) {} w) : Mirrors w.rows w.objects.live := by
  refine (show w.Consistent from hrun.invariant ?_ ?_).1
  · refine ⟨⟨nodup_nil, fun r => ⟨fun hr => ?_, fun hr => ?_⟩⟩, fun o ho => ?_, fun o ho => ?_,
      Nat.one_pos⟩
    · cases hr
    · cases hr with
      | object ho => cases ho
      | folder ho => cases ho
    · cases ho
    · cases ho
  · rintro _ _ _ ⟨hmirrors, hwellFormed⟩ horderly hstep
    obtain ⟨_, hchain, hstep⟩ := Option.bind_eq_some_iff.mp hstep
    obtain ⟨_, hexport, ⟨⟩⟩ := Option.map_eq_some_iff.mp hstep
    rw [horderly.fresh] at hexport
    exact (Tracks.of_mirrors hmirrors hwellFormed horderly.told (subset_append_left _ _)).exportEvents
      horderly.told (subset_append_right _ _) hchain horderly.apart horderly.rejected horderly.rooted
      (Prod.ext hexport rfl)

/-- The names of the rows for objects of any bucket, for samples. -/
def allNames (objects : List LiveObject) : List Name :=
  ['/'] :: objects.flatMap fun o => o.objectName ::
    (range (pathParts o.objectName).length).map (folderPath (pathParts o.objectName))

theorem tellsApart_of_allNames (h : ∀ p ∈ allNames objects, ∀ q ∈ allNames objects,
    collate p = collate q → p = q) : TellsApart collate objects := by
  have hmem : ∀ {b p}, Named objects b p → p ∈ allNames objects := by
    rintro _ _ (rfl | ⟨o, ho, -, rfl | ⟨i, -, hi, rfl⟩⟩)
    · exact .head _
    · exact .tail _ (mem_flatMap.mpr ⟨o, ho, .head _⟩)
    · exact .tail _ (mem_flatMap.mpr ⟨o, ho, .tail _ (mem_map_of_mem (mem_range.mpr hi))⟩)
  exact fun _ _ _ hp hq => h _ (hmem hp) _ (hmem hq)

/-- The collation does not see the case of letters. Two objects are created in a folder, and one of
them is deleted. -/
theorem tree_mirrors_objects_sample :
    ∃ w, Run (World.process (map Char.toLower)) (Orderly (map Char.toLower)) {} w ∧
      Mirrors w.rows w.objects.live ∧ w.rows.length = 3 := by
  have hexec : ((World.process (map Char.toLower) {} ⟨[⟨.createObject, 7, ['a', '/', 'x'], 1⟩,
      ⟨.copyObject, 7, ['a', '/', 'B', '/', 'y'], 2⟩], [], 9⟩).bind fun w =>
        w.process (map Char.toLower) ⟨[⟨.deleteObject, 7, ['a', '/', 'x'], 1⟩], [], 9⟩).map
          (fun w => w.rows.length) = some 3 := by decide
  obtain ⟨w₂, hw, hlength⟩ := Option.map_eq_some_iff.mp hexec
  obtain ⟨w₁, hw₁, hw₂⟩ := Option.bind_eq_some_iff.mp hw
  have hlive : w₁.objects.live = [⟨7, ['a', '/', 'x'], 1⟩, ⟨7, ['a', '/', 'B', '/', 'y'], 2⟩] := by
    cases hw₁
    rfl
  have hrun : Run (World.process (map Char.toLower)) (Orderly (map Char.toLower)) {} w₂ := by
    refine .step (.step .start ⟨rfl, tellsApart_of_allNames (by decide), ?_, by simp,
      by simp [Kind.creates]⟩ hw₁) ⟨rfl, tellsApart_of_allNames ?_, ?_, by simp, by simp⟩ hw₂
    · simp [Kind.creates]
    · rw [hlive]
      decide
    · simp
  exact ⟨w₂, hrun, tree_mirrors_objects _ w₂ hrun, hlength⟩

/-- An object is created in a folder and, in the same block, the only other one there is cancelled: the
folder is deleted. -/
theorem folder_in_use_deleted :
    ∃ w₁ w₂, World.process id {} ⟨[⟨.createObject, 7, ['a', '/', 'x'], 1⟩], [], 9⟩ = some w₁ ∧
      w₁.process id ⟨[⟨.createObject, 7, ['a', '/', 'y'], 2⟩, ⟨.cancelCreateObject, 7, ['a', '/', 'x'], 1⟩],
        [], 9⟩ = some w₂ ∧
      w₂.objects.live = [⟨7, ['a', '/', 'y'], 2⟩] ∧ w₂.rows = [objectNode 7 ['a', '/', 'y'] 2] ∧
      ¬ Mirrors w₂.rows w₂.objects.live := by
  have hexec : ((World.process id {} ⟨[⟨.createObject, 7, ['a', '/', 'x'], 1⟩], [], 9⟩).bind fun w =>
      w.process id ⟨[⟨.createObject, 7, ['a', '/', 'y'], 2⟩,
        ⟨.cancelCreateObject, 7, ['a', '/', 'x'], 1⟩], [], 9⟩).map
          (fun w => (w.objects.live, w.rows)) =
      some ([⟨7, ['a', '/', 'y'], 2⟩], [objectNode 7 ['a', '/', 'y'] 2]) := by decide
  obtain ⟨w₂, hw, hend⟩ := Option.map_eq_some_iff.mp hexec
  obtain ⟨w₁, hw₁, hw₂⟩ := Option.bind_eq_some_iff.mp hw
  obtain ⟨hlive, hrows⟩ := Prod.mk.inj hend
  refine ⟨w₁, w₂, hw₁, hw₂, hlive, hrows, fun hmirrors => ?_⟩
  have hfolder : InTree w₂.objects.live (folderNode 7 (pathParts ['a', '/', 'y']) 1) := by
    rw [hlive]
    exact .folder (.head _) (by decide) (by decide)
  have hmem := (hmirrors.mem_iff _).mpr hfolder
  rw [hrows] at hmem
  revert hmem
  decide

end Blocksyncer.PrefixTree
