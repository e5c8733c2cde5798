-- SUMMARY: Streams read through a buffer of fixed size.
import MocaSP.Base.Segments

/-!
# Reading a stream

A stream answers each read with some data and perhaps an error. It is given by
the answers it has left; after the last one it is at its end. An answer that is
too long for the buffer is handed out in parts, its error with the last part.

`readAt` fills a buffer, reading on until it is full or an error comes. A loop
of such reads sees full buffers and then one read that comes with an error:
`reads` is the stream in this form, and `reads_eq` says that it is the loop.
-/

inductive ReadErr where
  | eof
  | broken
  deriving DecidableEq

structure Answer (β : Type) where
  data : List β
  err : Option ReadErr

/-- The answers a stream has left. -/
abbrev Reader (β : Type) := List (Answer β)

/-- What a loop of reads into a buffer of `n` elements sees. -/
inductive Reads (β : Type) (n : Nat) where
  | last (data : List β) (err : ReadErr) (fits : data.length ≤ n)
  | full (data : List β) (fills : data.length = n) (rest : Reads β n)

namespace Reads

variable {β : Type} {n : Nat}

/-- The pieces the stream is cut into; the last one may be shorter. -/
def segments : Reads β n → List (List β)
  | .last [] _ _ => []
  | .last (b :: data) _ _ => [b :: data]
  | .full data _ rest => data :: rest.segments

def ending : Reads β n → ReadErr
  | .last _ err _ => err
  | .full _ _ rest => rest.ending

theorem segments_cut (hn : 0 < n) (r : Reads β n) : Segments.Cut n r.segments := by
  induction r with
  | last data _ fits =>
    cases data with
    | nil => exact Segments.cut_nil
    | cons => exact ⟨by simp [segments], by simpa [segments] using fits⟩
  | full _ fills _ ih => exact ih.cons hn fills

end Reads

namespace Reader

variable {β : Type} {n room : Nat} {r r' : Reader β} {data : List β} {err : Option ReadErr}

def size (r : Reader β) : Nat := (r.map fun a => a.data.length).sum

/-- Read until `room` elements are there or an error comes. -/
def readAt (room : Nat) : Reader β → List β × Option ReadErr × Reader β
  | [] => ([], some .eof, [])
  | a :: rest =>
    if room < a.data.length then
      (a.data.take room, none, ⟨a.data.drop room, a.err⟩ :: rest)
    else if a.err.isSome ∨ a.data.length = room then (a.data, a.err, rest)
    else
      let (data, err, rest) := readAt (room - a.data.length) rest
      (a.data ++ data, err, rest)

theorem readAt_fits (h : readAt room r = (data, err, r')) : data.length ≤ room := by
  induction r generalizing room data err r' with
  | nil =>
    cases h
    exact Nat.zero_le room
  | cons a rest ih =>
    rw [readAt] at h
    split at h
    · cases h
      exact List.length_take_le room a.data
    split at h
    · cases h
      omega
    cases h
    have hrest : (readAt (room - a.data.length) rest).1.length ≤ room - a.data.length := ih rfl
    rw [List.length_append]
    omega

/-- A read without an error fills the buffer, from what the stream had left. -/
theorem readAt_fills (h : readAt room r = (data, none, r')) :
    data.length = room ∧ r'.size + room = r.size := by
  induction r generalizing room data r' with
  | nil => cases h
  | cons a rest ih =>
    rw [readAt] at h
    split at h
    · cases h
      simp only [size, List.map_cons, List.sum_cons, List.length_take, List.length_drop]
      omega
    split at h
    next hstop =>
      simp only [Prod.mk.injEq] at h
      obtain ⟨rfl, hnone, rfl⟩ := h
      have hlen : a.data.length = room := hstop.resolve_left (by simp [hnone])
      exact ⟨hlen, by simp only [size, List.map_cons, List.sum_cons]; omega⟩
    · rcases hread : readAt (room - a.data.length) rest with ⟨_, _, _⟩
      rw [hread] at h
      cases h
      obtain ⟨_, hsize⟩ := ih hread
      simp only [size, List.map_cons, List.sum_cons, List.length_append] at hsize ⊢
      omega

/-- The reads, at most `fuel` of them. -/
def readsUpTo (n : Nat) : (fuel : Nat) → Reader β → Reads β n
  | 0, _ => .last [] .eof (Nat.zero_le n)
  | fuel + 1, r =>
    match h : readAt n r with
    | (data, none, rest) => .full data (readAt_fills h).1 (readsUpTo n fuel rest)
    | (data, some err, _) => .last data err (readAt_fits h)

/-- A buffer of no size cannot be read into. -/
def reads (n : Nat) (r : Reader β) : Reads β n :=
  if n = 0 then .last [] .broken (Nat.zero_le n) else readsUpTo n (r.size + 1) r

/-- A full buffer uses up part of the stream, so that the fuel lasts. -/
theorem readsUpTo_enough (hn : 0 < n) {fuel fuel' : Nat} (h : r.size < fuel) (h' : r.size < fuel') :
    readsUpTo n fuel r = readsUpTo n fuel' r := by
  induction fuel generalizing fuel' r with
  | zero => omega
  | succ fuel ih =>
    obtain ⟨fuel', rfl⟩ : ∃ k, fuel' = k + 1 := ⟨fuel' - 1, by omega⟩
    rw [readsUpTo, readsUpTo]
    split
    next rest hread =>
      have hsize := (readAt_fills hread).2
      have hrest : readsUpTo n fuel rest = readsUpTo n fuel' rest := ih (by omega) (by omega)
      rw [hrest]
    · rfl

/-- The reads are what a loop of `readAt` sees. -/
theorem reads_eq (hn : 0 < n) (r : Reader β) : reads n r = match h : readAt n r with
      | (data, none, rest) => .full data (readAt_fills h).1 (reads n rest)
      | (data, some err, _) => .last data err (readAt_fits h) := by
  rw [reads, if_neg (by omega), readsUpTo]
  split
  next rest hread =>
    have hsize := (readAt_fills hread).2
    have hrest : readsUpTo n r.size rest = readsUpTo n (rest.size + 1) rest :=
      readsUpTo_enough hn (by omega) (by omega)
    rw [reads, if_neg (by omega), hrest]
  · rfl

end Reader
