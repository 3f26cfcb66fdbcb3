import P4Control.Table.Read

namespace P4Control

/-!
# Taking entities out of chunks

A read is answered by a list of entities in chunks, and entities are taken from it one by one.  Where a
stream stands is told by how many entities have been taken from it: what has been fetched is the rest of
the chunk in which the next entity lies, and the chunks to come hold what is left.

* `flatten_cut` — the pieces of a list make up the list.
* `ReadStream.room` — how much is left of a chunk.
* `ReadStream.taken` — the stream of a list after some entities have been taken from it.
* `next_taken`, `next_taken_all` — one more entity is taken, or none is left.
* `collect_taken` — all entities at once.
-/

/-! ### Pieces of a list -/

section Pieces

variable {α : Type}

/-- The pieces of a list make up the list. -/
theorem flatten_cut (size room : Nat) (l : List α) :
    (cut size room l).1 ++ (cut size room l).2.flatten = l := by
  induction l generalizing room with
  | nil => cases room <;> rfl
  | cons a rest ih =>
    cases room with
    | zero => exact congrArg (a :: ·) (ih (size - 1))
    | succ room => exact congrArg (a :: ·) (ih room)

/-- The rest of a piece ends where the piece ends. -/
theorem fst_cut (size room : Nat) (l : List α) : (cut size room l).1 = l.take room := by
  induction l generalizing room with
  | nil => cases room <;> rfl
  | cons a rest ih =>
    cases room with
    | zero => rfl
    | succ room => exact congrArg (a :: ·) (ih room)

/-- Pieces of no element are pieces of one. -/
theorem cut_max (size room : Nat) (l : List α) : cut (max size 1) room l = cut size room l := by
  have hsize : max size 1 - 1 = size - 1 := by omega
  induction l generalizing room with
  | nil => cases room <;> rfl
  | cons a rest ih =>
    cases room with
    | zero => simp only [cut, ih, hsize]
    | succ room => simp only [cut, ih]

end Pieces

/-! ### Where a stream stands -/

namespace ReadStream

/-- How many of `size` places are left of a chunk when `n` entities have been taken. -/
def room (size n : Nat) : Nat := (size - n % size) % size

/-- The stream of entities in chunks of `size`, after `n` of them have been taken. -/
def taken (size : Nat) (held : Bool) (es : List Entity) (n : Nat) : ReadStream where
  fetched := (cut size (room size n) (es.drop n)).1
  chunks := (cut size (room size n) (es.drop n)).2.map .item
  held := held

variable {size : Nat} {held : Bool} {es : List Entity} {n : Nat}

theorem room_zero (size : Nat) : room size 0 = 0 := by
  unfold room
  rw [Nat.zero_mod, Nat.sub_zero, Nat.mod_self]

/-- An entity takes a place of its chunk; when there is none, it is the first one of the next chunk. -/
theorem room_succ (hs : 0 < size) (n : Nat) :
    room size (n + 1) = if room size n = 0 then size - 1 else room size n - 1 := by
  have hlt : n % size < size := Nat.mod_lt n hs
  unfold room
  rw [← Nat.mod_add_mod]
  generalize n % size = m at hlt
  -- either the chunks so far have been used up, or one has been begun
  rcases Nat.eq_zero_or_pos m with rfl | hm
  · rw [Nat.sub_zero, Nat.mod_self, if_pos rfl, Nat.zero_add]
    rcases Nat.lt_or_ge 1 size with hsize | hsize
    · rw [Nat.mod_eq_of_lt hsize, Nat.mod_eq_of_lt (by omega)]
    · obtain rfl : size = 1 := by omega
      rfl
  · rw [Nat.mod_eq_of_lt (show size - m < size by omega), if_neg (by omega)]
    rcases Nat.lt_or_ge (m + 1) size with hnext | hlast
    · rw [Nat.mod_eq_of_lt hnext, Nat.mod_eq_of_lt (by omega)]
      omega
    · obtain rfl : size = m + 1 := by omega
      rw [Nat.mod_self, Nat.sub_zero, Nat.mod_self]
      omega

/-- A stream that nothing has been taken from. -/
theorem ofReply_eq (size : Nat) (held : Bool) (es : List Entity) :
    ofReply ⟨(chunksOf size es).map .item, held⟩ = taken (max size 1) held es 0 := by
  unfold ofReply taken chunksOf
  rw [room_zero, cut_max, List.drop_zero, fst_cut]
  rfl

/-- One more entity is taken.  The end of the session is noticed between chunks only. -/
theorem next_taken (hs : 0 < size) (hn : n < es.length) (cancelled : Bool) :
    (taken size held es n).next cancelled =
      if room size n = 0 ∧ cancelled = true then (.cancelled, broken)
      else (.entity es[n], taken size held es (n + 1)) := by
  have hroom := room_succ hs n
  unfold next taken
  dsimp only
  rw [List.drop_eq_getElem_cons hn, hroom]
  cases hr : room size n with
  | zero =>
    -- the next chunk is fetched, unless the session has ended
    cases cancelled with
    | true => rfl
    | false => rfl
  | succ room => rfl

/-- Nothing is left to take. -/
theorem next_taken_all (cancelled : Bool) :
    (taken size held es es.length).next cancelled =
      if cancelled = true then (.cancelled, broken)
      else if held = true then (.waiting, taken size held es es.length) else (.ended, spent) := by
  have htaken : taken size held es es.length = { held } := by
    unfold taken
    rw [List.drop_length]
    cases room size es.length <;> rfl
  rw [htaken]
  rfl

theorem gather_items (held : Bool) (pieces : List (List Entity)) :
    gather held (pieces.map .item) = (pieces.flatten, if held then .waiting else .ended) := by
  induction pieces with
  | nil => rfl
  | cons piece rest ih => simp only [List.map_cons, gather, ih, List.flatten_cons]

/-- All entities are collected that have not been taken. -/
theorem collect_taken (size : Nat) (held : Bool) (es : List Entity) (n : Nat) :
    (taken size held es n).collect false =
      (es.drop n, if held then .waiting else .ended) := by
  unfold collect taken
  dsimp only
  rw [if_neg (by simp), if_neg (by simp), gather_items, flatten_cut]

end ReadStream

end P4Control
