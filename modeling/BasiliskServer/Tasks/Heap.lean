/-!
# Heaps

A heap keeps items so that the one that is due first is at hand. It is a list that is read as a
tree: the children of the item at place `n` stand at places `2 * n + 1` and `2 * n + 2`, and no item
is due before its parent. Items that are due at the same time leave the heap in an order that
depends on what else is in it, so everything that stays in the heap counts, also items that are
not wanted any more.
-/

namespace BasiliskServer.Tasks

/-- Items with the times at which they are due, read as a tree. -/
structure Heap (α : Type) where
  /-- The items, level by level. -/
  items : List α := []

namespace Heap

variable {α : Type}

/-- The place above a place. -/
def parent (place : Nat) : Nat := (place - 1) / 2

/-- The left place below a place. -/
def leftChild (place : Nat) : Nat := 2 * place + 1

/-- Exchanges the items at two places. -/
def swap (items : List α) (i j : Nat) : List α :=
  match items[i]?, items[j]? with
  | some a, some b => (items.set i b).set j a
  | _, _ => items

@[simp]
theorem length_swap (items : List α) (i j : Nat) : (swap items i j).length = items.length := by
  unfold swap
  split <;> simp

/-- Whether the item at one place is due before the item at another. -/
def isBefore (due : α → Nat) (items : List α) (i j : Nat) : Bool :=
  match items[i]?, items[j]? with
  | some a, some b => due a < due b
  | _, _ => false

/-- Lets the item at a place rise as long as it is due before its parent, but not above `top`. -/
def rise (due : α → Nat) (top : Nat) (items : List α) (place : Nat) : List α :=
  if place ≤ top then items
  else if isBefore due items place (parent place) then
    rise due top (swap items place (parent place)) (parent place)
  else items
termination_by place
decreasing_by unfold parent; omega

@[simp]
theorem length_rise (due : α → Nat) (top : Nat) (items : List α) (place : Nat) :
    (rise due top items place).length = items.length := by
  fun_induction rise due top items place with
  | case1 => rfl
  | case2 items place _ _ ih => simp [ih]
  | case3 => rfl

/-- The child that is due first; the right one where both are due at the same time. -/
def firstChild (due : α → Nat) (items : List α) (place : Nat) : Nat :=
  let left := leftChild place
  if left + 1 < items.length && !isBefore due items left (left + 1) then left + 1 else left

/-- Lets the item at a place sink to a place without children, past the children that are due
first; the items, and the place where it ends. -/
def sink (due : α → Nat) (items : List α) (place : Nat) : List α × Nat :=
  if leftChild place < items.length then
    sink due (swap items place (firstChild due items place)) (firstChild due items place)
  else (items, place)
termination_by items.length - place
decreasing_by
  rename_i h
  simp only [length_swap]
  unfold leftChild at h
  have : leftChild place ≤ firstChild due items place := by
    unfold firstChild
    simp only
    split <;> omega
  unfold leftChild at this
  omega

@[simp]
theorem length_sink (due : α → Nat) (items : List α) (place : Nat) :
    (sink due items place).1.length = items.length := by
  fun_induction sink due items place with
  | case1 items place _ ih => simp [ih]
  | case2 => rfl

/-- Lets the item at a place sink, and rise again as far as it belongs above. -/
def settleAt (due : α → Nat) (items : List α) (place : Nat) : List α :=
  let (items, bottom) := sink due items place
  rise due place items bottom

@[simp]
theorem length_settleAt (due : α → Nat) (items : List α) (place : Nat) :
    (settleAt due items place).length = items.length := by
  simp [settleAt]

/-- Brings items that are in any order into the order of a heap, the places with children one after
the other from the last to the first. -/
def ofList (due : α → Nat) (items : List α) : Heap α :=
  ⟨(List.range (items.length / 2)).reverse.foldl (settleAt due) items⟩

/-- Adds an item. -/
def push (due : α → Nat) (heap : Heap α) (item : α) : Heap α :=
  ⟨rise due 0 (heap.items ++ [item]) heap.items.length⟩

/-- Takes the item out that is due first: the last item takes its place, sinks and rises. -/
def pop? (due : α → Nat) (heap : Heap α) : Option (α × Heap α) :=
  match heap.items with
  | [] => none
  | first :: rest =>
    match rest.getLast? with
    | none => some (first, ⟨[]⟩)
    | some last => some (first, ⟨settleAt due (last :: rest.dropLast) 0⟩)

/-- How many items there are. -/
def size (heap : Heap α) : Nat := heap.items.length

theorem size_of_pop? {due : α → Nat} {heap rest : Heap α} {item : α}
    (h : heap.pop? due = some (item, rest)) : rest.size + 1 = heap.size := by
  unfold pop? at h
  split at h
  · simp at h
  · rename_i first tail items
    split at h
    · rename_i empty
      have : tail = [] := by simpa using empty
      simp only [Option.some.injEq, Prod.mk.injEq] at h
      rw [← h.2, size, size, items, this]
      rfl
    · rename_i last found
      have : tail ≠ [] := by
        intro nothing
        simp [nothing] at found
      have := List.length_pos_iff.mpr this
      simp only [Option.some.injEq, Prod.mk.injEq] at h
      rw [← h.2, size, size, items]
      simp
      omega

/-- Takes items out, first those that are due first, as long as they satisfy a condition. -/
def popWhile (due : α → Nat) (wanted : α → Bool) (heap : Heap α) : List α × Heap α :=
  match _h : heap.pop? due with
  | none => ([], heap)
  | some (item, rest) =>
    if wanted item then
      let (items, rest) := popWhile due wanted rest
      (item :: items, rest)
    else ([], heap)
termination_by heap.size
decreasing_by
  have := size_of_pop? _h
  omega

/-- The item that is due first. -/
def head? (heap : Heap α) : Option α := heap.items.head?

/-- Changes items without changing when they are due. -/
def map (change : α → α) (heap : Heap α) : Heap α := ⟨heap.items.map change⟩

end Heap

end BasiliskServer.Tasks
