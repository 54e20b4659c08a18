/-!
A table of a given length whose cells start out equal and are mostly never written.

Only the cells up to the last one written are kept; a cell behind them reads as its starting
value. So a table of four thousand million cells costs nothing until it is used.
-/

namespace AsyncClose

/-- A table of `size` cells. -/
structure Table (α : Type) where
  size : Nat
  written : Array α

namespace Table

variable {α : Type} [Inhabited α]

def blank (size : Nat) : Table α := ⟨size, #[]⟩

def get? (t : Table α) (i : Nat) : Option α :=
  if i < t.size then some (t.written.getD i default) else none

/-- The cells up to `n`, with starting values behind those written. -/
def fill (xs : Array α) (n : Nat) : Array α :=
  xs ++ Array.replicate (n - xs.size) default

def set (t : Table α) (i : Nat) (x : α) : Table α :=
  if i < t.size then { t with written := (fill t.written (i + 1)).setIfInBounds i x } else t

def grow (t : Table α) : Table α := { t with size := t.size + 1 }

omit [Inhabited α] in
@[simp] theorem size_blank (n : Nat) : (blank n : Table α).size = n := rfl

omit [Inhabited α] in
@[simp] theorem size_grow (t : Table α) : t.grow.size = t.size + 1 := rfl

@[simp] theorem size_set (t : Table α) (i : Nat) (x : α) : (t.set i x).size = t.size := by
  unfold set
  split <;> rfl

@[simp] theorem get?_blank (n i : Nat) :
    (blank n : Table α).get? i = if i < n then some default else none := by
  simp [get?, blank]

theorem get?_eq_none (t : Table α) (i : Nat) : t.get? i = none ↔ t.size ≤ i := by
  unfold get?
  split <;> simp <;> omega

theorem getD_fill (xs : Array α) (n i : Nat) :
    (fill xs n).getD i default = xs.getD i default := by
  simp only [fill, Array.getD_eq_getD_getElem?, Array.getElem?_append,
    Array.getElem?_replicate]
  split
  · rfl
  · next h =>
    rw [Array.getElem?_eq_none (by omega)]
    split <;> rfl

theorem get?_set_self (t : Table α) (i : Nat) (x : α) (h : i < t.size) :
    (t.set i x).get? i = some x := by
  have : i < (fill t.written (i + 1)).size := by
    simp only [fill, Array.size_append, Array.size_replicate]
    omega
  simp [set, get?, h, Array.getD_eq_getD_getElem?, this]

theorem get?_set_ne (t : Table α) (i j : Nat) (x : α) (h : i ≠ j) :
    (t.set i x).get? j = t.get? j := by
  unfold set
  split
  · simp only [get?]
    rw [Array.getD_eq_getD_getElem?, Array.getElem?_setIfInBounds_ne h,
      ← Array.getD_eq_getD_getElem?, getD_fill]
  · rfl

end Table

end AsyncClose
