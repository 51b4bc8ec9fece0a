import Mathlib.Data.List.Basic

/-! # A heap of shared cells

Cells that several owners read and write through a reference, as with a reference-counted
atomic.  A reference is the position of its cell; allocation appends a cell, so a new
reference differs from every older one and stays valid for the rest of the run. -/

/-- A shared cell's address. -/
abbrev Ref := ℕ

structure Heap (α : Type) where
  cells : List α := []
deriving DecidableEq

namespace Heap

variable {α : Type} (h : Heap α) {r : Ref}

def size : ℕ := h.cells.length

def alloc (a : α) : Ref × Heap α := (h.cells.length, ⟨h.cells ++ [a]⟩)

def load (r : Ref) : Option α := h.cells[r]?

def store (r : Ref) (a : α) : Heap α := ⟨h.cells.set r a⟩

@[simp] lemma load_alloc_self (a : α) : (h.alloc a).2.load h.size = some a := by
  simp [alloc, load, size]

variable {h}

lemma load_store_self (a : α) (hr : r < h.size) : (h.store r a).load r = some a := by
  simp [store, load, List.getElem?_set_self hr]

lemma lt_size_of_load {a : α} (hr : h.load r = some a) : r < h.size := by
  obtain ⟨hlt, -⟩ := List.getElem?_eq_some_iff.mp hr
  exact hlt

end Heap
