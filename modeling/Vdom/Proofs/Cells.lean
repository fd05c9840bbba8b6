import Vdom.Node.Clone
/-!
# Cells — the records of a tree and the bindings they hold

Nodes share cells by number, so what is shared between two trees is told by their cells.

* **`Node.cells`** — the cells of a tree, those of the children before that of the node;
  **`Node.bare`** — the tree without them. Which tree it is decides how many cells it has.
* **`Store.extend`** — a store with more cells; what was there before is there still.
* **`Store.writes`** — a store after a sequence of writes; `Store.get_writes_filter` says that the
  bindings in a cell are told by the writes to that cell.
-/

namespace Vdom

variable {η : Type}

/-! ## Growing -/

namespace Store

/-- How many cells there are. -/
def size (s : Store η) : Nat := s.cells.size

/-- The store with new cells for more bindings. -/
def extend (s : Store η) (bs : List (Bindings η)) : Store η := ⟨s.cells ++ bs.toArray⟩

theorem extend_nil (s : Store η) : s.extend [] = s := by
  rw [extend, Array.append_empty]

theorem extend_append (s : Store η) (bs cs : List (Bindings η)) :
    s.extend (bs ++ cs) = (s.extend bs).extend cs := by
  rw [extend, extend, extend, ← List.append_toArray, Array.append_assoc]

theorem size_extend (s : Store η) (bs : List (Bindings η)) :
    (s.extend bs).size = s.size + bs.length := by
  rw [size, extend, Array.size_append, List.size_toArray]
  rfl

/-- Allocation adds one record behind the others and yields its cell. -/
theorem allocate_eq (s : Store η) (b : Bindings η) : s.allocate b = (s.size, s.extend [b]) := by
  rw [allocate, extend, Array.push_eq_append]
  rfl

/-- Old cells hold what they held. -/
theorem get_extend {s : Store η} (bs : List (Bindings η)) {cell : Nat} (old : cell < s.size) :
    (s.extend bs).get cell = s.get cell := by
  rw [get, get, extend, Array.getElem?_append_left old]

/-- New cells hold the new bindings, in their order. -/
theorem map_get_extend (s : Store η) (bs : List (Bindings η)) :
    (List.range' s.size bs.length).map (s.extend bs).get = bs := by
  apply List.ext_getElem
  · simp
  · intro i hi hb
    have new : (s.cells ++ bs.toArray)[s.cells.size + i]? = some bs[i] := by
      rw [Array.getElem?_append_right (Nat.le_add_right _ _), Nat.add_sub_cancel_left,
        List.getElem?_toArray, List.getElem?_eq_getElem hb]
    rw [List.getElem_map, List.getElem_range', Nat.one_mul, get, extend, size, new,
      Option.getD_some]

/-- The first record that is added gets the first cell that was free. -/
theorem get_extend_size (s : Store η) (b : Bindings η) : (s.extend [b]).get s.size = b :=
  List.singleton_inj.mp (s.map_get_extend [b])

end Store

/-! ## Writing -/

/-- A write to the bindings in a cell. -/
inductive Write (η : Type) where
  | element (cell : Nat) (host : Option η)
  | anchor (cell : Nat) (host : Option η)
  | component (cell : Nat) (i : Option Instance)

namespace Write

/-- The cell that is written to. -/
def cell : Write η → Nat
  | .element cell _ => cell
  | .anchor cell _ => cell
  | .component cell _ => cell

/-- The bindings after a write. -/
def update (b : Bindings η) : Write η → Bindings η
  | .element _ host => { b with element := host }
  | .anchor _ host => { b with anchor := host }
  | .component _ i => { b with component := i }

end Write

namespace Store

theorem size_set (s : Store η) (cell : Nat) (b : Bindings η) : (s.set cell b).size = s.size := by
  rw [size, set, Array.size_setIfInBounds, size]

theorem get_set_self {s : Store η} {cell : Nat} (there : cell < s.size) (b : Bindings η) :
    (s.set cell b).get cell = b := by
  rw [get, set, Array.getElem?_setIfInBounds_self_of_lt there, Option.getD_some]

/-- The store after a write. -/
def write (s : Store η) (w : Write η) : Store η := s.set w.cell (w.update (s.get w.cell))

/-- The store after a sequence of writes. -/
def writes (s : Store η) (ws : List (Write η)) : Store η := ws.foldl write s

theorem size_write (s : Store η) (w : Write η) : (s.write w).size = s.size := size_set _ _ _

/-- **FRAME**: a cell that is not written to holds what it held. -/
theorem get_writes_of_ne (s : Store η) {ws : List (Write η)} {cell : Nat}
    (apart : ∀ w ∈ ws, w.cell ≠ cell) : (s.writes ws).get cell = s.get cell := by
  induction ws generalizing s with
  | nil => rfl
  | cons w ws ih =>
      show ((s.write w).writes ws).get cell = s.get cell
      rw [ih (s.write w) fun v hv => apart v (List.mem_cons_of_mem w hv)]
      exact get_set_of_ne s _ (apart w List.mem_cons_self)

/-- Two stores that agree on a cell agree on it after a write to it. -/
theorem get_write_congr {s t : Store η} (w : Write η) (there : w.cell < s.size)
    (there' : w.cell < t.size) (h : s.get w.cell = t.get w.cell) :
    (s.write w).get w.cell = (t.write w).get w.cell := by
  rw [write, write, get_set_self there, get_set_self there', h]

/-- Of a sequence of writes those to other cells may be left out. -/
theorem get_writes_filter {s t : Store η} {cell : Nat} (keep : Write η → Bool)
    (kept : ∀ w : Write η, w.cell = cell → keep w = true) (there : cell < s.size)
    (there' : cell < t.size) (h : s.get cell = t.get cell) (ws : List (Write η)) :
    (s.writes ws).get cell = (t.writes (ws.filter keep)).get cell := by
  induction ws generalizing s t with
  | nil => exact h
  | cons w ws ih =>
      by_cases here : w.cell = cell
      · subst here
        rw [List.filter_cons_of_pos (kept w rfl)]
        exact ih ((size_write s w).symm ▸ there) ((size_write t w).symm ▸ there')
          (get_write_congr w there there' h)
      -- A write elsewhere is invisible in this cell, be it kept or left out.
      · have silent : (s.write w).get cell = t.get cell :=
          (get_set_of_ne s _ here).trans h
        cases hk : keep w with
        | false =>
            rw [List.filter_cons_of_neg (by rw [hk]; exact Bool.false_ne_true)]
            exact ih ((size_write s w).symm ▸ there) there' silent
        | true =>
            rw [List.filter_cons_of_pos hk]
            refine ih ((size_write s w).symm ▸ there) ((size_write t w).symm ▸ there') ?_
            rw [silent]
            exact (get_set_of_ne t _ here).symm

end Store

/-! ## Trees -/

mutual

/-- The cells of a tree, those of the children before that of the node. -/
def Node.cells : Node → List Nat
  | .mk cell _ children => children.cells ++ [cell]

/-- The cells of children. -/
def Children.cells : Children → List Nat
  | .array entries => cellsAll entries
  | _ => []

/-- The cells of entries. -/
def cellsAll : List Child → List Nat
  | [] => []
  | entry :: rest => entry.cells ++ cellsAll rest

/-- The cells of an entry, to any depth. -/
def Child.cells : Child → List Nat
  | .node n => n.cells
  | .text _ => []
  | .array entries => cellsAll entries

end

mutual

/-- The tree without its cells. -/
def Node.bare : Node → Node
  | .mk _ head children => .mk 0 head children.bare

/-- Children without their cells. -/
def Children.bare : Children → Children
  | .array entries => .array (bareAll entries)
  | .none => .none
  | .text t => .text t
  | .slots m => .slots m

/-- Entries without their cells. -/
def bareAll : List Child → List Child
  | [] => []
  | entry :: rest => entry.bare :: bareAll rest

/-- An entry without its cells. -/
def Child.bare : Child → Child
  | .node n => .node n.bare
  | .text t => .text t
  | .array entries => .array (bareAll entries)

end

mutual

/-- The bare tree has as many cells as the tree. -/
theorem length_cells_bare : ∀ n : Node, n.bare.cells.length = n.cells.length
  | .mk _ _ children => by
      rw [Node.bare, Node.cells, Node.cells, List.length_append, List.length_append,
        length_cells_bare_children children]
      rfl

theorem length_cells_bare_children : ∀ children : Children,
    children.bare.cells.length = children.cells.length
  | .none => rfl
  | .text _ => rfl
  | .array entries => length_cells_bare_entries entries
  | .slots _ => rfl

theorem length_cells_bare_entries : ∀ entries : List Child,
    (cellsAll (bareAll entries)).length = (cellsAll entries).length
  | [] => rfl
  | entry :: rest => by
      rw [bareAll, cellsAll, cellsAll, List.length_append, List.length_append,
        length_cells_bare_entry entry, length_cells_bare_entries rest]

theorem length_cells_bare_entry : ∀ entry : Child, entry.bare.cells.length = entry.cells.length
  | .node n => length_cells_bare n
  | .text _ => rfl
  | .array entries => length_cells_bare_entries entries

end

/-- A node has its own cell among its cells. -/
theorem Node.cell_mem_cells (n : Node) : n.cell ∈ n.cells := by
  obtain ⟨cell, head, children⟩ := n
  exact List.mem_append_right _ (List.mem_singleton_self cell)

end Vdom
