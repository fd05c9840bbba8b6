import Vdom.Proofs.Cells
/-!
# Cloning — a tree of its own

* **`Copies`** — the accounts of a copy: one new cell for each old one, in the same order and with
  the same bindings, put after all cells that there are. Two copies made one after the other are a
  copy of both (`Copies.append`), and so a clone is a copy, by recursion on the tree
  (`copies_node`).
* **`bare_node`** — but for its cells a clone is its model.
* **`clone_isolated`** — what follows for the cells, the tree and later writes.
-/

namespace Vdom

variable {η : Type}

/-! ## Copies -/

/-- From `s` to `s'`, cells are copied to `copies`, all of them new. -/
def Copies (s : Store η) (cells : List Nat) (s' : Store η) (copies : List Nat) : Prop :=
  (∀ cell ∈ cells, cell < s.size) →
    copies = List.range' s.size cells.length ∧ s' = s.extend (cells.map s.get)

theorem copies_nil (s : Store η) : Copies s [] s [] := by
  intro _
  exact ⟨rfl, (Store.extend_nil s).symm⟩

/-- One cell is copied by allocating its bindings anew. -/
theorem copies_allocate (s : Store η) (cell : Nat) :
    Copies s [cell] (s.allocate (s.get cell)).2 [(s.allocate (s.get cell)).1] := by
  intro _
  rw [Store.allocate_eq]
  exact ⟨rfl, rfl⟩

/-- Copies of some cells and then of others are copies of all of them, since the store only grows.
    -/
theorem Copies.append {s t u : Store η} {xs ys copiesX copiesY : List Nat}
    (first : Copies s xs t copiesX) (second : Copies t ys u copiesY) :
    Copies s (xs ++ ys) u (copiesX ++ copiesY) := by
  intro within
  obtain ⟨rfl, rfl⟩ := first fun cell hcell => within cell (List.mem_append_left ys hcell)
  have old : ∀ cell ∈ ys, cell < s.size :=
    fun cell hcell => within cell (List.mem_append_right xs hcell)
  have size : (s.extend (xs.map s.get)).size = s.size + xs.length := by
    rw [Store.size_extend, List.length_map]
  obtain ⟨rfl, rfl⟩ := second (by
    intro cell hcell
    have := old cell hcell
    omega)
  constructor
  · rw [size, List.length_append, List.range'_append_1]
  · -- The second copy finds the old cells as the first did.
    have same : ys.map (s.extend (xs.map s.get)).get = ys.map s.get :=
      List.map_congr_left fun cell hcell => Store.get_extend _ (old cell hcell)
    rw [same, List.map_append, Store.extend_append]

mutual

/-- **A CLONE IS A COPY**: every node of the tree has one new cell of its own. -/
theorem copies_node : ∀ (n : Node) (s : Store η),
    Copies s n.cells (n.clone s).2 (n.clone s).1.cells
  | .mk cell head children, s => by
      have inner := copies_children children s
      exact inner.append (copies_allocate (children.clone s).2 cell)

/-- Children are copied cell by cell; slots and texts have none. -/
theorem copies_children : ∀ (children : Children) (s : Store η),
    Copies s children.cells (children.clone s).2 (children.clone s).1.cells
  | .none, s => copies_nil s
  | .text _, s => copies_nil s
  | .array entries, s => copies_entries entries s
  | .slots _, s => copies_nil s

theorem copies_entries : ∀ (entries : List Child) (s : Store η),
    Copies s (cellsAll entries) (cloneEntries entries s).2 (cellsAll (cloneEntries entries s).1)
  | [], s => copies_nil s
  | entry :: rest, s =>
      (copies_entry entry s).append (copies_entries rest (entry.clone s).2)

theorem copies_entry : ∀ (entry : Child) (s : Store η),
    Copies s entry.cells (entry.clone s).2 (entry.clone s).1.cells
  | .node n, s => copies_node n s
  | .text _, s => copies_nil s
  | .array entries, s => copies_entries entries s

end

/-! ## The tree -/

mutual

/-- **THE SAME TREE**: position by position a clone is its model, but for the cells. -/
theorem bare_node : ∀ (n : Node) (s : Store η), (n.clone s).1.bare = n.bare
  | .mk _ head children, s => congrArg (Node.mk 0 head) (bare_children children s)

/-- Copied children are the same but for their cells. -/
theorem bare_children : ∀ (children : Children) (s : Store η),
    (children.clone s).1.bare = children.bare
  | .none, _ => rfl
  | .text _, _ => rfl
  | .array entries, s => congrArg Children.array (bare_entries entries s)
  | .slots _, _ => rfl

theorem bare_entries : ∀ (entries : List Child) (s : Store η),
    bareAll (cloneEntries entries s).1 = bareAll entries
  | [], _ => rfl
  | entry :: rest, s => by
      show (entry.clone s).1.bare :: bareAll (cloneEntries rest (entry.clone s).2).1 = _
      rw [bare_entry entry s, bare_entries rest (entry.clone s).2]
      rfl

theorem bare_entry : ∀ (entry : Child) (s : Store η), (entry.clone s).1.bare = entry.bare
  | .node n, s => congrArg Child.node (bare_node n s)
  | .text _, _ => rfl
  | .array entries, s => congrArg Child.array (bare_entries entries s)

end

/-! ## Isolation -/

namespace Node

/-- **ISOLATION**. A clone of a node of the store has one new record for every node of the tree at
    every place, no two places sharing one, and no other record is made. It is the same tree,
    position by position, and each of its records starts with the bindings of its model. No record
    that was there is changed, and no write to records of one of the trees shows in the other,
    whatever is written to the other in between. -/
theorem clone_isolated (n : Node) (s : Store η) (within : ∀ cell ∈ n.cells, cell < s.size) :
    let copy := (n.clone s).1
    let after := (n.clone s).2
    (copy.cells.length = n.cells.length ∧ copy.cells.Nodup
      ∧ (∀ cell ∈ copy.cells, s.size ≤ cell ∧ cell < after.size)
      ∧ after.size = s.size + n.cells.length)
    ∧ (copy.bare = n.bare ∧ copy.cells.map after.get = n.cells.map s.get)
    ∧ (∀ cell < s.size, after.get cell = s.get cell)
    ∧ (∀ ws : List (Write η), (∀ w ∈ ws, w.cell ∈ n.cells) →
      ∀ cell ∈ copy.cells, (after.writes ws).get cell = after.get cell)
    ∧ (∀ ws : List (Write η), (∀ w ∈ ws, w.cell ∈ copy.cells) →
      ∀ cell ∈ n.cells, (after.writes ws).get cell = after.get cell)
    ∧ ∀ ws : List (Write η),
      (∀ cell ∈ copy.cells, (after.writes ws).get cell
        = (after.writes (ws.filter fun w => w.cell ∉ n.cells)).get cell)
      ∧ (∀ cell ∈ n.cells, (after.writes ws).get cell
        = (after.writes (ws.filter fun w => w.cell ∉ copy.cells)).get cell) := by
  intro copy after
  obtain ⟨cells, store⟩ : copy.cells = List.range' s.size n.cells.length
      ∧ after = s.extend (n.cells.map s.get) := copies_node n s within
  have size : after.size = s.size + n.cells.length := by
    rw [store, Store.size_extend, List.length_map]
  have new : ∀ cell ∈ copy.cells, s.size ≤ cell ∧ cell < after.size := by
    intro cell hcell
    rw [cells, List.mem_range'_1] at hcell
    omega
  -- All cells of the copy are behind those of the model, which is why writes cannot meet.
  have apart : ∀ old ∈ n.cells, ∀ cell ∈ copy.cells, old ≠ cell := by
    intro old hold cell hcell
    have := within old hold
    have := (new cell hcell).1
    omega
  have bindings : copy.cells.map after.get = n.cells.map s.get := by
    rw [cells, store]
    have := s.map_get_extend (n.cells.map s.get)
    rwa [List.length_map] at this
  refine ⟨⟨?_, ?_, new, size⟩, ⟨bare_node n s, bindings⟩, ?_, ?_, ?_, ?_⟩
  · rw [cells, List.length_range']
  · rw [cells]
    exact List.nodup_range'
  · intro cell old
    rw [store]
    exact Store.get_extend _ old
  · intro ws hws cell hcell
    exact Store.get_writes_of_ne after fun w hw => apart w.cell (hws w hw) cell hcell
  · intro ws hws cell hcell
    exact Store.get_writes_of_ne after fun w hw => (apart cell hcell w.cell (hws w hw)).symm
  · intro ws
    constructor
    · intro cell hcell
      -- Of mixed writes, those to the other tree are no writes to this cell, so they may be left
      -- out.
      refine Store.get_writes_filter _ ?_ (new cell hcell).2 (new cell hcell).2 rfl ws
      rintro w rfl
      exact decide_eq_true fun hold => apart w.cell hold w.cell hcell rfl
    · intro cell hcell
      have there : cell < after.size := by
        have := within cell hcell
        omega
      refine Store.get_writes_filter _ ?_ there there rfl ws
      rintro w rfl
      exact decide_eq_true fun hnew => apart w.cell hcell w.cell hnew rfl

/-- A row with a list as key. -/
def rowHead : Head :=
  { kind := .element "li", props := some ⟨0, .single "key" (.list [])⟩,
    key := some (.object ⟨1, .list []⟩), ref := none, shape := .element, directives := none,
    context := none, app := none }

/-- A list that shows one row at two depths and holds another with slots. -/
def sharing : Node :=
  let row : Node := .mk 0 rowHead .none
  let other : Node := .mk 1 rowHead (.slots (.single Slot.defaultName ⟨7⟩))
  .mk 2 rowHead (.array [.node row, .text "and", .array [.node row, .node other]])

/-- The shared row and the list are mounted. -/
def mountedRows : Store String := ⟨#[⟨some "li", none, none⟩, .empty, ⟨some "ul", none, none⟩]⟩

/-- The list is cloned into four records, and the shared row is mounted anew in none of them. -/
theorem sharing_isolated :
    (∀ cell ∈ sharing.cells, cell < mountedRows.size)
    ∧ (sharing.clone mountedRows).1.cells.length = sharing.cells.length
    ∧ (sharing.clone mountedRows).1.cells.Nodup
    ∧ (sharing.clone mountedRows).1.bare = sharing.bare
    ∧ ((sharing.clone mountedRows).2.writes
        [.element 0 (some "other"), .anchor 2 none]).get 3
      = (sharing.clone mountedRows).2.get 3 := by
  have within : ∀ cell ∈ sharing.cells, cell < mountedRows.size := by decide
  obtain ⟨⟨length, nodup, -⟩, ⟨bare, -⟩, -, written, -⟩ :=
    clone_isolated sharing mountedRows within
  refine ⟨within, length, nodup, bare, written _ ?_ 3 ?_⟩
  · decide
  · decide

end Node

end Vdom
