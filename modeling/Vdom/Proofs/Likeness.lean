import Vdom.Node.Equality
import Vdom.Proofs.Dictionary
import Vdom.Proofs.Patching
import Vdom.Proofs.Shapes
/-!
# Likeness — a clone equals its model, unless a key is not a number

Equality of nodes compares some things by value and some by identity, and one thing in a way that
leaves it unequal to itself: a key that is not a number. A clone shares with its model what has an
identity, so that nothing else can tell them apart.

* **`Value.same_self`**, **`Head.same_self`** — all values equal themselves, and so does what a
  node is, unless its key is not a number.
* **`same_node`** — two trees that differ only in cells, and have the same bindings in them, are
  equal exactly if no node has such a key; by recursion on both.
* **`Node.Twin`**, **`clone_twin`** — a clone and its model are two such trees.
* **`clone_same_iff`** — so a clone equals its model exactly if no node in it has such a key.
-/

namespace Vdom

/-! ## Values -/

mutual

/-- Every value equals itself; it holds finite numbers only, all of which do. -/
theorem Value.same_self : ∀ v : Value, v.same v = true
  | .null => rfl
  | .bool b => beq_self_eq_true b
  | .int i => beq_self_eq_true i
  | .float x => Binary64.same_self (Binary64.isNaN_of_finite x.property)
  | .text s => beq_self_eq_true s
  | .list xs => sameValues_self xs
  | .object fields => sameFields_self fields

theorem sameValues_self : ∀ xs : List Value, sameValues xs xs = true
  | [] => rfl
  | x :: xs => by rw [sameValues, x.same_self, sameValues_self xs, Bool.and_self]

/-- Fields are compared under each name, where every one of them equals itself. -/
theorem sameFields_self : ∀ fields : Fields, sameFields fields fields = true
  | ⟨names, x⟩ => by
      refine (sameFields_iff _ _).mpr fun name => ?_
      rw [Dictionary.lookup]
      split
      next there => exact (x name there).same_self
      next => rfl

end

theorem Shared.is_self {α : Type} (a : Shared α) : a.is a = true := beq_self_eq_true a.id

theorem sameDirectives_self (ds : List Directive) : sameDirectives ds ds = true := by
  induction ds with
  | nil => rfl
  | cons d ds ih => simp [sameDirectives, Directive.same, Value.same_self, ih]

theorem AppContext.same_self (c : AppContext) : c.same c = true := by
  rw [AppContext.same, sameFields_self, sameFields_self, Bool.and_self]

/-! ## Nodes -/

/-- What a node is equals itself, unless its key is not a number. -/
theorem Head.same_self (h : Head) : h.same h = !Key.isNaN h.key := by
  have props : ∀ p : Shared Fields, p.sameValue sameFields p = true :=
    fun p => sameFields_self p.value
  have directives : ∀ d : Shared (List Directive), d.sameValue sameDirectives d = true :=
    fun d => sameDirectives_self d.value
  have app : ∀ c : Shared AppContext, c.sameValue AppContext.same c = true :=
    fun c => c.value.same_self
  rw [Head.same, Key.sameOption_self_eq, h.kind.same_self, sameOption_of_refl props,
    sameOption_of_refl Value.same_self, beq_self_eq_true, sameOption_of_refl directives,
    sameOption_of_refl Shared.is_self, sameOption_of_refl app]
  simp only [Bool.true_and, Bool.and_true]

variable {η : Type} [BEq η]

/-- The host nodes in bindings equal themselves. -/
def Bindings.Reflexive (b : Bindings η) : Prop :=
  (b.element == b.element) = true ∧ (b.anchor == b.anchor) = true

/-- Bindings equal themselves if the host nodes in them do. -/
theorem Bindings.Reflexive.same_self {b : Bindings η} (reflexive : b.Reflexive) :
    b.same b = true := by
  rw [Bindings.same, reflexive.1, reflexive.2, sameOption_of_refl Shared.is_self, Bool.and_self,
    Bool.and_self]

instance (b : Bindings η) : Decidable b.Reflexive := inferInstanceAs (Decidable (_ ∧ _))

/-! ## Twins -/

variable {s : Store η}

mutual

/-- **TWINS**: node by node, two trees that differ only in cells, and have the same bindings in
    them, are equal unless a key is not a number. -/
theorem same_node : ∀ m n : Node, m.bare = n.bare → m.cells.map s.get = n.cells.map s.get →
    (∀ cell ∈ n.cells, (s.get cell).Reflexive) →
    (m.same s n = true ↔ ∀ k ∈ n.nodes, Key.isNaN k.head.key = false)
  | .mk i h as, .mk j k bs, tree, bindings, reflexive => by
      obtain ⟨-, rfl, inner⟩ := Node.mk.inj tree
      rw [Node.cells, Node.cells, List.map_append, List.map_append] at bindings
      obtain ⟨others, own⟩ := List.append_inj' bindings rfl
      have own : s.get i = s.get j := List.singleton_inj.mp own
      have bound := (reflexive j (Node.cell_mem_cells (.mk j h bs))).same_self
      rw [Node.same, own, bound, Bool.and_true, Bool.and_eq_true, h.same_self, Bool.not_eq_true',
        Node.nodes, List.forall_mem_cons]
      refine and_congr_right fun _ => same_children as bs inner others ?_
      exact fun cell there => reflexive cell (List.mem_append_left _ there)

/-- Children are equal if they are stored alike and the nodes among them are equal. -/
theorem same_children : ∀ as bs : Children, as.bare = bs.bare →
    as.cells.map s.get = bs.cells.map s.get → (∀ cell ∈ bs.cells, (s.get cell).Reflexive) →
    (as.same s bs = true ↔ ∀ k ∈ bs.nodes, Key.isNaN k.head.key = false)
  | .none, bs, tree, _, _ => by
      cases bs with
      | none => exact iff_of_true rfl nofun
      | _ => exact nomatch tree
  | .text a, bs, tree, _, _ => by
      cases bs with
      | text b =>
          obtain rfl := Children.text.inj tree
          exact iff_of_true (beq_self_eq_true a) nofun
      | _ => exact nomatch tree
  | .array as, bs, tree, bindings, reflexive => by
      cases bs with
      | array bs => exact same_entries as bs (Children.array.inj tree) bindings reflexive
      | _ => exact nomatch tree
  | .slots a, bs, tree, _, _ => by
      cases bs with
      | slots b =>
          obtain rfl := Children.slots.inj tree
          exact iff_of_true (a.same_self beq_self_eq_true) nofun
      | _ => exact nomatch tree

theorem same_entries : ∀ as bs : List Child, bareAll as = bareAll bs →
    (cellsAll as).map s.get = (cellsAll bs).map s.get →
    (∀ cell ∈ cellsAll bs, (s.get cell).Reflexive) →
    (sameEntries s as bs = true ↔ ∀ k ∈ nodesAll bs, Key.isNaN k.head.key = false)
  | [], [], _, _, _ => iff_of_true rfl nofun
  | [], _ :: _, tree, _, _ => nomatch tree
  | _ :: _, [], tree, _, _ => nomatch tree
  | a :: as, b :: bs, tree, bindings, reflexive => by
      obtain ⟨first, others⟩ := List.cons.inj tree
      -- The cells of the entries are as many, so that the bindings can be cut between them.
      have size : (a.cells.map s.get).length = (b.cells.map s.get).length := by
        rw [List.length_map, List.length_map, ← length_cells_bare_entry a, first,
          length_cells_bare_entry b]
      rw [cellsAll, cellsAll, List.map_append, List.map_append] at bindings
      obtain ⟨own, rest⟩ := List.append_inj bindings size
      rw [sameEntries, Bool.and_eq_true, nodesAll, List.forall_mem_append]
      refine and_congr (same_entry a b first own ?_) (same_entries as bs others rest ?_)
      · exact fun cell there => reflexive cell (List.mem_append_left _ there)
      · exact fun cell there => reflexive cell (List.mem_append_right _ there)

/-- A text is no node and has no key that could stand in the way. -/
theorem same_entry : ∀ a b : Child, a.bare = b.bare → a.cells.map s.get = b.cells.map s.get →
    (∀ cell ∈ b.cells, (s.get cell).Reflexive) →
    (a.same s b = true ↔ ∀ k ∈ b.nodes, Key.isNaN k.head.key = false)
  | .node m, b, tree, bindings, reflexive => by
      cases b with
      | node n => exact same_node m n (Child.node.inj tree) bindings reflexive
      | _ => exact nomatch tree
  | .text a, b, tree, _, _ => by
      cases b with
      | text b =>
          obtain rfl := Child.text.inj tree
          exact iff_of_true (beq_self_eq_true a) nofun
      | _ => exact nomatch tree
  | .array as, b, tree, bindings, reflexive => by
      cases b with
      | array bs => exact same_entries as bs (Child.array.inj tree) bindings reflexive
      | _ => exact nomatch tree

end

namespace Node

/-- Two nodes are one tree, with all that has an identity in it, and have the same bindings. -/
structure Twin (s : Store η) (m n : Node) : Prop where
  tree : m.bare = n.bare
  bindings : m.cells.map s.get = n.cells.map s.get

omit [BEq η] in
/-- **A CLONE IS A TWIN** of its model, in a store where neither cells nor bindings are lost. -/
theorem clone_twin (n : Node) (s : Store η) (within : ∀ cell ∈ n.cells, cell < s.size) :
    (n.clone s).1.Twin (n.clone s).2 n := by
  obtain ⟨cells, store⟩ : (n.clone s).1.cells = List.range' s.size n.cells.length
      ∧ (n.clone s).2 = s.extend (n.cells.map s.get) := copies_node n s within
  refine ⟨bare_node n s, ?_⟩
  have new := s.map_get_extend (n.cells.map s.get)
  have old : n.cells.map (s.extend (n.cells.map s.get)).get = n.cells.map s.get :=
    List.map_congr_left fun cell there => Store.get_extend _ (within cell there)
  rw [List.length_map] at new
  rw [store, cells, old, new]

/-- **ONE WAY TO DIFFER**. A clone of a node of the store shares with it whatever has an identity,
    and has the same bindings. If the host nodes in these equal themselves, the clone equals its
    model exactly if none of the nodes in the model, at any depth, has a key that is not a
    number. -/
theorem clone_same_iff (n : Node) (s : Store η) (within : ∀ cell ∈ n.cells, cell < s.size)
    (reflexive : ∀ cell ∈ n.cells, (s.get cell).Reflexive) :
    (n.clone s).1.Twin (n.clone s).2 n
    ∧ ((n.clone s).1.same (n.clone s).2 n = true
      ↔ ∀ m ∈ n.nodes, Key.isNaN m.head.key = false) := by
  have twin := n.clone_twin s within
  refine ⟨twin, same_node _ n twin.tree twin.bindings ?_⟩
  intro cell there
  obtain ⟨-, store⟩ := copies_node n s within
  rw [store, Store.get_extend _ (within cell there)]
  exact reflexive cell there

/-- A list with a row in two brackets, whose key is not a number. -/
def smudged : Node :=
  let head : Head := { rowHead with key := some (.number ⟨0x7ff8000000000000⟩) }
  .mk 2 rowHead (.array [.text "and", .array [.array [.node (.mk 0 head .none)]]])

/-- Rows with a list as key, and with slots, equal their clones; the smudged row does not. -/
theorem rows_alike :
    (∀ cell ∈ sharing.cells, cell < mountedRows.size)
    ∧ (∀ cell ∈ sharing.cells, (mountedRows.get cell).Reflexive)
    ∧ (sharing.clone mountedRows).1.same (sharing.clone mountedRows).2 sharing = true
    ∧ (smudged.clone mountedRows).1.same (smudged.clone mountedRows).2 smudged = false := by
  have within : ∀ cell ∈ sharing.cells, cell < mountedRows.size := by decide
  have reflexive : ∀ cell ∈ sharing.cells, (mountedRows.get cell).Reflexive := by decide
  obtain ⟨-, clear⟩ := clone_same_iff sharing mountedRows within reflexive
  obtain ⟨-, blurred⟩ := clone_same_iff smudged mountedRows (by decide) (by decide)
  refine ⟨within, reflexive, clear.mpr (by decide), ?_⟩
  rw [← Bool.not_eq_true, blurred]
  decide

end Node

end Vdom
