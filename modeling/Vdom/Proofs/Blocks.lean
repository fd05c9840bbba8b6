import Vdom.Proofs.Guards
import Vdom.Proofs.Shapes
/-!
# Blocks — instances that render for a while

A program renders in blocks. A block has a guard, made when it is entered and dropped when it is
left; in it nodes are made and taken again, the instance is set directly, and further blocks are
entered.

* **`Act`** — a program as a tree of blocks; `movesAll` lays it out as it is run.
* **`held_movesAll`** — blocks leave no guards behind, so a block drops the guard that it made, and
  whatever happened in it, the instance that rendered before renders again (`rendering_block`).
* **`Stands`** — where a run stands: in which block, and after which acts in it. Unless one of
  those sets the instance, the instance of the block renders (`Stands.rendering`).
* **`rendering_scoped`** — so much for every moment of every program, and what follows for the
  contexts of nodes.
-/

namespace Vdom

variable {η : Type}

/-! ## Programs -/

/-- What a program does apart from blocks. -/
inductive Work (η : Type) where
  /-- The rendering instance is set directly. -/
  | set (i : Option Instance)
  | make (m : Making)
  | clone (n : Node)
  | cloneIfMounted (n : Node)
  | normalize (n : Node)
  | bind (n : Node) (b : Bindings η)

/-- The node that is there already and is cloned or taken. -/
def Work.old? : Work η → Option Node
  | .clone n => some n
  | .cloneIfMounted n => some n
  | .normalize n => some n
  | _ => none

/-- What work yields. -/
def Scene.work (s : Scene η) : Work η → Option Node × Scene η
  | .set i => (none, (s.setRendering i).2)
  | .make m => (some (s.make m).1, (s.make m).2)
  | .clone n => (some (s.clone n).1, (s.clone n).2)
  | .cloneIfMounted n => (some (s.cloneIfMounted n).1, (s.cloneIfMounted n).2)
  | .normalize n => (some (s.normalize (.node n)).1, (s.normalize (.node n)).2)
  | .bind n b => (none, s.bind n b)

/-- Part of a program. -/
inductive Act (η : Type) where
  | work (a : Work η)
  /-- An instance renders until the end of the block. -/
  | block (i : Instance) (body : List (Act η))

/-- A step in the run of a program. -/
inductive Move (η : Type) where
  | turn (t : Turn)
  | work (a : Work η)

mutual

/-- The steps of a part. The guard of a block is the latest one when the block is left. -/
def Act.moves : Act η → List (Move η)
  | .work a => [.work a]
  | .block i body => .turn (.enter i) :: (movesAll body ++ [.turn (.drop 0)])

/-- The steps of a program. -/
def movesAll : List (Act η) → List (Move η)
  | [] => []
  | act :: rest => act.moves ++ movesAll rest

end

namespace Watched

/-- What comes of a step. -/
def move (w : Watched η) : Move η → Watched η
  | .turn t => w.turn t
  | .work a => { w with scene := (w.scene.work a).2 }

/-- What comes of a run. -/
def run (w : Watched η) (ms : List (Move η)) : Watched η := ms.foldl move w

theorem run_append (w : Watched η) (ms ns : List (Move η)) :
    w.run (ms ++ ns) = (w.run ms).run ns :=
  List.foldl_append

end Watched

/-! ## Blocks -/

/-- Work that does not set the instance leaves it as it is. -/
theorem Scene.rendering_work (s : Scene η) {a : Work η} (calm : ∀ i, a ≠ .set i) :
    (s.work a).2.rendering = s.rendering := by
  -- Making a node takes identities and a cell from the scene and nothing else.
  have create : ∀ kind props offer, (s.create kind props offer).2.rendering = s.rendering := by
    intro kind props offer
    cases props <;> rfl
  have taken : ∀ n, (s.cloneIfMounted n).2.rendering = s.rendering := by
    intro n
    by_cases mounted : s.store.isMounted n = true
    · rw [cloneIfMounted_of_mounted mounted]
      rfl
    · rw [cloneIfMounted_of_not_mounted mounted]
  cases a with
  | set i => exact absurd rfl (calm i)
  | make m =>
      cases m with
      | create kind props offer => exact create kind props offer
      | createText text => exact create .text none (.text (text.getD " "))
      | normalizeText t => exact create .text none (.text t)
      | normalizeArray entries => exact create .fragment none (.array entries)
  | clone n => rfl
  | cloneIfMounted n => exact taken n
  | normalize n => exact taken n
  | bind n b => rfl

namespace Watched

/-- A block whose body leaves the guards as they are drops the guard that it made. -/
theorem run_block {w : Watched η} {i : Instance} {body : List (Act η)}
    (inner : ((w.turn (.enter i)).run (movesAll body)).held = ⟨i, ⟨w.rendering⟩⟩ :: w.held) :
    w.run (Act.block i body).moves
      = ⟨((w.turn (.enter i)).run (movesAll body)).scene.leave ⟨w.rendering⟩, w.held⟩ := by
  have own : ((w.turn (.enter i)).run (movesAll body)).held[0]? = some ⟨i, ⟨w.rendering⟩⟩ := by
    rw [inner]
    rfl
  show (w.turn (.enter i)).run (movesAll body ++ [.turn (.drop 0)]) = _
  rw [run_append]
  show ((w.turn (.enter i)).run (movesAll body)).turn (.drop 0) = _
  rw [drop_some own, inner]
  rfl

mutual

/-- **NO GUARD IS LEFT**: after a part of a program the guards are those from before. -/
theorem held_moves : ∀ (act : Act η) (w : Watched η), (w.run act.moves).held = w.held
  | .work _, _ => rfl
  | .block i body, w => by
      rw [run_block (held_movesAll body (w.turn (.enter i)))]

theorem held_movesAll : ∀ (p : List (Act η)) (w : Watched η), (w.run (movesAll p)).held = w.held
  | [], _ => rfl
  | act :: rest, w => by
      rw [movesAll, run_append, held_movesAll rest, held_moves act]

end

/-- **RESTORED**: whoever rendered before a block renders after it, whatever happened in it. -/
theorem rendering_block (w : Watched η) (i : Instance) (body : List (Act η)) :
    (w.run (Act.block i body).moves).rendering = w.rendering := by
  rw [run_block (held_movesAll body (w.turn (.enter i)))]
  rfl

/-- Nothing is set directly; blocks may set what they like. -/
def Calm (p : List (Act η)) : Prop := ∀ i, Act.work (.set i) ∉ p

/-- A calm program leaves whoever rendered to render. -/
theorem rendering_movesAll {p : List (Act η)} (calm : Calm p) (w : Watched η) :
    (w.run (movesAll p)).rendering = w.rendering := by
  induction p generalizing w with
  | nil => rfl
  | cons act rest ih =>
      have first : (w.run act.moves).rendering = w.rendering := by
        cases act with
        | work a =>
            refine w.scene.rendering_work fun i set => calm i ?_
            rw [set]
            exact List.mem_cons_self
        | block i body => exact rendering_block w i body
      rw [movesAll, run_append, ih fun i set => calm i (List.mem_cons_of_mem _ set)]
      exact first

/-! ## Where a run stands -/

/-- A run of the program stands after the steps `earlier`: in the block of the instance `block`,
    or in none, and the acts `done` have been done there. -/
inductive Stands : List (Act η) → List (Move η) → Option Instance → List (Act η) → Prop where
  | here (done rest : List (Act η)) : Stands (done ++ rest) (movesAll done) none done
  | inside {before rest body : List (Act η)} {i : Instance} {earlier : List (Move η)}
      {block : Option Instance} {done : List (Act η)} :
      Stands body earlier block done →
      Stands (before ++ .block i body :: rest) (movesAll before ++ .turn (.enter i) :: earlier)
        (some (block.getD i)) done

/-- What stands somewhere in a program stands there with another act in front. -/
theorem Stands.cons {p done : List (Act η)} {earlier : List (Move η)} {block : Option Instance}
    (stands : Stands p earlier block done) (act : Act η) :
    ∃ done', Stands (act :: p) (act.moves ++ earlier) block done' := by
  cases stands with
  | here done rest => exact ⟨act :: done, .here (act :: done) rest⟩
  | @inside before rest body i earlier block done inner =>
      have deeper := @Stands.inside η (act :: before) rest body i earlier block done inner
      rw [movesAll, List.append_assoc] at deeper
      exact ⟨done, deeper⟩

mutual

/-- Before its last step, a part is not begun, or its block is open. -/
theorem stands_moves : ∀ (act : Act η) (rest : List (Act η)) (earlier : List (Move η)) (m : Move η)
    (later : List (Move η)), act.moves = earlier ++ m :: later →
    ∃ block done, Stands (act :: rest) earlier block done
  | .work a, rest, earlier, m, later, split => by
      cases earlier with
      | nil => exact ⟨none, [], .here [] _⟩
      | cons first others =>
          have short := congrArg List.length split
          simp [Act.moves] at short
  | .block i body, rest, earlier, m, later, split => by
      cases earlier with
      | nil => exact ⟨none, [], .here [] _⟩
      | cons first others =>
          obtain ⟨rfl, tail⟩ := List.cons.inj split
          -- The last step drops the guard, so all that is before it is done in the block.
          obtain ⟨front, step, last⟩ := List.eq_nil_or_concat (m :: later) |>.resolve_left nofun
          have between : movesAll body ++ [.turn (.drop 0)] = (others ++ front) ++ [step] :=
            calc movesAll body ++ [.turn (.drop 0)]
                _ = others ++ (m :: later) := tail
                _ = others ++ (front ++ [step]) := by rw [last, List.concat_eq_append]
                _ = (others ++ front) ++ [step] := (List.append_assoc _ _ _).symm
          obtain ⟨block, done, inner⟩ :=
            stands_movesAll body others front (List.append_inj' between rfl).1
          exact ⟨_, done, @Stands.inside η [] rest body i others block done inner⟩

/-- **SOMEWHERE**: a run stands somewhere at every moment. -/
theorem stands_movesAll : ∀ (p : List (Act η)) (earlier later : List (Move η)),
    movesAll p = earlier ++ later → ∃ block done, Stands p earlier block done
  | [], earlier, later, split => by
      obtain ⟨rfl, -⟩ := List.append_eq_nil_iff.mp split.symm
      exact ⟨none, [], .here [] []⟩
  | act :: rest, earlier, later, split => by
      -- The cut is behind the first act or inside of it.
      rcases List.append_eq_append_iff.mp split with ⟨beyond, rfl, tail⟩ | ⟨behind, whole, -⟩
      · obtain ⟨block, done, stands⟩ := stands_movesAll rest beyond later tail
        obtain ⟨done', deeper⟩ := stands.cons act
        exact ⟨block, done', deeper⟩
      · cases behind with
        | nil =>
            have stands : Stands (act :: rest) (movesAll [act]) none [act] := .here [act] rest
            rw [List.append_nil] at whole
            rw [← whole]
            rw [movesAll, movesAll, List.append_nil] at stands
            exact ⟨none, [act], stands⟩
        | cons m behind => exact stands_moves act rest earlier m behind whole

end

/-- **IN SCOPE**: the instance of the innermost block renders, unless another one was set in it. -/
theorem Stands.rendering {p done : List (Act η)} {earlier : List (Move η)}
    {block : Option Instance} (stands : Stands p earlier block done) (calm : Calm done)
    (w : Watched η) : (w.run earlier).rendering = block.or w.rendering := by
  induction stands generalizing w with
  | here done rest => exact rendering_movesAll calm w
  | @inside before rest body i earlier block done _ ih =>
      rw [run_append]
      refine (ih calm ((w.run (movesAll before)).turn (.enter i))).trans ?_
      cases block with
      | none => rfl
      | some j => rfl

end Watched

/-! ## Contexts -/

namespace Scene

/-- A new node remembers who was rendering when it was made. -/
theorem context_create (s : Scene η) (kind : Kind) (props : Option Fields) (offer : Offer Child) :
    (s.create kind props offer).1.head.context = s.rendering := by
  cases props <;> rfl

theorem context_make (s : Scene η) (m : Making) : (s.make m).1.head.context = s.rendering := by
  cases m with
  | create kind props offer => exact s.context_create kind props offer
  | createText text => exact s.context_create .text none (.text (text.getD " "))
  | normalizeText t => exact s.context_create .text none (.text t)
  | normalizeArray entries => exact s.context_create .fragment none (.array entries)

/-- A node that is cloned or taken yields the same tree, but for the cells. -/
theorem bare_work {s : Scene η} {a : Work η} {old n : Node} (again : a.old? = some old)
    (yields : (s.work a).1 = some n) : n.bare = old.bare := by
  -- A change is none, or it is a clone, and clones have the same bare tree.
  have changed : ∀ c : Change η, (s.change old c).1.bare = old.bare := by
    intro c
    obtain same | cloned := s.change_cases old c
    · rw [same]
    · rw [cloned]
      exact bare_node old s.store
  cases a with
  | set i => exact nomatch again
  | make m => exact nomatch again
  | bind other b => exact nomatch again
  | clone other =>
      obtain rfl := Option.some.inj again
      obtain rfl := Option.some.inj yields
      exact changed .clone
  | cloneIfMounted other =>
      obtain rfl := Option.some.inj again
      obtain rfl := Option.some.inj yields
      exact changed .cloneIfMounted
  | normalize other =>
      obtain rfl := Option.some.inj again
      obtain rfl := Option.some.inj yields
      exact changed .normalize

end Scene

/-- What a node is does not depend on its cell. -/
theorem Node.head_bare (n : Node) : n.bare.head = n.head := by
  obtain ⟨cell, head, children⟩ := n
  rfl

namespace Watched

/-- **SCOPED**. At every moment of a program, whatever rendered when it began, the run stands in a
    block or in none, and the instance of the block renders, or whatever rendered at first, unless
    another one was set there directly. When a block is left, whoever rendered before it renders
    again. A node that is made has whoever renders as its context, and a node that is cloned or
    taken again keeps its context, as do the nodes in it. -/
theorem rendering_scoped (w : Watched η) (p : List (Act η)) :
    (∀ earlier later, movesAll p = earlier ++ later →
      ∃ block done, Stands p earlier block done)
    ∧ (∀ earlier block done, Stands p earlier block done → Calm done →
      (w.run earlier).rendering = block.or w.rendering)
    ∧ (∀ earlier i body later, movesAll p = earlier ++ (Act.block i body).moves ++ later →
      (w.run (earlier ++ (Act.block i body).moves)).rendering = (w.run earlier).rendering)
    ∧ (∀ earlier a later, movesAll p = earlier ++ .work a :: later →
      ∀ n, ((w.run earlier).scene.work a).1 = some n →
        (∀ m, a = .make m → n.head.context = (w.run earlier).rendering)
        ∧ (∀ old, a.old? = some old →
          n.head.context = old.head.context ∧ n.bare = old.bare)) := by
  refine ⟨stands_movesAll p, fun _ _ _ stands calm => stands.rendering calm w, ?_, ?_⟩
  · intro earlier i body _ _
    rw [run_append]
    exact rendering_block _ i body
  · intro earlier a later _ n yields
    constructor
    · rintro m rfl
      obtain rfl := Option.some.inj yields
      exact Scene.context_make _ m
    · intro old again
      -- A node that is not made but taken or copied keeps all of its head, the context among it.
      have same := Scene.bare_work again yields
      refine ⟨?_, same⟩
      rw [← n.head_bare, same, old.head_bare]

/-- A block in which nothing is set to render, after the child was set to. -/
example : (unwatched.run (movesAll
    [.work (.set (some child)), .block parent [.work (.set none)]])).rendering = some child :=
  rfl

end Watched

end Vdom
