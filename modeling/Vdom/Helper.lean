/-!
# Helpers — runtime functions that generated code calls by name

A helper is a number; its name is looked up when code is written, so a helper may be referenced
before it has a name. Nine helpers are built in, and further ones are minted from a 32-bit
counter.

* **`Registry.name?`** — the name last given to a helper, its built-in name if none was.
* **`Registry.mint`** — the next number of the counter; the counter wraps after `2^32 - 1`.
-/

namespace Vdom

/-- A runtime helper, by its number. -/
structure Helper where
  id : UInt32
  deriving DecidableEq, Repr, Inhabited

namespace Helper

/-- The helper that mounts children without a wrapper element. -/
def fragment : Helper := ⟨0⟩

/-- The built-in helpers with their names. -/
def builtIns : List (Helper × String) :=
  [(fragment, "Fragment"), (⟨1⟩, "createVNode"), (⟨2⟩, "createElementVNode"),
    (⟨3⟩, "resolveComponent"), (⟨4⟩, "withDirectives"), (⟨5⟩, "renderList"),
    (⟨6⟩, "toDisplayString"), (⟨7⟩, "toHandlerKey"), (⟨8⟩, "unref")]

/-- Whether a helper is built in. -/
def isBuiltIn (h : Helper) : Bool := h.id.toNat < builtIns.length

end Helper

/-- The names given to helpers, the latest first, and the number minted next. -/
structure Registry where
  next : UInt32
  names : List (Helper × String)
  deriving Repr

namespace Registry

/-- Only the built-in helpers have names, and no helper has been minted. -/
def initial : Registry :=
  { next := UInt32.ofNat Helper.builtIns.length, names := Helper.builtIns }

/-- A helper with the next number of the counter. -/
def mint (r : Registry) : Helper × Registry :=
  (⟨r.next⟩, { r with next := r.next + 1 })

/-- The registry after minting `n` helpers. -/
def mintMany (r : Registry) (n : Nat) : Registry :=
  { r with next := r.next + UInt32.ofNat n }

/-- Give a helper a name, in place of the one it had. -/
def assign (r : Registry) (h : Helper) (name : String) : Registry :=
  { r with names := (h, name) :: r.names }

/-- Give names to helpers in order, so that the last name of a helper stands. -/
def assignAll (r : Registry) (entries : List (Helper × String)) : Registry :=
  entries.foldl (fun r entry => r.assign entry.1 entry.2) r

/-- The name of a helper. -/
def name? (r : Registry) (h : Helper) : Option String := r.names.lookup h

/-- Minting no helpers changes nothing. -/
theorem mintMany_zero (r : Registry) : r.mintMany 0 = r :=
  congrArg (Registry.mk · r.names) (UInt32.add_zero r.next)

/-- Many helpers are minted one after another. -/
theorem mintMany_succ (r : Registry) (n : Nat) : r.mintMany (n + 1) = r.mint.2.mintMany n := by
  refine congrArg (Registry.mk · r.names) ?_
  show r.next + UInt32.ofNat (n + 1) = r.next + 1 + UInt32.ofNat n
  rw [UInt32.ofNat_add, UInt32.add_assoc, UInt32.add_comm 1]
  rfl

/-- A name given to one helper changes the name of no other. -/
theorem name?_assign (r : Registry) (h x : Helper) (name : String) :
    (r.assign h name).name? x = if x = h then some name else r.name? x := by
  by_cases same : x = h
  · subst same; simp [name?, assign]
  · rw [if_neg same, name?, assign, List.lookup_cons, beq_false_of_ne same]
    rfl

end Registry

end Vdom
