import Vdom.Helper
/-!
# Histories of the registry — a name is never taken away

The registry of a process starts with the built-in helpers and changes by minting helpers and by
naming them. `Registry.run` is the state after a history of such steps. A step may change the name
of a helper but leaves none without the name it had, so the built-in helpers always have names.
`Registry.given` lists the names that a history gives, and `name?_run` says which of them stands.
-/

namespace Vdom.Registry

/-- A step in the life of a registry. -/
inductive Action where
  | mint
  | register (entries : List (Helper × String))

/-- The registry after one more step. -/
def after (r : Registry) : Action → Registry
  | .mint => r.mint.2
  | .register entries => r.assignAll entries

/-- The registry after a history, from the first state on. -/
def run (history : List Action) : Registry := history.foldl after initial

/-- Whether a helper has a name. -/
def Named (r : Registry) (h : Helper) : Prop := (r.name? h).isSome = true

instance (r : Registry) (h : Helper) : Decidable (r.Named h) :=
  inferInstanceAs (Decidable ((r.name? h).isSome = true))

/-- No name is taken away by giving one, be it to the same helper. -/
theorem Named.assign {r : Registry} {h : Helper} (named : r.Named h) (x : Helper)
    (name : String) : (r.assign x name).Named h := by
  rw [Named, name?_assign]
  split
  · rfl
  · exact named

theorem Named.assignAll {r : Registry} {h : Helper} (named : r.Named h)
    (entries : List (Helper × String)) : (r.assignAll entries).Named h := by
  induction entries generalizing r with
  | nil => exact named
  | cons entry rest ih => exact ih (named.assign entry.1 entry.2)

/-- A step leaves no helper without the name it had. -/
theorem Named.after {r : Registry} {h : Helper} (named : r.Named h) (a : Action) :
    (r.after a).Named h := by
  cases a with
  | mint => exact named
  | register entries => exact named.assignAll entries

/-- Nor does a history. -/
theorem Named.foldl_after {r : Registry} {h : Helper} (named : r.Named h)
    (history : List Action) : (history.foldl Registry.after r).Named h := by
  induction history generalizing r with
  | nil => exact named
  | cons a rest ih => exact ih (named.after a)

/-- What has a name at first has one ever after. -/
theorem named_run {h : Helper} (named : initial.Named h) (history : List Action) :
    (run history).Named h :=
  named.foldl_after history

/-! ## Names given -/

/-- The names that a step gives. -/
def Action.given : Action → List (Helper × String)
  | .mint => []
  | .register entries => entries

/-- The names that a history gives, first to last. -/
def given (history : List Action) : List (Helper × String) := history.flatMap Action.given

/-- Names are kept with the latest in front. -/
theorem names_assignAll (r : Registry) (entries : List (Helper × String)) :
    (r.assignAll entries).names = entries.reverse ++ r.names := by
  induction entries generalizing r with
  | nil => rfl
  | cons entry rest ih =>
      rw [assignAll, List.foldl_cons, ← assignAll, ih, List.reverse_cons, List.append_assoc]
      rfl

theorem names_after (r : Registry) (a : Action) :
    (r.after a).names = a.given.reverse ++ r.names := by
  cases a with
  | mint => rfl
  | register entries => exact names_assignAll r entries

/-- After a history, the names are those that it gives, the last of them first. -/
theorem names_foldl_after (r : Registry) (history : List Action) :
    (history.foldl after r).names = (given history).reverse ++ r.names := by
  induction history generalizing r with
  | nil => rfl
  | cons a rest ih =>
      rw [List.foldl_cons, ih, names_after, given, given, List.flatMap_cons, List.reverse_append,
        List.append_assoc]

/-- The last name given to a helper stands, and its built-in name if none was given. -/
theorem name?_run (history : List Action) (h : Helper) :
    (run history).name? h
      = ((given history).reverse.lookup h).or (Helper.builtIns.lookup h) := by
  rw [name?, run, names_foldl_after, List.lookup_append]
  rfl

end Vdom.Registry
