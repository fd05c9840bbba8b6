import Vdom.Emit.RenderFunction
import Vdom.Proofs.Buffer
/-!
# The frame of a render function — the whole code as one run of pieces

Writing a template resolves the helpers it binds, then what it returns, and puts both into a
fixed frame. `generate_eq` says so in one equation: every statement about the result of
`generate` is one about the pieces of `framed` in an empty buffer, and its faults are those of
the two resolutions, in that order.
-/

namespace Vdom.Emit

/-! ## Levels

    Indentation decides what a line break appends and nothing else, so a buffer is rewritten to
    one without indentation at a level. -/

namespace Buffer

/-- A buffer at another level of indentation. -/
def level (b : Buffer) (depth : Nat) : Buffer := { b with depth }

/-- The result that a buffer holds. -/
def result (b : Buffer) : Generated := ⟨b.code, b.used.toList, b.mappings⟩

@[simp] theorem options_level (b : Buffer) (d : Nat) : (b.level d).options = b.options := rfl

@[simp] theorem level_put (b : Buffer) (d : Nat) (s : String) :
    (b.level d).put s = (b.put s).level d := rfl

/-- Pieces do not look at the depth, so it may be set before or after them. -/
@[simp] theorem level_addAll (b : Buffer) (d : Nat) (ps : List Piece) :
    (b.level d).addAll ps = (b.addAll ps).level d := by
  induction ps generalizing b with
  | nil => rfl
  | cons p ps ih =>
      have one : (b.level d).add p = (b.add p).level d := by
        cases p with
        | code text => rfl
        | mark origin =>
            show (b.level d).mark origin = (b.mark origin).level d
            rw [mark, mark, options_level]
            split <;> rfl
        | use helper => rfl
      rw [addAll_cons, addAll_cons, one, ih]

@[simp] theorem options_put (b : Buffer) (s : String) : (b.put s).options = b.options := rfl

@[simp] theorem put_empty (b : Buffer) : b.put "" = b := by
  simp only [put, Cursor.advance_empty, String.append_empty]

/-- Two texts in a row are one. -/
theorem put_put (b : Buffer) (s t : String) : (b.put s).put t = b.put (s ++ t) := by
  simp only [put, Cursor.advance_append, String.append_assoc]

theorem breakLine_level (b : Buffer) (d : Nat) :
    (b.level d).breakLine = (b.put (lineBreak d)).level d := rfl

/-- A block ends on a line of its own, one level further out. -/
theorem dedent_level (b : Buffer) (d : Nat) :
    (b.level (d + 1)).dedent false = .ok ((b.put (lineBreak d)).level d) := rfl

theorem finish_level (b : Buffer) : (b.level 0).finish = .ok b.result := rfl

end Buffer

/-! ## The frame -/

/-- The code before the names that are bound. -/
def opening (options : Options) : String :=
  (if options.isBrowser then "return " else "")
    ++ ("function render(_ctx) \x7b " ++ Buffer.lineBreak 1)

/-- The code that binds names from the runtime global and starts what is returned. -/
def binding (options : Options) (names : List String) : String :=
  "const \x7b " ++ Text.join ", " names ++ " \x7d = "
    ++ (options.runtimeGlobalName ++ ("\n" ++ (Buffer.lineBreak 1 ++ "return ")))

/-- The code after what is returned. -/
def closing : String := Buffer.lineBreak 0 ++ " \x7d"

/-- The pieces of a whole render function around those of what it returns. -/
def framed (options : Options) (helpers : List Helper) (names : List String)
    (body : List Piece) : List Piece :=
  .code (opening options) ::
    (helpers.map .use ++ .code (binding options names) :: (body ++ [.code closing]))

/-- The names that a template binds, once those of its helpers are known. -/
def bound (names : List String) : List String := names.foldl addName [nodeFunction]

/-- Several roots need a helper to wrap them, whether or not the template lists it. -/
theorem fragment_mem_boundHelpers {root : Root} (several : 1 < root.children.length) :
    Helper.fragment ∈ boundHelpers root := by
  rw [boundHelpers, if_pos several]
  exact List.mem_append_right _ (List.mem_singleton.mpr rfl)

/-- Binding resolves the helpers in order, records their use, and adds their names. -/
theorem bindNames_eq (registry : Registry) (names : List String) (b : Buffer)
    (helpers : List Helper) :
    bindNames registry names b helpers
      = (helpers.mapM registry.resolve).map fun found =>
          (found.foldl addName names, b.addAll (helpers.map .use)) := by
  induction helpers generalizing names b with
  | nil => rfl
  | cons helper rest ih =>
      rw [bindNames, Buffer.resolve, List.mapM_cons]
      cases registry.resolve helper with
      | error fault => rfl
      | ok name =>
          show bindNames registry (addName names name) (b.use helper) rest = _
          rw [ih]
          cases rest.mapM registry.resolve with
          | error fault => rfl
          | ok found => rfl

/-- The preamble, one level deep. -/
theorem preamble_level (registry : Registry) (root : Root) (b : Buffer) (d : Nat) :
    preamble registry root (b.level d)
      = ((boundHelpers root).mapM registry.resolve).map fun found =>
          ((b.addAll ((boundHelpers root).map .use)).put
            ("const \x7b " ++ Text.join ", " (bound found) ++ " \x7d = "
              ++ (b.options.runtimeGlobalName ++ ("\n" ++ Buffer.lineBreak d)))).level d := by
  rw [preamble, bindNames_eq]
  cases (boundHelpers root).mapM registry.resolve with
  | error fault => rfl
  | ok found =>
      show Except.ok _ = Except.ok _
      simp only [Buffer.level_addAll, Buffer.level_put, Buffer.breakLine_level,
        Buffer.options_level, Buffer.options_put, Buffer.options_addAll, Buffer.put_put,
        String.append_assoc]
      rfl

/-- **ONE RUN OF PIECES**: writing resolves the bound helpers, then what is returned, and the
    result is that of the framed pieces in an empty buffer. -/
theorem generate_eq (registry : Registry) (options : Options) (root : Root) :
    generate registry options root
      = (do
        let found ← (boundHelpers root).mapM registry.resolve
        let body ← returned registry root.children
        .ok ((Buffer.empty options).addAll
          (framed options (boundHelpers root) (bound found) body)).result) := by
  have opened : (((if options.isBrowser then (Buffer.empty options).put "return "
        else Buffer.empty options).put "function render(_ctx) \x7b ").indent)
      = ((Buffer.empty options).put (opening options)).level 1 := by
    rw [opening]
    split
    · rw [← Buffer.put_put, ← Buffer.put_put]
      rfl
    · rw [← Buffer.put_put, ← Buffer.put_put, Buffer.put_empty]
      rfl
  rw [generate]
  -- From here on every step is one at a level, and the levels are 1 and, after `dedent`, 0.
  simp only [opened, preamble_level]
  cases (boundHelpers root).mapM registry.resolve with
  | error fault => rfl
  | ok found =>
      cases returned registry root.children with
      | error fault => rfl
      | ok body =>
          show Except.bind (Buffer.dedent _ false) _ = _
          simp only [Buffer.level_put, Buffer.level_addAll, Buffer.dedent_level]
          show Buffer.finish _ = _
          simp only [Buffer.level_put, Buffer.finish_level]
          simp only [Buffer.put_put, framed, Buffer.addAll_cons, Buffer.addAll_append,
            Buffer.addAll_nil, Buffer.add, binding, closing, String.append_assoc,
            Buffer.options_put]
          rfl

/-! ## What a result tells -/

/-- Helpers resolve to the names that the registry has for them. -/
theorem names_of_mapM_resolve {registry : Registry} {helpers : List Helper} {found : List String}
    (h : helpers.mapM registry.resolve = .ok found) :
    helpers.map registry.name? = found.map some := by
  induction helpers generalizing found with
  | nil =>
      rw [← Except.ok.inj h]
      rfl
  | cons helper rest ih =>
      rw [List.mapM_cons, Registry.resolve] at h
      -- One helper without a name would have been the fault of all.
      cases hname : registry.name? helper with
      | none => rw [hname] at h; exact nomatch h
      | some name =>
          cases hrest : rest.mapM registry.resolve with
          | error fault => rw [hname, hrest] at h; exact nomatch h
          | ok names =>
              rw [hname, hrest] at h
              rw [← Except.ok.inj h, List.map_cons, List.map_cons, hname, ih hrest]

/-- A resolved name is the name of one of the helpers. -/
theorem mem_of_mapM_resolve {registry : Registry} {helpers : List Helper} {found : List String}
    (h : helpers.mapM registry.resolve = .ok found) {name : String} (hn : name ∈ found) :
    ∃ helper ∈ helpers, registry.name? helper = some name := by
  have member : some name ∈ helpers.map registry.name? := by
    rw [names_of_mapM_resolve h]
    exact List.mem_map_of_mem hn
  exact List.mem_map.mp member

/-- Adding a name adds it and nothing else; a name that is there stays once. -/
theorem mem_addName {names : List String} {name x : String} :
    x ∈ addName names name ↔ x ∈ names ∨ x = name := by
  rw [addName]
  split
  · rename_i there
    constructor
    · exact Or.inl
    · rintro (h | rfl)
      · exact h
      · exact List.contains_iff_mem.mp there
  · rw [List.mem_append, List.mem_singleton]

/-- Of names added one after another, none is lost. -/
theorem mem_foldl_addName {found names : List String} {x : String} :
    x ∈ found.foldl addName names ↔ x ∈ names ∨ x ∈ found := by
  induction found generalizing names with
  | nil => simp
  | cons name found ih =>
      rw [List.foldl_cons, ih, mem_addName, List.mem_cons, or_assoc]

/-- The bound names are that of the node function and those of the helpers. -/
theorem mem_bound {found : List String} {x : String} :
    x ∈ bound found ↔ x = nodeFunction ∨ x ∈ found := by
  rw [bound, mem_foldl_addName, List.mem_singleton]

/-- A render function was written from resolved names and written children. -/
theorem generate_ok {registry : Registry} {options : Options} {root : Root} {g : Generated}
    (h : generate registry options root = .ok g) :
    ∃ found body, (boundHelpers root).mapM registry.resolve = .ok found
      ∧ returned registry root.children = .ok body
      ∧ g = ((Buffer.empty options).addAll
          (framed options (boundHelpers root) (bound found) body)).result := by
  rw [generate_eq] at h
  cases hfound : (boundHelpers root).mapM registry.resolve with
  | error fault => rw [hfound] at h; exact nomatch h
  | ok found =>
      cases hbody : returned registry root.children with
      | error fault => rw [hfound, hbody] at h; exact nomatch h
      | ok body =>
          rw [hfound, hbody] at h
          exact ⟨found, body, rfl, rfl, (Except.ok.inj h).symm⟩

theorem codeOf_uses (helpers : List Helper) : codeOf (helpers.map .use) = "" := by
  induction helpers with
  | nil => rfl
  | cons helper rest ih => rw [List.map_cons, codeOf_use, ih]

/-- The code of a render function is its frame around what it returns. -/
theorem codeOf_framed (options : Options) (helpers : List Helper) (names : List String)
    (body : List Piece) :
    codeOf (framed options helpers names body)
      = opening options ++ (binding options names ++ (codeOf body ++ closing)) := by
  simp only [framed, codeOf_code, codeOf_append, codeOf_uses, codeOf_nil, String.empty_append,
    String.append_empty]

/-- The code of a result. -/
theorem code_result (options : Options) (ps : List Piece) :
    ((Buffer.empty options).addAll ps).result.code = codeOf ps := by
  show ((Buffer.empty options).addAll ps).code = codeOf ps
  rw [Buffer.code_addAll]
  exact String.empty_append

end Vdom.Emit
