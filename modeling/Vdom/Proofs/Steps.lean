import Vdom.Proofs.Frame
/-!
# Steps of a writer — a buffer is always at the end of its code

A writer takes steps one by one, and a step may fail: there may be no indentation to take back, or
a helper may have no name. What a failed step leaves behind is a buffer like any other, so a run
goes on after it.

* **`Buffer.perform`** — a step as a program, which shows what is done before a step fails; it ends
  as the step does (`step_eq_perform`).
* **`Buffer.attempt`** — the buffer after a step, whether it succeeded or failed.
* **`Step.text`**, **`Step.level`** — what a step does, in terms of the level it starts from: the
  code it appends and the level it leaves. Everything else here is read off these two.
* **`attempts_at_end`** — the main theorem, about runs of any length.
-/

namespace Vdom.Emit

/-! ## What a step does -/

namespace Step

/-- The level of indentation after a step. -/
def level (depth : Nat) : Step → Nat
  | .indent => depth + 1
  | .dedent _ => depth - 1
  | _ => depth

/-- The code that a step appends. -/
def text (depth : Nat) : Step → String
  | .put text => text
  | .putSpan text _ => text
  | .breakLine => Buffer.lineBreak depth
  | .indent => Buffer.lineBreak (depth + 1)
  | .dedent keepLine =>
    match depth with
    | 0 => ""
    | depth + 1 => if keepLine then "" else Buffer.lineBreak depth
  | .resolve _ => ""

/-- Whether a step indents. -/
def isIndent : Step → Bool
  | .indent => true
  | _ => false

/-- Whether a step takes indentation back. -/
def isDedent : Step → Bool
  | .dedent _ => true
  | _ => false

/-- Whether a step starts a new line when it succeeds. -/
def breaksLine : Step → Bool
  | .breakLine => true
  | .indent => true
  | .dedent keepLine => !keepLine
  | _ => false

/-- A text that is put as it is, or for a span of the template. -/
def push : String × Option Span → Step
  | (text, none) => .put text
  | (text, some span) => .putSpan text span

end Step

namespace Buffer

/-- A step as a program on the buffer, statement by statement: what it has done to the buffer by
    the time it fails stays done. -/
def perform (registry : Registry) : Step → EStateM Fault Buffer Unit
  | .put text => modify fun b => b.put text
  | .putSpan text span => modify fun b => b.addAll (Piece.spanned text span)
  | .breakLine => modify breakLine
  | .indent => do
    modify fun b => { b with depth := b.depth + 1 }
    modify breakLine
  | .dedent keepLine => do
    if (← get).depth = 0 then throw .unindented
    modify fun b => { b with depth := b.depth - 1 }
    if !keepLine then modify breakLine
  | .resolve helper => do
    modify fun b => b.use helper
    match registry.resolve helper with
    | .ok _ => return
    | .error fault => throw fault

/-- The buffer that a step leaves behind, whether it succeeds or fails. -/
def attempt (registry : Registry) (b : Buffer) (s : Step) : Buffer :=
  match (perform registry s).run b with
  | .ok _ after => after
  | .error _ after => after

/-- The buffer after some steps, some of which may fail. -/
def attempts (registry : Registry) (b : Buffer) (steps : List Step) : Buffer :=
  steps.foldl (attempt registry) b

/-- The steps of a run that succeed, in order. -/
def succeeded (registry : Registry) (b : Buffer) : List Step → List Step
  | [] => []
  | s :: rest =>
    let later := (b.attempt registry s).succeeded registry rest
    match b.step registry s with
    | .ok _ => s :: later
    | .error _ => later

variable {registry : Registry}

/-- What a step gives is what its program ends with. -/
theorem step_eq_perform (registry : Registry) (b : Buffer) (s : Step) :
    b.step registry s = match (perform registry s).run b with
      | .ok _ after => .ok after
      | .error fault _ => .error fault := by
  cases s with
  | dedent keepLine =>
      obtain ⟨code, cursor, depth, options, used, mappings⟩ := b
      cases depth with
      | zero => rfl
      | succ depth => cases keepLine <;> rfl
  | resolve helper =>
      simp only [step, resolve, perform]
      cases registry.resolve helper with
      | ok name => rfl
      | error f => rfl
  | _ => rfl

/-- A step that succeeds leaves what it yields. -/
theorem attempt_of_ok {b after : Buffer} {s : Step} (done : b.step registry s = .ok after) :
    b.attempt registry s = after := by
  rw [step_eq_perform] at done
  rw [attempt]
  cases run : (perform registry s).run b with
  | ok _ last => rw [run] at done; exact Except.ok.inj done
  | error f last => rw [run] at done; exact nomatch done

/-- The steps that fail, and why. -/
theorem step_error_iff {b : Buffer} {s : Step} {f : Fault} :
    b.step registry s = .error f
      ↔ (∃ keepLine, s = .dedent keepLine ∧ b.depth = 0 ∧ f = .unindented)
        ∨ ∃ helper, s = .resolve helper ∧ registry.name? helper = none ∧ f = .unnamed helper := by
  cases s with
  | dedent keepLine =>
      simp only [step, dedent]
      cases hdepth : b.depth with
      | zero => simp [eq_comm]
      | succ depth => simp
  | resolve helper =>
      simp only [step, resolve, Registry.resolve]
      cases hname : registry.name? helper with
      | none => simp [Except.map, hname, eq_comm]
      | some name => simp [Except.map, hname]
  | _ => simp [step]

/-- What later positions depend on: the code, the place of its end, and the level. -/
def front (b : Buffer) : String × Cursor × Nat := (b.code, b.cursor, b.depth)

/-- Pieces append their code, move over it, and keep the level. -/
theorem front_addAll (b : Buffer) (ps : List Piece) :
    (b.addAll ps).front = (b.code ++ codeOf ps, b.cursor.advance (codeOf ps), b.depth) := by
  have levelled : ((b.level b.depth).addAll ps).depth = b.depth := by
    rw [level_addAll]
    rfl
  have depth : (b.addAll ps).depth = b.depth := levelled
  rw [front, code_addAll, cursor_addAll, depth]

/-- Appending nothing is standing still. -/
theorem front_idle (b : Buffer) : (b.code ++ "", b.cursor.advance "", b.depth) = b.front := by
  rw [String.append_empty, Cursor.advance_empty, front]

/-- **ONE STEP**: it appends its code, moves over it, and changes the level, whether it succeeds or
    fails. -/
theorem front_attempt (registry : Registry) (b : Buffer) (s : Step) :
    (b.attempt registry s).front
      = (b.code ++ s.text b.depth, b.cursor.advance (s.text b.depth), s.level b.depth) := by
  have idle : b.front = (b.code ++ "", b.cursor.advance "", b.depth) := b.front_idle.symm
  cases s with
  | put text => rfl
  | putSpan text span =>
      show (b.addAll (Piece.spanned text span)).front = _
      rw [front_addAll, codeOf_spanned]
      rfl
  | breakLine => rfl
  | indent => rfl
  -- At level zero the step fails and nothing moves.
  | dedent keepLine =>
      obtain ⟨code, cursor, depth, options, used, mappings⟩ := b
      cases depth with
      | zero => exact idle
      | succ depth =>
          cases keepLine with
          | true => exact congrArg (fun f => (f.1, f.2.1, depth)) idle
          | false => rfl
  | resolve helper =>
      rw [attempt, perform]
      cases registry.resolve helper with
      | ok name => exact idle
      | error f => exact idle

/-- A step appends its text, and none if it fails; cursor and level follow suit. -/
theorem code_attempt (registry : Registry) (b : Buffer) (s : Step) :
    (b.attempt registry s).code = b.code ++ s.text b.depth :=
  congrArg Prod.fst (front_attempt registry b s)

theorem cursor_attempt (registry : Registry) (b : Buffer) (s : Step) :
    (b.attempt registry s).cursor = b.cursor.advance (s.text b.depth) :=
  congrArg (fun f => f.2.1) (front_attempt registry b s)

theorem depth_attempt (registry : Registry) (b : Buffer) (s : Step) :
    (b.attempt registry s).depth = s.level b.depth :=
  congrArg (fun f => f.2.2) (front_attempt registry b s)

/-- Where two buffers have come to the same front, a step brings both to the same front. -/
theorem front_attempt_congr {b c : Buffer} (same : b.front = c.front) (s : Step) :
    (b.attempt registry s).front = (c.attempt registry s).front := by
  rw [front, front, Prod.mk.injEq, Prod.mk.injEq] at same
  obtain ⟨code, cursor, depth⟩ := same
  rw [front_attempt, front_attempt, code, cursor, depth]

theorem front_attempts_congr {b c : Buffer} (same : b.front = c.front) (steps : List Step) :
    (b.attempts registry steps).front = (c.attempts registry steps).front := by
  induction steps generalizing b c with
  | nil => exact same
  | cons s rest ih => exact ih (front_attempt_congr same s)

/-- Fragments in a row lead where their joined text leads. -/
theorem front_pushes (b : Buffer) (fragments : List (String × Option Span)) :
    (b.attempts registry (fragments.map Step.push)).front
      = (b.put (String.join (fragments.map Prod.fst))).front := by
  induction fragments generalizing b with
  | nil => exact (congrArg front (put_empty b)).symm
  | cons fragment rest ih =>
      obtain ⟨text, span⟩ := fragment
      have one : (b.attempt registry (Step.push (text, span))).front = (b.put text).front := by
        cases span with
        | none => rfl
        | some span => exact front_attempt registry b (.putSpan text span)
      have step : (b.attempts registry (((text, span) :: rest).map Step.push)).front
          = ((b.put text).attempts registry (rest.map Step.push)).front :=
        front_attempts_congr one _
      rw [step, ih, put_put, List.map_cons, String.join_cons]

/-- **A FAILED STEP LEAVES NO TRACE** in the code, the position or the level. -/
theorem front_attempt_of_error {b : Buffer} {s : Step} {f : Fault}
    (failed : b.step registry s = .error f) : (b.attempt registry s).front = b.front := by
  rw [front_attempt, ← front_idle]
  rcases step_error_iff.mp failed with ⟨keepLine, rfl, depth, -⟩ | ⟨helper, rfl, -, -⟩
  · rw [depth]
    rfl
  · rfl

/-! ## What a run does -/

/-- Whatever the code has become, the cursor is the place of its end. -/
theorem cursor_attempts {b : Buffer} (atEnd : b.cursor = Cursor.endOf b.code) (steps : List Step) :
    (b.attempts registry steps).cursor = Cursor.endOf (b.attempts registry steps).code := by
  induction steps generalizing b with
  | nil => exact atEnd
  | cons s rest ih =>
      -- The end of what precedes, moved over what follows, is the end of both.
      refine ih ?_
      rw [code_attempt, cursor_attempt, atEnd, ← Cursor.start_advance, ← Cursor.start_advance,
        Cursor.advance_append]

/-- Each step that succeeds changes the level by one at most, and steps inward and outward make up
    for each other. -/
theorem level_of_ok {b after : Buffer} {s : Step} (done : b.step registry s = .ok after) :
    s.level b.depth + (if s.isDedent then 1 else 0) = b.depth + if s.isIndent then 1 else 0 := by
  cases s with
  | dedent keepLine =>
      have depth : b.depth ≠ 0 := by
        intro zero
        have failed : b.step registry (.dedent keepLine) = .error .unindented :=
          step_error_iff.mpr (.inl ⟨keepLine, rfl, zero, rfl⟩)
        rw [failed] at done
        exact nomatch done
      exact Nat.succ_pred_eq_of_ne_zero depth
  | _ => rfl

/-- **THE LEVEL IS A BALANCE**: every indentation counts, and every taking back that succeeds. -/
theorem depth_attempts (registry : Registry) (b : Buffer) (steps : List Step) :
    (b.attempts registry steps).depth + (b.succeeded registry steps).countP Step.isDedent
      = b.depth + steps.countP Step.isIndent := by
  induction steps generalizing b with
  | nil => rfl
  | cons s rest ih =>
      have run : b.attempts registry (s :: rest) = (b.attempt registry s).attempts registry rest :=
        rfl
      have depth := depth_attempt registry b s
      have rest := ih (b.attempt registry s)
      rw [run, succeeded, List.countP_cons]
      cases done : b.step registry s with
      | ok after =>
          have balance := level_of_ok done
          rw [List.countP_cons]
          omega
      -- What fails is no indentation, and it leaves the level alone.
      | error f =>
          have still : (b.attempt registry s).depth = b.depth :=
            congrArg (fun f => f.2.2) (front_attempt_of_error done)
          have noIndent : s.isIndent = false := by
            rcases step_error_iff.mp done with ⟨keepLine, rfl, -⟩ | ⟨helper, rfl, -⟩ <;> rfl
          rw [noIndent, if_neg Bool.false_ne_true, ← still]
          exact rest

/-- Every level has cost at least a line break, so the level never exceeds the size of the code. -/
theorem depth_le_size {b : Buffer} (low : b.depth ≤ b.code.utf8ByteSize) (steps : List Step) :
    (b.attempts registry steps).depth ≤ (b.attempts registry steps).code.utf8ByteSize := by
  induction steps generalizing b with
  | nil => exact low
  | cons s rest ih =>
      refine ih ?_
      have rise : s.level b.depth ≤ b.depth + (s.text b.depth).utf8ByteSize := by
        cases s with
        -- The line break of an indentation is the byte that pays for the level.
        | indent =>
            have chars := Cursor.length_le_utf8ByteSize (lineBreak (b.depth + 1))
            rw [lineBreak, String.toList_ofList, List.length_cons] at chars
            show b.depth + 1 ≤ b.depth + (lineBreak (b.depth + 1)).utf8ByteSize
            rw [lineBreak]
            omega
        | dedent keepLine => exact Nat.le_trans (Nat.sub_le _ _) (Nat.le_add_right _ _)
        | _ => exact Nat.le_add_right _ _
      rw [code_attempt, depth_attempt, String.utf8ByteSize_append]
      omega

/-- A step that starts a new line appends a line break and two spaces for every level it leaves. -/
theorem code_of_breaksLine {b after : Buffer} {s : Step} (done : b.step registry s = .ok after)
    (breaks : s.breaksLine = true) :
    after.code.toList = b.code.toList ++ '\n' :: List.replicate (2 * after.depth) ' ' := by
  have line : after.code = b.code ++ lineBreak after.depth := by
    cases s with
    | put text => exact nomatch breaks
    | putSpan text span => exact nomatch breaks
    | resolve helper => exact nomatch breaks
    | breakLine => rw [← Except.ok.inj done]; rfl
    | indent => rw [← Except.ok.inj done]; rfl
    -- Of the steps outward, only those break the line that do not keep it and succeed.
    | dedent keepLine =>
        cases keepLine with
        | true => exact nomatch breaks
        | false =>
            obtain ⟨code, cursor, depth, options, used, mappings⟩ := b
            cases depth with
            | zero => exact nomatch done
            | succ depth => rw [← Except.ok.inj done]; rfl
  rw [line, String.toList_append, lineBreak, String.toList_ofList]

/-- **ALWAYS AT THE END OF THE CODE**. After any steps from an empty buffer, whichever of them
    failed:

    * the cursor is the place of the end of the code, and no counter leaves a word of 32 bits on
      the way while the code has at most `2^32 - 2` bytes;
    * the level counts the indentations less those that were taken back;
    * the next step appends its text and moves over it, which is a line break with two spaces for
      every level if it starts a new line; it fails only for want of indentation or of a name, and
      then the code, the position and the level are what they were;
    * how fragments are cut changes no later position. -/
theorem attempts_at_end (registry : Registry) (options : Options) (steps : List Step) :
    let b := (empty options).attempts registry steps
    b.cursor = Cursor.endOf b.code
    ∧ (b.code.utf8ByteSize ≤ UInt32.size - 2 → b.depth < UInt32.size
      ∧ ∀ before after, b.code = before ++ after → (Cursor.endOf before).Fits)
    ∧ b.depth + ((empty options).succeeded registry steps).countP Step.isDedent
      = steps.countP Step.isIndent
    ∧ (∀ s, (b.attempt registry s).code = b.code ++ s.text b.depth
      ∧ (b.attempt registry s).cursor = b.cursor.leap (s.text b.depth))
    ∧ (∀ s after, b.step registry s = .ok after → b.attempt registry s = after
      ∧ (s.breaksLine = true →
        after.code.toList = b.code.toList ++ '\n' :: List.replicate (2 * after.depth) ' '))
    ∧ (∀ s f, b.step registry s = .error f
      ↔ (∃ keepLine, s = .dedent keepLine ∧ b.depth = 0 ∧ f = .unindented)
        ∨ ∃ helper, s = .resolve helper ∧ registry.name? helper = none ∧ f = .unnamed helper)
    ∧ (∀ s f, b.step registry s = .error f → (b.attempt registry s).front = b.front)
    ∧ ∀ (cut recut : List (String × Option Span)) (later : List Step),
      String.join (cut.map Prod.fst) = String.join (recut.map Prod.fst) →
      ((b.attempts registry (cut.map Step.push)).attempts registry later).front
        = ((b.attempts registry (recut.map Step.push)).attempts registry later).front := by
  intro b
  have position : b.cursor = Cursor.endOf b.code := cursor_attempts rfl steps
  have level := depth_attempts registry (empty options) steps
  refine ⟨position, ?_, by rw [level]; exact Nat.zero_add _, ?_, ?_, ?_, ?_, ?_⟩
  · intro short
    constructor
    -- Every indentation has written a line, so the code is as long as the level is deep.
    · have low : b.depth ≤ b.code.utf8ByteSize := depth_le_size (Nat.zero_le _) steps
      have room : UInt32.size - 2 < UInt32.size := by decide
      omega
    · intro before after split
      rw [split, String.utf8ByteSize_append] at short
      exact Cursor.fits_endOf (Nat.le_trans (Nat.le_add_right _ _) short)
  · intro s
    rw [← Cursor.advance_eq_leap]
    exact ⟨code_attempt registry b s, cursor_attempt registry b s⟩
  · intro s after done
    exact ⟨attempt_of_ok done, code_of_breaksLine done⟩
  · intro s f
    exact step_error_iff
  · intro s f failed
    exact front_attempt_of_error failed
  · intro cut recut later same
    refine front_attempts_congr ?_ later
    rw [front_pushes, front_pushes, same]

end Buffer

end Vdom.Emit
