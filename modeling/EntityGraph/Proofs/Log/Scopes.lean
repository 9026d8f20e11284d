import EntityGraph.Log.Context
import Mathlib.Tactic.Common
/-!
What is left of a context behind a scope.

* `Block`, `Block.run`: what a body may do to the context, in any nesting, and how it ends.
* `Block.outcome`, `Block.leaves`: how a body ends, and the run that it leaves behind, read off from
  the body alone.
* `Block.run_outcome`, `Block.run_leaves`: every run of the body agrees with them.
* `Block.run_within`: behind a scope the document is the one of before, and so is the run if the
  scope was entered with one. A scope that was entered without one leaves the run of its body.
* `Block.not_restores_of_leak`: a body that sets a run leaks it out of such a scope.
-/

namespace EntityGraph.Log

/-- What a body may do to the context: change it, open scopes, and fail in any place. -/
inductive Block (ε : Type) where
  | skip
  | fail (error : ε)
  | setDocument (document run : Option String)
  | setOperation (operation : Option String)
  | clear
  | within (document run : Option String) (body : Block ε)
  /-- A body whose failure is caught. -/
  | attempt (body : Block ε)
  | seq (first second : Block ε)
  deriving Repr

namespace Block

variable {ε : Type}

/-- Run a body in a context: how it ends, and the context behind it. -/
def run : Block ε → Context → Except ε Unit × Context
  | .skip, c => (.ok (), c)
  | .fail e, c => (.error e, c)
  | .setDocument d r, c => (.ok (), c.setDocument d r)
  | .setOperation o, c => (.ok (), c.setOperation o)
  | .clear, _ => (.ok (), .empty)
  | .within d r body, c =>
    let (inside, scope) := c.enter d r
    let (result, left) := body.run inside
    (result, scope.leave left)
  | .attempt body, c => (.ok (), (body.run c).2)
  | .seq first second, c =>
    match first.run c with
    | (.ok (), c) => second.run c
    | (.error e, c) => (.error e, c)

/-! ### What a body does whatever the context -/

/-- How a body ends. -/
def outcome : Block ε → Except ε Unit
  | .fail e => .error e
  | .within _ _ body => body.outcome
  | .seq first second =>
    match first.outcome with
    | .ok () => second.outcome
    | .error e => .error e
  | _ => .ok ()

/-- The run that a body leaves behind, or nothing if it leaves the run that it finds. A scope that
has been entered with a run leaves no trace of it. -/
def leaves : Block ε → Option (Option String)
  | .setDocument _ r => r.map some
  | .clear => some none
  | .within _ (some _) _ => none
  | .within _ none body => body.leaves
  | .attempt body => body.leaves
  | .seq first second =>
    match first.outcome with
    | .ok () => second.leaves.or first.leaves
    | .error _ => first.leaves
  | _ => none

/-- How a body ends does not depend on the context. -/
lemma run_outcome (b : Block ε) (c : Context) : (b.run c).1 = b.outcome := by
  induction b generalizing c with
  | skip | fail | setDocument | setOperation | clear | attempt => rfl
  | within d r body ih => exact ih _
  | seq first second ihFirst ihSecond =>
    have hfirst := ihFirst c
    simp only [run, outcome, ← hfirst]
    cases h : first.run c with
    | mk result left =>
      cases result with
      | ok => exact ihSecond left
      | error e => rfl

/-- A body in front of another one: the other one runs exactly if the first one does not fail. -/
lemma run_seq (first second : Block ε) (c : Context) :
    (first.outcome = .ok () ∧ (first.seq second).run c = second.run (first.run c).2) ∨
      ∃ e, first.outcome = .error e ∧ (first.seq second).run c = (.error e, (first.run c).2) := by
  have hfirst := run_outcome first c
  cases h : first.run c with
  | mk result left =>
    rw [h] at hfirst
    cases result with
    | ok => exact .inl ⟨hfirst.symm, by simp only [run, h]⟩
    | error e => exact .inr ⟨e, hfirst.symm, by simp only [run, h]⟩

/-- The run behind a body is the one that it leaves, or the one that it found. -/
lemma run_leaves (b : Block ε) (c : Context) : (b.run c).2.run = b.leaves.getD c.run := by
  induction b generalizing c with
  | skip | fail | setOperation | clear => rfl
  | setDocument d r => cases r <;> rfl
  | attempt body ih => exact ih c
  | within d r body ih =>
    cases r with
    | some r => rfl
    | none => exact ih _
  | seq first second ihFirst ihSecond =>
    obtain ⟨hok, hrun⟩ | ⟨e, herror, hrun⟩ := run_seq first second c
    · rw [hrun, ihSecond, ihFirst]
      simp only [leaves, hok]
      cases second.leaves <;> rfl
    · rw [hrun, ihFirst]
      simp only [leaves, herror]

/-! ### Behind a scope -/

/-- The context behind a scope: the document of before, the run of before if the scope was entered
with one, and the operation of the body. -/
lemma run_within_context (document run : Option String) (body : Block ε) (c : Context) :
    ((within document run body).run c).2 =
      { document := c.document
        run := if run.isSome then c.run else body.leaves.getD c.run
        operation := (body.run (c.setDocument document run)).2.operation } := by
  cases run with
  | some r => rfl
  | none =>
    have hrun : (body.run (c.setDocument document none)).2.run = body.leaves.getD c.run :=
      run_leaves body _
    exact congrArg (Context.mk _ · _) hrun

/-- **Behind a scope.** However its body changes the context and however it ends, a scope ends as
its body does, and the document behind it is the one of before. The run behind it is the one of
before if the scope was entered with a run; otherwise it is the one that the body leaves, so that
such a scope restores the run in every context exactly if its body leaves none. -/
theorem run_within (document run : Option String) (body : Block ε) :
    (∀ c : Context,
      ((within document run body).run c).1 = (body.run (c.setDocument document run)).1 ∧
      ((within document run body).run c).2.document = c.document ∧
      ((within document run body).run c).2.run =
        if run.isSome then c.run else body.leaves.getD c.run) ∧
    ((∀ c : Context, ((within document run body).run c).2.run = c.run) ↔
      run.isSome ∨ body.leaves = none) := by
  have hrun : ∀ c : Context, ((within document run body).run c).2.run =
      if run.isSome then c.run else body.leaves.getD c.run := fun c => by
    rw [run_within_context]
  refine ⟨fun c => ⟨rfl, rfl, hrun c⟩, fun hall => ?_, fun h c => ?_⟩
  · by_contra hleaves
    obtain ⟨hnone, hleaves⟩ := not_or.mp hleaves
    obtain ⟨left, hleft⟩ := Option.ne_none_iff_exists'.mp hleaves
    -- A context whose run is another one than the one that the body leaves.
    have hdiffers : ∀ r, left = r := fun r => by
      have := hall { Context.empty with run := r }
      rwa [hrun, if_neg hnone, hleft] at this
    exact absurd ((hdiffers none).symm.trans (hdiffers (some ""))) (by decide)
  · rw [hrun]
    obtain hsome | hnone := h
    · rw [if_pos hsome]
    · rw [hnone, Option.getD_none, ite_self]

/-- A run that is set within a scope without a run is still there behind it. -/
theorem not_restores_of_leak :
    ¬ ∀ (c : Context) (document run : Option String) (body : Block Unit),
      ((within document run body).run c).1 = (body.run (c.setDocument document run)).1 ∧
      ((within document run body).run c).2.document = c.document ∧
      ((within document run body).run c).2.run = c.run := by
  intro h
  have hleak := (h .empty (some "inner") none (.setDocument (some "x") (some "leak"))).2.2
  exact absurd hleak (by decide)

end Block

end EntityGraph.Log
