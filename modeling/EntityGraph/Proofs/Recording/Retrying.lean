import EntityGraph.Proofs.Recording.Performs
import EntityGraph.Recording.Retry
/-!
What comes of an operation that is tried again.

* `Backoff.delay_of_steady`, `Backoff.delay_of_error`: what a delay is where it has not grown, and
  that draws do not decide whether there is one.
* `RetryPolicy.tries`: an operation that is tried again a number of times at most, whatever the
  policy says about its failures. `tries_succ_of_error` says that each attempt follows on the pause
  after the one before it.
* `RetryPolicy.tries_ok_iff`: it succeeds with the value of its first successful attempt.
* `RetryPolicy.attempts_eq`: trying again under a policy is the same, as long as all failures are
  worth another attempt and all delays can be computed.
-/

namespace EntityGraph

namespace Backoff

variable {b : Backoff} {n : Int} {draw : Float} {d : DelayError}

lemma delay_of_power_ok {y : Float} (h : power b.factor n = .ok y) (draw : Float) :
    b.delay draw n = .ok (if b.jitter then b.base * y * (0.5 + draw) else b.base * y) := by
  rw [delay, h]
  rfl

lemma delay_of_power_error (h : power b.factor n = .error d) (draw : Float) :
    b.delay draw n = .error d := by
  rw [delay, h]
  rfl

/-- Where delays do not grow, or have not grown yet, the draw spreads the first one. -/
lemma delay_of_steady (draw : Float) (hexponent : (Float.ofInt n).isInf = false)
    (hsteady : n = 0 ∨ (b.factor == 1.0) = true) :
    b.delay draw n = .ok (if b.jitter then b.base * 1.0 * (0.5 + draw) else b.base * 1.0) :=
  delay_of_power_ok (by simp [power, hexponent, hsteady]) draw

/-- Whether a delay can be computed, and why not, does not depend on the draw. -/
lemma delay_of_error (h : b.delay draw n = .error d) (draw' : Float) :
    b.delay draw' n = .error d := by
  cases hpower : power b.factor n with
  | ok y => exact absurd (h.symm.trans (delay_of_power_ok hpower draw)) (by simp)
  | error e => rw [delay_of_power_error hpower draw', ← delay_of_power_error hpower draw, h]

lemma exists_delay {seconds : Float} (h : b.delay draw n = .ok seconds) (draw' : Float) :
    ∃ seconds', b.delay draw' n = .ok seconds' := by
  cases h' : b.delay draw' n with
  | ok seconds' => exact ⟨seconds', rfl⟩
  | error d => exact absurd (h.symm.trans (delay_of_error h' draw)) (by simp)

end Backoff

namespace RetryPolicy

open EntityGraph.Action

variable {α : Type} {p : RetryPolicy} {draws : Nat → Float} {operation : String}
  {attempt : Nat → Action α} {s s' : Session} {a : α} {e : Failure} {left done j : Nat}

/-- One attempt, which is noted before it is made. -/
def tried (operation : String) (attempt : Nat → Action α) (k : Nat) : Action α := do
  note (.attempted operation)
  attempt k

/-- The session after the pause that follows on a failed attempt; `done` attempts have failed before
it. -/
def pause (p : RetryPolicy) (draws : Nat → Float) (operation : String) (done : Nat) (e : Failure)
    (s : Session) : Session :=
  match p.backoff.delay (draws done) done with
  | .ok seconds =>
    ((do
      log .warning logger (p.notice operation e (done + 1) seconds)
      wait seconds : Action Unit) s).2
  | .error _ => s

/-- A pause is noted, and changes nothing else. -/
lemma pause_eq (p : RetryPolicy) (draws : Nat → Float) (operation : String) (done : Nat)
    (e : Failure) (s : Session) : ∃ journal, p.pause draws operation done e s = { s with journal } := by
  rw [pause]
  split
  · exact ⟨_, rfl⟩
  · exact ⟨s.journal, rfl⟩

/-- An operation that is tried again at most `left` times, after `done` failed attempts, with a
pause before each. -/
def tries (p : RetryPolicy) (draws : Nat → Float) (operation : String) (attempt : Nat → Action α) :
    (left done : Nat) → Action α
  | 0, done => tried operation attempt done
  | left + 1, done => fun s =>
    match tried operation attempt done s with
    | (.ok a, s) => (.ok a, s)
    | (.error e, s) =>
      tries p draws operation attempt left (done + 1) (p.pause draws operation done e s)

lemma tries_succ_eq_of_tried_ok (h : tried operation attempt done s = (.ok a, s')) :
    p.tries draws operation attempt (left + 1) done s = (.ok a, s') := by
  simp only [tries, h]

lemma tries_succ_eq_of_tried_error (h : tried operation attempt done s = (.error e, s')) :
    p.tries draws operation attempt (left + 1) done s
      = p.tries draws operation attempt left (done + 1) (p.pause draws operation done e s') := by
  simp only [tries, h]

/-- An operation that has succeeded is not tried again. -/
lemma tries_succ_of_ok (h : p.tries draws operation attempt j done s = (.ok a, s')) :
    p.tries draws operation attempt (j + 1) done s = (.ok a, s') := by
  induction j generalizing done s with
  | zero => exact tries_succ_eq_of_tried_ok h
  | succ j ih =>
      cases hfirst : tried operation attempt done s with
      | mk result s₁ =>
          cases result with
          | ok a₁ =>
              rw [tries_succ_eq_of_tried_ok hfirst] at h ⊢
              exact h
          | error e₁ =>
              rw [tries_succ_eq_of_tried_error hfirst] at h ⊢
              exact ih h

/-- An operation that has failed is tried once more after a pause. -/
lemma tries_succ_of_error (h : p.tries draws operation attempt j done s = (.error e, s')) :
    p.tries draws operation attempt (j + 1) done s
      = tried operation attempt (done + j + 1) (p.pause draws operation (done + j) e s') := by
  induction j generalizing done s with
  | zero => exact tries_succ_eq_of_tried_error h
  | succ j ih =>
      cases hfirst : tried operation attempt done s with
      | mk result s₁ =>
          cases result with
          | ok a₁ =>
              rw [tries_succ_eq_of_tried_ok hfirst] at h
              exact absurd (congrArg Prod.fst h) (by simp)
          | error e₁ =>
              rw [tries_succ_eq_of_tried_error hfirst] at h
              rw [tries_succ_eq_of_tried_error hfirst, ih h, Nat.add_right_comm done 1 j,
                Nat.add_assoc done j 1]

/-- Whatever has succeeded with fewer attempts does so with more. -/
lemma tries_of_le (h : p.tries draws operation attempt j done s = (.ok a, s')) (hj : j ≤ left) :
    p.tries draws operation attempt left done s = (.ok a, s') := by
  induction hj with
  | refl => exact h
  | step _ ih => exact tries_succ_of_ok ih

/-- **An operation that is tried again succeeds** with the value of its first successful attempt. -/
theorem tries_ok_iff : (p.tries draws operation attempt left done s).1 = .ok a ↔
    ∃ k ≤ left, (∀ j < k, ∃ e, (p.tries draws operation attempt j done s).1 = .error e) ∧
      (p.tries draws operation attempt k done s).1 = .ok a := by
  constructor
  · intro h
    induction left with
    | zero => exact ⟨0, Nat.le_refl 0, fun j hj => absurd hj (Nat.not_lt_zero j), h⟩
    | succ left ih =>
        cases hleft : p.tries draws operation attempt left done s with
        | mk result s₁ =>
            cases result with
            | ok a₁ =>
                rw [tries_succ_of_ok hleft] at h
                obtain ⟨k, hk, hfail, hok⟩ := ih (by rw [hleft]; exact h)
                exact ⟨k, Nat.le_succ_of_le hk, hfail, hok⟩
            | error e₁ =>
                refine ⟨left + 1, Nat.le_refl _, fun j hj => ?_, h⟩
                cases hj' : p.tries draws operation attempt j done s with
                | mk result' s₂ =>
                    cases result' with
                    | error e₂ => exact ⟨e₂, rfl⟩
                    | ok a₂ =>
                        -- an earlier success would have been the last one as well
                        have hlast := tries_of_le hj' (Nat.lt_succ_iff.mp hj)
                        exact absurd (congrArg Prod.fst (hleft.symm.trans hlast)) (by simp)
  · rintro ⟨k, hk, -, hok⟩
    cases hrun : p.tries draws operation attempt k done s with
    | mk result s₁ =>
        rw [hrun] at hok
        obtain rfl : result = .ok a := hok
        rw [tries_of_le hrun hk]

/-- An operation that is tried again fails if all attempts do. -/
lemma tries_error_iff : (∃ e, (p.tries draws operation attempt left done s).1 = .error e) ↔
    ∀ j ≤ left, ∃ e, (p.tries draws operation attempt j done s).1 = .error e := by
  refine ⟨fun ⟨e, he⟩ j hj => ?_, fun h => h left (Nat.le_refl left)⟩
  cases hrun : p.tries draws operation attempt j done s with
  | mk result s₁ =>
      cases result with
      | error e₁ => exact ⟨e₁, rfl⟩
      | ok a₁ =>
          rw [tries_of_le hrun hj] at he
          exact absurd he (by simp)

/-- What comes of an operation, as it is reported when no attempts are left. -/
def exhaust (operation : String) (attempts : Nat) :
    Except Failure α × Session → Except Failure α × Session
  | (.ok a, s) => (.ok a, s)
  | (.error e, s) => (.error (.exhausted operation attempts e), s)

/-- Whatever the policy says, an attempt that succeeds is the last one. -/
lemma attempts_of_ok (h : tried operation attempt done s = (.ok a, s')) :
    p.attempts draws operation attempt left done s = (.ok a, s') := by
  have hrun : (do note (.attempted operation); attempt done : Action α) s = (.ok a, s') := h
  rw [attempts]
  simp only [hrun]

/-- When no attempts are left, this is what is reported. -/
lemma attempts_zero_of_error (h : tried operation attempt done s = (.error e, s'))
    (he : p.retries e = true) : p.attempts draws operation attempt 0 done s
      = (.error (.exhausted operation (done + 1) e), s') := by
  have hrun : (do note (.attempted operation); attempt done : Action α) s = (.error e, s') := h
  rw [attempts]
  simp only [hrun, he, if_true]

/-- Otherwise the next attempt follows after a pause. -/
lemma attempts_succ_of_error (h : tried operation attempt done s = (.error e, s'))
    (he : p.retries e = true) {seconds : Float}
    (hdelay : p.backoff.delay (draws done) done = .ok seconds) :
    p.attempts draws operation attempt (left + 1) done s
      = p.attempts draws operation attempt left (done + 1) (p.pause draws operation done e s') := by
  have hrun : (do note (.attempted operation); attempt done : Action α) s = (.error e, s') := h
  rw [attempts, pause, hdelay]
  simp only [hrun, he, if_true]
  rfl

/-- Whatever comes of an attempt, it is the last one unless it is a failure worth another. -/
lemma attempts_of_settled {r : Except Failure α} (h : tried operation attempt done s = (r, s'))
    (hr : ∀ e, r = .error e → p.retries e = false) :
    p.attempts draws operation attempt left done s = (r, s') := by
  cases r with
  | ok a => exact attempts_of_ok h
  | error e =>
      have hrun : (do note (.attempted operation); attempt done : Action α) s = (.error e, s') := h
      rw [attempts]
      simp only [hrun, hr e rfl, Bool.false_eq_true, if_false]

/-- So is a failure after which the delay cannot be computed. -/
lemma attempts_succ_of_delay_error (h : tried operation attempt done s = (.error e, s'))
    (he : p.retries e = true) {d : DelayError}
    (hdelay : p.backoff.delay (draws done) done = .error d) :
    p.attempts draws operation attempt (left + 1) done s = (.error (.delay d), s') := by
  have hrun : (do note (.attempted operation); attempt done : Action α) s = (.error e, s') := h
  rw [attempts]
  simp only [hrun, he, if_true, hdelay]

/-- **Trying again under a policy** is trying again as often as the policy allows, provided that all
failures that come up are worth another attempt and that all delays can be computed. -/
theorem attempts_eq
    (hretries : ∀ j ≤ left, ∀ e, (p.tries draws operation attempt j done s).1 = .error e →
      p.retries e = true)
    (hdelays : ∀ j < left,
      ∃ seconds, p.backoff.delay (draws (done + j)) (done + j : Nat) = .ok seconds) :
    p.attempts draws operation attempt left done s
      = exhaust operation (done + left + 1) (p.tries draws operation attempt left done s) := by
  induction left generalizing done s with
  | zero =>
      have hworth := hretries 0 (Nat.le_refl 0)
      rw [tries] at hworth ⊢
      cases hrun : tried operation attempt done s with
      | mk result s₁ =>
          rw [hrun] at hworth
          cases result with
          | ok a₁ => exact attempts_of_ok hrun
          | error e₁ => exact attempts_zero_of_error hrun (hworth e₁ rfl)
  | succ left ih =>
      have hworth := hretries 0 (Nat.zero_le _)
      rw [tries] at hworth
      cases hrun : tried operation attempt done s with
      | mk result s₁ =>
          rw [hrun] at hworth
          cases result with
          | ok a₁ =>
              rw [tries_succ_eq_of_tried_ok hrun]
              exact attempts_of_ok hrun
          | error e₁ =>
              obtain ⟨seconds, hseconds⟩ := hdelays 0 (Nat.succ_pos left)
              -- the remaining attempts, counted from the second one
              have hretries' : ∀ j ≤ left, ∀ e, (p.tries draws operation attempt j (done + 1)
                  (p.pause draws operation done e₁ s₁)).1 = .error e → p.retries e = true :=
                fun j hj e he => hretries (j + 1) (Nat.succ_le_succ hj) e
                  (by rw [tries_succ_eq_of_tried_error hrun]; exact he)
              have hdelays' : ∀ j < left,
                  ∃ seconds, p.backoff.delay (draws (done + 1 + j)) (done + 1 + j : Nat)
                    = .ok seconds := by
                intro j hj
                rw [Nat.add_right_comm]
                exact hdelays (j + 1) (Nat.succ_lt_succ hj)
              rw [tries_succ_eq_of_tried_error hrun,
                attempts_succ_of_error hrun (hworth e₁ rfl) hseconds, ih hretries' hdelays',
                Nat.add_right_comm done 1 left]
              rfl

end RetryPolicy

end EntityGraph
