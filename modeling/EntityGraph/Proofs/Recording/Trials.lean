import EntityGraph.Proofs.Recording.Retrying
import Mathlib.Data.List.Forall2
/-!
How often an operation is called when it is tried again, and how long is waited in between.

* `RetryPolicy.Worth`: what comes of a call is worth another one.
* `RetryPolicy.outcome`: what comes of the calls, one after the other. `outcome_of_script` says that
  this can be any sequence.
* `Backoff.Delays`: the delays before some retries, all of which can be computed.
* `Watch`: an observer of calls and waits. `Watch.deeds_tries` says what it sees of calls that fail.
* `retrying_calls`: the calls, the waits and the result of an operation that is tried again under a
  policy.
-/

namespace EntityGraph

open EntityGraph.Action

variable {A α : Type} {p : RetryPolicy} {draws : Nat → Float} {operation : String}
  {attempt : Nat → Action α} {call : A → Nat → Action α} {args : A} {s s' : Session}
  {done left k : Nat} {seconds : List Float}

/-- The delays before some retries, all of which can be computed. -/
def Backoff.Delays (b : Backoff) (draws : Nat → Float) (retries : List Nat) (seconds : List Float) :
    Prop :=
  List.Forall₂ (fun retry x => b.delay (draws retry) (retry : Nat) = .ok x) retries seconds

lemma Backoff.Delays.exists_of_mem {b : Backoff} {retries : List Nat}
    (h : b.Delays draws retries seconds) {retry : Nat} (hmem : retry ∈ retries) :
    ∃ x, b.delay (draws retry) (retry : Nat) = .ok x := by
  induction h with
  | nil => exact absurd hmem List.not_mem_nil
  | cons hx _ ih =>
      rcases List.mem_cons.mp hmem with rfl | hmem
      · exact ⟨_, hx⟩
      · exact ih hmem

namespace RetryPolicy

/-- What has come of a call is worth another one: it is a failure after which the policy goes on. -/
def Worth (p : RetryPolicy) (r : Except Failure α) : Prop := ∃ e, r = .error e ∧ p.retries e = true

/-- What comes of a call, if all calls before it have failed and each failure has been followed by a
pause. -/
def outcome (p : RetryPolicy) (draws : Nat → Float) (operation : String) (attempt : Nat → Action α)
    (s : Session) (k : Nat) : Except Failure α :=
  (p.tries draws operation attempt k 0 s).1

/-- Calls whose results are written down beforehand come to these results, up to the first
success. -/
lemma outcome_of_script {script : Nat → Except Failure α}
    (hscript : ∀ j t, (attempt j t).1 = script j) (hfails : ∀ j < k, ∃ e, script j = .error e) :
    p.outcome draws operation attempt s k = script k := by
  have htries : ∀ k done s, (∀ j < k, ∃ e, script (done + j) = .error e) →
      (p.tries draws operation attempt k done s).1 = script (done + k) := by
    intro k
    induction k with
    | zero => exact fun done s _ => hscript done _
    | succ k ih =>
        intro done s hfails
        obtain ⟨e, he⟩ := hfails 0 (Nat.succ_pos k)
        have hfirst : (tried operation attempt done s).1 = .error e := (hscript done _).trans he
        rw [tries_succ_eq_of_tried_error (Prod.ext hfirst rfl), ih, Nat.add_right_comm]
        · rfl
        · intro j hj
          rw [Nat.add_right_comm]
          exact hfails (j + 1) (Nat.succ_lt_succ hj)
  rw [outcome, htries k 0 s fun j hj => by rw [Nat.zero_add]; exact hfails j hj, Nat.zero_add]

/-! ### The result -/

/-- Calls go on until the first one whose result is not worth another. -/
lemma attempts_of_first (hk : k ≤ left)
    (hworth : ∀ j < k, p.Worth (p.tries draws operation attempt j done s).1)
    (hlast : ¬ p.Worth (p.tries draws operation attempt k done s).1)
    (hdelays : p.backoff.Delays draws (List.range' done k) seconds) :
    p.attempts draws operation attempt left done s = p.tries draws operation attempt k done s := by
  induction k generalizing left done s seconds with
  | zero =>
      refine attempts_of_settled rfl fun e he => ?_
      by_contra hretries
      exact hlast ⟨e, he, by simpa using hretries⟩
  | succ k ih =>
      obtain ⟨left, rfl⟩ : ∃ n, left = n + 1 := ⟨left - 1, by omega⟩
      obtain ⟨e, he, hretries⟩ := hworth 0 (Nat.succ_pos k)
      have hfirst : tried operation attempt done s
          = (.error e, (tried operation attempt done s).2) := Prod.ext he rfl
      rw [List.range'_succ] at hdelays
      cases hdelays with
      | cons hx hrest =>
          rw [attempts_succ_of_error hfirst hretries hx, tries_succ_eq_of_tried_error hfirst]
          refine ih (Nat.le_of_succ_le_succ hk) (fun j hj => ?_) ?_ hrest
          · rw [← tries_succ_eq_of_tried_error hfirst]
            exact hworth (j + 1) (Nat.succ_lt_succ hj)
          · rw [← tries_succ_eq_of_tried_error hfirst]
            exact hlast

end RetryPolicy

/-! ### Calls and waits -/

/-- What an observer of an operation sees. -/
inductive Deed (A : Type) where
  | called (arguments : A)
  | slept (seconds : Float)
  deriving DecidableEq

/-- Calls with the same arguments, each followed by a wait, and a last one. -/
def Deed.rounds (args : A) (seconds : List Float) : List (Deed A) :=
  seconds.flatMap (fun x => [.called args, .slept x]) ++ [.called args]

/-- An observer of an operation: it sees every call, with its arguments, and every wait. -/
structure Watch (operation : String) (call : A → Nat → Action α) where
  /-- What has been seen so far. -/
  deeds : Session → List (Deed A)
  called : ∀ x k s, deeds (RetryPolicy.tried operation (call x) k s).2 = deeds s ++ [.called x]
  slept : ∀ seconds s, deeds (wait seconds s).2 = deeds s ++ [.slept seconds]
  logged : ∀ level logger message s, deeds (log level logger message s).2 = deeds s

namespace Watch

open RetryPolicy

/-- A pause is a wait. -/
lemma deeds_pause (w : Watch operation call) (e : Failure) {x : Float}
    (hx : p.backoff.delay (draws done) done = .ok x) (s : Session) :
    w.deeds (p.pause draws operation done e s) = w.deeds s ++ [.slept x] := by
  rw [pause, hx]
  show w.deeds (wait x (log .warning logger (p.notice operation e (done + 1) x) s).2).2 = _
  rw [w.slept, w.logged]

/-- **What an observer sees of calls that fail**, up to the last one, whatever comes of that. -/
theorem deeds_tries (w : Watch operation call)
    (hfails : ∀ j < k, ∃ e, (p.tries draws operation (call args) j done s).1 = .error e)
    (hdelays : p.backoff.Delays draws (List.range' done k) seconds) :
    w.deeds (p.tries draws operation (call args) k done s).2
      = w.deeds s ++ Deed.rounds args seconds := by
  induction k generalizing done s seconds with
  | zero =>
      cases hdelays
      exact w.called args done s
  | succ k ih =>
      obtain ⟨e, he⟩ := hfails 0 (Nat.succ_pos k)
      have hfirst : tried operation (call args) done s
          = (.error e, (tried operation (call args) done s).2) := Prod.ext he rfl
      rw [List.range'_succ] at hdelays
      cases hdelays with
      | cons hx hrest =>
          rw [tries_succ_eq_of_tried_error hfirst, ih _ hrest, w.deeds_pause e hx, w.called]
          · simp [Deed.rounds]
          · intro j hj
            rw [← tries_succ_eq_of_tried_error hfirst]
            exact hfails (j + 1) (Nat.succ_lt_succ hj)

end Watch

/-- **The calls of an operation that is tried again.** Let the operation be called with some
arguments, whatever comes of its calls and whatever they do to the session, and let `k` be the
number of the first call whose result is not worth another one. If the policy allows `k` retries,
there are `k + 1` calls, all with the same arguments, between which the delays of the policy pass in
their order, and the result is that of the last call. If all calls are worth another one as far as
the policy allows retries, there is one call more than retries, with all delays in between, and what
is reported is the number of the calls and the last failure. A policy that allows a negative number
of retries allows none. -/
theorem retrying_calls (p : RetryPolicy) (draws : Nat → Float) (operation : String)
    (call : A → Nat → Action α) (args : A) (s : Session) :
    (∀ k ≤ p.maxRetries.toNat, ∀ seconds,
      (∀ j < k, p.Worth (p.outcome draws operation (call args) s j)) →
      ¬ p.Worth (p.outcome draws operation (call args) s k) →
      p.backoff.Delays draws (List.range k) seconds →
      ∃ s', retrying p draws operation (call args) s
          = (p.outcome draws operation (call args) s k, s') ∧
        ∀ w : Watch operation call, w.deeds s' = w.deeds s ++ Deed.rounds args seconds) ∧
    ∀ seconds,
      (∀ j ≤ p.maxRetries.toNat, p.Worth (p.outcome draws operation (call args) s j)) →
      p.backoff.Delays draws (List.range p.maxRetries.toNat) seconds →
      ∃ e s', p.outcome draws operation (call args) s p.maxRetries.toNat = .error e ∧
        retrying p draws operation (call args) s
          = (.error (.exhausted operation (p.maxRetries.toNat + 1) e), s') ∧
        ∀ w : Watch operation call, w.deeds s' = w.deeds s ++ Deed.rounds args seconds := by
  refine ⟨fun k hk seconds hworth hlast hdelays => ?_, fun seconds hworth hdelays => ?_⟩
  · have hfails : ∀ j < k,
        ∃ e, (p.tries draws operation (call args) j 0 s).1 = .error e := fun j hj =>
      (hworth j hj).imp fun e he => he.1
    rw [List.range_eq_range'] at hdelays
    refine ⟨_, ?_, fun w => w.deeds_tries hfails hdelays⟩
    rw [retrying, RetryPolicy.attempts_of_first hk hworth hlast hdelays]
    rfl
  · obtain ⟨e, he, -⟩ := hworth p.maxRetries.toNat (Nat.le_refl _)
    have hfails : ∀ j < p.maxRetries.toNat,
        ∃ e, (p.tries draws operation (call args) j 0 s).1 = .error e := fun j hj =>
      (hworth j (Nat.le_of_lt hj)).imp fun e he => he.1
    have hrun : retrying p draws operation (call args) s
        = RetryPolicy.exhaust operation (0 + p.maxRetries.toNat + 1)
          (p.tries draws operation (call args) p.maxRetries.toNat 0 s) := by
      refine RetryPolicy.attempts_eq (fun j hj e' he' => ?_) fun j hj => ?_
      · obtain ⟨e'', he'', hretries⟩ := hworth j hj
        rwa [Except.error.inj (he'.symm.trans he'')]
      · rw [Nat.zero_add]
        exact hdelays.exists_of_mem (List.mem_range.mpr hj)
    rw [List.range_eq_range'] at hdelays
    refine ⟨e, _, he, ?_, fun w => w.deeds_tries hfails hdelays⟩
    have htries : p.tries draws operation (call args) p.maxRetries.toNat 0 s
        = (.error e, (p.tries draws operation (call args) p.maxRetries.toNat 0 s).2) :=
      Prod.ext he rfl
    rw [hrun, htries, RetryPolicy.exhaust, Nat.zero_add]

/-- A service that is asked about some texts and answers by a script. -/
def asking (script : Nat → Except Failure α) (texts : List String) (k : Nat) : Action α := do
  note (.recognized texts)
  Action.ofExcept (script k)

lemma asking_eq (script : Nat → Except Failure α) (texts : List String) (k : Nat) (s : Session) :
    asking script texts k s
      = (script k, { s with journal := s.journal ++ [.recognized texts] }) := by
  show Action.ofExcept (script k) { s with journal := s.journal ++ [.recognized texts] } = _
  cases script k <;> rfl

/-- An observer who reads the journal sees what the service is asked, and the waits. -/
def asking.watch (operation : String) (script : Nat → Except Failure α) :
    Watch operation (asking script) where
  deeds s := s.journal.filterMap fun
    | .recognized texts => some (.called texts)
    | .waited x => some (.slept x)
    | _ => none
  called texts k s := by
    show List.filterMap _ (asking script texts k
      { s with journal := s.journal ++ [.attempted operation] }).2.journal = _
    rw [asking_eq]
    simp
  slept x s := by
    rw [wait, note, change]
    simp
  logged level logger message s := by
    rw [log]
    simp

/-- Two retries, after delays that do not grow. -/
def twoRetries : RetryPolicy where
  maxRetries := 2
  backoff := { factor := 1.0 }

/-- A small random draw, followed by larger ones. -/
def smallThenLarge : Nat → Float
  | 0 => 0.25
  | _ => 0.75

/-- The graph is busy, then it does not answer in time, and then all is well. -/
def busyThenLate : Nat → Except Failure String
  | 0 => .error (.fault { kind := .graph, message := "busy" })
  | 1 => .error (.fault { kind := .graphTimeout, message := "late" })
  | _ => .ok "done"

/-- With two retries the service is asked three times, after the delays that the draws spread, and
answers. With a negative number of retries it is asked once. -/
theorem retrying_calls_of_busyThenLate :
    (∃ s', retrying twoRetries smallThenLarge "ask" (asking busyThenLate ["one"]) {}
        = (.ok "done", s') ∧
      (asking.watch "ask" busyThenLate).deeds s' = [.called ["one"], .slept 0.75, .called ["one"],
        .slept 1.25, .called ["one"]]) ∧
    ∃ s', retrying { twoRetries with maxRetries := -1 } smallThenLarge "ask"
        (asking busyThenLate ["one"]) {}
        = (.error (.exhausted "ask" 1 (.fault { kind := .graph, message := "busy" })), s') ∧
      (asking.watch "ask" busyThenLate).deeds s' = [.called ["one"]] := by
  have hscript : ∀ j t, (asking busyThenLate ["one"] j t).1 = busyThenLate j := fun j t => by
    rw [asking_eq]
  have hfails : ∀ j < 2, ∃ e, busyThenLate j = .error e ∧ twoRetries.retries e = true := by
    intro j hj
    obtain rfl | rfl : j = 0 ∨ j = 1 := by omega
    · exact ⟨_, rfl, rfl⟩
    · exact ⟨_, rfl, rfl⟩
  have hworth : ∀ p : RetryPolicy, p.retries = twoRetries.retries → ∀ j < 2,
      p.Worth (p.outcome smallThenLarge "ask" (asking busyThenLate ["one"]) {} j) := by
    intro p hp j hj
    obtain ⟨e, he, hretries⟩ := hfails j hj
    rw [p.outcome_of_script hscript fun i hi => (hfails i (by omega)).imp fun _ h => h.1]
    exact ⟨e, he, by rw [hp, hretries]⟩
  have houtcome :
      twoRetries.outcome smallThenLarge "ask" (asking busyThenLate ["one"]) {} 2 = .ok "done" :=
    twoRetries.outcome_of_script hscript fun i hi => (hfails i hi).imp fun _ h => h.1
  have hbusy : ({ twoRetries with maxRetries := -1 } : RetryPolicy).outcome smallThenLarge "ask"
      (asking busyThenLate ["one"]) {} 0
        = .error (.fault { kind := .graph, message := "busy" }) :=
    RetryPolicy.outcome_of_script hscript fun i hi => absurd hi (Nat.not_lt_zero i)
  constructor
  · have hsmall : twoRetries.backoff.delay 0.25 0 = .ok 0.75 := by
      rw [Backoff.delay_of_steady 0.25 (by decide +kernel) (.inl rfl)]
      exact congrArg Except.ok (by decide +kernel)
    have hlarge : twoRetries.backoff.delay 0.75 1 = .ok 1.25 := by
      rw [Backoff.delay_of_steady 0.75 (by decide +kernel) (.inr (by decide +kernel))]
      exact congrArg Except.ok (by decide +kernel)
    obtain ⟨s', hrun, hwatch⟩ := (retrying_calls twoRetries smallThenLarge "ask"
      (asking busyThenLate) ["one"] {}).1 2 (Nat.le_refl 2) [0.75, 1.25] (hworth twoRetries rfl)
        (by rw [houtcome]; rintro ⟨e, he, -⟩; exact absurd he (by simp))
        (.cons hsmall (.cons hlarge .nil))
    exact ⟨s', hrun.trans (by rw [houtcome]), hwatch _⟩
  · obtain ⟨e, s', he, hrun, hwatch⟩ := (retrying_calls { twoRetries with maxRetries := -1 }
      smallThenLarge "ask" (asking busyThenLate) ["one"] {}).2 []
        (fun j hj => hworth { twoRetries with maxRetries := -1 } rfl j
          (Nat.lt_of_le_of_lt hj (by decide))) .nil
    obtain rfl := Except.error.inj (he.symm.trans hbusy)
    exact ⟨s', hrun, hwatch _⟩

end EntityGraph
