import EntityGraph.Proofs.Recording.Performs
import EntityGraph.Proofs.Recording.Retrying
/-!
Where actions lead.

* `Action.Moves`: an action that leads from every session to a related one, whether it fails or not.
  `Moves.bind`, `moves_settle` and `RetryPolicy.moves_attempts` say that what is composed of such
  actions leads to related sessions as well, when the relation is reflexive and transitive.
* `Session.OnlyLogs`, `Action.OnlyLogs`: nothing but log records in the context that is there.
-/

namespace EntityGraph

/-- An action leads from every session to a related one. -/
def Action.Moves {α : Type} (R : Session → Session → Prop) (a : Action α) : Prop :=
  ∀ s, R s (a s).2

namespace Action

variable {α β : Type} {a : Action α} {f : α → Action β} {R : Session → Session → Prop}

/-- Two actions, one after the other. -/
lemma Moves.bind (htrans : ∀ {s t u}, R s t → R t u → R s u) (ha : a.Moves R)
    (hf : ∀ v, (f v).Moves R) : (a >>= f).Moves R := by
  intro s
  have hfirst := ha s
  cases h : a s with
  | mk result t =>
      rw [h] at hfirst
      cases result with
      | error e =>
          rw [bind_of_error h]
          exact hfirst
      | ok v =>
          rw [bind_of_ok h]
          exact htrans hfirst (hf v t)

/-- Actions that are all run. -/
lemma moves_settle (hrefl : ∀ s, R s s) (htrans : ∀ {s t u}, R s t → R t u → R s u)
    {as : List (Action Unit)} (h : ∀ a ∈ as, a.Moves R) : (settle as).Moves R := by
  induction as with
  | nil => exact hrefl
  | cons a as ih =>
      obtain ⟨ha, has⟩ := List.forall_mem_cons.mp h
      intro s
      have hfirst := ha s
      cases hrun : a s with
      | mk result t =>
          rw [hrun] at hfirst
          cases result with
          | error e =>
              rw [settle_of_error hrun]
              exact htrans hfirst (ih has t)
          | ok u =>
              rw [settle_of_ok hrun]
              exact htrans hfirst (ih has t)

end Action

/-- Trying again leads where the attempts lead, and the pauses between them. -/
lemma RetryPolicy.moves_attempts {α : Type} {R : Session → Session → Prop}
    (htrans : ∀ {s t u}, R s t → R t u → R s u) {p : RetryPolicy} {draws : Nat → Float}
    {operation : String} {attempt : Nat → Action α}
    (htried : ∀ k, (tried operation attempt k).Moves R)
    (hpause : ∀ done e s, R s (p.pause draws operation done e s)) (left done : Nat) :
    (p.attempts draws operation attempt left done).Moves R := by
  induction left generalizing done with
  | zero =>
      intro s
      have hfirst := htried done s
      cases h : tried operation attempt done s with
      | mk result t =>
          rw [h] at hfirst
          by_cases hr : ∀ e, result = .error e → p.retries e = false
          · rwa [attempts_of_settled h hr]
          · obtain ⟨e, rfl, he⟩ : ∃ e, result = .error e ∧ p.retries e = true := by simpa using hr
            rwa [attempts_zero_of_error h he]
  | succ left ih =>
      intro s
      have hfirst := htried done s
      cases h : tried operation attempt done s with
      | mk result t =>
          rw [h] at hfirst
          by_cases hr : ∀ e, result = .error e → p.retries e = false
          · rwa [attempts_of_settled h hr]
          · obtain ⟨e, rfl, he⟩ : ∃ e, result = .error e ∧ p.retries e = true := by simpa using hr
            cases hdelay : p.backoff.delay (draws done) done with
            | error d => rwa [attempts_succ_of_delay_error h he hdelay]
            | ok seconds =>
                rw [attempts_succ_of_error h he hdelay]
                exact htrans (htrans hfirst (hpause done e t)) (ih (done + 1) _)

/-! ### Nothing but log records -/

/-- Nothing has happened between two sessions but that log records were written. -/
def Session.OnlyLogs (s s' : Session) : Prop :=
  ∃ records : List Log.Record, s' = { s with journal := s.journal ++ records.map .logged } ∧
    ∀ r ∈ records, r.context = s.context

namespace Session.OnlyLogs

variable {s t u : Session}

lemma refl (s : Session) : s.OnlyLogs s :=
  ⟨[], by rw [List.map_nil, List.append_nil], by simp⟩

lemma trans (h : s.OnlyLogs t) (h' : t.OnlyLogs u) : s.OnlyLogs u := by
  obtain ⟨records, rfl, hrecords⟩ := h
  obtain ⟨more, rfl, hmore⟩ := h'
  refine ⟨records ++ more, by rw [List.map_append, List.append_assoc], fun r hr => ?_⟩
  exact (List.mem_append.mp hr).elim (hrecords r) (hmore r)

end Session.OnlyLogs

namespace Action

variable {α β : Type} {a : Action α} {f : α → Action β}

/-- An action that does nothing but write log records in the context that is there. -/
abbrev OnlyLogs (a : Action α) : Prop := a.Moves Session.OnlyLogs

lemma OnlyLogs.bind (ha : a.OnlyLogs) (hf : ∀ v, (f v).OnlyLogs) : (a >>= f).OnlyLogs :=
  Moves.bind Session.OnlyLogs.trans ha hf

lemma onlyLogs_pure (v : α) : (pure v : Action α).OnlyLogs := fun s => .refl s

lemma OnlyLogs.discard (ha : a.OnlyLogs) : (discard a : Action Unit).OnlyLogs :=
  ha.bind fun _ => onlyLogs_pure ()

lemma onlyLogs_fail (e : Failure) : (fail e : Action α).OnlyLogs := fun s => .refl s

lemma onlyLogs_ofExcept (x : Except Failure α) : (ofExcept x).OnlyLogs := by
  cases x with
  | ok v => exact onlyLogs_pure v
  | error e => exact onlyLogs_fail e

lemma onlyLogs_log (level : Log.Level) (logger message : String) :
    (log level logger message).OnlyLogs := fun s =>
  ⟨[{ level, logger, message, context := s.context }], rfl, by simp⟩

/-- Something is said before a value is returned. -/
lemma onlyLogs_log_return (level : Log.Level) (logger message : String) (v : α) :
    (do log level logger message; return v : Action α).OnlyLogs :=
  (onlyLogs_log level logger message).bind fun _ => onlyLogs_pure v

end Action

end EntityGraph
