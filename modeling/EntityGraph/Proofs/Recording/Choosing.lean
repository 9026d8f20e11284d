import EntityGraph.Proofs.Recording.Composition
import EntityGraph.Proofs.Recording.Cutoff
/-!
Faults of one's choice.

Faults strike in the order in which traversals are handed over. Which traversals a queue of faults
strikes can be chosen freely, also by what the traversals are.

* `Action.Follows`: an action for which there is a queue of faults that strikes just what one likes.
* `compositional_follows`: what is composed of basic actions is of this kind.
* `exists_faults`: any of the writes of a document may fail.
-/

namespace EntityGraph.Action

variable {α β : Type} {a : Action α} {f : α → Action β} {strike : Traversal → Option Fault}

/-- From every session on, some queue of faults strikes what an action hands over as one likes, and
is used up by it. -/
def Follows (strike : Traversal → Option Fault) (a : Action α) : Prop :=
  ∀ s : Session, ∃ (ts : List Traversal) (r : Except Failure α) (s' : Session),
    s'.sent = s.sent ++ ts ∧
    ∀ rest, a { s with faults := ts.map strike ++ rest } = (r, { s' with faults := rest })

lemma follows_of_frame {r : Except Failure α} {g : Session → Session}
    (ha : ∀ s, a s = (r, g s)) (hsent : ∀ s, (g s).sent = s.sent)
    (hfaults : ∀ s rest, g { s with faults := rest } = { g s with faults := rest }) :
    a.Follows strike := fun s =>
  ⟨[], r, g s, by simpa using hsent s, fun rest => by
    rw [List.map_nil, List.nil_append, ha, hfaults]⟩

lemma Follows.bind (ha : a.Follows strike) (hf : ∀ v, (f v).Follows strike) :
    (a >>= f).Follows strike := by
  intro s
  obtain ⟨ts, r, s₁, hsent, hrun⟩ := ha s
  cases r with
  | error e => exact ⟨ts, .error e, s₁, hsent, fun rest => bind_of_error (hrun rest)⟩
  | ok v =>
      obtain ⟨more, r', s₂, hsent', hrun'⟩ := hf v s₁
      refine ⟨ts ++ more, r', s₂, by rw [hsent', hsent, List.append_assoc], fun rest => ?_⟩
      rw [List.map_append, List.append_assoc, bind_of_ok (hrun _), hrun']

lemma follows_execute (w : Write) (time : String) :
    (execute (w.traversal time)).Follows strike := by
  intro s
  obtain ⟨rows, hg⟩ := graph_execute_write s.graph w time
  cases hstrike : strike (w.traversal time) with
  | some f =>
      refine ⟨[w.traversal time], .error (.fault f), underway (w.traversal time) s,
        sent_underway _ s, fun rest => ?_⟩
      rw [List.map_singleton, hstrike]
      rfl
  | none =>
      refine ⟨[w.traversal time], .ok rows,
        { underway (w.traversal time) s with graph := s.graph.write w time },
        sent_underway _ s, fun rest => ?_⟩
      rw [List.map_singleton, hstrike, execute_next]
      simp only [List.singleton_append, List.head?_cons, Option.join_some]
      rw [perform, underway, hg]
      rfl

lemma Follows.settle {as : List (Action Unit)} (h : ∀ a ∈ as, a.Follows strike) :
    (settle as).Follows strike := by
  induction as with
  | nil => exact follows_of_frame (fun _ => rfl) (fun _ => rfl) fun _ _ => rfl
  | cons a as ih =>
      intro s
      obtain ⟨ts, r, s₁, hsent, hrun⟩ := h a List.mem_cons_self s
      obtain ⟨more, r', s₂, hsent', hrun'⟩ := ih (fun b hb => h b (List.mem_cons_of_mem a hb)) s₁
      have hsent₂ : s₂.sent = s.sent ++ (ts ++ more) := by
        rw [hsent', hsent, List.append_assoc]
      cases r with
      | ok v =>
          refine ⟨ts ++ more, r', s₂, hsent₂, fun rest => ?_⟩
          rw [List.map_append, List.append_assoc, settle_of_ok (hrun _), hrun']
      | error e =>
          refine ⟨ts ++ more, .error e, s₂, hsent₂, fun rest => ?_⟩
          rw [List.map_append, List.append_assoc, settle_of_error (hrun _), hrun']

/-- What is done before and after an action to other parts of the session does not matter. -/
lemma Follows.scoped {b : Action α} (ha : a.Follows strike) (enter : Session → Session)
    (leave : Session → Session → Session)
    (hb : ∀ s, b s = ((a (enter s)).1, leave s (a (enter s)).2))
    (henter : ∀ s, (enter s).sent = s.sent) (hleave : ∀ s t, (leave s t).sent = t.sent)
    (henter' : ∀ s faults, enter { s with faults := faults } = { enter s with faults := faults })
    (hleave' : ∀ s t faults rest, leave { s with faults := faults } { t with faults := rest }
      = { leave s t with faults := rest }) : b.Follows strike := by
  intro s
  obtain ⟨ts, r, s', hsent, hrun⟩ := ha (enter s)
  refine ⟨ts, r, leave s s', by rw [hleave, hsent, henter], fun rest => ?_⟩
  rw [hb, henter', hrun, hleave']

/-- Faults can be chosen for whatever is composed of basic actions. -/
lemma compositional_follows (strike : Traversal → Option Fault) :
    Compositional fun {α : Type} (a : Action α) => a.Follows strike where
  pure v := follows_of_frame (fun _ => rfl) (fun _ => rfl) fun _ _ => rfl
  log level logger message := follows_of_frame (fun _ => rfl)
    (onlyLogs_log level logger message).silent fun _ _ => rfl
  now s := ⟨[], .ok s.clock.text, { s with clock := s.clock.tick }, by simp [Session.sent],
    fun _ => rfl⟩
  write := follows_execute
  bind ha hf := ha.bind hf
  settle := Follows.settle
  within ha document run := ha.scoped
    (fun s => { s with context := (s.context.enter (some document) run).1 })
    (fun s t => { t with context := (s.context.enter (some document) run).2.leave t.context })
    (fun _ => rfl) (fun _ => rfl) (fun _ _ => rfl) (fun _ _ => rfl) fun _ _ _ _ => rfl
  during ha operation := ha.scoped (setOperation (some operation)) (fun _ t => setOperation none t)
    (fun _ => rfl) (fun _ => rfl) (fun _ _ => rfl) (fun _ _ => rfl) fun _ _ _ _ => rfl

end EntityGraph.Action

namespace EntityGraph.Recording

/-- **Any writes may fail**: whichever traversals are to be struck, and by which faults, there is a
queue of faults under which recording a document meets just these. -/
theorem exists_faults (p : Policy) (d : Document) (s : Session)
    (strike : Traversal → Option Fault) :
    ∃ faults as, Course p d as ∧
      Leads { s with faults } as (record p d { s with faults }).2 ∧
      ∀ a ∈ as, a.fault? = strike a.traversal := by
  obtain ⟨ts, r, s', hsent, hrun⟩ :=
    record_of_compositional (Action.compositional_follows strike) p d s
  obtain ⟨as, hcourse, -, hleads⟩ := runs_record p d { s with faults := ts.map strike ++ [] }
  have hts : as.map Attempt.traversal = ts := by
    have hboth := hleads.sent
    rw [hrun []] at hboth
    exact (List.append_cancel_left (hsent.symm.trans hboth)).symm
  have hlength : as.length = (ts.map strike ++ []).length := by
    rw [List.append_nil, List.length_map, ← hts, List.length_map]
  have hstruck : as.map Attempt.fault? = as.map fun a => strike a.traversal := by
    rw [hleads.struck, hlength, nextFaults_length, List.append_nil, ← hts, List.map_map]
    rfl
  exact ⟨_, as, hcourse, hleads, List.map_inj_left.mp hstruck⟩

end EntityGraph.Recording
