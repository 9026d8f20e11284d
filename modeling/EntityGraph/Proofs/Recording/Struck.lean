import EntityGraph.Proofs.Session.Sent
/-!
Writes that faults strike.

A write that has been handed to the graph is an attempt. Faults strike attempts in the order of the
queue; a struck attempt has no effect on the graph and fails, and what is made of that depends on
how the actions are put together: an action that goes on with a value stops, while actions that are
all run are all run, and the first failure is reported.

* `Attempt`: a write, the time at which it is made and the fault that strikes it, if any.
* `Runs`: what an action attempts from a session on, and what it leaves: the graph with the writes
  that no fault has struck, and the first fault as its failure, or else a value.
* `runs_writeNow`, `Runs.bind_of_made`, `Runs.bind_of_struck`, `Runs.settle_cons`, `Runs.scoped`: a
  single write, and the ways in which actions are composed.
-/

namespace EntityGraph

/-- A write that is handed to the graph, with the fault that strikes it, if any. -/
structure Attempt where
  write : Write
  time : String
  fault? : Option Fault

/-- The traversal of an attempt. -/
def Attempt.traversal (a : Attempt) : Traversal := a.write.traversal a.time

/-- The writes that no fault has struck, with their times. -/
def made (as : List Attempt) : List (Write × String) :=
  (as.filter fun a => a.fault?.isNone).map fun a => (a.write, a.time)

/-- The first fault that has struck. -/
def firstFault? (as : List Attempt) : Option Fault := as.findSome? Attempt.fault?

/-- What comes of some attempts: a value, unless a fault has struck. -/
def verdict {α : Type} (v : α) (as : List Attempt) : Except Failure α :=
  match firstFault? as with
  | none => .ok v
  | some f => .error (.fault f)

/-- What the next traversals meet, by the queue of faults. Its end stands for no faults. -/
def nextFaults : Nat → List (Option Fault) → List (Option Fault)
  | 0, _ => []
  | n + 1, faults => faults.head?.join :: nextFaults n faults.tail

lemma nextFaults_add (m n : Nat) (faults : List (Option Fault)) :
    nextFaults (m + n) faults = nextFaults m faults ++ nextFaults n (faults.drop m) := by
  induction m generalizing faults with
  | zero => rw [Nat.zero_add, nextFaults, List.drop_zero, List.nil_append]
  | succ m ih =>
      rw [Nat.succ_add, nextFaults, nextFaults, ih, List.cons_append, List.drop_tail]

/-- A queue is met as it is. -/
lemma nextFaults_length (faults : List (Option Fault)) :
    nextFaults faults.length faults = faults := by
  induction faults with
  | nil => rfl
  | cons f faults ih => rw [List.length_cons, nextFaults, List.tail_cons, ih]; rfl

@[simp] lemma made_append (as bs : List Attempt) : made (as ++ bs) = made as ++ made bs := by
  simp [made]

lemma firstFault?_append (as bs : List Attempt) :
    firstFault? (as ++ bs) = (firstFault? as).or (firstFault? bs) := List.findSome?_append

/-- No fault strikes before the first one. -/
lemma verdict_append_of_made {α : Type} (v : α) {as : List Attempt} (h : firstFault? as = none)
    (bs : List Attempt) : verdict v (as ++ bs) = verdict v bs := by
  rw [verdict, firstFault?_append, h, Option.none_or, verdict]

lemma verdict_append_of_struck {α : Type} (v : α) {as : List Attempt} {f : Fault}
    (h : firstFault? as = some f) (bs : List Attempt) :
    verdict v (as ++ bs) = .error (.fault f) := by
  rw [verdict, firstFault?_append, h, Option.some_or]

/-- Some attempts lead from one session to another: they have been handed to the graph in this
order, the faults of the queue have struck them, and the graph has carried out the other ones. -/
structure Leads (s : Session) (as : List Attempt) (s' : Session) : Prop where
  sent : s'.sent = s.sent ++ as.map Attempt.traversal
  struck : as.map Attempt.fault? = nextFaults as.length s.faults
  rest : s'.faults = s.faults.drop as.length
  graph : s'.graph = s.graph.writeAll (made as)

/-- What changes neither the graph nor its faults, and hands nothing over. -/
lemma Leads.of_frame {s s' : Session} (hsent : s'.sent = s.sent) (hfaults : s'.faults = s.faults)
    (hgraph : s'.graph = s.graph) : Leads s [] s' :=
  ⟨by simpa using hsent, rfl, by simpa using hfaults, by simpa [made] using hgraph⟩

lemma Leads.trans {s s₁ s₂ : Session} {as bs : List Attempt} (h : Leads s as s₁)
    (h' : Leads s₁ bs s₂) : Leads s (as ++ bs) s₂ where
  sent := by rw [h'.sent, h.sent, List.map_append, List.append_assoc]
  struck := by
    rw [List.map_append, h.struck, h'.struck, h.rest, List.length_append, nextFaults_add]
  rest := by rw [h'.rest, h.rest, List.drop_drop, List.length_append]
  graph := by rw [h'.graph, h.graph, made_append, Graph.writeAll_append]

namespace Action

variable {α β : Type} {a : Action α} {f : α → Action β} {s : Session} {v : α} {u : β}
  {as bs : List Attempt}

/-- An action that makes some attempts from a session on, and returns a value unless one of them is
struck. -/
structure Runs (a : Action α) (s : Session) (as : List Attempt) (v : α) : Prop where
  result : (a s).1 = verdict v as
  leads : Leads s as (a s).2

lemma runs_pure (v : α) (s : Session) : (pure v : Action α).Runs s [] v :=
  ⟨rfl, .of_frame rfl rfl rfl⟩

lemma runs_log (level : Log.Level) (logger message : String) (s : Session) :
    (log level logger message).Runs s [] () :=
  ⟨rfl, .of_frame ((onlyLogs_log level logger message).silent s) rfl rfl⟩

namespace Runs

lemma eq_of_made (h : a.Runs s as v) (has : firstFault? as = none) : a s = (.ok v, (a s).2) := by
  have hresult := h.result
  rw [verdict, has] at hresult
  exact Prod.ext hresult rfl

lemma eq_of_struck (h : a.Runs s as v) {fault : Fault} (has : firstFault? as = some fault) :
    a s = (.error (.fault fault), (a s).2) := by
  have hresult := h.result
  rw [verdict, has] at hresult
  exact Prod.ext hresult rfl

/-- An action that no fault has struck is followed by the next one. -/
lemma bind_of_made (h : a.Runs s as v) (has : firstFault? as = none)
    (hf : (f v).Runs (a s).2 bs u) : (a >>= f).Runs s (as ++ bs) u := by
  have heq : (a >>= f) s = f v (a s).2 := bind_of_ok (h.eq_of_made has)
  refine ⟨?_, ?_⟩
  · rw [heq, hf.result, verdict_append_of_made u has]
  · rw [heq]
    exact h.leads.trans hf.leads

/-- After a fault, nothing more is attempted. -/
lemma bind_of_struck (h : a.Runs s as v) {fault : Fault} (has : firstFault? as = some fault)
    (u : β) : (a >>= f).Runs s as u := by
  have heq : (a >>= f) s = (.error (.fault fault), (a s).2) :=
    bind_of_error (h.eq_of_struck has)
  refine ⟨?_, ?_⟩
  · rw [heq, verdict, has]
  · rw [heq]
    exact h.leads

/-- What follows without attempting anything makes no difference to the attempts. -/
lemma bind_silent (h : a.Runs s as v) (hf : ∀ s', (f v).Runs s' [] u) : (a >>= f).Runs s as u := by
  cases has : firstFault? as with
  | none => simpa using h.bind_of_made has (hf _)
  | some fault => exact h.bind_of_struck has u

lemma discard (h : a.Runs s as v) : (discard a : Action Unit).Runs s as () :=
  h.bind_silent (f := fun _ => (pure () : Action Unit)) fun s' => runs_pure () s'

/-- All actions are run, whatever becomes of the first one, and the first failure is reported. -/
lemma settle_cons {b : Action Unit} {rest : List (Action Unit)} (h : b.Runs s as ())
    (hrest : (settle rest).Runs (b s).2 bs ()) : (settle (b :: rest)).Runs s (as ++ bs) () := by
  cases has : firstFault? as with
  | none =>
      have heq : settle (b :: rest) s = settle rest (b s).2 := settle_of_ok (h.eq_of_made has)
      refine ⟨?_, ?_⟩
      · rw [heq, hrest.result, verdict_append_of_made () has]
      · rw [heq]
        exact h.leads.trans hrest.leads
  | some fault =>
      have heq : settle (b :: rest) s = (.error (.fault fault), (settle rest (b s).2).2) :=
        settle_of_error (h.eq_of_struck has)
      refine ⟨?_, ?_⟩
      · rw [heq, verdict_append_of_struck () has]
      · rw [heq]
        exact h.leads.trans hrest.leads

end Runs

/-- A traversal meets the next fault, or it is left to the graph. -/
lemma execute_next (t : Traversal) (s : Session) :
    execute t s = match s.faults.head?.join with
      | some f => (.error (.fault f), underway t s)
      | none => perform t (underway t s) := by
  obtain ⟨graph, clock, context, faults, replies, language, journal⟩ := s
  rcases faults with _ | ⟨_ | f, rest⟩
  · rfl
  · rfl
  · rfl

/-- A write is struck by the next fault, or it is carried out. -/
lemma runs_execute (w : Write) (time : String) (s : Session) :
    (discard (execute (w.traversal time)) : Action Unit).Runs s
      [⟨w, time, s.faults.head?.join⟩] () := by
  have hsent := sent_underway (w.traversal time) s
  have hrest : (underway (w.traversal time) s).faults = s.faults.drop 1 := List.drop_one.symm
  have hexecute := execute_next (w.traversal time) s
  cases hnext : s.faults.head?.join with
  | some f =>
      rw [hnext] at hexecute
      have h : (discard (execute (w.traversal time)) : Action Unit) s
          = (.error (.fault f), underway (w.traversal time) s) :=
        bind_of_error (f := fun _ => (pure () : Action Unit)) hexecute
      exact ⟨by rw [h]; rfl, by rw [h]; exact ⟨hsent, by simp [nextFaults, hnext], hrest, rfl⟩⟩
  | none =>
      obtain ⟨rows, hg⟩ := graph_execute_write s.graph w time
      have hperform : perform (w.traversal time) (underway (w.traversal time) s)
          = (.ok rows, { underway (w.traversal time) s with graph := s.graph.write w time }) := by
        rw [perform, underway, hg]
      rw [hnext, hperform] at hexecute
      have h : (discard (execute (w.traversal time)) : Action Unit) s
          = (.ok (), { underway (w.traversal time) s with graph := s.graph.write w time }) :=
        bind_of_ok (f := fun _ => (pure () : Action Unit)) hexecute
      exact ⟨by rw [h]; rfl, by rw [h]; exact ⟨hsent, by simp [nextFaults, hnext], hrest, rfl⟩⟩

/-- **A single write** is attempted once. -/
lemma runs_writeNow (w : Write) (s : Session) :
    ∃ time fault?, (writeNow w).Runs s [⟨w, time, fault?⟩] () := by
  have hnow : now.Runs s [] s.clock.text := ⟨rfl, .of_frame rfl rfl rfl⟩
  exact ⟨_, _, hnow.bind_of_made rfl (runs_execute w s.clock.text _)⟩

/-- What is done before and after an action to other parts of the session does not matter. -/
lemma Runs.scoped {b : Action α} (enter : Session → Session) (leave : Session → Session → Session)
    (hb : ∀ s, b s = ((a (enter s)).1, leave s (a (enter s)).2))
    (ha : a.Runs (enter s) as v)
    (henter : (enter s).sent = s.sent ∧ (enter s).faults = s.faults ∧ (enter s).graph = s.graph)
    (hleave : ∀ t, (leave s t).sent = t.sent ∧ (leave s t).faults = t.faults ∧
      (leave s t).graph = t.graph) : b.Runs s as v := by
  obtain ⟨hsent, hfaults, hgraph⟩ := henter
  obtain ⟨hsent', hfaults', hgraph'⟩ := hleave (a (enter s)).2
  refine ⟨by rw [hb, ha.result], ?_⟩
  rw [hb]
  constructor
  · rw [hsent', ha.leads.sent, hsent]
  · rw [ha.leads.struck, hfaults]
  · rw [hfaults', ha.leads.rest, hfaults]
  · rw [hgraph', ha.leads.graph, hgraph]

end Action

end EntityGraph
