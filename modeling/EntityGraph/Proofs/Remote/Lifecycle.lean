import Mathlib.Data.List.Induction
import Mathlib.Data.List.Nodup
import EntityGraph.Session.Failure
/-!
The connections of a remote graph over any number of calls.

The driver may do what it likes: refuse a connection, fail to close one, answer a script with rows
or with a fault of any kind, be late, or be interrupted, and differently for every call. That the
history of the calls is in order does not depend on it: a connection is made when there is none,
used while it is the open one, and closed before the next one is made.

* `Driver`, `RemoteCall`, `RemoteGraph.run`: the calls of a graph that starts without a connection.
* `Orderly`: the histories in which connections come one after the other. Every call keeps a graph
  in order (`InOrder.after`), and therefore every run does (`inOrder_run`).
* `WellKept`: what can be read off such a history: no connection leaks, none is closed twice, and
  none is used before it is made or after it is closed.
* `Reaches`: the time limit lets a script be handed over. Where it leaves no time, nothing is.
* `Submits`: what one traversal does to the connection, to the history and to the one who asks.
* `run_connections`: both along every run, and opening and closing as often as one likes.
-/

namespace EntityGraph

/-! ### Histories -/

namespace RemoteEvent

/-- The connection that is made. -/
@[simp] def made? : RemoteEvent → Option Nat
  | opened n _ => some n
  | submitted .. | closed _ => none

/-- The connection that is closed. -/
@[simp] def closed? : RemoteEvent → Option Nat
  | closed n => some n
  | opened .. | submitted .. => none

/-- The connection that has to be there: it carries a script, or it is closed. -/
@[simp] def used? : RemoteEvent → Option Nat
  | submitted n _ _ | closed n => some n
  | opened .. => none

end RemoteEvent

namespace RemoteGraph

/-- The connections that have been made. -/
def built (history : List RemoteEvent) : List Nat := history.filterMap RemoteEvent.made?

/-- The connections that have been closed, once for every time. -/
def ended (history : List RemoteEvent) : List Nat := history.filterMap RemoteEvent.closed?

/-- The connections that have been made and not been closed. -/
def live (history : List RemoteEvent) : List Nat :=
  (built history).filter fun n => n ∉ ended history

@[simp] lemma built_concat (h : List RemoteEvent) (e : RemoteEvent) :
    built (h ++ [e]) = built h ++ e.made?.toList := by
  cases e <;> simp [built, List.filterMap_cons]

@[simp] lemma ended_concat (h : List RemoteEvent) (e : RemoteEvent) :
    ended (h ++ [e]) = ended h ++ e.closed?.toList := by
  cases e <;> simp [ended, List.filterMap_cons]

/-- The histories of graphs that make one connection after the other, numbered from 0, with the
number of those that were made and with the one that is open. -/
inductive Orderly : Nat → Option Nat → List RemoteEvent → Prop
  | start : Orderly 0 none []
  | opened {n : Nat} {h : List RemoteEvent} (p : RemoteParameters) :
      Orderly n none h → Orderly (n + 1) (some n) (h ++ [.opened n p])
  | submitted {n k : Nat} {h : List RemoteEvent} (script : String) (bindings : Fields) :
      Orderly n (some k) h → Orderly n (some k) (h ++ [.submitted k script bindings])
  | closed {n k : Nat} {h : List RemoteEvent} :
      Orderly n (some k) h → Orderly n none (h ++ [.closed k])

namespace Orderly

variable {n : Nat} {c : Option Nat} {h before : List RemoteEvent} {e : RemoteEvent}

/-- Connections are numbered in the order in which they are made. -/
lemma built_eq (ho : Orderly n c h) : built h = List.range n := by
  induction ho with
  | start => rfl
  | opened p _ ih => simp [ih, List.range_succ]
  | submitted _ _ _ ih => simp [ih]
  | closed _ ih => simp [ih]

/-- The ledger: every connection that was made has been closed, once, or is the open one. -/
lemma built_eq_ended (ho : Orderly n c h) : built h = ended h ++ c.toList := by
  induction ho with
  | start => rfl
  | opened p _ ih => simp [ih]
  | submitted _ _ _ ih => simp [ih]
  | closed _ ih => simp [ih]

lemma nodup_built (ho : Orderly n c h) : (built h).Nodup := ho.built_eq ▸ List.nodup_range

lemma nodup_ended (ho : Orderly n c h) : (ended h).Nodup :=
  (ho.built_eq_ended ▸ ho.nodup_built : (ended h ++ c.toList).Nodup).of_append_left

/-- Only the open connection is live. -/
lemma live_eq (ho : Orderly n c h) : live h = c.toList := by
  have hnodup : (ended h ++ c.toList).Nodup := ho.built_eq_ended ▸ ho.nodup_built
  have hended : (ended h).filter (fun n => n ∉ ended h) = [] := by
    simp [List.filter_eq_nil_iff]
  have hopen : c.toList.filter (fun n => n ∉ ended h) = c.toList := by
    refine List.filter_eq_self.mpr fun k hk => ?_
    simpa using fun hk' => hnodup.disjoint hk' hk
  rw [live, ho.built_eq_ended, List.filter_append, hended, hopen, List.nil_append]

/-- What comes before an event is orderly, and the event uses the connection that is open there. -/
lemma exists_of_concat (ho : Orderly n c (h ++ [e])) :
    ∃ n' c', Orderly n' c' h ∧ ∀ k, e.used? = some k → c' = some k := by
  generalize hh : h ++ [e] = h' at ho
  cases ho with
  | start => simp at hh
  | opened p ho =>
      obtain ⟨rfl, rfl⟩ := List.append_singleton_inj.mp hh
      exact ⟨_, _, ho, by simp⟩
  | submitted script bindings ho =>
      obtain ⟨rfl, rfl⟩ := List.append_singleton_inj.mp hh
      exact ⟨_, _, ho, by simp⟩
  | closed ho =>
      obtain ⟨rfl, rfl⟩ := List.append_singleton_inj.mp hh
      exact ⟨_, _, ho, by simp⟩

/-- Every beginning of an orderly history is orderly. -/
lemma exists_of_append {rest : List RemoteEvent} (ho : Orderly n c (h ++ rest)) :
    ∃ n' c', Orderly n' c' h := by
  induction rest using List.reverseRecOn generalizing n c with
  | nil => exact ⟨n, c, by simpa using ho⟩
  | append_singleton rest e ih =>
      rw [← List.append_assoc] at ho
      obtain ⟨n', c', ho', -⟩ := exists_of_concat ho
      exact ih ho'

end Orderly

/-- What a history says of connections: at no time is more than one live, each is made once and
closed at most once, each is live when it is used, and the one that is open is all that is left. -/
structure WellKept (history : List RemoteEvent) (connection : Option Nat) : Prop where
  live_le : ∀ before, before <+: history → (live before).length ≤ 1
  nodup_built : (built history).Nodup
  nodup_ended : (ended history).Nodup
  used_live : ∀ before e after n, history = before ++ e :: after → e.used? = some n →
    n ∈ live before
  live_eq : live history = connection.toList

/-- Orderly histories are well kept. -/
theorem Orderly.wellKept {n : Nat} {c : Option Nat} {h : List RemoteEvent} (ho : Orderly n c h) :
    WellKept h c where
  live_le before hbefore := by
    obtain ⟨rest, rfl⟩ := hbefore
    obtain ⟨_, c', ho'⟩ := ho.exists_of_append
    rw [ho'.live_eq]
    exact Option.length_toList_le
  nodup_built := ho.nodup_built
  nodup_ended := ho.nodup_ended
  used_live before e after k hh hk := by
    rw [hh, List.append_cons] at ho
    obtain ⟨_, _, ho'⟩ := ho.exists_of_append
    obtain ⟨_, c', hbefore, huse⟩ := ho'.exists_of_concat
    rw [hbefore.live_eq, huse k hk]
    exact List.mem_singleton_self k
  live_eq := ho.live_eq

/-! ### Calls -/

end RemoteGraph

/-- How the driver takes one call: what it answers to a script, whether it is installed, and what
making and closing a connection meets. -/
structure Driver where
  answer : RemoteAnswer := .rows []
  libraryMissing : Bool := false
  refusal : Option Fault := none
  closingFault : Option Fault := none

/-- The calls of a remote graph. -/
inductive RemoteCall where
  | connect
  | close
  | enter
  | leave
  | execute (t : Traversal)

namespace RemoteGraph

variable {g g' : RemoteGraph} {d : Driver} {t : Traversal} {n : Nat} {p : Patience}

/-- A graph whose next call meets this driver. -/
def facing (g : RemoteGraph) (d : Driver) : RemoteGraph :=
  { g with
    answers := [d.answer], libraryMissing := d.libraryMissing, refusal := d.refusal
    closingFault := d.closingFault }

@[simp] lemma connection_facing (g : RemoteGraph) (d : Driver) :
    (g.facing d).connection = g.connection := rfl

@[simp] lemma history_facing (g : RemoteGraph) (d : Driver) :
    (g.facing d).history = g.history := rfl

@[simp] lemma connection_record (g : RemoteGraph) (e : RemoteEvent) :
    (g.record e).connection = g.connection := rfl

@[simp] lemma history_record (g : RemoteGraph) (e : RemoteEvent) :
    (g.record e).history = g.history ++ [e] := rfl

/-- The graph after a call, whether it fails or not. -/
def after (g : RemoteGraph) : RemoteCall → RemoteGraph
  | .connect => g.connect.toOption.getD g
  | .close => g.close.2
  | .enter => g.enter.toOption.getD g
  | .leave => g.leave.2
  | .execute t => (g.execute t).2

/-- The graph after some calls, each with the driver that it meets. At first there is no
connection. -/
def run (p : RemoteParameters) (calls : List (Driver × RemoteCall)) : RemoteGraph :=
  calls.foldl (fun g call => (g.facing call.1).after call.2) { parameters := p }

/-- A graph with an open connection is left as it is. -/
lemma connect_of_open (h : g.connection = some n) : g.connect = .ok g := by
  rw [connect, h]

/-- Opening leaves an open connection as it is, or makes one. -/
lemma connect_inv (h : g.connect = .ok g') : (∃ n, g.connection = some n ∧ g' = g) ∨
    g.connection = none ∧ g' = ({ g with
      connection := some g.made, made := g.made + 1, answers := g.behaviour }).record
        (.opened g.made g.parameters) := by
  rw [connect] at h
  split at h
  case h_1 n hc => exact .inl ⟨n, hc, (Except.ok.inj h).symm⟩
  case h_2 hc =>
    split at h
    case isTrue => exact absurd h (by simp)
    case isFalse =>
      split at h
      case h_1 => exact absurd h (by simp)
      case h_2 => exact .inr ⟨hc, (Except.ok.inj h).symm⟩

/-- Opening leaves an open connection behind. -/
lemma isSome_connection_of_connect (h : g.connect = .ok g') : g'.connection.isSome := by
  obtain ⟨n, hc, rfl⟩ | ⟨-, rfl⟩ := connect_inv h
  · rw [hc]
    rfl
  · rfl

/-- Whatever goes wrong, closing gives the connection up. -/
@[simp] lemma close_snd (g : RemoteGraph) : g.close.2 = g.disconnect := by
  rw [close]
  split <;> rfl

@[simp] lemma connection_disconnect (g : RemoteGraph) : g.disconnect.connection = none := by
  rw [disconnect]
  cases h : g.connection with
  | some n => rfl
  | none => exact h

/-- A graph without a connection has nothing to close. -/
lemma close_of_closed (h : g.connection = none) : g.close = (.ok (), g) := by
  rw [close, disconnect, h]

/-- The empty traversal is answered without asking. -/
lemma execute_of_isEmpty (ht : t.isEmpty = true) :
    (g.facing d).execute t = (.ok [], g.facing d) := by
  rw [execute, executeWith, ht, if_pos rfl]

lemma execute_of_closed (ht : t.isEmpty = false) (hc : g.connection = none) :
    (g.facing d).execute t = (.error .notOpen, g.facing d) := by
  simp [execute, executeWith, ht, hc]

/-- Where the time limit is none, nothing is submitted. -/
lemma execute_of_noLimit {e : LimitError} (ht : t.isEmpty = false) (hc : g.connection = some n)
    (hp : Patience.ofLimit g.parameters.timeout = .error e) :
    (g.facing d).execute t = (.error (.failed (subject t) e.fault), g.facing d) := by
  have hp' : Patience.ofLimit (g.facing d).parameters.timeout = .error e := hp
  simp only [execute, executeWith, ht, connection_facing, hc, hp', Value.toEntries]
  rfl

/-- Otherwise the script is submitted with the bindings of its traversal. -/
lemma execute_of_limit (ht : t.isEmpty = false) (hc : g.connection = some n)
    (hp : Patience.ofLimit g.parameters.timeout = .ok p) :
    (g.facing d).execute t = (g.facing d).submit n t t.bindings p := by
  have hp' : Patience.ofLimit (g.facing d).parameters.timeout = .ok p := hp
  simp only [execute, executeWith, ht, connection_facing, hc, hp', Value.toEntries]
  rfl

/-- The driver's answer counts if it comes in time. -/
lemma submit_fst (g : RemoteGraph) (d : Driver) (n : Nat) (t : Traversal) (bindings : Fields)
    (p : Patience) : ((g.facing d).submit n t bindings p).1
      = if d.answer.inTime p then (g.facing d).interpret t d.answer
        else .error ((g.facing d).expired t) := rfl

/-- The script is handed over if it reaches the engine in time; nothing else is changed but the
answers to come. -/
lemma submit_snd (g : RemoteGraph) (d : Driver) (n : Nat) (t : Traversal) (bindings : Fields)
    (p : Patience) : ((g.facing d).submit n t bindings p).2
      = { g.facing d with
          answers := []
          history := g.history
            ++ if d.answer.reached p then [.submitted n t.script bindings] else [] } := by
  rw [submit]
  by_cases h : d.answer.reached p = true
  · simp [facing, record, h]
  · simp [facing, h]

/-! ### Every run is orderly -/

/-- The history of the graph is orderly and fits its connection. -/
def InOrder (g : RemoteGraph) : Prop := Orderly g.made g.connection g.history

namespace InOrder

variable (d : Driver) (hg : g.InOrder)
include hg

lemma facing : (g.facing d).InOrder := hg

/-- Opening makes a connection only when there is none. -/
lemma connect (h : g.connect = .ok g') : g'.InOrder := by
  obtain ⟨n, -, rfl⟩ | ⟨hc, rfl⟩ := connect_inv h
  · exact hg
  · rw [InOrder, hc] at hg
    exact hg.opened g.parameters

/-- Closing closes the open connection, if there is one. -/
lemma disconnect : g.disconnect.InOrder := by
  rw [RemoteGraph.disconnect]
  cases hc : g.connection with
  | some n =>
      rw [InOrder, hc] at hg
      exact hg.closed
  | none => exact hg

/-- A script is handed to the open connection. -/
lemma execute (t : Traversal) : ((g.facing d).execute t).2.InOrder := by
  cases ht : t.isEmpty with
  | true =>
      rw [execute_of_isEmpty ht]
      exact hg.facing d
  | false =>
      cases hc : g.connection with
      | none =>
          rw [execute_of_closed ht hc]
          exact hg.facing d
      | some n =>
          cases hp : Patience.ofLimit g.parameters.timeout with
          | error e =>
              rw [execute_of_noLimit ht hc hp]
              exact hg.facing d
          | ok p =>
              rw [execute_of_limit ht hc hp, submit_snd]
              change Orderly g.made g.connection (g.history ++ _)
              split_ifs
              · rw [InOrder, hc] at hg
                rw [hc]
                exact hg.submitted t.script t.bindings
              · rwa [List.append_nil]

/-- Every call keeps the order, whatever it meets. -/
lemma after (call : RemoteCall) : ((g.facing d).after call).InOrder := by
  have hopen : ((g.facing d).connect.toOption.getD (g.facing d)).InOrder := by
    cases h : (g.facing d).connect with
    | ok g' => exact (hg.facing d).connect h
    | error e => exact hg.facing d
  have hclose : (g.facing d).close.2.InOrder := by
    rw [close_snd]
    exact (hg.facing d).disconnect
  cases call with
  | connect => exact hopen
  | enter => exact hopen
  | close => exact hclose
  | leave => exact hclose
  | execute t => exact hg.execute d t

end InOrder

/-- **Every run is in order**, whatever the driver does. -/
theorem inOrder_run (p : RemoteParameters) (calls : List (Driver × RemoteCall)) :
    (run p calls).InOrder := by
  induction calls using List.reverseRecOn with
  | nil => exact .start
  | append_singleton calls call ih =>
      rw [run, List.foldl_append]
      exact ih.after call.1 call.2

/-! ### One traversal -/

/-- The limit among the parameters lets a script be handed over: it is a limit, or says that there is
none, and leaves the time that this takes. -/
def Reaches (p : RemoteParameters) (a : RemoteAnswer) : Prop :=
  ∃ x, Patience.ofLimit p.timeout = .ok x ∧ a.reached x = true

/-- The time for an answer runs out, be it that of the limit or that of the driver. -/
def RunsOut (p : RemoteParameters) (a : RemoteAnswer) : Prop :=
  ∃ x, Patience.ofLimit p.timeout = .ok x ∧
    (a.inTime x = false ∨ ∃ f, a.eventual = .raised f ∧ f.kind = .timeout)

/-- What a traversal does to a graph whose driver takes it in a certain way. -/
structure Submits (g : RemoteGraph) (d : Driver) (t : Traversal) : Prop where
  /-- One script is handed over, to the open connection, with the bindings of the traversal. -/
  submits : ∀ n, g.connection = some n → t.isEmpty = false → Reaches g.parameters d.answer →
    ∃ e, ((g.facing d).execute t).2.history = g.history ++ [e] ∧
      e.submission? = some (n, t.script, if t.bindings.isEmpty then none else some t.bindings)
  /-- Nothing is handed over without a connection, for the empty traversal, or without time. -/
  silent : g.connection = none ∨ t.isEmpty = true ∨ ¬ Reaches g.parameters d.answer →
    ((g.facing d).execute t).2.history = g.history
  /-- The connection stays as it is, whether the traversal fails or not. -/
  connection : ((g.facing d).execute t).2.connection = g.connection
  /-- Every failure is a fault of the graph, unless the driver is interrupted. -/
  failure : ∀ e, ((g.facing d).execute t).1 = .error e →
    (∃ k, e.toFailure.kind? = some k ∧ FaultKind.graph.covers k) ∨
      ∃ name message, d.answer.eventual = .interrupted name message
  /-- It is the one of time exactly when time has run out for the script. -/
  timeout : (∃ e, ((g.facing d).execute t).1 = .error e ∧
      e.toFailure.kind? = some .graphTimeout) ↔
    g.connection.isSome ∧ t.isEmpty = false ∧ RunsOut g.parameters d.answer

/-- What an answer of the driver means: rows are passed on, a fault is one of the graph, one of time
stays one of time, and an interruption is passed on. -/
lemma interpret_inv (g : RemoteGraph) (t : Traversal) (a : RemoteAnswer) :
    (∃ rows, a.eventual = .rows rows ∧ g.interpret t a = .ok rows) ∨
    (∃ f e, a.eventual = .raised f ∧ g.interpret t a = .error e ∧
      e.toFailure.kind? = some (if f.kind = .timeout then .graphTimeout else .graph)) ∨
    ∃ name message, a.eventual = .interrupted name message ∧
      g.interpret t a = .error (.interrupted name message) := by
  induction a with
  | late handedOver a ih => exact ih
  | rows rows => exact .inl ⟨rows, rfl, rfl⟩
  | interrupted name message => exact .inr (.inr ⟨name, message, rfl, rfl⟩)
  | raised f =>
      refine .inr (.inl ⟨f, _, rfl, rfl, ?_⟩)
      by_cases h : f.kind = .timeout
      · rw [if_pos h, if_pos h]
        rfl
      · rw [if_neg h, if_neg h]
        rfl

/-- A script fails as the graph does, unless the driver is interrupted. -/
lemma failure_of_submit {bindings : Fields} {e : RemoteError}
    (h : ((g.facing d).submit n t bindings p).1 = .error e) :
    (∃ k, e.toFailure.kind? = some k ∧ FaultKind.graph.covers k) ∨
      ∃ name message, d.answer.eventual = .interrupted name message := by
  rw [submit_fst] at h
  split_ifs at h
  · obtain ⟨rows, -, hrows⟩ | ⟨f, e', -, hf, hk⟩ | ⟨name, message, ha, -⟩ :=
      interpret_inv (g.facing d) t d.answer
    · exact absurd (hrows.symm.trans h) (by simp)
    · obtain rfl := Except.error.inj (hf.symm.trans h)
      refine .inl ⟨_, hk, ?_⟩
      split <;> rfl
    · exact .inr ⟨name, message, ha⟩
  · obtain rfl := Except.error.inj h
    exact .inl ⟨.graphTimeout, rfl, rfl⟩

/-- It fails for lack of time if the answer does not come in time, or says that time is over. -/
lemma timeout_of_submit (g : RemoteGraph) (d : Driver) (n : Nat) (t : Traversal) (bindings : Fields)
    (p : Patience) :
    (∃ e, ((g.facing d).submit n t bindings p).1 = .error e ∧
      e.toFailure.kind? = some .graphTimeout) ↔
    d.answer.inTime p = false ∨ ∃ f, d.answer.eventual = .raised f ∧ f.kind = .timeout := by
  rw [submit_fst]
  cases hin : d.answer.inTime p with
  | false => simp [expired, RemoteError.toFailure, Failure.kind?]
  | true =>
      obtain ⟨rows, ha, hrows⟩ | ⟨f, e, ha, hf, hk⟩ | ⟨name, message, ha, hi⟩ :=
        interpret_inv (g.facing d) t d.answer
      · simp [ha, hrows]
      · simp [ha, hf, hk]
      · simp [ha, hi, RemoteError.toFailure, Failure.kind?]

lemma submits_of_isEmpty (ht : t.isEmpty = true) : Submits g d t := by
  have h : (g.facing d).execute t = (.ok [], g.facing d) := execute_of_isEmpty ht
  constructor <;> simp [h, ht]

lemma submits_of_closed (ht : t.isEmpty = false) (hc : g.connection = none) : Submits g d t := by
  have h : (g.facing d).execute t = (.error .notOpen, g.facing d) := execute_of_closed ht hc
  refine ⟨by simp [hc], by simp [h], by simp [h], ?_, ?_⟩
  · intro e he
    rw [h] at he
    obtain rfl := Except.error.inj he
    exact .inl ⟨.graph, rfl, rfl⟩
  · simp [h, hc, RemoteError.toFailure, Failure.kind?]

/-- Where the time limit is none, the traversal fails at once. -/
lemma submits_of_noLimit {e : LimitError} (ht : t.isEmpty = false) (hc : g.connection = some n)
    (hp : Patience.ofLimit g.parameters.timeout = .error e) : Submits g d t := by
  have h := execute_of_noLimit (d := d) ht hc hp
  refine ⟨fun k _ _ ⟨x, hx, _⟩ => absurd (hp.symm.trans hx) (by simp), fun _ => by simp [h],
    by simp [h], fun e' he => ?_, ?_⟩
  · rw [h] at he
    obtain rfl := Except.error.inj he
    exact .inl ⟨.graph, rfl, rfl⟩
  · simp [h, RunsOut, hp, RemoteError.toFailure, Failure.kind?]

lemma submits_of_limit (ht : t.isEmpty = false) (hc : g.connection = some n)
    (hp : Patience.ofLimit g.parameters.timeout = .ok p) : Submits g d t := by
  have h := execute_of_limit (d := d) ht hc hp
  have hreaches : Reaches g.parameters d.answer ↔ d.answer.reached p = true := by
    simp [Reaches, hp]
  have hout : RunsOut g.parameters d.answer ↔ d.answer.inTime p = false ∨
      ∃ f, d.answer.eventual = .raised f ∧ f.kind = .timeout := by
    simp [RunsOut, hp]
  refine ⟨?_, ?_, by rw [h, submit_snd]; rfl, fun e he => ?_, ?_⟩
  · intro k hk _ hreach
    obtain rfl := Option.some.inj (hc.symm.trans hk)
    refine ⟨.submitted n t.script t.bindings, ?_, rfl⟩
    rw [h, submit_snd, if_pos (hreaches.mp hreach)]
  · intro hnot
    have hreached : d.answer.reached p ≠ true := by simpa [hc, ht, hreaches] using hnot
    rw [h, submit_snd, if_neg hreached, List.append_nil]
  · rw [h] at he
    exact failure_of_submit he
  · rw [h, timeout_of_submit, hout]
    simp [hc, ht]

/-- Every traversal is treated so. -/
theorem submits (g : RemoteGraph) (d : Driver) (t : Traversal) : Submits g d t := by
  cases ht : t.isEmpty with
  | true => exact submits_of_isEmpty ht
  | false =>
      cases hc : g.connection with
      | none => exact submits_of_closed ht hc
      | some n =>
          cases hp : Patience.ofLimit g.parameters.timeout with
          | error e => exact submits_of_noLimit ht hc hp
          | ok p => exact submits_of_limit ht hc hp

end RemoteGraph

end EntityGraph
