import EntityGraph.Proofs.Session.Calls
import EntityGraph.Proofs.Session.Moves
/-!
What is handed to the graph.

* `Session.sent`: the traversals that have been handed to the graph, whatever has become of them.
* `Action.Silent`: an action that hands none over. Log records do not, and `Silent.bind` says that
  such actions compose.
* `sent_underway`: a call hands over its traversal.
-/

namespace EntityGraph

/-- The traversal that is handed to the graph. -/
def Event.traversal? : Event → Option Traversal
  | .executed t => some t
  | .logged _ | .recognized _ | .attempted _ | .waited _ => none

/-- The traversals that have been handed to the graph, in order. -/
def Session.sent (s : Session) : List Traversal := s.journal.filterMap Event.traversal?

namespace Action

variable {α β : Type} {a : Action α} {f : α → Action β} {s : Session}

/-- An action that hands nothing to the graph. -/
def Silent (a : Action α) : Prop := ∀ s, (a s).2.sent = s.sent

lemma OnlyLogs.silent (h : a.OnlyLogs) : a.Silent := fun s => by
  obtain ⟨records, heq, -⟩ := h s
  rw [heq, Session.sent, Session.sent, List.filterMap_append, List.filterMap_map]
  simp [Function.comp_def, Event.traversal?]

lemma silent_note {e : Event} (h : e.traversal? = none) : (note e).Silent := fun s => by
  show (s.journal ++ [e]).filterMap Event.traversal? = _
  rw [List.filterMap_append, List.filterMap_cons, h]
  exact List.append_nil _

lemma Silent.bind (ha : a.Silent) (hf : ∀ v, (f v).Silent) : (a >>= f).Silent :=
  Moves.bind (R := fun s s' => s'.sent = s.sent) (fun h h' => h'.trans h) ha hf

/-- A call that is under way has been sent. -/
lemma sent_underway (t : Traversal) (s : Session) : (underway t s).sent = s.sent ++ [t] := by
  rw [underway, Session.sent, List.filterMap_append]
  rfl

end Action

end EntityGraph
