import EntityGraph.Proofs.Graph.Growth
import EntityGraph.Proofs.Recording.History
import EntityGraph.Proofs.Relationship.Labels
/-!
Attempts to record a document that faults cut short.

A run writes the vertex of the document before anything else, and no two of its other writes have
one key. So it does not matter which writes were struck in earlier attempts: what an attempt finds
in its way is what it would have written itself.

* `eq_of_mem_laterWrites`: the writes after the first one are told apart by their keys.
* `Grows.record`: an attempt lets the graph grow by first writes of the document.
* `Attempts`: attempts one after the other; `Attempts.grows` and `Attempts.says_of_has` say what the
  graph is like after them.
* `Attempts.converge`: whatever has struck the attempts, one without faults leads to the graph that
  it would have led to at once.
-/

namespace EntityGraph.Recording

variable {p : Policy} {d : Document} {g : Graph} {s : Session} {k : Key} {w w' : Write}

/-! ### The writes of a document -/

/-- The writes after that of the document are told apart by their keys. -/
lemma eq_of_mem_laterWrites (hw : w ∈ laterWrites p d) (hw' : w' ∈ laterWrites p d)
    (hkey : w.key = w'.key) : w = w' := by
  have hmention : ∀ {e e' : Entity}, e ∈ firstMentions p d → e' ∈ firstMentions p d →
      e.id = e'.id → e = e' := fun he he' hid =>
    (mem_firstMentions_iff.mp he).eq_of_id_eq (mem_firstMentions_iff.mp he') hid
  have happearance : ∀ {e a b : Entity} {w : Write},
      w ∈ relationshipWrites p.persistGeneric d.id a b → (appearanceWrite d.id e).key ≠ w.key := by
    intro e a b w hw heq
    obtain ⟨-, rfl⟩ := (mem_relationshipWrites_iff rfl).mp hw
    exact Relationship.resolve_label_ne_appearsIn _ _ (Key.edge.inj heq).2.2.symm
  rcases mem_laterWrites_iff.mp hw with ⟨e, he, rfl | rfl⟩ | ⟨a, b, -, hrel⟩ <;>
    rcases mem_laterWrites_iff.mp hw' with ⟨e', he', rfl | rfl⟩ | ⟨a', b', -, hrel'⟩
  · rw [hmention he he' (Key.vertex.inj hkey)]
  · exact Key.noConfusion hkey
  · obtain ⟨-, rfl⟩ := (mem_relationshipWrites_iff rfl).mp hrel'
    exact Key.noConfusion hkey
  · exact Key.noConfusion hkey
  · rw [hmention he he' (Key.edge.inj hkey).1]
  · exact absurd hkey (happearance hrel')
  · obtain ⟨-, rfl⟩ := (mem_relationshipWrites_iff rfl).mp hrel
    exact Key.noConfusion hkey
  · exact absurd hkey.symm (happearance hrel)
  · obtain ⟨-, rfl⟩ := (mem_relationshipWrites_iff rfl).mp hrel
    obtain ⟨-, rfl⟩ := (mem_relationshipWrites_iff rfl).mp hrel'
    obtain ⟨hsource, htarget, hlabel⟩ := Key.edge.inj hkey
    rw [hsource, htarget, hlabel]

lemma firstWrite_document : firstWrite (writes p d) (.vertex d.id) = some (documentWrite d) :=
  List.find?_cons_of_pos (by simp [documentWrite, Write.key])

/-- Every other write is the first one with its key, unless it is that of an entity whose identity
is the id of the document. -/
lemma firstWrite_of_mem_laterWrites (hw : w ∈ laterWrites p d) (hkey : w.key ≠ .vertex d.id) :
    firstWrite (writes p d) w.key = some w := by
  have hhead : (documentWrite d).key ≠ w.key := Ne.symm hkey
  have hsome : (firstWrite (laterWrites p d) w.key).isSome := by
    rw [firstWrite, List.find?_isSome]
    exact ⟨w, hw, by simp⟩
  obtain ⟨w', hw'⟩ := Option.isSome_iff_exists.mp hsome
  rw [writes_eq_cons, firstWrite, List.find?_cons_of_neg (by simpa using hhead)]
  rw [eq_of_mem_laterWrites hw (mem_of_firstWrite hw') (key_of_firstWrite hw').symm]
  rw [key_of_firstWrite hw']
  exact hw'

/-- What a document writes does not depend on the time, apart from the time itself. -/
lemma timeless_of_mem_writes (hw : w ∈ writes p d) : w.Timeless := by
  rcases mem_writes_iff.mp hw with rfl | ⟨e, -, rfl | rfl⟩ | ⟨a, b, -, hrel⟩
  · exact Write.timeless_vertex d.id (fun _ => rfl)
      ⟨allowedMetadata d.metadata.toFields, [_, _], fun _ => rfl⟩
  · exact Write.timeless_vertex e.id (fun _ => rfl) ⟨[_, _, _, _, _], [], fun _ => rfl⟩
  · exact Write.timeless_edge e.id d.id (fun _ _ => rfl) ⟨[_, _, _], [], fun _ => rfl⟩
  · obtain ⟨-, rfl⟩ := (mem_relationshipWrites_iff rfl).mp hrel
    have hname : ∀ number source target fields, (Element.edge ⟨number,
        (Relationship.resolve a.toMention b.toMention).label, source, target, fields⟩).timeName
          = "firstSeenAt" := fun number source target fields =>
      if_neg (by simpa [Edge.isAppearance] using
        Relationship.resolve_label_ne_appearsIn a.toMention b.toMention)
    exact Write.timeless_edge _ _ (fun number fields => hname number _ _ fields)
      ⟨[_], [], fun _ => rfl⟩

/-! ### One attempt -/

/-- **An attempt lets the graph grow** by first writes of the document, whatever strikes it. -/
theorem grows_record (h : g.Grows (writes p d) s.graph) :
    g.Grows (writes p d) (record p d s).2.graph := by
  rcases record_made p d s with hsame | ⟨ops, hsub, hgraph⟩
  · rwa [hsame]
  rw [hgraph, Graph.writeAll_cons]
  have hfirst := h.write (w := documentWrite d) (.inr firstWrite_document) s.clock.text
  have hdocument : (s.graph.write (documentWrite d) s.clock.text).Has (.vertex d.id) :=
    (Graph.has_write_iff _ _ _).mpr (.inr ⟨rfl, trivial⟩)
  refine hfirst.writeAll fun op hop => ?_
  have hlater : op.1 ∈ laterWrites p d := hsub.subset (List.mem_map_of_mem hop)
  by_cases hkey : op.1.key = .vertex d.id
  · exact .inl (hkey ▸ hdocument)
  · exact .inr (firstWrite_of_mem_laterWrites hlater hkey)

/-- An attempt loses nothing. -/
lemma keeps_record (p : Policy) (d : Document) (s : Session) :
    s.graph.Keeps (record p d s).2.graph := by
  obtain ⟨ops, -, hgraph⟩ := (record_performs p d).made s
  rw [hgraph]
  exact Graph.keeps_writeAll s.graph ops

/-- An attempt adds only what the document says. -/
lemma says_of_has_record (h : (record p d s).2.graph.Has k) : s.graph.Has k ∨ Says p d k := by
  obtain ⟨ops, hsub, hgraph⟩ := (record_performs p d).made s
  rw [hgraph] at h
  refine (Graph.has_of_has_writeAll h).imp_right fun hk => ?_
  exact key_mem_writes_iff.mp ((hsub.map Write.key).subset hk)

/-! ### Several attempts -/

/-- Attempts to record one document, each on the graph that the one before it has left. It is left
open which writes are struck in which attempt, and between two attempts everything but the graph may
change. -/
inductive Attempts (p : Policy) (d : Document) (g : Graph) : Graph → Prop where
  | none : Attempts p d g g
  | next {s : Session} (past : Attempts p d g s.graph) : Attempts p d g (record p d s).2.graph

namespace Attempts

variable {g' : Graph} {c : Session}

lemma grows (h : Attempts p d g g') : g.Grows (writes p d) g' := by
  induction h with
  | none => exact .refl g _
  | next past ih => exact grows_record ih

lemma keeps (h : Attempts p d g g') : g.Keeps g' := by
  induction h with
  | none => exact .refl g
  | next past ih => exact ih.trans (keeps_record p d _)

lemma says_of_has (h : Attempts p d g g') (hk : g'.Has k) : g.Has k ∨ Says p d k := by
  induction h with
  | none => exact .inl hk
  | next past ih =>
      rcases says_of_has_record hk with hk | hk
      · exact ih hk
      · exact .inr hk

/-- **Attempts converge.** Take the run `c` that no fault strikes, and any attempts from the graph
on which it starts. One more attempt, whatever strikes it, loses nothing and leaves only vertices
and edges which that run leaves as well, apart from their times and numbers. If nothing strikes it,
it reports the same as that run and leaves the same vertices and edges. -/
theorem converge (hc : c.Faultless) (hs : Attempts p d c.graph s.graph) :
    ∃ c', record p d c = (.ok (recorded p d), c') ∧
      s.graph.Keeps (record p d s).2.graph ∧
      (record p d s).2.graph.undated.Subperm c'.graph.undated ∧
      (s.Faultless → ∃ s', record p d s = (.ok (recorded p d), s') ∧
        s'.graph.undated.Perm c'.graph.undated) := by
  obtain ⟨c', hclean⟩ := (record_performs p d).succeeds hc
  have hgrows' : c.graph.Grows (writes p d) c'.graph := by
    have h := grows_record (p := p) (d := d) (s := c) (.refl c.graph _)
    rwa [hclean] at h
  have htimeless : ∀ w ∈ writes p d, w.Timeless := fun w hw => timeless_of_mem_writes hw
  have hafter : Attempts p d c.graph (record p d s).2.graph := hs.next
  have hsub : (record p d s).2.graph.undated.Subperm c'.graph.undated :=
    hafter.grows.subperm hgrows' htimeless fun k hk =>
      (has_record_iff hclean).mpr (hafter.says_of_has hk)
  refine ⟨c', hclean, keeps_record p d s, hsub, fun hfaultless => ?_⟩
  obtain ⟨s', hrun⟩ := (record_performs p d).succeeds hfaultless
  rw [hrun] at hafter hsub
  refine ⟨s', hrun, hsub.antisymm (hgrows'.subperm hafter.grows htimeless fun k hk => ?_)⟩
  rw [has_record_iff hrun]
  exact ((has_record_iff hclean).mp hk).imp_left hs.keeps.has

/-- A session in which the second write is struck. -/
def interrupted : Session where
  faults := [Option.none, some { kind := .graph, message := "graph write failed" }]

/-- The letter is recorded in spite of an attempt that has left no more than its own vertex. -/
theorem converge_of_interrupted_letter :
    (record {} History.letter interrupted).2.graph.vertexIds = ["letter"] ∧
    ∃ c' s', record {} History.letter {} = (.ok (recorded {} History.letter), c') ∧
      record {} History.letter { graph := (record {} History.letter interrupted).2.graph }
        = (.ok (recorded {} History.letter), s') ∧
      s'.graph.undated.Perm c'.graph.undated := by
  have hattempt : Attempts {} History.letter .empty
      (record {} History.letter interrupted).2.graph := .next (s := interrupted) .none
  obtain ⟨c', hclean, -, -, hagain⟩ := converge (c := {})
    (s := { graph := (record {} History.letter interrupted).2.graph }) (.of_eq_nil rfl) hattempt
  obtain ⟨s', hrun, hperm⟩ := hagain (.of_eq_nil rfl)
  exact ⟨by decide +kernel, c', s', hclean, hrun, hperm⟩

end Attempts

end EntityGraph.Recording
