import EntityGraph.Graph.Execute
import EntityGraph.Proofs.Graph.Reading
import EntityGraph.Proofs.Graph.Sorting
import Mathlib.Data.List.Count
/-!
Pairs of texts that share documents, and their number.

* `textPairs`: the pairs of a list. `mem_textPairs_iff` and `nodup_textPairs` say that for texts in
  strict order these are the ordered pairs, each of them once.
* `Graph.Texted`: everything that appears somewhere has a text. `Graph.textsIn_eq` then reads the
  texts of a document.
* `Graph.count_sharedTexts`: a pair is counted once for every document with both texts.
* `Outranks`: the order of the pairs, by their number and then by their texts.
* `Graph.companions`: the pairs that share enough documents. `Graph.mem_companions_iff` and
  `Graph.pairwise_companions` characterize them, and `Graph.execute_frequentPairs` says that the
  graph answers with the first ones.
-/

namespace EntityGraph

/-! ### Pairs of texts -/

/-- The pairs of a list of texts, in the order of their positions. -/
def textPairs : List String → List (String × String)
  | [] => []
  | a :: rest => rest.map (a, ·) ++ textPairs rest

/-- The ordered pairs of texts that are in strict order. -/
lemma mem_textPairs_iff {texts : List String} (h : texts.Pairwise (· < ·)) {a b : String} :
    (a, b) ∈ textPairs texts ↔ a < b ∧ a ∈ texts ∧ b ∈ texts := by
  induction texts with
  | nil => simp [textPairs]
  | cons c rest ih =>
      obtain ⟨hc, hrest⟩ := List.pairwise_cons.mp h
      simp only [textPairs, List.mem_append, List.mem_map, Prod.mk.injEq, ih hrest, List.mem_cons]
      constructor
      · rintro (⟨d, hd, rfl, rfl⟩ | ⟨hlt, ha, hb⟩)
        · exact ⟨hc d hd, .inl rfl, .inr hd⟩
        · exact ⟨hlt, .inr ha, .inr hb⟩
      · rintro ⟨hlt, rfl | ha, rfl | hb⟩
        · exact absurd hlt (String.lt_irrefl _)
        · exact .inl ⟨b, hb, rfl, rfl⟩
        · exact absurd (String.lt_trans hlt (hc a ha)) (String.lt_irrefl _)
        · exact .inr ⟨hlt, ha, hb⟩

/-- No pair of texts in strict order is there twice. -/
lemma nodup_textPairs {texts : List String} (h : texts.Pairwise (· < ·)) :
    (textPairs texts).Nodup := by
  induction texts with
  | nil => exact List.nodup_nil
  | cons c rest ih =>
      obtain ⟨hc, hrest⟩ := List.pairwise_cons.mp h
      have hdistinct : rest.Nodup := by
        refine hrest.imp fun {a b} hlt => ?_
        rintro rfl
        exact String.lt_irrefl a hlt
      refine (hdistinct.map fun a b hab => (Prod.mk.inj hab).2).append (ih hrest) ?_
      rintro ⟨a, b⟩ hfirst hlater
      obtain ⟨d, -, heq⟩ := List.mem_map.mp hfirst
      obtain ⟨rfl, rfl⟩ := Prod.mk.inj heq
      obtain ⟨-, ha, -⟩ := (mem_textPairs_iff hrest).mp hlater
      exact String.lt_irrefl c (hc c ha)

/-- Two texts as a pair of values. -/
def Graph.TextPair.ofTexts (q : String × String) : Graph.TextPair := (.str q.1, .str q.2)

open Graph.TextPair

lemma pairsOf_map_str (texts : List String) :
    Graph.pairsOf (texts.map .str) = (textPairs texts).map ofTexts := by
  induction texts with
  | nil => rfl
  | cons a rest ih =>
      rw [List.map_cons, Graph.pairsOf, ih, textPairs, List.map_append, List.map_map, List.map_map]
      rfl

lemma samePair_ofTexts (q r : String × String) :
    Graph.samePair (ofTexts q) (ofTexts r) = (q == r) := by
  rw [Graph.samePair, ofTexts, ofTexts, Value.same_str, Value.same_str]
  rfl

/-! ### The order of pairs -/

/-- A pair of texts, with its number, comes before another one: its number is greater, or the
numbers are the same and its texts come before. -/
def Outranks (x y : (String × String) × Nat) : Prop :=
  y.2 < x.2 ∨ x.2 = y.2 ∧ (x.1.1 < y.1.1 ∨ x.1.1 = y.1.1 ∧ x.1.2 < y.1.2)

instance : DecidableRel Outranks := fun x y =>
  inferInstanceAs (Decidable (y.2 < x.2 ∨
    x.2 = y.2 ∧ (x.1.1 < y.1.1 ∨ x.1.1 = y.1.1 ∧ x.1.2 < y.1.2)))

namespace Outranks

variable {x y z : (String × String) × Nat}

lemma irrefl (x : (String × String) × Nat) : ¬ Outranks x x := by
  rintro (hlt | ⟨-, hlt | ⟨-, hlt⟩⟩)
  · exact Nat.lt_irrefl _ hlt
  · exact String.lt_irrefl _ hlt
  · exact String.lt_irrefl _ hlt

lemma trans (h : Outranks x y) (h' : Outranks y z) : Outranks x z := by
  unfold Outranks at *
  grind [String.lt_trans]

/-- Of two different pairs one comes before the other. -/
lemma total (h : x ≠ y) : Outranks x y ∨ Outranks y x := by
  obtain ⟨⟨a, b⟩, n⟩ := x
  obtain ⟨⟨c, d⟩, m⟩ := y
  unfold Outranks
  by_cases hn : n = m
  · by_cases ha : a = c
    · have hb : b ≠ d := by
        rintro rfl
        exact h (by rw [hn, ha])
      rcases lt_or_lt_of_ne hb with hlt | hlt
      · exact .inl (.inr ⟨hn, .inr ⟨ha, hlt⟩⟩)
      · exact .inr (.inr ⟨hn.symm, .inr ⟨ha.symm, hlt⟩⟩)
    · rcases lt_or_lt_of_ne ha with hlt | hlt
      · exact .inl (.inr ⟨hn, .inl hlt⟩)
      · exact .inr (.inr ⟨hn.symm, .inl hlt⟩)
  · exact (Nat.lt_or_gt_of_ne hn).symm.imp .inl .inl

end Outranks

/-- A pair of texts, with its number, as a pair of values. -/
def Graph.TextPair.counted (x : (String × String) × Nat) : Graph.TextPair × Nat :=
  (ofTexts x.1, x.2)

/-- The keys of pairs are in their order. -/
lemma less?_pairKey (x y : (String × String) × Nat) :
    Value.less? (Graph.pairKey (counted x)) (Graph.pairKey (counted y))
      = some (decide (Outranks x y)) := by
  obtain ⟨⟨a, b⟩, n⟩ := x
  obtain ⟨⟨c, d⟩, m⟩ := y
  simp only [Graph.pairKey, counted, ofTexts, Value.less?.eq_def (.list _), Value.lessItems?,
    Value.same_int, Value.less?_int, Value.same.eq_def (.list _), Value.sameItems, Value.same_str,
    Value.less?_str, Outranks]
  by_cases hn : n = m
  · by_cases ha : a = c
    · by_cases hb : b = d
      · simp [hn, ha, hb]
      · simp [hn, ha, hb]
    · simp [hn, ha]
  · have hcast : (n : Int) ≠ m := by omega
    simp [hn, hcast]

namespace Graph

variable {g : Graph} {document a b : String} {n : Nat} {minimum limit : Int}

/-! ### The texts of a document -/

/-- Everything that appears somewhere has a text. -/
def Texted (g : Graph) : Prop :=
  ∀ document, ∀ v ∈ (g.appearances document).map Prod.snd, ∃ t, v.property "text" = .str t

/-- The texts of what appears in a document, in order and each of them once. -/
def textsOf (g : Graph) (document : String) : List String :=
  sorted (((g.appearances document).map Prod.snd).map fun v =>
    ((v.property "text").text?).getD "").eraseDups

lemma pairwise_textsOf (g : Graph) (document : String) :
    (g.textsOf document).Pairwise (· < ·) :=
  pairwise_sorted (nodup_eraseDups _)

lemma mem_textsOf_iff (h : g.Texted) : a ∈ g.textsOf document ↔
    ∃ v ∈ (g.appearances document).map Prod.snd, v.property "text" = .str a := by
  rw [textsOf, mem_sorted, List.mem_eraseDups, List.mem_map]
  refine exists_congr fun v => and_congr_right fun hv => ?_
  obtain ⟨t, ht⟩ := h document v hv
  rw [ht, Value.str.injEq]
  rfl

lemma textsIn_eq (h : g.Texted) (document : String) :
    g.textsIn document = .ok ((g.textsOf document).map .str) := by
  obtain ⟨names, hnames⟩ : ∃ names, (((g.appearances document).map Prod.snd).map fun v =>
      ((v.property "text").text?).getD "") = names := ⟨_, rfl⟩
  have hvalues : ((g.appearances document).map fun x => x.2.property "text")
      = names.map Value.str := by
    rw [← hnames, List.map_map, List.map_map]
    refine List.map_congr_left fun x hx => ?_
    obtain ⟨t, ht⟩ := h document x.2 (List.mem_map_of_mem hx)
    simp [ht, Value.text?]
  have hkeys : (names.map Value.str).all Value.isKey = true := by simp [Value.isKey]
  have hsorted : Value.sortedBy? id (names.eraseDups.map .str)
      = some ((g.textsOf document).map .str) := by
    rw [textsOf, hnames, sorted_eq]
    exact Value.sortedBy?_map id Value.less?_str names.eraseDups
  simp only [textsIn]
  rw [hvalues, if_pos hkeys, eraseDupsBy_map Value.same_str, hsorted]

/-! ### Pairs with their numbers -/

/-- The pairs of texts in documents, as often as they are there. -/
def sharedTexts (g : Graph) : List (String × String) :=
  (g.labelled documentLabel).flatMap fun d => textPairs (g.textsOf d.id)

/-- **A pair is counted once for every document** with both texts. -/
theorem count_sharedTexts (hlt : a < b) : g.sharedTexts.count (a, b)
    = (g.labelled documentLabel).countP fun d =>
        decide (a ∈ g.textsOf d.id) && decide (b ∈ g.textsOf d.id) := by
  rw [sharedTexts, List.count_flatMap]
  induction g.labelled documentLabel with
  | nil => rfl
  | cons d ds ih =>
      have hd := pairwise_textsOf g d.id
      rw [List.map_cons, List.sum_cons, ih, List.countP_cons, Nat.add_comm, Function.comp_apply,
        (nodup_textPairs hd).count]
      simp only [mem_textPairs_iff hd, hlt, true_and, Bool.and_eq_true, decide_eq_true_iff]

lemma lt_of_mem_sharedTexts (h : (a, b) ∈ g.sharedTexts) : a < b := by
  obtain ⟨d, -, hmem⟩ := List.mem_flatMap.mp h
  exact ((mem_textPairs_iff (g.pairwise_textsOf d.id)).mp hmem).1

lemma sharedPairs_eq (h : g.Texted) : g.sharedPairs
    = .ok ((g.sharedTexts.eraseDups.map fun q => (q, g.sharedTexts.count q)).map counted) := by
  have htexts : ((g.labelled documentLabel).mapM fun d => g.textsIn d.id)
      = .ok ((g.labelled documentLabel).map fun d => (g.textsOf d.id).map .str) := by
    simp only [textsIn_eq h]
    exact List.mapM_pure
  have hshared : ((g.labelled documentLabel).map fun d => (g.textsOf d.id).map Value.str).flatMap
      pairsOf = g.sharedTexts.map ofTexts := by
    rw [List.flatMap_map, sharedTexts, List.map_flatMap]
    simp only [pairsOf_map_str]
  rw [sharedPairs, htexts]
  show Except.ok _ = _
  rw [hshared, eraseDupsBy_map samePair_ofTexts, List.map_map, List.map_map]
  refine congrArg Except.ok (List.map_congr_left fun q _ => ?_)
  rw [Function.comp_apply, Function.comp_apply, counted, List.countP_map, List.count]
  refine congrArg (Prod.mk (ofTexts q)) (List.countP_congr fun r _ => ?_)
  rw [Function.comp_apply, samePair_ofTexts, beq_iff_eq, beq_iff_eq, eq_comm]

/-- The pairs of texts that share at least a number of documents, with the number of these, in their
order. -/
def companions (g : Graph) (minimum : Int) : List ((String × String) × Nat) :=
  ((g.sharedTexts.eraseDups.map fun q => (q, g.sharedTexts.count q)).filter fun x =>
    minimum ≤ (x.2 : Int)).mergeSort fun x y => !decide (Outranks y x)

lemma pairCounts_eq (h : g.Texted) (minimum : Int) :
    g.pairCounts minimum = .ok ((g.companions minimum).map counted) := by
  have hsorted : Value.sortedBy? pairKey (((g.sharedTexts.eraseDups.map fun q =>
      (q, g.sharedTexts.count q)).map counted).filter fun x => minimum ≤ (x.2 : Int))
        = some ((g.companions minimum).map counted) := by
    rw [List.filter_map]
    exact Value.sortedBy?_map pairKey less?_pairKey _
  simp only [pairCounts, sharedPairs_eq h, bind, Except.bind, hsorted]
  rfl

/-- **The first of the pairs** are what the graph answers with. -/
theorem execute_frequentPairs (h : g.Texted) (minimum : Int) (hlimit : 0 ≤ limit) :
    g.execute (.frequentPairs minimum limit)
      = .ok (g, ((g.companions minimum).take limit.toNat).map fun x => pairRow (counted x)) := by
  show ((fitting (g.frequentPairs minimum limit)).map (·.map pairRow)).map _ = _
  rw [frequentPairs, pairCounts_eq h]
  show Except.ok (g, List.map pairRow (limited limit _)) = _
  rw [limited, if_pos hlimit, ← List.map_take, List.map_map]
  rfl

/-- **Which pairs there are**: those of different texts, in their order, that share enough
documents. -/
theorem mem_companions_iff (hminimum : 1 ≤ minimum) : ((a, b), n) ∈ g.companions minimum ↔
    a < b ∧ minimum ≤ n ∧ n = (g.labelled documentLabel).countP fun d =>
      decide (a ∈ g.textsOf d.id) && decide (b ∈ g.textsOf d.id) := by
  rw [companions, List.mem_mergeSort, List.mem_filter, List.mem_map, decide_eq_true_iff]
  constructor
  · rintro ⟨⟨q, hq, heq⟩, hle⟩
    obtain ⟨rfl, rfl⟩ := Prod.mk.inj heq
    have hlt := lt_of_mem_sharedTexts (List.mem_eraseDups.mp hq)
    exact ⟨hlt, hle, count_sharedTexts hlt⟩
  · rintro ⟨hlt, hle, hn⟩
    rw [← count_sharedTexts hlt] at hn
    have hmem : (a, b) ∈ g.sharedTexts := List.count_pos_iff.mp (by omega)
    exact ⟨⟨_, List.mem_eraseDups.mpr hmem, Prod.ext rfl hn.symm⟩, hle⟩

/-- No pair is there twice. -/
lemma nodup_companions (g : Graph) (minimum : Int) :
    ((g.companions minimum).map Prod.fst).Nodup := by
  have hpairs : ((g.sharedTexts.eraseDups.map fun q => (q, g.sharedTexts.count q)).map
      Prod.fst).Nodup := by
    rw [List.map_map]
    exact (nodup_eraseDups g.sharedTexts).map fun q r hqr => hqr
  rw [companions, ((List.mergeSort_perm _ _).map Prod.fst).nodup_iff]
  exact hpairs.sublist (List.filter_sublist.map Prod.fst)

/-- **The order of the pairs** is strict. -/
theorem pairwise_companions (g : Graph) (minimum : Int) :
    (g.companions minimum).Pairwise Outranks := by
  refine pairwise_mergeSort_of_nodup Outranks.trans Outranks.irrefl Outranks.total ?_
  exact .of_map Prod.fst (((List.mergeSort_perm _ _).map Prod.fst).nodup_iff.mp
    (g.nodup_companions minimum))

end Graph

end EntityGraph
