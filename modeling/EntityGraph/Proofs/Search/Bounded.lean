import EntityGraph.Proofs.Graph.Limits
import EntityGraph.Proofs.Search.Rows
import EntityGraph.Proofs.Session.Sent
import EntityGraph.Proofs.Settings.Loading
/-!
Searches ask for no more than the settings allow.

A search looks at its arguments before it asks the graph, asks at most once, and has nothing left to
do after that but to shape the rows. So what it asks for can be told from its arguments and its
bounds alone, whatever the graph makes of it.

* `Inquiry`: the public searches with their arguments.
* `Ends`: how a search ends: without asking the graph, or by asking it once.
* `Granted`, `Allowed`: what becomes of the numbers that a search is asked for.
* `ends_run`: every search ends so, and asks for what is allowed.
* `search_bounded`: no search exceeds the bounds of settings that have been loaded.
-/

namespace EntityGraph

namespace Search

open EntityGraph.Action Recording

variable {b : Bounds} {s s' : Session} {t : Traversal} {n : Int}

/-! ### Arguments -/

lemma onlyLogs_check {α : Type} (check : Except RequestError α) :
    (Action.ofExcept (check.mapError Failure.request)).OnlyLogs := onlyLogs_ofExcept _

lemma onlyLogs_bounded (name title : String) (most : Int) (asked : Value) :
    (bounded name title most asked).OnlyLogs := by
  refine (onlyLogs_check _).bind fun n => ?_
  split
  · exact onlyLogs_log_return _ _ _ most
  · exact onlyLogs_pure n

lemma onlyLogs_needText (name : String) (given : Value) : (needText name given).OnlyLogs :=
  onlyLogs_check _

lemma onlyLogs_needText? (name : String) (given : Value) : (needText? name given).OnlyLogs := by
  unfold needText?
  split
  · exact onlyLogs_pure none
  · rw [map_eq_pure_bind]
    exact (onlyLogs_needText name given).bind fun text => onlyLogs_pure (some text)

lemma onlyLogs_keywordTraversal (query : Value) (limit : Int) :
    (keywordTraversal query limit).OnlyLogs := by
  refine (onlyLogs_check _).discard.bind fun _ => ?_
  split
  · refine OnlyLogs.bind ?_ fun _ => onlyLogs_ofExcept _
    rw [logReading]
    split
    · exact onlyLogs_pure ()
    · exact (onlyLogs_log _ _ _).bind fun _ => onlyLogs_log _ _ _
  · exact onlyLogs_fail _

lemma onlyLogs_seedsFrom (seen : List String) (texts : List Value) :
    (seedsFrom seen texts).OnlyLogs := by
  induction texts generalizing seen with
  | nil => exact onlyLogs_pure seen
  | cons v rest ih => exact (onlyLogs_needText _ v).bind fun _ => ih _

/-! ### How a search ends -/

/-- How a search that begins in a session ends: it fails before it asks the graph, it returns
nothing without asking, or it asks once and is done but for the shape of the rows. In the last two
cases it has asked for what is `P`. -/
inductive Ends (P : Option Traversal → Prop) (s : Session) :
    Except Failure (List Row) × Session → Prop
  | refused (e : Failure) {s' : Session} : s'.sent = s.sent → Ends P s (.error e, s')
  | unasked {s' : Session} : s'.sent = s.sent → P none → Ends P s (.ok [], s')
  | asked (operation : String) (t : Traversal) (shape : Row → Row) {s' : Session} :
      s'.sent = s.sent → P (some t) →
      Ends P s ((do return (← run operation t).map shape : Action (List Row)) s')

namespace Ends

variable {P Q : Option Traversal → Prop} {r : Except Failure (List Row) × Session}

/-- A search ends as it does from where it has asked nothing yet. -/
lemma of_sent_eq (h : Ends P s' r) (hs : s'.sent = s.sent) : Ends P s r := by
  cases h with
  | refused e h => exact .refused e (h.trans hs)
  | unasked h hP => exact .unasked (h.trans hs) hP
  | asked operation t shape h hP => exact .asked operation t shape (h.trans hs) hP

lemma imp (h : Ends P s r) (hPQ : ∀ t?, P t? → Q t?) : Ends Q s r := by
  cases h with
  | refused e h => exact .refused e h
  | unasked h hP => exact .unasked h (hPQ _ hP)
  | asked operation t shape h hP => exact .asked operation t shape h (hPQ _ hP)

/-- What is done before asking may fail, or go on with a value. -/
lemma bind {α : Type} {a : Action α} {f : α → Action (List Row)} (ha : a.OnlyLogs)
    (hf : ∀ v s', a s = (.ok v, s') → Ends P s' (f v s')) : Ends P s ((a >>= f) s) := by
  cases h : a s with
  | mk result s' =>
      have hs : s'.sent = s.sent := by rw [← ha.silent s, h]
      cases result with
      | error e =>
          rw [bind_of_error h]
          exact .refused e hs
      | ok v =>
          rw [bind_of_ok h]
          exact (hf v s' h).of_sent_eq hs

/-- The last step of most searches. -/
lemma of_runFlat (operation : String) (h : P (some t)) : Ends P s (runFlat operation t s) :=
  .asked operation t Row.flatten rfl h

end Ends

/-! ### The searches -/

/-- The public searches with their arguments, as callers give them. -/
inductive Inquiry where
  | keywords (query limit : Value)
  | byCategory (category subCategory limit : Value)
  | byText (pattern category limit : Value)
  | related (text maxHops limit : Value)
  | documentsFor (text limit : Value)
  | entitiesIn (document : Value)
  | frequent (minimum limit : Value)
  | common (texts limit : Value)
  | byEntities (entities : List Entity) (limit : Value)
  | naturalLanguage (recognize : Recognizer) (question limit : Value)

namespace Inquiry

/-- The search itself. -/
def run (b : Bounds) : Inquiry → Action (List Row)
  | keywords query limit => Search.keywords b query limit
  | byCategory category subCategory limit => Search.byCategory b category subCategory limit
  | byText pattern category limit => Search.byText b pattern category limit
  | related text maxHops limit => Search.related b text maxHops limit
  | documentsFor text limit => Search.documentsFor b text limit
  | entitiesIn document => Search.entitiesIn document
  | frequent minimum limit => Search.frequent b minimum limit
  | common texts limit => Search.common b texts limit
  | byEntities entities limit => Search.byEntities b entities limit
  | naturalLanguage recognize question limit => Search.naturalLanguage b recognize question limit

/-- The number of rows that is asked for, in the searches that have one. -/
def limit? (b : Bounds) : Inquiry → Option Value
  | keywords _ limit => some (b.asked limit)
  | byCategory _ _ limit | byText _ _ limit | related _ _ limit
  | documentsFor _ limit | frequent _ limit | common _ limit | byEntities _ limit
  | naturalLanguage _ _ limit => some limit
  | entitiesIn _ => none

/-- The number of hops that is asked for. -/
def hops? : Inquiry → Option Value
  | related _ maxHops _ => some maxHops
  | _ => none

/-- Recognition, where a search makes use of it, has no business with the graph. -/
def Discreet : Inquiry → Prop
  | naturalLanguage recognize _ _ => ∀ texts, (recognize texts).Silent
  | _ => True

end Inquiry

/-- What becomes of a number that is asked for: it is an integer, and it is granted up to the most
that there is. -/
structure Granted (most : Int) (asked : Value) (n : Int) : Prop where
  pos : 1 ≤ n
  le : n ≤ most
  eq : ∃ m, asked = .int m ∧ n = min m most

/-- A traversal asks for so many rows: its operation does, and so does its script. -/
def AsksForRows (t : Traversal) (n : Int) : Prop :=
  t.operation.limit? = some n ∧
    (Fields.get? t.bindings "lim" = some (.int n) ∨
      ∃ predicate, t.script = Traversal.documentScript predicate n)

/-- A traversal asks for so many hops. -/
def AsksForHops (t : Traversal) (n : Int) : Prop :=
  t.operation.hops? = some n ∧ Fields.get? t.bindings "hops" = some (.int n)

/-- What a search may ask: what it is asked for is granted, and it asks for no more, unless it asks
for nothing at all. -/
structure Allowed (b : Bounds) (i : Inquiry) (t? : Option Traversal) : Prop where
  rows : ∀ asked, i.limit? b = some asked →
    ∃ n, Granted b.maxLimit asked n ∧ ∀ t ∈ t?, t.isEmpty = false → AsksForRows t n
  hops : ∀ asked, i.hops? = some asked →
    ∃ n, Granted b.maxHops asked n ∧ ∀ t ∈ t?, t.isEmpty = false → AsksForHops t n

lemma granted_of_bounded {name title : String} {most : Int} {asked : Value} (hmost : 1 ≤ most)
    (h : bounded name title most asked s = (.ok n, s')) : Granted most asked n := by
  obtain ⟨m, s₁, hpositive, hcut⟩ := exists_of_bind_ok h
  obtain ⟨rfl, hm⟩ := positive_inv (ofExcept_inv hpositive).1
  have hn : n = min m most := by
    split at hcut
    · obtain ⟨⟨⟩, s₂, -, hpure⟩ := exists_of_bind_ok hcut
      have : most = n := Except.ok.inj (congrArg Prod.fst hpure)
      omega
    · have : m = n := Except.ok.inj (congrArg Prod.fst hcut)
      omega
  exact ⟨by omega, by omega, m, rfl, hn⟩

/-- A limit that has been granted is granted again as it is. -/
lemma Granted.eq_of_again {most k : Int} {asked : Value} (hn : Granted most asked n)
    (hk : Granted most (.int n) k) : k = n := by
  obtain ⟨m, hm, hmin⟩ := hk.eq
  have hle := hn.le
  rw [← Value.int.inj hm] at hmin
  omega

/-- A search that is asked for a number of rows, and for no number of hops. -/
lemma Allowed.of_rows {i : Inquiry} {asked : Value} {t? : Option Traversal}
    (hasked : i.limit? b = some asked) (hhops : i.hops? = none) (hn : Granted b.maxLimit asked n)
    (ht : ∀ t ∈ t?, t.isEmpty = false → AsksForRows t n) : Allowed b i t? where
  rows asked' hasked' := by
    obtain rfl := Option.some.inj (hasked.symm.trans hasked')
    exact ⟨n, hn, ht⟩
  hops asked' hasked' := by
    rw [hhops] at hasked'
    exact absurd hasked' (by simp)

/-- The traversal of a query text asks for as many documents as it is made for. -/
lemma asksForRows_of_search {text : String} (h : Traversal.search text (.int n) = .ok t)
    (hfull : t.isEmpty = false) : AsksForRows t n := by
  rw [Traversal.search] at h
  cases hpositive : positive "limit" (.int n) with
  | error e =>
      rw [hpositive] at h
      exact absurd h (by simp [bind, Except.bind])
  | ok m =>
      obtain ⟨hm, -⟩ := positive_inv hpositive
      obtain rfl := Value.int.inj hm
      rw [hpositive] at h
      cases hparse : Query.parse? text with
      | none =>
          rw [hparse] at h
          obtain rfl := Except.ok.inj h
          exact absurd hfull (by decide)
      | some q =>
          rw [hparse] at h
          obtain rfl := Except.ok.inj h
          exact ⟨rfl, .inr ⟨_, rfl⟩⟩

section

variable (hb : 1 ≤ b.maxLimit)
include hb

lemma ends_keywords (query limit : Value) :
    Ends (Allowed b (.keywords query limit)) s (keywords b query limit s) := by
  refine .bind (onlyLogs_bounded _ _ _ _) fun n s₁ hn => ?_
  refine .bind (onlyLogs_keywordTraversal query n) fun t s₂ ht => .of_runFlat "search" ?_
  obtain ⟨text, hsearch, -⟩ := keywordTraversal_inv ht
  refine .of_rows rfl rfl (granted_of_bounded hb hn) ?_
  rintro t ⟨⟩ hfull
  exact asksForRows_of_search hsearch hfull

/-- The last steps of most searches: the limit, and a traversal that carries it as a binding. -/
lemma ends_limited {i : Inquiry} {asked : Value} {operation : String} {shape : Row → Row}
    (make : Int → Traversal) (hrows : i.limit? b = some asked) (hhops : i.hops? = none)
    (hmake : ∀ n, (make n).operation.limit? = some n ∧
      Fields.get? (make n).bindings "lim" = some (.int n)) :
    Ends (Allowed b i) s ((do
      let n ← b.limit asked
      return (← Search.run operation (make n)).map shape : Action (List Row)) s) := by
  refine .bind (onlyLogs_bounded _ _ _ _) fun n s₁ hn => .asked operation (make n) shape rfl ?_
  refine .of_rows hrows hhops (granted_of_bounded hb hn) ?_
  rintro t ⟨⟩ -
  exact ⟨(hmake n).1, .inl (hmake n).2⟩

lemma ends_byCategory (category subCategory limit : Value) :
    Ends (Allowed b (.byCategory category subCategory limit)) s
      (byCategory b category subCategory limit s) := by
  refine .bind (onlyLogs_needText _ _) fun category s₁ _ => ?_
  refine .bind (onlyLogs_needText? _ _) fun subCategory s₂ _ => ?_
  exact ends_limited hb (.entitiesByCategory category subCategory) rfl rfl fun n => ⟨rfl, rfl⟩

lemma ends_byText (pattern category limit : Value) :
    Ends (Allowed b (.byText pattern category limit)) s (byText b pattern category limit s) := by
  refine .bind (onlyLogs_needText _ _) fun pattern s₁ _ => ?_
  refine .bind (onlyLogs_needText? _ _) fun category s₂ _ => ?_
  exact ends_limited hb (.entitiesByText pattern category) rfl rfl fun n => ⟨rfl, rfl⟩

lemma ends_related (hhops : 1 ≤ b.maxHops) (text maxHops limit : Value) :
    Ends (Allowed b (.related text maxHops limit)) s (related b text maxHops limit s) := by
  refine .bind (onlyLogs_needText _ _) fun text s₁ _ => ?_
  refine .bind (onlyLogs_bounded _ _ _ _) fun k s₂ hk => ?_
  refine .bind (onlyLogs_bounded _ _ _ _) fun n s₃ hn => .of_runFlat _ ⟨?_, ?_⟩
  · rintro asked ⟨⟩
    refine ⟨n, granted_of_bounded hb hn, ?_⟩
    rintro t ⟨⟩ -
    exact ⟨rfl, .inl rfl⟩
  · rintro asked ⟨⟩
    refine ⟨k, granted_of_bounded hhops hk, ?_⟩
    rintro t ⟨⟩ -
    exact ⟨rfl, rfl⟩

lemma ends_documentsFor (text limit : Value) :
    Ends (Allowed b (.documentsFor text limit)) s (documentsFor b text limit s) := by
  refine .bind (onlyLogs_needText _ _) fun text s₁ _ => ?_
  exact ends_limited hb (.documentsForEntity (vertexId text)) rfl rfl fun n => ⟨rfl, rfl⟩

omit hb in
lemma ends_entitiesIn (document : Value) :
    Ends (Allowed b (.entitiesIn document)) s (entitiesIn document s) := by
  refine .bind (onlyLogs_needText _ _) fun document s₁ _ => ?_
  refine .asked _ (.entitiesInDocument document) Row.flattenAppearance rfl ⟨?_, ?_⟩
  · rintro asked ⟨⟩
  · rintro asked ⟨⟩

lemma ends_frequent (minimum limit : Value) :
    Ends (Allowed b (.frequent minimum limit)) s (frequent b minimum limit s) := by
  refine .bind (onlyLogs_check _) fun minimum s₁ _ => ?_
  exact ends_limited hb (.frequentPairs minimum) rfl rfl fun n => ⟨rfl, rfl⟩

lemma ends_common (texts limit : Value) :
    Ends (Allowed b (.common texts limit)) s (common b texts limit s) := by
  have hitems : ∀ (items : List Value) (s₁ : Session),
      Ends (Allowed b (.common texts limit)) s₁ ((do
        let seeds ← seedsFrom [] items
        if seeds.length < 2 then Action.fail (.request .tooFewTexts)
        else
          let limit ← b.limit limit
          runFlat "find_common_connections" (.commonConnections seeds limit)
        : Action (List Row)) s₁) := by
    refine fun items s₁ => .bind (onlyLogs_seedsFrom [] items) fun seeds s₂ _ => ?_
    split
    · exact .refused _ rfl
    · exact ends_limited hb (.commonConnections seeds) rfl rfl fun n => ⟨rfl, rfl⟩
  unfold common
  split
  · exact .bind (onlyLogs_fail _) fun items s₁ _ => hitems items s₁
  · exact .bind (onlyLogs_pure _) fun items s₁ _ => hitems items s₁
  · exact .bind (onlyLogs_pure _) fun items s₁ _ => hitems items s₁
  · exact .bind (onlyLogs_fail _) fun items s₁ _ => hitems items s₁

lemma ends_byEntities (entities : List Entity) (limit : Value) :
    Ends (Allowed b (.byEntities entities limit)) s (byEntities b entities limit s) := by
  refine .bind (onlyLogs_bounded _ _ _ _) fun n s₁ hn => ?_
  have hgranted := granted_of_bounded hb hn
  cases conjunction (entities.map (·.text)).eraseDups with
  | none =>
      refine .of_runFlat _ (.of_rows rfl rfl hgranted ?_)
      rintro t ⟨⟩ hfull
      exact absurd hfull (by decide)
  | some q =>
      refine .bind (onlyLogs_check _).discard fun _ s₂ _ => .of_runFlat _ ?_
      refine .of_rows rfl rfl hgranted ?_
      rintro t ⟨⟩ -
      exact ⟨rfl, .inr ⟨_, rfl⟩⟩

lemma ends_naturalLanguage {recognize : Recognizer} (hr : ∀ texts, (recognize texts).Silent)
    (question limit : Value) :
    Ends (Allowed b (.naturalLanguage recognize question limit)) s
      (naturalLanguage b recognize question limit s) := by
  refine .bind (onlyLogs_needText _ _) fun text s₁ _ => ?_
  refine .bind (onlyLogs_bounded _ _ _ _) fun n s₂ hn => ?_
  have hgranted := granted_of_bounded hb hn
  have hunanswered : ∀ (level : Log.Level) (logger message : String) (s₃ : Session),
      Ends (Allowed b (.naturalLanguage recognize question limit)) s₃
        ((do log level logger message; return [] : Action (List Row)) s₃) := by
    intro level logger message s₃
    exact .bind (onlyLogs_log _ _ _) fun _ s₄ _ =>
      .unasked rfl (.of_rows rfl rfl hgranted (by simp))
  cases hrun : recognize [text] s₂ with
  | mk result s₃ =>
      have hs : s₃.sent = s₂.sent := by rw [← hr [text] s₂, hrun]
      refine .of_sent_eq ?_ hs
      cases result with
      | error e =>
          dsimp only
          split
          · exact hunanswered _ _ _ s₃
          · exact .refused e rfl
      | ok results =>
          dsimp only
          split
          · exact hunanswered _ _ _ s₃
          · split
            · exact hunanswered _ _ _ s₃
            · -- The limit that was granted is granted once more, as it is.
              refine .bind (onlyLogs_log _ _ _) fun _ s₄ _ =>
                (ends_byEntities hb _ _).imp fun t? ht => ?_
              obtain ⟨k, hk, hasks⟩ := ht.rows (.int n) rfl
              rw [hgranted.eq_of_again hk] at hasks
              exact .of_rows rfl rfl hgranted hasks

end

/-- **How every search ends**, when there are bounds. -/
theorem ends_run (hb : 1 ≤ b.maxLimit) (hhops : 1 ≤ b.maxHops) (i : Inquiry) (hi : i.Discreet)
    (s : Session) : Ends (Allowed b i) s (i.run b s) := by
  cases i with
  | keywords query limit => exact ends_keywords hb query limit
  | byCategory category subCategory limit => exact ends_byCategory hb category subCategory limit
  | byText pattern category limit => exact ends_byText hb pattern category limit
  | related text maxHops limit => exact ends_related hb hhops text maxHops limit
  | documentsFor text limit => exact ends_documentsFor hb text limit
  | entitiesIn document => exact ends_entitiesIn document
  | frequent minimum limit => exact ends_frequent hb minimum limit
  | common texts limit => exact ends_common hb texts limit
  | byEntities entities limit => exact ends_byEntities hb entities limit
  | naturalLanguage recognize question limit => exact ends_naturalLanguage hb hi question limit

/-! ### What is sent, and what comes back -/

/-- A traversal is sent once. What goes wrong with it is no fault of the request, and its rows are
those of the graph. -/
lemma execute_cases (t : Traversal) (s : Session) :
    ∃ result s', execute t s = (result, s') ∧ s'.sent = s.sent ++ [t] ∧
      (∀ e, result ≠ .error (.request e)) ∧
      ∀ rows, result = .ok rows → ∃ g, s.graph.execute t.operation = .ok (g, rows) := by
  rcases execute_eq t s with ⟨f, -, h⟩ | h
  · exact ⟨_, _, h, sent_underway t s, by simp, by simp⟩
  · rcases perform_cases t (underway t s) with ⟨e, hrun, -⟩ | ⟨rows, g, hrun, hg⟩
    · exact ⟨_, _, h.trans hrun, sent_underway t s, by simp, by simp⟩
    · refine ⟨_, _, h.trans hrun, sent_underway t s, by simp, fun rows' hrows' => ⟨g, ?_⟩⟩
      rw [← Except.ok.inj hrows']
      exact hg

/-- The same for the last step of a search. -/
lemma read_cases (operation : String) (t : Traversal) (shape : Row → Row) (s : Session) :
    ∃ result s', (do return (← run operation t).map shape : Action (List Row)) s = (result, s') ∧
      s'.sent = s.sent ++ [t] ∧ (∀ e, result ≠ .error (.request e)) ∧
      ∀ rows, result = .ok rows →
        ∃ g found, s.graph.execute t.operation = .ok (g, found) ∧ rows = found.map shape := by
  obtain ⟨result, s₁, hexecute, hsent, hrequest, hrows⟩ :=
    execute_cases t (setOperation (some operation) s)
  have hduring : during operation (execute t) s = (result, setOperation none s₁) := by
    simp only [during, ensuring, hexecute]
  cases result with
  | error e =>
      refine ⟨.error e, setOperation none s₁, ?_, hsent, hrequest, by simp⟩
      rw [bind_of_error (a := Search.run operation t) (bind_of_error hduring)]
  | ok rows =>
      obtain ⟨s₂, hlog⟩ : ∃ s₂, run operation t s = (.ok rows, s₂) ∧ s₂.sent = s.sent ++ [t] := by
        refine ⟨_, by rw [run, bind_of_ok hduring]; rfl, ?_⟩
        exact ((onlyLogs_log _ _ _).silent _).trans hsent
      refine ⟨.ok (rows.map shape), s₂, by rw [bind_of_ok hlog.1]; rfl, hlog.2, by simp, ?_⟩
      intro rows' hrows'
      obtain ⟨g, hg⟩ := hrows rows rfl
      exact ⟨g, rows, hg, (Except.ok.inj hrows').symm⟩

namespace Ends

variable {P : Option Traversal → Prop} {r : Except Failure (List Row) × Session} {i : Inquiry}

/-- At most one traversal is sent, and none for a request that is refused. -/
lemma exists_sent (h : Ends P s r) : ∃ t? : Option Traversal, r.2.sent = s.sent ++ t?.toList ∧
    (∀ e, r.1 = .error (.request e) → t? = none) ∧ ∀ t ∈ t?, P (some t) := by
  cases h with
  | refused e h => exact ⟨none, by simp [h], by simp, by simp⟩
  | unasked h hP => exact ⟨none, by simp [h], by simp, by simp⟩
  | asked operation t shape h hP =>
      obtain ⟨result, s₂, hread, hsent, hrequest, -⟩ := read_cases operation t shape _
      rw [hread]
      refine ⟨some t, by simp [hsent, h], fun e he => absurd he (hrequest e), ?_⟩
      rintro t ⟨⟩
      exact hP

/-- No more rows come back than were granted. -/
lemma length_le (h : Ends (Allowed b i) s r) {rows : List Row} (hrows : r.1 = .ok rows)
    {asked : Value} (hasked : i.limit? b = some asked) :
    ∃ n, Granted b.maxLimit asked n ∧ rows.length ≤ n := by
  cases h with
  | refused e h => exact absurd hrows (by simp)
  | unasked h hallowed =>
      obtain ⟨n, hn, -⟩ := hallowed.rows asked hasked
      have hpos := hn.pos
      obtain rfl := Except.ok.inj hrows
      exact ⟨n, hn, by simp; omega⟩
  | asked operation t shape h hallowed =>
      obtain ⟨n, hn, hasks⟩ := hallowed.rows asked hasked
      have hpos := hn.pos
      obtain ⟨result, s₂, hread, -, -, hanswer⟩ := read_cases operation t shape _
      rw [hread] at hrows
      obtain ⟨g, found, hg, rfl⟩ := hanswer rows hrows
      refine ⟨n, hn, ?_⟩
      rw [List.length_map]
      cases ht : t.isEmpty with
      | true =>
          rw [Graph.execute_of_isEmpty ht] at hg
          obtain ⟨-, rfl⟩ := Prod.mk.inj (Except.ok.inj hg)
          simp only [List.length_nil]
          omega
      | false => exact Graph.length_le_of_execute (hasks t rfl ht).1 hn.pos hg

end Ends

/-- **No search exceeds its bounds.** Take settings that have been loaded, and any search with any
arguments. At most one traversal is sent to the graph, and none when the request is refused. Unless
it is the empty one, it asks for a number of rows from 1 to the most that the settings allow, which
is the number that was asked for as long as it is not more; likewise for hops. And whatever the
graph holds, no more rows are returned. -/
theorem search_bounded {source : Settings.Source} {settings : Settings}
    (h : Settings.load source = .ok settings) (i : Inquiry) (hi : i.Discreet) (s : Session) :
    (∃ t? : Option Traversal,
      (i.run (.ofSettings settings) s).2.sent = s.sent ++ t?.toList ∧
      (∀ e, (i.run (.ofSettings settings) s).1 = .error (.request e) → t? = none) ∧
      ∀ t ∈ t?, t.isEmpty = false →
        (∀ asked, i.limit? (.ofSettings settings) = some asked →
          ∃ n, Granted settings.queryMaxLimit asked n ∧ AsksForRows t n) ∧
        ∀ asked, i.hops? = some asked →
          ∃ n, Granted settings.relatedMaxHops asked n ∧ AsksForHops t n) ∧
    ∀ rows asked, (i.run (.ofSettings settings) s).1 = .ok rows →
      i.limit? (.ofSettings settings) = some asked →
        ∃ n, Granted settings.queryMaxLimit asked n ∧ rows.length ≤ n := by
  have hsound := Settings.sound_of_load h
  have hends := ends_run (b := .ofSettings settings) hsound.maxLimit hsound.maxHops i hi s
  refine ⟨?_, fun rows asked hrows hasked => hends.length_le hrows hasked⟩
  obtain ⟨t?, hsent, hrefused, hallowed⟩ := hends.exists_sent
  refine ⟨t?, hsent, hrefused, fun t ht hfull => ⟨fun asked hasked => ?_, fun asked hasked => ?_⟩⟩
  · obtain ⟨n, hn, hasks⟩ := (hallowed t ht).rows asked hasked
    exact ⟨n, hn, hasks t rfl hfull⟩
  · obtain ⟨n, hn, hasks⟩ := (hallowed t ht).hops asked hasked
    exact ⟨n, hn, hasks t rfl hfull⟩

/-- Recognition from replies has no business with the graph. -/
lemma silent_scripted (texts : List String) : (Recognizer.scripted texts).Silent := by
  refine (silent_note rfl).bind fun _ s => ?_
  split
  · rfl
  · exact (onlyLogs_ofExcept _).silent _

/-- Nor has the text-analysis service. -/
lemma silent_service (texts : List String) : (Recognizer.service texts).Silent := by
  intro s
  show (s.journal ++ _).filterMap Event.traversal? = _
  rw [List.filterMap_append, List.filterMap_map]
  simp [Session.sent, Function.comp_def, Event.traversal?]

/-- A question that asks for far too many documents, whoever finds the entities in it. -/
theorem search_bounded_of_question :
    ∃ settings, Settings.load ⟨[("query_default_limit", .int 5), ("query_max_limit", .int 5)], []⟩
        = .ok settings ∧
      ∀ recognize ∈ [Recognizer.scripted, Recognizer.service], ∀ s rows,
        (naturalLanguage (.ofSettings settings) recognize (.str "Who?") (.int 1000) s).1 = .ok rows →
          rows.length ≤ 5 := by
  refine ⟨_, rfl, fun recognize hrecognize s rows hrows => ?_⟩
  have hsilent : ∀ texts, (recognize texts).Silent := by
    rcases List.mem_pair.mp hrecognize with rfl | rfl
    · exact silent_scripted
    · exact silent_service
  obtain ⟨-, hbounded⟩ := @search_bounded
    ⟨[("query_default_limit", .int 5), ("query_max_limit", .int 5)], []⟩ _ rfl
    (.naturalLanguage recognize (.str "Who?") (.int 1000)) hsilent s
  obtain ⟨n, hn, hlength⟩ := hbounded rows (.int 1000) hrows rfl
  have hle : (rows.length : Int) ≤ 5 := Int.le_trans hlength hn.le
  omega

end Search

end EntityGraph
