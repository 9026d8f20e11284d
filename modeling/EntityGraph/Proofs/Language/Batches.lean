import EntityGraph.Proofs.Language.Answers
import EntityGraph.Session.Failure
import Mathlib.Data.List.Forall2
/-!
Recognition in batches, seen from the texts.

* `flatten_batches`, `mem_batches`: the batches of some texts are these texts, cut into pieces that
  are not empty and not too large.
* `Exchange`: a request with its answer. `Exchange.Served` says that every text of the request has
  been answered, `Exchange.responses` pairs the texts with their answers.
* `Reports`: what a result says of the answer to a text.
* `Asks`: a recognition of some batches that asks for the first ones of them, as `recognizeBatches`
  does by `recognizeBatches_asks`.
* `LanguageService.recognize_in_batches`: the batches do not show. Without a failure there is one
  result for each text, at its place and with its index; the first failure of the service is the
  answer, and nothing is asked behind it.
-/

namespace EntityGraph

/-- A request, and what the service answers to it. -/
structure Exchange where
  texts : List String
  answer : ServiceAnswer

namespace Exchange

/-- The items of the answer. -/
def items (x : Exchange) : List ServiceItem :=
  match x.answer with
  | .items list _ => list
  | .raised _ => []

/-- The texts of the request, each with its item of the answer. -/
def responses (x : Exchange) : List (String × ServiceItem) := x.texts.zip x.items

/-- The service has answered each text with an item that can be read. -/
def Served (x : Exchange) : Prop :=
  ∃ list interruption, x.answer = .items list interruption ∧ list.length = x.texts.length ∧
    ∀ item ∈ list, item.Readable

lemma Served.length_items {x : Exchange} (h : x.Served) : x.items.length = x.texts.length := by
  obtain ⟨list, interruption, hanswer, hlength, -⟩ := h
  simp only [items, hanswer, hlength]

/-- The texts of the responses are those of the requests. -/
lemma map_fst_responses {xs : List Exchange} (h : ∀ x ∈ xs, x.Served) :
    (xs.flatMap responses).map Prod.fst = (xs.map Exchange.texts).flatten := by
  induction xs with
  | nil => rfl
  | cons x xs ih =>
      obtain ⟨hx, hxs⟩ := List.forall_mem_cons.mp h
      have hfst : x.responses.map Prod.fst = x.texts :=
        List.map_fst_zip (Nat.le_of_eq hx.length_items.symm)
      simp only [List.flatMap_cons, List.map_append, List.map_cons, List.flatten_cons, hfst, ih hxs]

/-- The items of the responses are those of the answers. -/
lemma map_snd_responses {xs : List Exchange} (h : ∀ x ∈ xs, x.Served) :
    (xs.flatMap responses).map Prod.snd = xs.flatMap items := by
  induction xs with
  | nil => rfl
  | cons x xs ih =>
      obtain ⟨hx, hxs⟩ := List.forall_mem_cons.mp h
      have hsnd : x.responses.map Prod.snd = x.items :=
        List.map_snd_zip (Nat.le_of_eq hx.length_items)
      simp only [List.flatMap_cons, List.map_append, hsnd, ih hxs]

end Exchange

/-- A result says what the service has answered: the wording of a rejection and no entities, or the
entities of the answer and no error. -/
def Reports (item : ServiceItem) (r : Recognition) : Prop :=
  match item.rejection with
  | some (code, message) => r.error = some (code ++ ": " ++ message) ∧ r.entities = []
  | none => r.error = none ∧
      List.Forall₂ (fun raw e => Entity.ofValue (LanguageService.renamed raw) = .valid e)
        item.entities r.entities

/-- The images of a list that is mapped as a whole are those of its elements. -/
lemma forall₂_of_mapM {α β ε : Type} {f : α → Except ε β} {xs : List α} {ys : List β}
    (h : xs.mapM f = .ok ys) : List.Forall₂ (fun x y => f x = .ok y) xs ys := by
  induction xs generalizing ys with
  | nil =>
      obtain rfl : [] = ys := Except.ok.inj h
      exact .nil
  | cons x xs ih =>
      rw [List.mapM_cons] at h
      cases hx : f x with
      | error e =>
          rw [hx] at h
          exact absurd h (by simp [bind, Except.bind])
      | ok y =>
          cases hxs : xs.mapM f with
          | error e =>
              rw [hx, hxs] at h
              exact absurd h (by simp [bind, Except.bind])
          | ok zs =>
              rw [hx, hxs] at h
              obtain rfl : y :: zs = ys := Except.ok.inj h
              exact .cons hx (ih hxs)

namespace LanguageService

/-! ### Batches of texts -/

/-- The batches of some texts are these texts. -/
lemma flatten_batches (size : Nat) (texts : List String) :
    (batches size texts).flatten = texts := by
  fun_induction batches size texts with
  | case1 => rfl
  | case2 t rest ih => rw [List.flatten_cons, ih, List.cons_append, List.take_append_drop]

/-- A batch is not empty and not too large. -/
lemma mem_batches {size : Nat} {texts batch : List String} (h : batch ∈ batches size texts) :
    batch ≠ [] ∧ batch.length ≤ size + 1 := by
  fun_induction batches size texts with
  | case1 => exact absurd h List.not_mem_nil
  | case2 t rest ih =>
      obtain rfl | h := List.mem_cons.mp h
      · refine ⟨List.cons_ne_nil t _, ?_⟩
        rw [List.length_cons, List.length_take]
        omega
      · exact ih h

/-! ### One answer -/

variable {s s' : LanguageService} {start : Nat}

/-- The result for a text has its index and says what the service has answered. -/
lemma interpret_reports {index : Nat} {item : ServiceItem} {r : Recognition}
    (h : interpret index item s = (.ok r, s')) : r.index = index ∧ Reports item r := by
  rw [interpret] at h
  unfold Reports
  cases hrejection : item.rejection with
  | some rejection =>
      simp only [hrejection] at h
      obtain rfl : _ = r := Except.ok.inj (Prod.mk.inj h).1
      exact ⟨rfl, rfl, rfl⟩
  | none =>
      simp only [hrejection] at h
      cases hmap : item.entities.mapM fun raw => (Entity.ofValue (renamed raw)).toExcept with
      | error issues =>
          simp only [hmap] at h
          exact absurd (Prod.mk.inj h).1 (by simp)
      | ok entities =>
          simp only [hmap] at h
          obtain rfl : _ = r := Except.ok.inj (Prod.mk.inj h).1
          refine ⟨rfl, rfl, (forall₂_of_mapM hmap).imp fun raw e hread => ?_⟩
          cases hvalue : Entity.ofValue (renamed raw) with
          | valid e' =>
              rw [hvalue] at hread
              exact congrArg Checked.valid (Except.ok.inj hread)
          | invalid issues =>
              rw [hvalue] at hread
              exact absurd hread (by simp [Checked.toExcept])

/-- The same for all items of an answer: the indices count up from the first one. -/
lemma interpretAll_reports {index : Nat} {items : List ServiceItem} {rs : List Recognition}
    (h : interpretAll index items s = (.ok rs, s')) :
    List.Forall₂ (fun p r => r.index = p.2 ∧ Reports p.1 r) (items.zipIdx index) rs := by
  induction items generalizing index s s' rs with
  | nil =>
      obtain rfl : [] = rs := Except.ok.inj (Prod.mk.inj h).1
      exact .nil
  | cons item rest ih =>
      rw [interpretAll] at h
      cases hitem : interpret index item s with
      | mk x s₁ =>
          cases x with
          | error e =>
              rw [bind_of_error hitem] at h
              exact absurd (Prod.mk.inj h).1 (by simp)
          | ok r =>
              rw [bind_of_ok hitem] at h
              cases hrest : interpretAll (index + 1) rest s₁ with
              | mk y s₂ =>
                  cases y with
                  | error e =>
                      rw [bind_of_error hrest] at h
                      exact absurd (Prod.mk.inj h).1 (by simp)
                  | ok more =>
                      rw [bind_of_ok hrest] at h
                      obtain rfl : r :: more = rs := Except.ok.inj (Prod.mk.inj h).1
                      exact .cons (interpret_reports hitem) (ih hrest)

/-- What comes of a result that is only added to. -/
lemma bind_map {α β : Type} (a : LanguageAction α) (f : α → β) (s : LanguageService) :
    (a >>= fun v => pure (f v)) s = ((a s).1.map f, (a s).2) := by
  cases h : a s with
  | mk x s' =>
      cases x with
      | ok v => exact bind_of_ok h
      | error e => exact bind_of_error h

/-! ### All batches -/

/-- The answer to the call that is some calls ahead. Where there is none, there are no items. -/
def answerTo (s : LanguageService) (ahead : Nat) : ServiceAnswer :=
  s.answers.getD ahead (.items [] none)

/-- A call is answered by the next answer. -/
lemma call_eq (c : ServiceCall) (s : LanguageService) :
    call c s = (.ok (s.answerTo 0),
      { s with answers := s.answers.drop 1, calls := s.calls ++ [c] }) := by
  obtain ⟨parameters, libraryMissing, connected, answers, calls, warnings⟩ := s
  cases answers <;> rfl

end LanguageService

open LanguageService

/-- A run of a recognition, the first text of which has a place, asks for the first ones of some
batches. -/
structure Asks (s : LanguageService) (start : Nat) (wanted : List (List String))
    (run : Except LanguageError (List Recognition) × LanguageService) (xs : List Exchange) :
    Prop where
  sent : xs.map Exchange.texts <+: wanted
  calls : run.2.calls =
    s.calls ++ xs.map fun x => ServiceCall.recognize x.texts s.parameters.language
  answered : ∀ k (h : k < xs.length), xs[k].answer = s.answerTo k
  found : (∀ x ∈ xs, x.Served) → xs.map Exchange.texts = wanted ∧ ∃ rs, run.1 = .ok rs ∧
    List.Forall₂ (fun p r => r.index = p.2 ∧ Reports p.1 r)
      ((xs.flatMap Exchange.items).zipIdx start) rs
  raised : ∀ before x after f, xs = before ++ x :: after → x.answer = .raised f →
    after = [] ∧ run.1 = .error (blame .recognition f)

namespace LanguageService

variable {s : LanguageService} {start : Nat} {batch : List String} {rest : List (List String)}

/-- A recognition that ends with its first request, which has not been served: the service has
failed, or sent what cannot be read. -/
lemma asks_of_first {answer : ServiceAnswer} {warnings : List String} {e : LanguageError}
    (hanswer : s.answerTo 0 = answer) (hserved : ¬ (Exchange.mk batch answer).Served)
    (hraised : ∀ f, answer = .raised f → e = blame .recognition f) :
    Asks s start (batch :: rest)
      (.error e, { s with
        answers := s.answers.drop 1
        calls := s.calls ++ [.recognize batch s.parameters.language]
        warnings })
      [⟨batch, answer⟩] where
  sent := (List.prefix_cons_inj batch).mpr List.nil_prefix
  calls := rfl
  answered := fun k hk => by
    obtain rfl : k = 0 := by simpa using hk
    exact hanswer.symm
  found := fun h => absurd (h _ (List.mem_singleton.mpr rfl)) hserved
  raised := fun before x after f hsplit hx => by
    cases before with
    | nil =>
        obtain ⟨rfl, rfl⟩ := List.cons.inj hsplit
        exact ⟨rfl, congrArg Except.error (hraised f hx)⟩
    | cons y before => exact absurd (List.cons.inj hsplit).2 (by simp)

/-- A recognition that goes on behind its first request. -/
lemma asks_cons {list : List ServiceItem} {interruption : Option Fault} {warnings : List String}
    {found : List Recognition} {run : Except LanguageError (List Recognition) × LanguageService}
    {xs : List Exchange} (hanswer : s.answerTo 0 = .items list interruption)
    (hfound : List.Forall₂ (fun p r => r.index = p.2 ∧ Reports p.1 r) (list.zipIdx start) found)
    (h : Asks { s with
        answers := s.answers.drop 1
        calls := s.calls ++ [.recognize batch s.parameters.language]
        warnings } (start + batch.length) rest run xs) :
    Asks s start (batch :: rest) (run.1.map (found ++ ·), run.2)
      (⟨batch, .items list interruption⟩ :: xs) where
  sent := (List.prefix_cons_inj batch).mpr h.sent
  calls := h.calls.trans (List.append_assoc s.calls [_] _)
  answered := fun k hk => by
    cases k with
    | zero => exact hanswer.symm
    | succ k =>
        refine (h.answered k (Nat.lt_of_succ_lt_succ hk)).trans ?_
        simp only [answerTo, List.getD_eq_getElem?_getD, List.getElem?_drop, Nat.add_comm]
  found := fun hserved => by
    obtain ⟨hfirst, hothers⟩ := List.forall_mem_cons.mp hserved
    obtain ⟨hsent, rs, hrun, hrs⟩ := h.found hothers
    have hlength : list.length = batch.length := hfirst.length_items
    refine ⟨by rw [List.map_cons, hsent], found ++ rs, by rw [hrun]; rfl, ?_⟩
    rw [List.flatMap_cons, List.zipIdx_append]
    refine List.rel_append hfound ?_
    rwa [← hlength] at hrs
  raised := fun before x after f hsplit hx => by
    cases before with
    | nil =>
        obtain ⟨rfl, -⟩ := List.cons.inj hsplit
        exact absurd hx (by simp)
    | cons y before =>
        obtain ⟨hnil, herror⟩ := h.raised before x after f (List.cons.inj hsplit).2 hx
        exact ⟨hnil, by rw [herror]; rfl⟩

/-- **A recognition of batches** asks for the first ones of them. -/
lemma recognizeBatches_asks (start : Nat) (wanted : List (List String)) (s : LanguageService) :
    ∃ xs, Asks s start wanted (recognizeBatches start wanted s) xs := by
  induction wanted generalizing start s with
  | nil =>
      refine ⟨[], List.nil_prefix, (List.append_nil s.calls).symm, fun k hk => absurd hk (by simp),
        fun _ => ⟨rfl, [], rfl, .nil⟩, fun before x after f hsplit => ?_⟩
      exact absurd hsplit (by simp)
  | cons batch rest ih =>
      have hcall := call_eq (.recognize batch s.parameters.language) s
      cases hanswer : s.answerTo 0 with
      | raised f =>
          rw [hanswer] at hcall
          rw [recognizeBatches_of_raised hcall]
          refine ⟨_, asks_of_first hanswer ?_ fun g hg => by rw [ServiceAnswer.raised.inj hg]⟩
          rintro ⟨list, interruption, h, -⟩
          exact absurd h (by simp)
      | items list interruption =>
          rw [hanswer] at hcall
          rw [recognizeBatches_of_items hcall]
          obtain ⟨x, warnings, hrun, ⟨hall, found, rfl⟩ | ⟨hnot, issues, rfl⟩⟩ :=
            interpretAll_cases start list { s with
              answers := s.answers.drop 1
              calls := s.calls ++ [.recognize batch s.parameters.language] }
          · obtain ⟨xs, hxs⟩ := ih (start + batch.length) { s with
              answers := s.answers.drop 1
              calls := s.calls ++ [.recognize batch s.parameters.language]
              warnings }
            rw [bind_of_ok hrun, bind_map]
            exact ⟨_, asks_cons hanswer (interpretAll_reports hrun) hxs⟩
          · rw [bind_of_error hrun]
            refine ⟨_, asks_of_first hanswer ?_ fun g hg => absurd hg (by simp)⟩
            rintro ⟨list', interruption', h, -, hreadable⟩
            obtain ⟨rfl, -⟩ := ServiceAnswer.items.inj h
            exact hnot hreadable

/-! ### All texts -/

/-- When all texts of some requests have been answered and each item has its result, there is one
result for each text, at its place. -/
lemma reports_at {xs : List Exchange} {rs : List Recognition} (hserved : ∀ x ∈ xs, x.Served)
    (hrs : List.Forall₂ (fun p r => r.index = p.2 ∧ Reports p.1 r)
      (xs.flatMap Exchange.items).zipIdx rs) :
    rs.length = (xs.map Exchange.texts).flatten.length ∧
    ∀ (i : Nat) r t, rs[i]? = some r → (xs.map Exchange.texts).flatten[i]? = some t →
      r.index = i ∧ ∃ item, (xs.flatMap Exchange.responses)[i]? = some (t, item) ∧
        Reports item r := by
  have htexts := Exchange.map_fst_responses hserved
  have hitems := Exchange.map_snd_responses hserved
  refine ⟨?_, fun i r t hr ht => ?_⟩
  · rw [← hrs.length_eq, List.length_zipIdx, ← hitems, ← htexts, List.length_map, List.length_map]
  · rw [← htexts, List.getElem?_map, Option.map_eq_some_iff] at ht
    obtain ⟨⟨t', item⟩, hresponse, rfl⟩ := ht
    have hitem : (xs.flatMap Exchange.items)[i]? = some item := by
      rw [← hitems, List.getElem?_map, hresponse]
      rfl
    obtain ⟨hi, rfl⟩ := List.getElem?_eq_some_iff.mp hitem
    obtain ⟨hi', rfl⟩ := List.getElem?_eq_some_iff.mp hr
    have hresult := hrs.get (i := i) (by rwa [List.length_zipIdx]) hi'
    simp only [List.get_eq_getElem, List.getElem_zipIdx, Nat.zero_add] at hresult
    exact ⟨hresult.1, _, hresponse, hresult.2⟩

/-- **Batches do not show.** A recognition of some texts asks for consecutive pieces of them, none
of them empty or larger than five. If all texts of these requests are answered, then the requests
are all texts, and there is one result for each text: the one at a place has its index and says what
has been answered to the text at that place. The first request that fails is the last one, and the
recognition fails with it: as a failed extraction if the service is to blame. -/
theorem recognize_in_batches (texts : List String)
    (hconnect : s.connected = true ∨ s.libraryMissing = false) :
    ∃ xs : List Exchange,
      (recognize texts s).2.calls =
        s.calls ++ xs.map (fun x => .recognize x.texts s.parameters.language) ∧
      (∀ k (h : k < xs.length), xs[k].answer = s.answerTo k) ∧
      (∀ x ∈ xs, x.texts ≠ [] ∧ x.texts.length ≤ 5) ∧
      (xs.map Exchange.texts).flatten <+: texts ∧
      ((∀ x ∈ xs, x.Served) →
        (xs.map Exchange.texts).flatten = texts ∧
        ∃ rs, (recognize texts s).1 = .ok rs ∧ rs.length = texts.length ∧
          ∀ (i : Nat) r t, rs[i]? = some r → texts[i]? = some t →
            r.index = i ∧ ∃ item, (xs.flatMap Exchange.responses)[i]? = some (t, item) ∧
              Reports item r) ∧
      (∀ before x after f, xs = before ++ x :: after → x.answer = .raised f →
        after = [] ∧
        (f.kind = .service → ∃ e, (recognize texts s).1 = .error e ∧ e.toFailure = .fault
          ⟨.extraction, "Entity recognition failed: " ++ f.message, none, some .service⟩) ∧
        (f.kind ≠ .service → (recognize texts s).1 = .error (.fault f))) := by
  rw [recognize, bind_of_ok (connect_eq hconnect)]
  obtain ⟨xs, hxs⟩ := recognizeBatches_asks 0 (batches (batchSize - 1) texts)
    { s with connected := true }
  have hall := flatten_batches (batchSize - 1) texts
  refine ⟨xs, hxs.calls, hxs.answered, fun x hx => ?_, ?_, fun hserved => ?_,
    fun before x after f hsplit hx => ?_⟩
  · exact mem_batches (hxs.sent.subset (List.mem_map_of_mem hx))
  · obtain ⟨others, hothers⟩ := hxs.sent
    exact ⟨others.flatten, by rw [← List.flatten_append, hothers, hall]⟩
  · obtain ⟨hsent, rs, hrun, hrs⟩ := hxs.found hserved
    obtain ⟨hlength, hplaces⟩ := reports_at hserved hrs
    rw [hsent, hall] at hlength hplaces ⊢
    exact ⟨rfl, rs, hrun, hlength, hplaces⟩
  · obtain ⟨hlast, herror⟩ := hxs.raised before x after f hsplit hx
    refine ⟨hlast, fun hkind => ⟨.recognition f, ?_, ?_⟩, fun hkind => ?_⟩
    · rw [herror, blame, if_pos hkind]
    · rw [LanguageError.toFailure, hkind]
      rfl
    · rw [herror, blame, if_neg hkind]

/-- Seven texts: one request of five texts, and one of the other two. -/
def sevenTexts : List String := ["a", "b", "c", "d", "e", "f", "g"]

/-- A service that finds an entity in the first text and rejects the first text of its second
request. -/
def rejectingSixth : LanguageService where
  parameters := {}
  answers := [
    .items [{ entities := [[("text", .str "Ada"), ("category", .str "Person"),
      ("confidence_score", .float 0.9)]] }, {}, {}, {}, {}] none,
    .items [{ rejection := some ("InvalidDocument", "empty") }, {}] none]

/-- The sixth text is rejected under its own index, and all others are recognized. -/
theorem recognize_in_batches_of_seven :
    ∃ rs, (recognize sevenTexts rejectingSixth).1 = .ok rs ∧ rs.length = 7 ∧
      ∃ r, rs[5]? = some r ∧ r.index = 5 ∧ r.error = some "InvalidDocument: empty" := by
  obtain ⟨xs, hcalls, hanswered, -, -, hserved, -⟩ :=
    recognize_in_batches (s := rejectingSixth) sevenTexts (.inr rfl)
  have hbatches : batches (batchSize - 1) sevenTexts =
      [["a", "b", "c", "d", "e"], ["f", "g"]] := by simp [batches, batchSize, sevenTexts]
  have hsent : xs.map (fun x => ServiceCall.recognize x.texts (.str "en")) =
      [.recognize ["a", "b", "c", "d", "e"] (.str "en"), .recognize ["f", "g"] (.str "en")] := by
    refine hcalls.symm.trans ?_
    rw [recognize, hbatches]
    rfl
  obtain ⟨⟨texts₁, answer₁⟩, ⟨texts₂, answer₂⟩, rfl⟩ : ∃ x y, xs = [x, y] :=
    List.length_eq_two.mp (by simpa using congrArg List.length hsent)
  obtain ⟨rfl, rfl⟩ : texts₁ = _ ∧ texts₂ = _ := by simpa using hsent
  obtain rfl : answer₁ = _ := hanswered 0 (by simp)
  obtain rfl : answer₂ = _ := hanswered 1 (by simp)
  obtain ⟨-, rs, hrs, hlength, hplaces⟩ := hserved (by
    intro x hx
    obtain rfl | rfl := List.mem_pair.mp hx
    · refine ⟨_, none, rfl, rfl, fun item hitem _ raw hraw => ?_⟩
      simp only [List.mem_cons, List.not_mem_nil, or_false] at hitem
      obtain rfl | rfl | rfl | rfl | rfl := hitem
      · obtain rfl := List.mem_singleton.mp hraw
        exact ⟨_, rfl⟩
      all_goals exact absurd hraw List.not_mem_nil
    · refine ⟨_, none, rfl, rfl, fun item hitem _ raw hraw => ?_⟩
      obtain rfl | rfl := List.mem_pair.mp hitem <;> exact absurd hraw List.not_mem_nil)
  have hfive : 5 < rs.length := by rw [hlength]; decide
  obtain ⟨hindex, item, hitem, hreports⟩ :=
    hplaces 5 rs[5] "f" (List.getElem?_eq_getElem hfive) rfl
  obtain rfl : { rejection := some ("InvalidDocument", "empty") } = item :=
    (Prod.mk.inj (Option.some.inj hitem)).2
  exact ⟨rs, hrs, hlength, rs[5], List.getElem?_eq_getElem hfive, hindex, hreports.1⟩

end LanguageService

end EntityGraph
