import EntityGraph.Language.Client
import Mathlib.Tactic.Common
/-!
What recognition makes of the answers of the service.

* `ServiceAnswer.Ordinary`: the service answers with items or is itself to blame.
* `ServiceAnswer.Readable`: every entity that it sends passes the checks of entities.
* `Accounts`: what comes of a recognition that has used some answers, told by whether they can be
  read. `EndsUnreadable` says that the last one of them cannot.
* `LanguageService.recognize_accounted`: so does every recognition that can be connected.
-/

namespace EntityGraph

/-- Either all elements of a list are mapped, or one of them is not. -/
lemma mapM_cases {α β ε : Type} (f : α → Except ε β) (xs : List α) :
    ((∀ x ∈ xs, ∃ y, f x = .ok y) ∧ ∃ ys, xs.mapM f = .ok ys) ∨
      (∃ x ∈ xs, ∃ e, f x = .error e) ∧ ∃ e, xs.mapM f = .error e := by
  induction xs with
  | nil => exact .inl ⟨fun x hx => absurd hx List.not_mem_nil, [], rfl⟩
  | cons x xs ih =>
      rw [List.mapM_cons]
      cases hx : f x with
      | error e => exact .inr ⟨⟨x, List.mem_cons_self, e, hx⟩, e, rfl⟩
      | ok y =>
          rcases ih with ⟨hall, ys, hys⟩ | ⟨⟨z, hz, e, he⟩, e', hxs⟩
          · refine .inl ⟨fun z hz => ?_, y :: ys, by rw [hys]; rfl⟩
            rcases List.mem_cons.mp hz with rfl | hz
            · exact ⟨y, hx⟩
            · exact hall z hz
          · exact .inr ⟨⟨z, List.mem_cons_of_mem x hz, e, he⟩, e', by rw [hxs]; rfl⟩

/-- Every entity of an item that is no rejection passes the checks of entities. -/
def ServiceItem.Readable (item : ServiceItem) : Prop :=
  item.rejection = none →
    ∀ raw ∈ item.entities, ∃ e, Entity.ofValue (LanguageService.renamed raw) = .valid e

namespace ServiceAnswer

/-- The service answers with items, or it is itself to blame for a call that fails. -/
def Ordinary : ServiceAnswer → Prop
  | .items _ _ => True
  | .raised f => f.kind = .service

/-- Every entity that an answer sends passes the checks of entities. -/
def Readable : ServiceAnswer → Prop
  | .items list _ => ∀ item ∈ list, item.Readable
  | .raised _ => True

end ServiceAnswer

/-- The last of some answers cannot be read, but all before it can. -/
def EndsUnreadable (used : List ServiceAnswer) : Prop :=
  ∃ before a, used = before ++ [a] ∧ (∀ b ∈ before, b.Readable) ∧ ¬ a.Readable

lemma EndsUnreadable.append {used more : List ServiceAnswer} (h : EndsUnreadable more)
    (hused : ∀ a ∈ used, a.Readable) : EndsUnreadable (used ++ more) := by
  obtain ⟨before, a, rfl, hbefore, ha⟩ := h
  exact ⟨used ++ before, a, (List.append_assoc used before [a]).symm,
    List.forall_mem_append.mpr ⟨hused, hbefore⟩, ha⟩

/-- Nothing comes after an answer that cannot be read. -/
lemma EndsUnreadable.eq_nil {before after : List ServiceAnswer} {a : ServiceAnswer}
    (h : EndsUnreadable (before ++ a :: after)) (ha : ¬ a.Readable) : after = [] := by
  obtain ⟨readable, last, heq, hreadable, -⟩ := h
  rcases List.eq_nil_or_concat after with rfl | ⟨init, b, rfl⟩
  · rfl
  · have hsplit : (before ++ a :: init) ++ [b] = readable ++ [last] := by simpa using heq
    have hinit : before ++ a :: init = readable := List.append_inj_left' hsplit rfl
    have hmem : a ∈ readable := hinit ▸ List.mem_append_right before List.mem_cons_self
    exact absurd (hreadable a hmem) ha

/-- What comes of a recognition that has used some answers: if all of them can be read, it succeeds
or fails as recognition does; it ends with what is wrong with an entity at the first one that
cannot. -/
inductive Accounts {α : Type} (used : List ServiceAnswer) : Except LanguageError α → Prop where
  | found (h : ∀ a ∈ used, a.Readable) (v : α) : Accounts used (.ok v)
  | refused (h : ∀ a ∈ used, a.Readable) (f : Fault) : Accounts used (.error (.recognition f))
  | invalid (h : EndsUnreadable used) (issues : List Issue) :
      Accounts used (.error (.invalid issues))

/-- A run of the service uses answers from the front, accounts for them and keeps the connection. -/
def LanguageService.Accounted {α : Type} (s : LanguageService)
    (run : Except LanguageError α × LanguageService) : Prop :=
  ∃ used, s.answers = used ++ run.2.answers ∧ run.2.connected = s.connected ∧ Accounts used run.1

namespace LanguageService

variable {α β : Type} {a : LanguageAction α} {f : α → LanguageAction β} {v : α}
  {e : LanguageError} {s s' : LanguageService}

lemma bind_of_ok (h : a s = (.ok v, s')) : (a >>= f) s = f v s' := by
  show ExceptT.bindCont f (a s).1 (a s).2 = f v s'
  rw [h]
  rfl

lemma bind_of_error (h : a s = (.error e, s')) : (a >>= f) s = (.error e, s') := by
  show ExceptT.bindCont f (a s).1 (a s).2 = (.error e, s')
  rw [h]
  rfl

/-- A call is answered with no items, or with the next answer. -/
lemma call_cases (c : ServiceCall) (s : LanguageService) :
    (s.answers = [] ∧ ∃ calls, call c s = (.ok (.items [] none), { s with calls })) ∨
      ∃ answer answers, s.answers = answer :: answers ∧
        ∃ calls, call c s = (.ok answer, { s with answers, calls }) := by
  obtain ⟨parameters, libraryMissing, connected, answers, calls, warnings⟩ := s
  cases answers with
  | nil => exact .inl ⟨rfl, _, rfl⟩
  | cons answer answers => exact .inr ⟨answer, answers, rfl, _, rfl⟩

/-- What an item says is a result if its entities can be read, and what is wrong with one of them
otherwise. -/
lemma interpret_cases (index : Nat) (item : ServiceItem) (s : LanguageService) :
    ∃ x warnings, interpret index item s = (x, { s with warnings }) ∧
      (item.Readable ∧ (∃ r, x = .ok r) ∨
        ¬ item.Readable ∧ ∃ issues, x = .error (.invalid issues)) := by
  rw [interpret]
  cases hrejection : item.rejection with
  | some rejection =>
      have hreadable : item.Readable := fun h => absurd (hrejection.symm.trans h) (by simp)
      exact ⟨_, _, rfl, .inl ⟨hreadable, _, rfl⟩⟩
  | none =>
      have hread : ∀ raw, (∃ y, (Entity.ofValue (renamed raw)).toExcept = .ok y) ↔
          ∃ e, Entity.ofValue (renamed raw) = .valid e := fun raw => by
        cases h : Entity.ofValue (renamed raw) <;> simp [Checked.toExcept]
      rcases mapM_cases (fun raw => (Entity.ofValue (renamed raw)).toExcept) item.entities with
        ⟨hall, entities, hmap⟩ | ⟨⟨raw, hraw, issues, hissues⟩, e, hmap⟩
      · refine ⟨.ok ⟨index, entities, none⟩, s.warnings, ?_, .inl ⟨fun _ raw hraw => ?_, _, rfl⟩⟩
        · simp only [hmap]
          rfl
        · exact (hread raw).mp (hall raw hraw)
      · refine ⟨.error (.invalid e), s.warnings, ?_, .inr ⟨fun hreadable => ?_, e, rfl⟩⟩
        · simp only [hmap]
          rfl
        · obtain ⟨y, hy⟩ := (hread raw).mpr (hreadable hrejection raw hraw)
          exact absurd (hissues.symm.trans hy) (by simp)

/-- The same for all items of an answer. -/
lemma interpretAll_cases (index : Nat) (items : List ServiceItem) (s : LanguageService) :
    ∃ x warnings, interpretAll index items s = (x, { s with warnings }) ∧
      ((∀ item ∈ items, item.Readable) ∧ (∃ rs, x = .ok rs) ∨
        (¬ ∀ item ∈ items, item.Readable) ∧ ∃ issues, x = .error (.invalid issues)) := by
  induction items generalizing index s with
  | nil =>
      exact ⟨_, s.warnings, rfl, .inl ⟨fun item h => absurd h List.not_mem_nil, [], rfl⟩⟩
  | cons item rest ih =>
      obtain ⟨x, warnings, hrun, ⟨hreadable, r, rfl⟩ | ⟨hnot, issues, rfl⟩⟩ :=
        interpret_cases index item s
      · obtain ⟨y, warnings', hrest, hcases⟩ := ih (index + 1) { s with warnings }
        rw [interpretAll, bind_of_ok hrun]
        rcases hcases with ⟨hall, rs, rfl⟩ | ⟨hnot, issues, rfl⟩
        · refine ⟨.ok (r :: rs), warnings', by rw [bind_of_ok hrest]; rfl, .inl ⟨?_, _, rfl⟩⟩
          exact List.forall_mem_cons.mpr ⟨hreadable, hall⟩
        · refine ⟨_, warnings', bind_of_error hrest, .inr ⟨fun hall => hnot ?_, issues, rfl⟩⟩
          exact fun item h => hall item (List.mem_cons_of_mem _ h)
      · rw [interpretAll]
        refine ⟨_, warnings, bind_of_error hrun, .inr ⟨fun hall => hnot ?_, issues, rfl⟩⟩
        exact hall item List.mem_cons_self

section

variable {start : Nat} {batch : List String} {rest : List (List String)} {items : List ServiceItem}
  {interruption : Option Fault} {used : List ServiceAnswer}

/-- The next batch is sent, and the recognition goes on with the items of the answer. -/
lemma recognizeBatches_of_items
    (h : call (.recognize batch s.parameters.language) s = (.ok (.items items interruption), s')) :
    recognizeBatches start (batch :: rest) s = (interpretAll start items >>= fun found =>
      recognizeBatches (start + batch.length) rest >>= fun more => pure (found ++ more)) s' := by
  have hget : (get : LanguageAction LanguageService) s = (.ok s, s) := rfl
  rw [recognizeBatches, bind_of_ok hget, bind_of_ok h]

/-- A call that fails ends the recognition. -/
lemma recognizeBatches_of_raised {fault : Fault}
    (h : call (.recognize batch s.parameters.language) s = (.ok (.raised fault), s')) :
    recognizeBatches start (batch :: rest) s = (.error (blame .recognition fault), s') := by
  have hget : (get : LanguageAction LanguageService) s = (.ok s, s) := rfl
  rw [recognizeBatches, bind_of_ok hget, bind_of_ok h]
  rfl

/-- If the rest of a recognition accounts for its answers, so does the recognition of a batch to
which the service answers with items. -/
lemma accounted_of_items (hanswers : s.answers = used ++ s'.answers)
    (hconnected : s'.connected = s.connected)
    (hreadable : (∀ item ∈ items, item.Readable) → ∀ a ∈ used, a.Readable)
    (hunreadable : (¬ ∀ item ∈ items, item.Readable) → EndsUnreadable used)
    (hcall : call (.recognize batch s.parameters.language) s = (.ok (.items items interruption), s'))
    (hrest : ∀ warnings,
      s'.Accounted (recognizeBatches (start + batch.length) rest { s' with warnings })) :
    s.Accounted (recognizeBatches start (batch :: rest) s) := by
  rw [recognizeBatches_of_items hcall]
  obtain ⟨x, warnings, hrun, ⟨hall, found, rfl⟩ | ⟨hnot, issues, rfl⟩⟩ :=
    interpretAll_cases start items s'
  · obtain ⟨more, hmore, hkept, haccounts⟩ := hrest warnings
    rw [bind_of_ok hrun]
    have hused : ∀ a ∈ used, a.Readable := hreadable hall
    cases hrun' : recognizeBatches (start + batch.length) rest { s' with warnings } with
    | mk y s₂ =>
        rw [hrun'] at hmore hkept haccounts
        have hsplit : s.answers = (used ++ more) ++ s₂.answers := by
          rw [List.append_assoc, ← hmore, hanswers]
        have hconnected₂ : s₂.connected = s.connected := hkept.trans hconnected
        cases haccounts with
        | found h =>
            rw [bind_of_ok hrun']
            exact ⟨_, hsplit, hconnected₂, .found (List.forall_mem_append.mpr ⟨hused, h⟩) _⟩
        | refused h f =>
            rw [bind_of_error hrun']
            exact ⟨_, hsplit, hconnected₂, .refused (List.forall_mem_append.mpr ⟨hused, h⟩) f⟩
        | invalid h issues =>
            rw [bind_of_error hrun']
            exact ⟨_, hsplit, hconnected₂, .invalid (h.append hused) issues⟩
  · rw [bind_of_error hrun]
    exact ⟨used, hanswers, hconnected, .invalid (hunreadable hnot) issues⟩

/-- A recognition that asks for some batches uses answers from the front, and accounts for them. -/
lemma recognizeBatches_accounted (texts : List (List String)) (hs : ∀ a ∈ s.answers, a.Ordinary) :
    s.Accounted (recognizeBatches start texts s) := by
  induction texts generalizing start s with
  | nil => exact ⟨[], rfl, rfl, .found (fun a ha => absurd ha List.not_mem_nil) []⟩
  | cons batch rest ih =>
      rcases call_cases (.recognize batch s.parameters.language) s with
        ⟨hanswers, calls, hcall⟩ | ⟨answer, answers, hanswers, calls, hcall⟩
      · have hnone : s.answers = [] ++ { s with calls }.answers := rfl
        exact accounted_of_items hnone rfl (by simp) (by simp) hcall fun warnings =>
          @ih { s with calls, warnings } _ hs
      · have hone : s.answers = [answer] ++ { s with answers, calls }.answers := hanswers
        have hothers : ∀ a ∈ answers, a.Ordinary := fun a ha =>
          hs a (by rw [hanswers]; exact List.mem_cons_of_mem answer ha)
        cases answer with
        | items items interruption =>
            have hreadable : (∀ item ∈ items, item.Readable) →
                ∀ a ∈ [ServiceAnswer.items items interruption], a.Readable := fun h a ha => by
              rw [List.mem_singleton.mp ha]
              exact h
            have hunreadable : (¬ ∀ item ∈ items, item.Readable) →
                EndsUnreadable [.items items interruption] :=
              fun h => ⟨[], _, rfl, fun b hb => absurd hb List.not_mem_nil, h⟩
            exact accounted_of_items hone rfl hreadable hunreadable hcall fun warnings =>
              @ih { s with answers, calls, warnings } _ hothers
        | raised fault =>
            have hkind : fault.kind = .service :=
              hs (.raised fault) (by rw [hanswers]; exact List.mem_cons_self)
            rw [recognizeBatches_of_raised hcall, blame, if_pos hkind]
            refine ⟨[.raised fault], hone, rfl, .refused (fun a ha => ?_) fault⟩
            rw [List.mem_singleton.mp ha]
            trivial

end

/-- A connection is there, or it can be made. -/
lemma connect_eq (h : s.connected = true ∨ s.libraryMissing = false) :
    connect s = (.ok (), { s with connected := true }) := by
  obtain ⟨parameters, libraryMissing, connected, answers, calls, warnings⟩ := s
  rcases connected with _ | _
  · obtain rfl : libraryMissing = false := h.resolve_left (by simp)
    rfl
  · rfl

/-- **A recognition that can be connected** uses answers from the front and accounts for them. -/
theorem recognize_accounted (texts : List String) (hs : ∀ a ∈ s.answers, a.Ordinary)
    (hconnect : s.connected = true ∨ s.libraryMissing = false) :
    LanguageService.Accounted { s with connected := true } (recognize texts s) := by
  rw [recognize, bind_of_ok (connect_eq hconnect)]
  exact recognizeBatches_accounted (s := { s with connected := true }) _ hs

end LanguageService

end EntityGraph
