import EntityGraph.Proofs.Query.Layout
/-!
Where a text cannot be read any further.

* `IsStray`: a character that is neither white space nor punctuation, no quote and in no word.
* `HasClosingQuote`: some double quote has an even number of backslashes directly before it;
  `hasClosingQuote_iff` says that the characters up to such a quote have a value.
* `Obstacle`, `StopsAt`: a text that has tokens up to an offset, where a stray character or a quote
  that is never closed stands.
* `Scan.stuck_of_run`, `Scan.run_of_obstacle`: scanning fails at such a place, and fails
  nowhere else. Both go from one resting state (`Scan.Rests`) to the next.
* `tokenize_refuses_iff`: the offsets and the wordings of all refusals.
-/

namespace EntityGraph.Query

/-! ### Obstacles -/

/-- A character with which nothing goes on: neither white space nor punctuation, no double quote and
in no word. -/
def IsStray (c : Char) : Prop :=
  Text.isBlank c = false ∧ (¬∃ x, (c, x) ∈ marks) ∧ c ≠ '"' ∧ isWordChar c = false

/-- The number of backslashes at the end of some characters. -/
def backslashesAtEnd (cs : List Char) : Nat := (cs.reverse.takeWhile (· == '\\')).length

/-- Some double quote is not escaped: the number of backslashes directly before it is even. -/
def HasClosingQuote (cs : List Char) : Prop :=
  ∃ before after, cs = before ++ '"' :: after ∧ backslashesAtEnd before % 2 = 0

/-- What the characters ahead may be when no token can be read from them, and how that is worded. -/
inductive Obstacle : List Char → String → Prop where
  | stray {c : Char} {rest : List Char} (h : IsStray c) :
      Obstacle (c :: rest) ("Unexpected character " ++ Text.quoted (String.singleton c))
  | unclosed {rest : List Char} (h : ¬HasClosingQuote rest) :
      Obstacle ('"' :: rest) "Unterminated quoted string"

/-- A text has tokens up to an offset, and an obstacle stands there. -/
structure StopsAt (text : String) (p : Nat) (wording : String) : Prop where
  readable : ∃ ts, tokenize (String.ofList (text.toList.take p)) = .ok ts
  obstacle : Obstacle (text.toList.drop p) wording

/-! ### Quotes that close -/

/-- Characters before a last run of backslashes count only if there is nothing else. -/
lemma backslashesAtEnd_append (cs ds : List Char) :
    backslashesAtEnd (cs ++ ds)
      = if backslashesAtEnd ds = ds.length then ds.length + backslashesAtEnd cs
        else backslashesAtEnd ds := by
  unfold backslashesAtEnd
  rw [List.reverse_append, List.takeWhile_append, List.length_reverse]
  split_ifs <;> simp

/-- A character other than a backslash ends the count. -/
lemma backslashesAtEnd_cons_of_ne {c : Char} (hc : c ≠ '\\') (cs : List Char) :
    backslashesAtEnd (c :: cs) = backslashesAtEnd cs := by
  have hnone : backslashesAtEnd [c] = 0 := by simp [backslashesAtEnd, hc]
  have happend := backslashesAtEnd_append [c] cs
  rw [List.singleton_append, hnone] at happend
  rw [happend]
  split_ifs with hall
  · rw [hall, Nat.add_zero]
  · rfl

/-- A backslash and what it stands before leave the parity of the count as it is. -/
lemma backslashesAtEnd_pair (c : Char) (cs : List Char) :
    backslashesAtEnd ('\\' :: c :: cs) % 2 = backslashesAtEnd cs % 2 := by
  by_cases hc : c = '\\'
  · subst hc
    have htwo : backslashesAtEnd ['\\', '\\'] = 2 := rfl
    have happend := backslashesAtEnd_append ['\\', '\\'] cs
    rw [List.cons_append, List.singleton_append, htwo] at happend
    rw [happend]
    split_ifs with hall <;> omega
  · have hlast : backslashesAtEnd ['\\', c] = 0 := by simp [backslashesAtEnd, hc]
    have happend := backslashesAtEnd_append ['\\', c] cs
    rw [List.cons_append, List.singleton_append, hlast] at happend
    rw [happend]
    split_ifs with hall <;> omega

/-- After characters that have a value, a quote is not escaped. -/
lemma Unescapes.backslashesAtEnd_even {body value : List Char} (h : Unescapes body value) :
    backslashesAtEnd body % 2 = 0 := by
  induction h with
  | nil => rfl
  | plain _ hslash _ ih => rwa [backslashesAtEnd_cons_of_ne hslash]
  | escaped _ _ ih | kept _ _ ih => rwa [backslashesAtEnd_pair]

/-- Before the first quote that is not escaped, the characters have a value. -/
lemma exists_unescapes_of_even : ∀ (before after : List Char),
    backslashesAtEnd before % 2 = 0 → ∃ body value rest, Unescapes body value ∧
      before ++ '"' :: after = body ++ '"' :: rest
  | [], after, _ => ⟨[], [], after, .nil, rfl⟩
  | c :: before, after, h => by
      by_cases hquote : c = '"'
      · exact ⟨[], [], before ++ '"' :: after, .nil, by rw [hquote]; rfl⟩
      by_cases hslash : c = '\\'
      · subst hslash
        cases before with
        | nil => exact absurd h (by decide)
        | cons d before =>
            rw [backslashesAtEnd_pair] at h
            obtain ⟨body, value, rest, hbody, hrest⟩ := exists_unescapes_of_even before after h
            by_cases hd : d = '"' ∨ d = '\\'
            · exact ⟨'\\' :: d :: body, d :: value, rest, .escaped hd hbody, by simp [hrest]⟩
            · exact ⟨'\\' :: d :: body, '\\' :: d :: value, rest, .kept hd hbody, by simp [hrest]⟩
      · rw [backslashesAtEnd_cons_of_ne hslash] at h
        obtain ⟨body, value, rest, hbody, hrest⟩ := exists_unescapes_of_even before after h
        exact ⟨c :: body, c :: value, rest, .plain hquote hslash hbody, by simp [hrest]⟩

/-- **A quote closes** exactly if the characters up to some quote have a value. -/
lemma hasClosingQuote_iff {cs : List Char} : HasClosingQuote cs ↔
    ∃ body value rest, Unescapes body value ∧ cs = body ++ '"' :: rest := by
  constructor
  · rintro ⟨before, after, rfl, heven⟩
    exact exists_unescapes_of_even before after heven
  · rintro ⟨body, value, rest, hbody, rfl⟩
    exact ⟨body, rest, rfl, hbody.backslashesAtEnd_even⟩

/-- A closing quote stays one behind a character that protects nothing. -/
lemma HasClosingQuote.cons {c : Char} {cs : List Char} (hc : c ≠ '\\') (h : HasClosingQuote cs) :
    HasClosingQuote (c :: cs) := by
  obtain ⟨before, after, rfl, heven⟩ := h
  exact ⟨c :: before, after, rfl, by rwa [backslashesAtEnd_cons_of_ne hc]⟩

/-- A closing quote stays one behind a backslash and what it stands before. -/
lemma HasClosingQuote.cons_pair {c : Char} {cs : List Char} (h : HasClosingQuote cs) :
    HasClosingQuote ('\\' :: c :: cs) := by
  obtain ⟨before, after, rfl, heven⟩ := h
  exact ⟨'\\' :: c :: before, after, rfl, by rwa [backslashesAtEnd_pair]⟩

namespace Scan

/-- Whatever a backslash stands before, the quoted value goes on. -/
lemma exists_step_escape (origin n : Nat) (read : List Char) (c : Char) :
    ∃ read', (escape origin read).step n c = .ok ([], quoted origin read') := by
  rw [step]
  split_ifs
  · exact ⟨_, rfl⟩
  · exact ⟨_, rfl⟩

/-- A quote that is not closed is reported where it stands. -/
lemma run_quoted_of_not_closed : ∀ {origin n : Nat} {read cs : List Char}, ¬HasClosingQuote cs →
    (quoted origin read).run n cs = .error (.unterminated origin)
  | origin, n, read, [], _ => rfl
  | origin, n, read, c :: cs, h => by
      by_cases hquote : c = '"'
      · exact absurd ⟨[], cs, by rw [hquote]; rfl, rfl⟩ h
      by_cases hslash : c = '\\'
      · subst hslash
        have hstep : (quoted origin read).step n '\\' = .ok ([], escape origin read) := rfl
        rw [run_cons_of_step hstep]
        cases cs with
        | nil => rfl
        | cons d cs =>
            obtain ⟨read', hstep⟩ := exists_step_escape origin (n + 1) read d
            rw [run_cons_of_step hstep]
            exact run_quoted_of_not_closed fun hclosed => h hclosed.cons_pair
      · rw [run_cons_of_step (by rw [step, if_neg hquote, if_neg hslash])]
        exact run_quoted_of_not_closed fun hclosed => h (hclosed.cons hslash)

/-! ### From one resting state to the next -/

/-- A state in which the text may end. -/
def Rests (s : Scan) : Prop := ∃ ts, s.finish = .ok ts

lemma rests_between : between.Rests := ⟨[], rfl⟩

lemma rests_word (origin : Nat) (read : List Char) : (word origin read).Rests := ⟨_, rfl⟩

/-- Some characters have tokens exactly if they lead to a state in which the text may end. -/
lemma run_ok_iff {s : Scan} {n : Nat} {cs : List Char} :
    (∃ ts, s.run n cs = .ok ts) ↔ ∃ ts last, s.feed n cs = .ok (ts, last) ∧ last.Rests := by
  rw [run_eq_feed]
  cases s.feed n cs with
  | error e => simp [Except.bind]
  | ok r =>
      obtain ⟨ts, last⟩ := r
      simp only [Except.bind, Except.ok.injEq, Prod.mk.injEq]
      constructor
      · rintro ⟨all, hall⟩
        exact ⟨ts, last, ⟨rfl, rfl⟩, exists_ok_of_map hall⟩
      · rintro ⟨_, _, ⟨rfl, rfl⟩, more, hmore⟩
        exact ⟨_, by rw [hmore]; rfl⟩

/-- A character that belongs to no word does in a resting state what it does between tokens, once
the token that was being read is complete. -/
lemma step_of_rests {s : Scan} (hs : s.Rests) {n : Nat} {c : Char} (hc : isWordChar c = false) :
    ∃ done, s.step n c = (start n c).map fun (tokens, next) => (done ++ tokens, next) := by
  obtain ⟨ts, hfinish⟩ := hs
  cases s with
  | between => exact ⟨[], by rw [step]; cases start n c <;> rfl⟩
  | word origin read =>
      refine ⟨[wordToken origin read], ?_⟩
      rw [step, if_neg (by simp [hc])]
      cases start n c <;> rfl
  | quoted origin read | escape origin read => exact absurd hfinish (by simp [finish])

/-- **One character in a resting state**: it is stray and reported, it leads to another resting
state, or it is a quote, behind which a quoted value begins. -/
lemma step_cases {s : Scan} (hs : s.Rests) (n : Nat) (c : Char) :
    (IsStray c ∧ s.step n c = .error (.unexpected c n)) ∨
      (∃ ts next, s.step n c = .ok (ts, next) ∧ next.Rests) ∨
      (c = '"' ∧ ∃ ts, s.step n c = .ok (ts, quoted n [])) := by
  by_cases hword : isWordChar c = true
  · obtain ⟨ts, hfinish⟩ := hs
    cases s with
    | between => exact .inr (.inl ⟨_, _, start_of_isWordChar hword n, rests_word _ _⟩)
    | word origin read =>
        exact .inr (.inl ⟨_, _, by rw [step, if_pos hword], rests_word _ _⟩)
    | quoted origin read | escape origin read => exact absurd hfinish (by simp [finish])
  have hnot : isWordChar c = false := by simpa using hword
  obtain ⟨done, hstep⟩ := step_of_rests hs (n := n) hnot
  rw [hstep]
  by_cases hblank : Text.isBlank c = true
  · rw [start, if_pos hblank]
    exact .inr (.inl ⟨_, _, rfl, rests_between⟩)
  by_cases hmark : ∃ x, (c, x) ∈ marks
  · obtain ⟨x, hx⟩ := hmark
    rw [start_of_mark hx]
    exact .inr (.inl ⟨_, _, rfl, rests_between⟩)
  by_cases hquote : c = '"'
  · subst hquote
    exact .inr (.inr ⟨rfl, _, rfl⟩)
  · have hstray : IsStray c := ⟨by simpa using hblank, hmark, hquote, hnot⟩
    rw [start_of_unexpected hstray.1 hmark hquote hnot]
    exact .inl ⟨hstray, rfl⟩

/-! ### Scanning up to an obstacle -/

lemma feed_singleton {s next : Scan} {n : Nat} {c : Char} {ts : List Token}
    (h : s.step n c = .ok (ts, next)) : s.feed n [c] = .ok (ts, next) := by
  simp only [feed, h, Except.bind, Except.map, List.append_nil]

/-- The errors of a text are those behind a first piece that is read. -/
lemma run_append_eq_error {s mid : Scan} {n : Nat} {front cs : List Char} {ts : List Token}
    {e : ScanError} (h : s.feed n front = .ok (ts, mid)) :
    s.run n (front ++ cs) = .error e ↔ mid.run (n + front.length) cs = .error e := by
  rw [run_append, h]
  simp only [Except.bind]
  cases mid.run (n + front.length) cs <;> simp [Except.map]

/-- An error names an obstacle: it points there and has its wording. -/
def Names (e : ScanError) (n : Nat) (cs : List Char) : Prop :=
  (ParseError.unreadable e).position = n ∧ Obstacle cs (ParseError.unreadable e).reason

/-- Characters that lead to a resting state, and an obstacle behind them that the error names. -/
def Stuck (s : Scan) (n : Nat) (cs : List Char) (e : ScanError) : Prop :=
  ∃ before rest ts last, cs = before ++ rest ∧ s.feed n before = .ok (ts, last) ∧ last.Rests ∧
    Names e (n + before.length) rest

lemma stuck_of_names {s : Scan} (hs : s.Rests) {n : Nat} {cs : List Char} {e : ScanError}
    (h : Names e n cs) : s.Stuck n cs e := ⟨[], cs, [], s, rfl, rfl, hs, h⟩

/-- A piece that is read does not change where scanning gets stuck. -/
lemma Stuck.prepend {s mid : Scan} {n : Nat} {front cs : List Char} {ts : List Token}
    {e : ScanError} (hfront : s.feed n front = .ok (ts, mid))
    (h : mid.Stuck (n + front.length) cs e) : s.Stuck n (front ++ cs) e := by
  obtain ⟨before, rest, more, last, rfl, hfeed, hlast, hnames⟩ := h
  refine ⟨front ++ before, rest, ts ++ more, last, (List.append_assoc ..).symm, ?_, hlast, ?_⟩
  · rw [feed_append, hfront]
    simp only [Except.bind, hfeed, Except.map]
  · rwa [List.length_append, ← Nat.add_assoc]

/-- **Scanning fails at obstacles only.** -/
lemma stuck_of_run {s : Scan} (hs : s.Rests) {n : Nat} {cs : List Char} {e : ScanError}
    (h : s.run n cs = .error e) : s.Stuck n cs e := by
  induction hlen : cs.length using Nat.strong_induction_on generalizing s n cs with
  | _ k ih =>
      -- what is left behind a piece that leads to a resting state is shorter
      have hskip : ∀ {front rest ts mid}, cs = front ++ rest → front ≠ [] →
          s.feed n front = .ok (ts, mid) → mid.Rests → s.Stuck n cs e := by
        rintro front rest ts mid rfl hne hfront hmid
        have hshorter : rest.length < k := by
          have hpos := List.length_pos_of_ne_nil hne
          rw [List.length_append] at hlen
          omega
        exact .prepend hfront (ih rest.length hshorter hmid ((run_append_eq_error hfront).mp h) rfl)
      cases cs with
      | nil =>
          obtain ⟨ts, hfinish⟩ := hs
          exact absurd h (by simp [run, hfinish])
      | cons c cs =>
          rcases step_cases hs n c with
            ⟨hstray, hstep⟩ | ⟨ts, next, hstep, hnext⟩ | ⟨rfl, ts, hstep⟩
          · obtain rfl : ScanError.unexpected c n = e := by
              simpa [run, hstep, bind, Except.bind] using h
            exact stuck_of_names hs ⟨rfl, .stray hstray⟩
          · exact hskip List.singleton_append.symm (by simp) (feed_singleton hstep) hnext
          · by_cases hclosed : HasClosingQuote cs
            · obtain ⟨body, value, rest, hbody, rfl⟩ := hasClosingQuote_iff.mp hclosed
              have hpart : s.feed n (['"'] ++ (body ++ ['"']))
                  = .ok (ts ++ [⟨.quoted (String.ofList value), n⟩], between) := by
                rw [feed_append, feed_singleton hstep]
                simp [Except.bind, feed_of_unescapes hbody, Except.map]
              have hsplit : '"' :: (body ++ '"' :: rest) = ['"'] ++ (body ++ ['"']) ++ rest := by
                simp
              exact hskip hsplit (by simp) hpart rests_between
            · rw [← List.singleton_append, run_append_eq_error (feed_singleton hstep),
                run_quoted_of_not_closed hclosed] at h
              obtain rfl := Except.error.inj h
              exact stuck_of_names hs ⟨rfl, .unclosed hclosed⟩

/-- **Scanning fails at every obstacle** that is reached in a resting state. -/
lemma run_of_obstacle {s : Scan} (hs : s.Rests) {cs : List Char} {wording : String}
    (h : Obstacle cs wording) (n : Nat) : ∃ e, s.run n cs = .error e ∧
      (ParseError.unreadable e).position = n ∧ (ParseError.unreadable e).reason = wording := by
  cases h with
  | @stray c rest hstray =>
      obtain ⟨done, hstep⟩ := step_of_rests hs (n := n) hstray.2.2.2
      obtain ⟨hblank, hmark, hquote, hword⟩ := hstray
      rw [start_of_unexpected hblank hmark hquote hword] at hstep
      exact ⟨.unexpected c n, by rw [run, hstep]; rfl, rfl, rfl⟩
  | @unclosed rest hopen =>
      obtain ⟨done, hstep⟩ := step_of_rests hs (n := n) (c := '"') rfl
      have hquoted : s.feed n ['"'] = .ok (done ++ [], quoted n []) := feed_singleton hstep
      refine ⟨.unterminated n, ?_, rfl, rfl⟩
      rw [← List.singleton_append, run_append_eq_error hquoted, run_quoted_of_not_closed hopen]

end Scan

/-! ### Refused texts -/

/-- The characters before an obstacle that is named are the text up to its offset. -/
lemma stopsAt_of_error {text : String} {e : ScanError} (h : tokenize text = .error e) :
    StopsAt text (ParseError.unreadable e).position (ParseError.unreadable e).reason := by
  obtain ⟨before, rest, ts, last, hsplit, hfeed, hlast, hposition, hobstacle⟩ :=
    Scan.stuck_of_run Scan.rests_between h
  rw [Nat.zero_add] at hposition
  refine ⟨?_, ?_⟩
  · rw [hposition, hsplit, List.take_left, tokenize, String.toList_ofList]
    exact Scan.run_ok_iff.mpr ⟨ts, last, hfeed, hlast⟩
  · rwa [hposition, hsplit, List.drop_left]

/-- Where a text stops, it is refused. -/
lemma StopsAt.exists_error {text wording : String} {p : Nat} (h : StopsAt text p wording) :
    ∃ e, tokenize text = .error e ∧ (ParseError.unreadable e).position = p ∧
      (ParseError.unreadable e).reason = wording := by
  obtain ⟨hreadable, hobstacle⟩ := h
  rw [tokenize, String.toList_ofList, Scan.run_ok_iff] at hreadable
  obtain ⟨ts, last, hfeed, hlast⟩ := hreadable
  have hin : p ≤ text.toList.length := by
    by_contra hout
    rw [List.drop_eq_nil_of_le (by omega)] at hobstacle
    cases hobstacle
  obtain ⟨e, hrun, hposition, hreason⟩ := Scan.run_of_obstacle hlast hobstacle p
  refine ⟨e, ?_, hposition, hreason⟩
  rw [tokenize, ← List.take_append_drop p text.toList, Scan.run_append_eq_error hfeed,
    List.length_take_of_le hin, Nat.zero_add]
  exact hrun

/-- **A text is refused exactly where reading it becomes impossible**: at an offset up to which it
has tokens and at which a stray character stands, or a double quote that no later unescaped double
quote closes, and in the words for the one or the other. Every text either has tokens, and stops
nowhere, or has none, and stops at one offset and for one reason. -/
theorem tokenize_refuses_iff (text : String) :
    (∀ p wording, (∃ e, tokenize text = .error e ∧ parse text = .error (.unreadable e) ∧
        (ParseError.unreadable e).position = p ∧ (ParseError.unreadable e).reason = wording ∧
        (ParseError.unreadable e).message = wording ++ " (at offset " ++ toString p ++ ")") ↔
      StopsAt text p wording) ∧
    ((∃ ts, tokenize text = .ok ts) ∧ (∀ p wording, ¬StopsAt text p wording) ∨
      (¬∃ ts, tokenize text = .ok ts) ∧ ∃! stop : Nat × String, StopsAt text stop.1 stop.2) := by
  refine ⟨fun p wording => ⟨?_, fun h => ?_⟩, ?_⟩
  · rintro ⟨e, herror, -, rfl, rfl, -⟩
    exact stopsAt_of_error herror
  · obtain ⟨e, herror, rfl, rfl⟩ := h.exists_error
    exact ⟨e, herror, by simp only [parse, herror], rfl, rfl, rfl⟩
  · cases htokens : tokenize text with
    | ok ts =>
        refine .inl ⟨⟨ts, rfl⟩, fun p wording h => ?_⟩
        obtain ⟨e, herror, -⟩ := h.exists_error
        rw [htokens] at herror
        cases herror
    | error e =>
        let e' := ParseError.unreadable e
        refine .inr ⟨by simp, (e'.position, e'.reason), stopsAt_of_error htokens, ?_⟩
        rintro ⟨p, wording⟩ h
        obtain ⟨_, herror, rfl, rfl⟩ := h.exists_error
        rw [htokens] at herror
        rw [← Except.error.inj herror]

example : tokenize "a\\\"" = .error (.unexpected '\\' 1) := by decide

example : tokenize "books \"a\\\" b\\" = .error (.unterminated 6) := by decide

end EntityGraph.Query
