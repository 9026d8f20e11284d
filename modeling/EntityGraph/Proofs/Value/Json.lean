import EntityGraph.Proofs.Text.Runs
import EntityGraph.Proofs.Value.Escapes
/-!
Values without binary64 numbers are written as one line of printable ASCII, which is read as the
same values.

The text of a value is read wherever it stands, as long as nothing follows that could be a part of
it; fuel for as many steps as the text has characters is enough.

* `FloatFree`: values without binary64 numbers.
* `Stops`: what may follow a value; `Reads`: a value is read from its text.
* `reads_of_word`, `reads_int`, `reads_str`: values without parts.
* `readItems_toJsonItems`, `readFields_toJsonFields`: items and fields, one after the other.
* `ofJson?_toJson`: nothing is lost in JSON.
* `isPrintable_toJson`: the text of a value is printable ASCII.
-/

namespace EntityGraph.Value

variable {v : Value} {items : List Value} {fields : Fields} {rest : List Char}

/-- Values without binary64 numbers. -/
inductive FloatFree : Value → Prop where
  | null : FloatFree null
  | bool (b : Bool) : FloatFree (bool b)
  | int (n : ℤ) : FloatFree (int n)
  | str (s : String) : FloatFree (str s)
  | list {items : List Value} (h : ∀ v ∈ items, FloatFree v) : FloatFree (list items)
  | object {fields : Fields} (h : ∀ f ∈ fields, FloatFree f.2) : FloatFree (object fields)

/-- What may follow a value: nothing, or what ends an item or a field. -/
def Stops (rest : List Char) : Prop := ∀ c ∈ rest.head?, c = ',' ∨ c = ']' ∨ c = '\x7d'

/-- A value is read from its text, whatever may follow. -/
def Reads (v : Value) : Prop := ∀ fuel rest, v.toJson.length ≤ fuel → Stops rest →
  readValue fuel (v.toJson.toList ++ rest) = some (v, rest)

/-! ### Words and numbers -/

lemma Stops.of_ne {p : Char → Bool} (h : Stops rest)
    (hp : p ',' = false ∧ p ']' = false ∧ p '\x7d' = false) : ∀ c ∈ rest.head?, p c = false := by
  intro c hc
  obtain rfl | rfl | rfl := h c hc
  · exact hp.1
  · exact hp.2.1
  · exact hp.2.2

/-- The digits of an integer are read up to what follows. -/
lemma readNumber_toDigits (negative : Bool) (m : ℕ) (h : Stops rest) :
    readNumber negative (Nat.toDigits 10 m ++ rest)
      = some (int (if negative then -m else m), rest) := by
  have hdigits : ∀ c ∈ Nat.toDigits 10 m, c.isDigit = true := fun c hc =>
    Nat.isDigit_of_mem_toDigits (by decide) (by decide) hc
  obtain ⟨htake, hdrop⟩ := Text.while_append hdigits (h.of_ne (by decide))
  have hvalue : decimalNat (Nat.toDigits 10 m) = m := Nat.ofDigitChars_ten_toDigits
  have hne : (Nat.toDigits 10 m).isEmpty = false := by
    simp [Nat.toDigits_ne_nil]
  rw [readNumber]
  simp only [htake, hdrop, hne, Bool.false_eq_true, if_false]
  cases rest with
  | nil => simp [hvalue]
  | cons c rest => obtain rfl | rfl | rfl := h c rfl <;> simp [hvalue]

/-- A word is read up to what follows. -/
lemma readWord_append {word : String} (hword : ∀ c ∈ word.toList, c.isAlpha = true)
    (h : Stops rest) : readWord (word.toList ++ rest)
      = if word = "null" then some (null, rest)
        else if word = "true" then some (bool true, rest)
        else if word = "false" then some (bool false, rest)
        else if word = "NaN" then some (float (0.0 / 0.0), rest)
        else if word = "Infinity" then some (float (1.0 / 0.0), rest)
        else none := by
  obtain ⟨htake, hdrop⟩ := Text.while_append hword (h.of_ne (by decide))
  rw [readWord]
  simp only [htake, hdrop, String.ofList_toList]

/-! ### Values at the head of a text -/

lemma skipBlank_cons {c : Char} (hc : isJsonBlank c = false) (cs : List Char) :
    skipBlank (c :: cs) = c :: cs :=
  List.dropWhile_cons_of_neg (by simp [hc])

lemma readValue_blank (fuel : ℕ) (cs : List Char) :
    readValue fuel (' ' :: cs) = readValue fuel cs := by
  cases fuel with
  | zero => rw [readValue, readValue]
  | succ fuel =>
      have hskip : skipBlank (' ' :: cs) = skipBlank cs := rfl
      rw [readValue, readValue, hskip]

lemma ne_of_isDigit {c x : Char} (hc : c.isDigit = true) (hx : x.isDigit = false) : c ≠ x := by
  rintro rfl
  rw [hc] at hx
  cases hx

lemma not_isJsonBlank_of_isDigit {c : Char} (hc : c.isDigit = true) : isJsonBlank c = false := by
  simp [isJsonBlank, ne_of_isDigit hc (x := ' ') rfl, ne_of_isDigit hc (x := '\n') rfl,
    ne_of_isDigit hc (x := '\r') rfl, ne_of_isDigit hc (x := '\t') rfl]

lemma readItems_blank (fuel : ℕ) (cs : List Char) :
    readItems fuel (' ' :: cs) = readItems fuel cs := by
  cases fuel with
  | zero => rw [readItems, readItems]
  | succ fuel => rw [readItems, readItems, readValue_blank]

lemma readFields_blank (fuel : ℕ) (cs : List Char) :
    readFields fuel (' ' :: cs) = readFields fuel cs := by
  cases fuel with
  | zero => rw [readFields, readFields]
  | succ fuel =>
      have hskip : skipBlank (' ' :: cs) = skipBlank cs := rfl
      rw [readFields, readFields, hskip]

/-- A digit begins a number. -/
lemma readValue_digit {c : Char} (hc : c.isDigit = true) (fuel : ℕ) (cs : List Char) :
    readValue (fuel + 1) (c :: cs) = readNumber false (c :: cs) := by
  rw [readValue, skipBlank_cons (not_isJsonBlank_of_isDigit hc)]
  split
  case h_5 heq =>
    obtain ⟨rfl, rfl⟩ := List.cons.inj heq
    rw [if_pos hc]
  case h_6 heq => cases heq
  all_goals
    rename_i heq
    exact absurd (List.cons.inj heq).1 (ne_of_isDigit hc rfl)

/-- A small letter begins a word. -/
lemma readValue_letter {c : Char} (hc : c ∈ ['n', 't', 'f']) (fuel : ℕ) (cs : List Char) :
    readValue (fuel + 1) (c :: cs) = readWord (c :: cs) := by
  simp only [List.mem_cons, List.not_mem_nil, or_false] at hc
  obtain rfl | rfl | rfl := hc <;> rfl

/-! ### Each kind of value -/

lemma toList_jsonString (s : String) :
    (jsonString s).toList = '"' :: (s.toList.flatMap jsonChar ++ ['"']) := by
  rw [jsonString, String.toList_ofList, List.cons_append]

lemma toList_toJson_int (n : ℤ) : (toJson (int n)).toList
    = if n < 0 then '-' :: Nat.toDigits 10 n.natAbs else Nat.toDigits 10 n.natAbs := by
  rw [toJson, Int.toString_eq_repr]
  cases n with
  | ofNat m => simp [Int.repr]
  | negSucc m => simp [Int.repr, Int.negSucc_lt_zero]

/-- There is fuel where there is a text. -/
lemma exists_fuel {s : String} {c : Char} {cs : List Char} {fuel : ℕ} (hs : s.toList = c :: cs)
    (h : s.length ≤ fuel) : ∃ n, fuel = n + 1 := by
  rw [← String.length_toList, hs, List.length_cons] at h
  exact Nat.exists_eq_add_of_le' (Nat.le_trans (Nat.le_add_left 1 _) h)

/-- A word stands for a value wherever it is one. -/
lemma reads_of_word (word : String) {c : Char} {cs : List Char} (hcons : word.toList = c :: cs)
    (hc : c ∈ ['n', 't', 'f']) (hjson : v.toJson = word)
    (hv : ∀ rest, Stops rest → readWord (word.toList ++ rest) = some (v, rest)) : Reads v := by
  intro fuel rest hfuel hrest
  rw [hjson] at hfuel ⊢
  obtain ⟨fuel, rfl⟩ := exists_fuel hcons hfuel
  have hread := hv rest hrest
  rw [hcons, List.cons_append] at hread ⊢
  rw [readValue_letter hc, hread]

lemma reads_null : Reads null := by
  refine reads_of_word "null" rfl (by decide) (by rw [toJson]) fun rest hrest => ?_
  rw [readWord_append (List.all_eq_true.mp (by decide)) hrest]
  rfl

lemma reads_bool (b : Bool) : Reads (bool b) := by
  cases b with
  | false =>
      refine reads_of_word "false" rfl (by decide) (by rw [toJson]; rfl) fun rest hrest => ?_
      rw [readWord_append (List.all_eq_true.mp (by decide)) hrest]
      rfl
  | true =>
      refine reads_of_word "true" rfl (by decide) (by rw [toJson]; rfl) fun rest hrest => ?_
      rw [readWord_append (List.all_eq_true.mp (by decide)) hrest]
      rfl

/-- An integer begins with a sign or a digit. -/
lemma exists_toList_int (n : ℤ) : ∃ d ds, Nat.toDigits 10 n.natAbs = d :: ds ∧ d.isDigit = true ∧
    (toJson (int n)).toList = if n < 0 then '-' :: d :: ds else d :: ds := by
  obtain ⟨d, ds, hdigits⟩ :=
    List.exists_cons_of_ne_nil (Nat.toDigits_ne_nil (b := 10) (n := n.natAbs))
  have hd : d ∈ Nat.toDigits 10 n.natAbs := hdigits ▸ List.mem_cons_self
  refine ⟨d, ds, hdigits, Nat.isDigit_of_mem_toDigits (by decide) (by decide) hd, ?_⟩
  rw [toList_toJson_int, hdigits]

lemma reads_int (n : ℤ) : Reads (int n) := by
  intro fuel rest hfuel hrest
  obtain ⟨d, ds, hdigits, hd, htext⟩ := exists_toList_int n
  have hread := fun negative => readNumber_toDigits negative n.natAbs hrest
  rw [hdigits, List.cons_append] at hread
  split at htext
  · obtain ⟨fuel, rfl⟩ := exists_fuel htext hfuel
    have hsign : readValue (fuel + 1) ('-' :: d :: (ds ++ rest))
        = readNumber true (d :: (ds ++ rest)) :=
      if_neg (by simpa using ne_of_isDigit hd rfl)
    have hvalue : -(n.natAbs : ℤ) = n := by omega
    rw [htext, List.cons_append, List.cons_append, hsign, hread, if_pos rfl, hvalue]
  · obtain ⟨fuel, rfl⟩ := exists_fuel htext hfuel
    have hvalue : (n.natAbs : ℤ) = n := by omega
    rw [htext, List.cons_append, readValue_digit hd, hread, if_neg Bool.false_ne_true, hvalue]

lemma toList_toJson_str (s : String) :
    (toJson (str s)).toList = '"' :: (s.toList.flatMap jsonChar ++ ['"']) := by
  rw [toJson, toList_jsonString]

lemma reads_str (s : String) : Reads (str s) := by
  intro fuel rest hfuel _
  obtain ⟨fuel, rfl⟩ := exists_fuel (toList_toJson_str s) hfuel
  have hquote (cs : List Char) : readValue (fuel + 1) ('"' :: cs)
      = (readString [] cs).map fun read => (str read.1, read.2) := rfl
  rw [toList_toJson_str, List.cons_append, List.append_assoc, List.singleton_append, hquote,
    readString_flatMap, Option.map_some, List.reverse_nil, List.nil_append, String.ofList_toList]

/-! ### Lists and objects -/

lemma toList_toJson_list (items : List Value) :
    (toJson (list items)).toList = '[' :: ((toJsonItems items).toList ++ [']']) := by
  rw [toJson, String.toList_append, String.toList_append]
  rfl

lemma toList_toJson_object (fields : Fields) :
    (toJson (object fields)).toList = '\x7b' :: ((toJsonFields fields).toList ++ ['\x7d']) := by
  rw [toJson, String.toList_append, String.toList_append]
  rfl

/-- The text of a value begins with something else than white space or a closing bracket. -/
lemma FloatFree.exists_toList (h : FloatFree v) :
    ∃ c cs, v.toJson.toList = c :: cs ∧ isJsonBlank c = false ∧ c ≠ ']' := by
  cases h with
  | null => exact ⟨'n', _, by rw [toJson]; rfl, rfl, by decide⟩
  | bool b => cases b <;> exact ⟨_, _, by rw [toJson]; rfl, rfl, by decide⟩
  | int n =>
      obtain ⟨d, ds, -, hd, htext⟩ := exists_toList_int n
      split at htext
      · exact ⟨'-', _, htext, rfl, by decide⟩
      · exact ⟨d, ds, htext, not_isJsonBlank_of_isDigit hd, ne_of_isDigit hd rfl⟩
  | str s => exact ⟨'"', _, toList_toJson_str s, rfl, by decide⟩
  | list _ => exact ⟨'[', _, toList_toJson_list _, rfl, by decide⟩
  | object _ => exact ⟨'\x7b', _, toList_toJson_object _, rfl, by decide⟩

lemma toList_toJsonItems_cons (v w : Value) (items : List Value) :
    (toJsonItems (v :: w :: items)).toList
      = v.toJson.toList ++ ',' :: ' ' :: (toJsonItems (w :: items)).toList := by
  rw [toJsonItems]
  · simp
  · simp

lemma toList_toJsonFields_single (k : String) (v : Value) :
    (toJsonFields [(k, v)]).toList
      = '"' :: (k.toList.flatMap jsonChar ++ '"' :: ':' :: ' ' :: v.toJson.toList) := by
  rw [toJsonFields]
  simp [toList_jsonString]

lemma toList_toJsonFields_cons (k : String) (v : Value) (f : String × Value) (fields : Fields) :
    (toJsonFields ((k, v) :: f :: fields)).toList
      = '"' :: (k.toList.flatMap jsonChar ++ '"' :: ':' :: ' ' ::
        (v.toJson.toList ++ ',' :: ' ' :: (toJsonFields (f :: fields)).toList)) := by
  rw [toJsonFields]
  · simp [toList_jsonString]
  · simp

lemma readItems_last {fuel : ℕ} {cs : List Char}
    (hv : readValue fuel cs = some (v, ']' :: rest)) :
    readItems (fuel + 1) cs = some ([v], rest) := by
  rw [readItems, hv]
  rfl

lemma readItems_more {fuel : ℕ} {cs more : List Char}
    (hv : readValue fuel cs = some (v, ',' :: more))
    (hmore : readItems fuel more = some (items, rest)) :
    readItems (fuel + 1) cs = some (v :: items, rest) := by
  rw [readItems, hv]
  exact congrArg (Option.map _) hmore

/-- The items of a list are read up to its end. -/
lemma readItems_toJsonItems (h : ∀ v ∈ items, Reads v) (hne : items ≠ []) {fuel : ℕ}
    (hfuel : (toJsonItems items).length < fuel) (rest : List Char) :
    readItems fuel ((toJsonItems items).toList ++ ']' :: rest) = some (items, rest) := by
  induction items generalizing fuel with
  | nil => exact absurd rfl hne
  | cons v items ih =>
      obtain ⟨hv, hitems⟩ := List.forall_mem_cons.mp h
      obtain ⟨fuel, rfl⟩ := Nat.exists_eq_succ_of_ne_zero (Nat.ne_zero_of_lt hfuel)
      rw [← String.length_toList] at hfuel
      cases items with
      | nil =>
          rw [toJsonItems] at hfuel ⊢
          exact readItems_last (hv fuel (']' :: rest) (Nat.le_of_lt_succ hfuel) (by simp [Stops]))
      | cons w items =>
          rw [toList_toJsonItems_cons] at hfuel ⊢
          simp only [List.length_append, List.length_cons, String.length_toList] at hfuel
          simp only [List.cons_append, List.append_assoc]
          refine readItems_more (hv fuel _ (by omega) (by simp [Stops])) ?_
          rw [readItems_blank]
          exact ih hitems (List.cons_ne_nil _ _) (by omega)

lemma readFields_last {fuel : ℕ} {k : String} {more : List Char}
    (hv : readValue fuel more = some (v, '\x7d' :: rest)) :
    readFields (fuel + 1) ('"' :: (k.toList.flatMap jsonChar ++ '"' :: ':' :: ' ' :: more))
      = some ([(k, v)], rest) := by
  have hcolon := skipBlank_cons (c := ':') rfl
  have hbrace := skipBlank_cons (c := '\x7d') rfl
  rw [readFields, skipBlank_cons rfl]
  simp only [readString_flatMap, hcolon, hbrace, readValue_blank, hv, List.reverse_nil,
    List.nil_append, String.ofList_toList]

lemma readFields_more {fuel : ℕ} {k : String} {more more' : List Char}
    (hv : readValue fuel more = some (v, ',' :: more'))
    (hmore : readFields fuel more' = some (fields, rest)) :
    readFields (fuel + 1) ('"' :: (k.toList.flatMap jsonChar ++ '"' :: ':' :: ' ' :: more))
      = some ((k, v) :: fields, rest) := by
  have hcolon := skipBlank_cons (c := ':') rfl
  have hcomma := skipBlank_cons (c := ',') rfl
  rw [readFields, skipBlank_cons rfl]
  simp only [readString_flatMap, hcolon, hcomma, readValue_blank, hv, hmore, Option.map_some,
    List.reverse_nil, List.nil_append, String.ofList_toList]

/-- The fields of an object are read up to its end. -/
lemma readFields_toJsonFields (h : ∀ f ∈ fields, Reads f.2) (hne : fields ≠ []) {fuel : ℕ}
    (hfuel : (toJsonFields fields).length < fuel) (rest : List Char) :
    readFields fuel ((toJsonFields fields).toList ++ '\x7d' :: rest) = some (fields, rest) := by
  induction fields generalizing fuel with
  | nil => exact absurd rfl hne
  | cons f fields ih =>
      obtain ⟨k, v⟩ := f
      obtain ⟨hv : Reads v, hfields⟩ := List.forall_mem_cons.mp h
      obtain ⟨fuel, rfl⟩ := Nat.exists_eq_succ_of_ne_zero (Nat.ne_zero_of_lt hfuel)
      rw [← String.length_toList] at hfuel
      cases fields with
      | nil =>
          rw [toList_toJsonFields_single] at hfuel ⊢
          simp only [List.length_append, List.length_cons, String.length_toList] at hfuel
          simp only [List.cons_append, List.append_assoc]
          exact readFields_last (hv fuel _ (by omega) (by simp [Stops]))
      | cons f fields =>
          rw [toList_toJsonFields_cons] at hfuel ⊢
          simp only [List.length_append, List.length_cons, String.length_toList] at hfuel
          simp only [List.cons_append, List.append_assoc]
          refine readFields_more (hv fuel _ (by omega) (by simp [Stops])) ?_
          rw [readFields_blank]
          exact ih hfields (List.cons_ne_nil _ _) (by omega)

/-! ### All values -/

/-- What follows an opening bracket, unless it closes the list at once, are items. -/
lemma readValue_bracket {c : Char} (hblank : isJsonBlank c = false) (hc : c ≠ ']') (fuel : ℕ)
    (cs : List Char) : readValue (fuel + 1) ('[' :: c :: cs)
      = (readItems fuel (c :: cs)).map fun read => (list read.1, read.2) := by
  rw [readValue, skipBlank_cons rfl]
  simp only [skipBlank_cons hblank]
  split
  · rename_i heq
    exact absurd (List.cons.inj heq).1 hc
  · rfl

lemma reads_list (hfree : ∀ v ∈ items, FloatFree v) (h : ∀ v ∈ items, Reads v) :
    Reads (list items) := by
  intro fuel rest hfuel _
  obtain ⟨fuel, rfl⟩ := exists_fuel (toList_toJson_list items) hfuel
  rw [← String.length_toList, toList_toJson_list] at hfuel
  simp only [List.length_append, List.length_cons, String.length_toList] at hfuel
  rw [toList_toJson_list, List.cons_append, List.append_assoc, List.singleton_append]
  cases items with
  | nil =>
      rw [toJsonItems]
      rfl
  | cons v items =>
      have hread := readItems_toJsonItems h (List.cons_ne_nil _ _)
        (by omega : (toJsonItems (v :: items)).length < fuel) rest
      obtain ⟨c, cs, htext, hblank, hc⟩ : ∃ c cs,
          (toJsonItems (v :: items)).toList = c :: cs ∧ isJsonBlank c = false ∧ c ≠ ']' := by
        obtain ⟨c, cs, htext, hc⟩ := (hfree v List.mem_cons_self).exists_toList
        cases items with
        | nil => exact ⟨c, cs, by rw [toJsonItems, htext], hc⟩
        | cons w items =>
            exact ⟨c, _, by rw [toList_toJsonItems_cons, htext, List.cons_append], hc⟩
      rw [htext, List.cons_append] at hread ⊢
      rw [readValue_bracket hblank hc, hread, Option.map_some]

lemma reads_object (h : ∀ f ∈ fields, Reads f.2) : Reads (object fields) := by
  intro fuel rest hfuel _
  obtain ⟨fuel, rfl⟩ := exists_fuel (toList_toJson_object fields) hfuel
  rw [← String.length_toList, toList_toJson_object] at hfuel
  simp only [List.length_append, List.length_cons, String.length_toList] at hfuel
  rw [toList_toJson_object, List.cons_append, List.append_assoc, List.singleton_append]
  cases fields with
  | nil =>
      rw [toJsonFields]
      rfl
  | cons f fields =>
      have hread := readFields_toJsonFields h (List.cons_ne_nil _ _)
        (by omega : (toJsonFields (f :: fields)).length < fuel) rest
      obtain ⟨cs, htext⟩ : ∃ cs, (toJsonFields (f :: fields)).toList = '"' :: cs := by
        cases fields with
        | nil => exact ⟨_, toList_toJsonFields_single _ _⟩
        | cons _ _ => exact ⟨_, toList_toJsonFields_cons _ _ _ _⟩
      have hbrace (cs : List Char) : readValue (fuel + 1) ('\x7b' :: '"' :: cs)
          = (readFields fuel ('"' :: cs)).map fun read => (object read.1, read.2) := rfl
      rw [htext, List.cons_append] at hread ⊢
      rw [hbrace, hread, Option.map_some]

/-- Values without binary64 numbers are read from their texts. -/
lemma FloatFree.reads (h : FloatFree v) : Reads v := by
  induction h with
  | null => exact reads_null
  | bool b => exact reads_bool b
  | int n => exact reads_int n
  | str s => exact reads_str s
  | list hfree ih => exact reads_list hfree ih
  | object _ ih => exact reads_object ih

/-- **Nothing is lost in JSON**: a value without binary64 numbers is read as it was written. -/
theorem ofJson?_toJson (h : FloatFree v) : ofJson? v.toJson = some v := by
  have hread := h.reads (2 * v.toJson.length + 2) [] (by omega) (by simp [Stops])
  rw [List.append_nil] at hread
  rw [ofJson?]
  simp only [String.length_toList, hread]
  rfl

/-! ### Printable ASCII -/

lemma isPrintable_toDigits (m : ℕ) : ∀ c ∈ Nat.toDigits 10 m, IsPrintable c := by
  intro c hc
  have hdigit : c.isDigit = true := Nat.isDigit_of_mem_toDigits (by decide) (by decide) hc
  rw [Char.isDigit, Bool.and_eq_true, decide_eq_true_iff, decide_eq_true_iff] at hdigit
  have hzero : ' ' ≤ '0' ∧ '9' ≤ '~' := by decide
  exact ⟨Char.le_trans hzero.1 hdigit.1, Char.le_trans hdigit.2 hzero.2⟩

lemma isPrintable_toJsonItems (h : ∀ v ∈ items, ∀ c ∈ v.toJson.toList, IsPrintable c) :
    ∀ c ∈ (toJsonItems items).toList, IsPrintable c := by
  induction items with
  | nil => simp [toJsonItems]
  | cons v items ih =>
      obtain ⟨hv, hitems⟩ := List.forall_mem_cons.mp h
      cases items with
      | nil => rwa [toJsonItems]
      | cons w items =>
          rw [toList_toJsonItems_cons, List.forall_mem_append, List.forall_mem_cons,
            List.forall_mem_cons]
          exact ⟨hv, by decide, by decide, ih hitems⟩

lemma isPrintable_toJsonFields (h : ∀ f ∈ fields, ∀ c ∈ f.2.toJson.toList, IsPrintable c) :
    ∀ c ∈ (toJsonFields fields).toList, IsPrintable c := by
  have hcolon : ∀ c ∈ ": ".toList, IsPrintable c := isPrintable_of_all (by decide)
  have hcomma : ∀ c ∈ ", ".toList, IsPrintable c := isPrintable_of_all (by decide)
  induction fields with
  | nil => simp [toJsonFields]
  | cons f fields ih =>
      obtain ⟨hv, hfields⟩ := List.forall_mem_cons.mp h
      cases fields with
      | nil =>
          rw [toJsonFields]
          simp only [String.toList_append, List.forall_mem_append]
          exact ⟨⟨isPrintable_jsonString _, hcolon⟩, hv⟩
      | cons g fields =>
          rw [toJsonFields]
          · simp only [String.toList_append, List.forall_mem_append]
            exact ⟨⟨⟨⟨isPrintable_jsonString _, hcolon⟩, hv⟩, hcomma⟩, ih hfields⟩
          · simp

/-- **A value is written in printable ASCII.** -/
theorem isPrintable_toJson (h : FloatFree v) : ∀ c ∈ v.toJson.toList, IsPrintable c := by
  induction h with
  | null =>
      rw [toJson]
      exact isPrintable_of_all (by decide)
  | bool b => cases b <;> rw [toJson] <;> exact isPrintable_of_all (by decide)
  | int n =>
      rw [toList_toJson_int]
      split
      · exact List.forall_mem_cons.mpr ⟨by decide, isPrintable_toDigits _⟩
      · exact isPrintable_toDigits _
  | str s =>
      rw [toJson]
      exact isPrintable_jsonString s
  | list _ ih =>
      rw [toList_toJson_list, List.forall_mem_cons, List.forall_mem_append]
      exact ⟨by decide, isPrintable_toJsonItems ih, isPrintable_of_all (by decide)⟩
  | object _ ih =>
      rw [toList_toJson_object, List.forall_mem_cons, List.forall_mem_append]
      exact ⟨by decide, isPrintable_toJsonFields ih, isPrintable_of_all (by decide)⟩

end EntityGraph.Value
