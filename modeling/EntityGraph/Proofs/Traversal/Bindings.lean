import EntityGraph.Traversal.Upsert
import Mathlib.Data.List.Nodup
/-!
The two descriptions that an upsert carries agree.

* `keyName`, `valueName`, `propertyStep`: the names and the step of the property with a number.
* `written`: the properties that are not null, in their order.
* `boundProperty`: the property that bindings hold under a number.
* `Agrees`: a script with its bindings says what a list of ends and a list of properties say.
* `propertySteps_eq`, `map_fst_propertyBindings`, `boundProperty_propertyBindings`: what the script
  and the bindings of a list of properties are made of.
* `upserts_describe_alike`: every upsert says the same in its script and in its arguments.
-/

namespace EntityGraph

namespace Value

/-- Whether a value is null can be decided. -/
instance decidableEqNull : ∀ v : Value, Decidable (v = .null)
  | .null => isTrue rfl
  | .bool _ | .int _ | .float _ | .str _ | .list _ | .object _ => isFalse nofun

end Value

namespace Traversal

/-! ### Numbered properties -/

/-- The name to which the key of a property is bound. -/
def keyName (i : Nat) : String := "pk" ++ toString i

/-- The name to which the value of a property is bound. -/
def valueName (i : Nat) : String := "pv" ++ toString i

/-- The step that writes a property. -/
def propertyStep (i : Nat) : String := ".property(" ++ keyName i ++ ", " ++ valueName i ++ ")"

/-- The names of the first `n` properties. -/
def propertyNames (n : Nat) : List String :=
  (List.range n).flatMap fun i => [keyName i, valueName i]

/-- The properties that are not null, in their order. -/
def written (properties : Fields) : Fields := properties.filter fun p => p.2 ≠ .null

/-- The property that bindings hold under a number: its key and its value. -/
def boundProperty (bindings : Fields) (i : Nat) : Option (String × Value) :=
  match bindings.get? (keyName i), bindings.get? (valueName i) with
  | some (.str key), some value => some (key, value)
  | _, _ => none

/-- A script with its bindings says what `ends` and `properties` say. The script is a template in
which the steps of the properties stand one after the other. -/
structure Agrees (t : Traversal) (template : String → String) (ends properties : Fields) :
    Prop where
  script : t.script = template (String.join ((List.range properties.length).map propertyStep))
  names : t.bindings.map Prod.fst = ends.map Prod.fst ++ propertyNames properties.length
  nodup : (t.bindings.map Prod.fst).Nodup
  ends : ∀ p ∈ ends, t.bindings.get? p.1 = some p.2
  properties : ∀ i, boundProperty t.bindings i = properties[i]?

/-! ### Names -/

/-- The digits of a number tell it. -/
lemma toString_inj {i j : Nat} : toString i = toString j ↔ i = j := by
  refine ⟨fun h => ?_, congrArg toString⟩
  have hdigits : Nat.toDigits 10 i = Nat.toDigits 10 j := by
    simpa only [Nat.toString_eq_repr, Nat.toList_repr] using congrArg String.toList h
  calc i = Nat.ofDigitChars 10 (Nat.toDigits 10 i) 0 := Nat.ofDigitChars_ten_toDigits.symm
    _ = Nat.ofDigitChars 10 (Nat.toDigits 10 j) 0 := by rw [hdigits]
    _ = j := Nat.ofDigitChars_ten_toDigits

lemma keyName_inj {i j : Nat} : keyName i = keyName j ↔ i = j :=
  (String.append_right_inj _).trans toString_inj

lemma valueName_inj {i j : Nat} : valueName i = valueName j ↔ i = j :=
  (String.append_right_inj _).trans toString_inj

lemma keyName_ne_valueName (i j : Nat) : keyName i ≠ valueName j := by
  simp [keyName, valueName, ← String.toList_inj]

/-- A name that no property has. -/
def IsFree (name : String) : Prop := ∀ i, name ≠ keyName i ∧ name ≠ valueName i

lemma isFree_of_head {name : String} (h : name.toList.head? ≠ some 'p') : IsFree name := by
  refine fun i => ⟨?_, ?_⟩
  · rintro rfl
    exact h (by simp [keyName])
  · rintro rfl
    exact h (by simp [valueName])

lemma nodup_propertyNames (n : Nat) : (propertyNames n).Nodup := by
  refine List.nodup_flatMap.mpr ⟨fun i _ => ?_, ?_⟩
  · simpa using keyName_ne_valueName i i
  · refine List.nodup_range.imp fun {i j} hij => ?_
    have hkey : keyName i ≠ keyName j := keyName_inj.not.mpr hij
    have hvalue : valueName i ≠ valueName j := valueName_inj.not.mpr hij
    simp [List.disjoint_left, hkey, hvalue, keyName_ne_valueName, (keyName_ne_valueName _ _).symm]

lemma IsFree.not_mem_propertyNames {name : String} (h : IsFree name) (n : Nat) :
    name ∉ propertyNames n := by
  intro hmem
  obtain ⟨i, -, hi⟩ := List.mem_flatMap.mp hmem
  rcases List.mem_pair.mp hi with rfl | rfl
  · exact (h i).1 rfl
  · exact (h i).2 rfl

/-! ### The properties of a script -/

lemma present_eq (properties : Fields) : present properties = written properties := by
  refine List.filter_congr fun p _ => ?_
  obtain ⟨key, value⟩ := p
  cases value <;> rfl

lemma propertySteps_succ (i n : Nat) :
    propertySteps i (n + 1) = propertyStep i ++ propertySteps (i + 1) n := by
  have hstep : ".property(pk" ++ toString i ++ ", pv" ++ toString i ++ ")" = propertyStep i := by
    simp [propertyStep, keyName, valueName, ← String.toList_inj]
  exact congrArg (· ++ propertySteps (i + 1) n) hstep

lemma propertySteps_eq (i n : Nat) :
    propertySteps i n = String.join ((List.range' i n).map propertyStep) := by
  induction n generalizing i with
  | zero => rfl
  | succ n ih => rw [propertySteps_succ, ih, List.range'_succ, List.map_cons, String.join_cons]

lemma propertyBindings_cons (i : Nat) (p : String × Value) (properties : Fields) :
    propertyBindings i (p :: properties)
      = (keyName i, .str p.1) :: (valueName i, p.2) :: propertyBindings (i + 1) properties := rfl

lemma map_fst_propertyBindings (i : Nat) (properties : Fields) :
    (propertyBindings i properties).map Prod.fst
      = (List.range' i properties.length).flatMap fun j => [keyName j, valueName j] := by
  induction properties generalizing i with
  | nil => rfl
  | cons p properties ih =>
      rw [propertyBindings_cons, List.map_cons, List.map_cons, ih, List.length_cons,
        List.range'_succ, List.flatMap_cons]
      rfl

/-- A name that is not one of the first two is looked up behind them. -/
lemma get?_propertyBindings_cons_of_ne {name : String} {i : Nat} (hkey : name ≠ keyName i)
    (hvalue : name ≠ valueName i) (p : String × Value) (properties : Fields) :
    Fields.get? (propertyBindings i (p :: properties)) name
      = Fields.get? (propertyBindings (i + 1) properties) name := by
  rw [propertyBindings_cons, Fields.get?, if_neg hkey.symm, Fields.get?, if_neg hvalue.symm]

/-- The names with the number `i + j` are bound to the key and the value that stand at `j`. -/
lemma get?_propertyBindings (i j : Nat) (properties : Fields) :
    Fields.get? (propertyBindings i properties) (keyName (i + j))
        = properties[j]?.map (fun p => .str p.1) ∧
      Fields.get? (propertyBindings i properties) (valueName (i + j))
        = properties[j]?.map Prod.snd := by
  induction properties generalizing i j with
  | nil => exact ⟨rfl, rfl⟩
  | cons p properties ih =>
      cases j with
      | zero => simp [propertyBindings_cons, Fields.get?, keyName_ne_valueName]
      | succ j =>
          have hne : i + (j + 1) ≠ i := by omega
          have hnumber : i + (j + 1) = i + 1 + j := by omega
          rw [get?_propertyBindings_cons_of_ne (keyName_inj.not.mpr hne) (keyName_ne_valueName _ _),
            get?_propertyBindings_cons_of_ne (keyName_ne_valueName _ _).symm
              (valueName_inj.not.mpr hne), hnumber]
          exact ih (i + 1) j

/-- **What stands under a number** is the property at that place, and nothing behind the last. -/
lemma boundProperty_propertyBindings (properties : Fields) (i : Nat) :
    boundProperty (propertyBindings 0 properties) i = properties[i]? := by
  obtain ⟨hkey, hvalue⟩ := get?_propertyBindings 0 i properties
  rw [Nat.zero_add] at hkey hvalue
  rw [boundProperty, hkey, hvalue]
  cases properties[i]? <;> rfl

/-! ### The two descriptions -/

/-- Bindings that begin with names of their own and go on with the properties that are not null. -/
lemma agrees_of {t : Traversal} {template : String → String} {ends properties : Fields}
    (hscript : t.script = template (propertySteps 0 (present properties).length))
    (hbindings : t.bindings = ends ++ propertyBindings 0 (present properties))
    (hnodup : (ends.map Prod.fst).Nodup) (hfree : ∀ name ∈ ends.map Prod.fst, IsFree name) :
    Agrees t template ends (written properties) := by
  rw [present_eq] at hscript hbindings
  have hnames : t.bindings.map Prod.fst
      = ends.map Prod.fst ++ propertyNames (written properties).length := by
    rw [hbindings, List.map_append, map_fst_propertyBindings, ← List.range_eq_range', propertyNames]
  have hdistinct : (t.bindings.map Prod.fst).Nodup := by
    rw [hnames]
    refine List.nodup_append'.mpr ⟨hnodup, nodup_propertyNames _, ?_⟩
    intro name hend hproperty
    exact (hfree name hend).not_mem_propertyNames _ hproperty
  -- A numbered name is not among the ends, so it is looked up behind them.
  have hbehind : ∀ name, ¬ IsFree name →
      t.bindings.get? name = Fields.get? (propertyBindings 0 (written properties)) name := by
    intro name hname
    have hnone : Fields.get? ends name = none :=
      Fields.get?_eq_none fun hmem => hname (hfree name hmem)
    rw [hbindings, Fields.get?_append, hnone, Option.none_or]
  refine ⟨?_, hnames, hdistinct, fun p hp => ?_, fun i => ?_⟩
  · rw [hscript, propertySteps_eq, List.range_eq_range']
  · exact Fields.get?_of_mem hdistinct (hbindings ▸ List.mem_append_left _ hp)
  · rw [← boundProperty_propertyBindings, boundProperty, boundProperty,
      hbehind _ fun h => (h i).1 rfl, hbehind _ fun h => (h i).2 rfl]

/-- The script that creates a vertex, around the steps of its properties. -/
def vertexTemplate (label steps : String) : String :=
  "g.V(vid).fold().coalesce(unfold(), addV(" ++ quoteLiteral label ++ ").property(id, vid)" ++ steps
    ++ ")"

/-- The script that creates an edge, around the steps of its properties. -/
def edgeTemplate (label steps : String) : String :=
  "g.V(outId).as('o').V(inId).coalesce(__.inE(" ++ quoteLiteral label
    ++ ").where(__.outV().as('o')), __.addE(" ++ quoteLiteral label ++ ").from('o')" ++ steps ++ ")"

/-- A traversal says twice that there is to be a vertex: by its arguments and by its script. -/
structure DescribesVertex (t : Traversal) (id : Value) (label : String) (properties : Fields) :
    Prop where
  step : t.operation.step = .str "upsert_vertex"
  arguments : t.operation.arguments =
    [("vertex_id", .value id), ("label", .value (.str label)),
      ("properties", .value (.object properties))]
  agrees : Agrees t (vertexTemplate label) [("vid", id)] properties

/-- A traversal says twice that there is to be an edge: by its arguments and by its script. -/
structure DescribesEdge (t : Traversal) (label : String) (source target : Value)
    (properties : Fields) : Prop where
  step : t.operation.step = .str "upsert_edge"
  arguments : t.operation.arguments =
    [("label", .value (.str label)), ("out_id", .value source), ("in_id", .value target),
      ("properties", .value (.object properties))]
  agrees : Agrees t (edgeTemplate label) [("outId", source), ("inId", target)] properties

lemma agrees_vertex {t : Traversal} {id : Value} {label : String} {properties : Fields}
    (hscript : t.script = (Loose.upsertVertex id label properties).script)
    (hbindings : t.bindings = (Loose.upsertVertex id label properties).bindings) :
    Agrees t (vertexTemplate label) [("vid", id)] (written properties) := by
  have hvid : IsFree "vid" := isFree_of_head (by decide)
  exact agrees_of hscript hbindings (by simp) (by simpa using hvid)

lemma agrees_edge {t : Traversal} {label : String} {source target : Value} {properties : Fields}
    (hscript : t.script = (Loose.upsertEdge label source target properties).script)
    (hbindings : t.bindings = (Loose.upsertEdge label source target properties).bindings) :
    Agrees t (edgeTemplate label) [("outId", source), ("inId", target)] (written properties) := by
  have hout : IsFree "outId" := isFree_of_head (by decide)
  have hin : IsFree "inId" := isFree_of_head (by decide)
  exact agrees_of hscript hbindings (by simp) (by simpa using ⟨hout, hin⟩)

/-- **Both descriptions of an upsert say the same.** Whatever the label, the ids and the properties
are, the names in the script are bound to the ids and to the properties in the arguments, in their
order, and no other names are bound. The text of the script depends on the label and on the number
of properties that are not null, and on nothing else. -/
theorem upserts_describe_alike (label : String) (properties : Fields) :
    (∀ id : Value,
      DescribesVertex (Loose.upsertVertex id label properties) id label (written properties)) ∧
    (∀ source target : Value,
      DescribesEdge (Loose.upsertEdge label source target properties) label source target
        (written properties)) ∧
    (∀ id : String,
      DescribesVertex (upsertVertex id label properties) (.str id) label (written properties)) ∧
    (∀ source target : String,
      DescribesEdge (upsertEdge label source target properties) label (.str source) (.str target)
        (written properties)) := by
  refine ⟨fun id => ⟨rfl, ?_, agrees_vertex rfl rfl⟩,
    fun source target => ⟨rfl, ?_, agrees_edge rfl rfl⟩,
    fun id => ⟨rfl, ?_, agrees_vertex rfl rfl⟩,
    fun source target => ⟨rfl, ?_, agrees_edge rfl rfl⟩⟩
  all_goals rw [← present_eq]; rfl

/-- A null in the middle takes no number, and a key may be spelled as a name. -/
example : (Loose.upsertVertex (.str "a") "entity"
      [("text", .str "Ada"), ("type", .null), ("pk0", .str "x")]).bindings
    = [("vid", .str "a"), ("pk0", .str "text"), ("pv0", .str "Ada"), ("pk1", .str "pk0"),
      ("pv1", .str "x")] := rfl

end Traversal

end EntityGraph
